import HireSettle.Workflow.Numerals
import HireSettle.Workflow.Texts

/-! JSON texts: the values they are made of, how a value is written without blanks, and how
a text is read. A text value is its code units, a number its literal. -/
namespace Workflow.JsonTexts

abbrev Units := List Nat

inductive Value where
  | null
  | bool (value : Bool)
  | number (literal : List Char)
  | text (units : Units)
  | array (items : List Value)
  | object (fields : List (Units × Value))
  deriving Repr

namespace Value

-- of two fields of one name the later one stands
def field (name : String) : Value → Option Value
  | .object fields => (fields.reverse.find? fun entry => entry.1 = utf16 name).map Prod.snd
  | _ => none

def truthy : Value → Bool
  | .null => false
  | .bool value => value
  | .number literal => Numerals.number literal ≠ .finite 0
  | .text units => units ≠ []
  | .array _ | .object _ => true

end Value

def isSurrogate (u : Nat) : Bool := 0xd800 ≤ u && u ≤ 0xdfff

def isPair (u v : Nat) : Bool := 0xd800 ≤ u && u ≤ 0xdbff && 0xdc00 ≤ v && v ≤ 0xdfff

def pairChar (u v : Nat) : Char := Char.ofNat (0x10000 + (u - 0xd800) * 0x400 + (v - 0xdc00))

def hexDigit (n : Nat) : Char := ['0','1','2','3','4','5','6','7','8','9','a','b','c','d','e','f'].getD n '0'

def hexUnit (u : Nat) : List Char := ['\\','u',hexDigit (u / 4096),hexDigit (u / 256 % 16),hexDigit (u / 16 % 16),hexDigit (u % 16)]

-- the letter of an escape and the unit it stands for
def shortEscapes : List (Nat × Char) := [(34,'"'),(92,'\\'),(8,'b'),(9,'t'),(10,'n'),(12,'f'),(13,'r')]

def escapeUnit (u : Nat) : List Char :=
  match shortEscapes.lookup u with
  | some letter => ['\\',letter]
  | none => if u < 0x20 || isSurrogate u then hexUnit u else [Char.ofNat u]

def writeUnits : Units → List Char
  | [] => []
  | [u] => escapeUnit u
  | u :: v :: rest => if isPair u v then pairChar u v :: writeUnits rest else escapeUnit u ++ writeUnits (v :: rest)

def writeText (units : Units) : List Char := '"' :: (writeUnits units ++ ['"'])

mutual

def write : Value → List Char
  | .null => ['n','u','l','l']
  | .bool true => ['t','r','u','e']
  | .bool false => ['f','a','l','s','e']
  | .number literal => literal
  | .text units => writeText units
  | .array items => '[' :: writeItems items
  | .object fields => '{' :: writeFields fields

def writeItems : List Value → List Char
  | [] => [']']
  | item :: rest => write item ++ match rest with
      | [] => [']']
      | _ :: _ => ',' :: writeItems rest

def writeFields : List (Units × Value) → List Char
  | [] => ['}']
  | (name,value) :: rest => writeText name ++ ':' :: (write value ++ match rest with
      | [] => ['}']
      | _ :: _ => ',' :: writeFields rest)

end

def isBlank (c : Char) : Bool := c = ' ' || c = '\t' || c = '\n' || c = '\r'

def skip (text : List Char) : List Char := text.dropWhile isBlank

def after (word text : List Char) : Option (List Char) :=
  if word.isPrefixOf text then some (text.drop word.length) else none

def escapedUnit (letter : Char) : Option Nat :=
  if letter = '/' then some 47 else (shortEscapes.find? fun entry => entry.2 = letter).map Prod.fst

-- the code units up to the closing quote
def readUnits : List Char → Option (Units × List Char)
  | [] => none
  | '"' :: rest => some ([],rest)
  | '\\' :: 'u' :: a :: b :: c :: d :: rest =>
      (Numerals.digitsOf 16 [a,b,c,d]).bind fun unit => (readUnits rest).map fun (units,rest) => (unit :: units,rest)
  | '\\' :: letter :: rest =>
      (escapedUnit letter).bind fun unit => (readUnits rest).map fun (units,rest) => (unit :: units,rest)
  | c :: rest => if c.toNat < 0x20 then none else (readUnits rest).map fun (units,rest) => (codeUnits c ++ units,rest)

def isNumberChar (c : Char) : Bool := c.isDigit || c = '-' || c = '+' || c = '.' || c = 'e' || c = 'E'

def isExponent : List Char → Bool
  | [] => true
  | 'e' :: '+' :: digits | 'e' :: '-' :: digits | 'E' :: '+' :: digits | 'E' :: '-' :: digits => digits ≠ [] && digits.all Char.isDigit
  | 'e' :: digits | 'E' :: digits => digits ≠ [] && digits.all Char.isDigit
  | _ => false

def isUnsigned (literal : List Char) : Bool :=
  let whole := literal.takeWhile Char.isDigit
  let rest := literal.dropWhile Char.isDigit
  whole ≠ [] && (whole.length = 1 || whole.head? ≠ some '0') &&
    match rest with
    | '.' :: behind => behind.takeWhile Char.isDigit ≠ [] && isExponent (behind.dropWhile Char.isDigit)
    | rest => isExponent rest

def isNumber : List Char → Bool
  | '-' :: literal => isUnsigned literal
  | literal => isUnsigned literal

def readNumber (text : List Char) : Option (Value × List Char) :=
  if isNumber (text.takeWhile isNumberChar) then some (.number (text.takeWhile isNumberChar),text.dropWhile isNumberChar) else none

mutual

def readValue : Nat → List Char → Option (Value × List Char)
  | 0, _ => none
  | fuel + 1, text =>
      match skip text with
      | [] => none
      | c :: rest =>
          if c = '"' then (readUnits rest).map fun (units,rest) => (.text units,rest)
          else if c = '[' then
            match after [']'] (skip rest) with
            | some rest => some (.array [],rest)
            | none => (readItems fuel rest).map fun (items,rest) => (.array items,rest)
          else if c = '{' then
            match after ['}'] (skip rest) with
            | some rest => some (.object [],rest)
            | none => (readFields fuel rest).map fun (fields,rest) => (.object fields,rest)
          else if c = 'n' then (after ['u','l','l'] rest).map fun rest => (.null,rest)
          else if c = 't' then (after ['r','u','e'] rest).map fun rest => (.bool true,rest)
          else if c = 'f' then (after ['a','l','s','e'] rest).map fun rest => (.bool false,rest)
          else readNumber (c :: rest)

def readItems : Nat → List Char → Option (List Value × List Char)
  | 0, _ => none
  | fuel + 1, text =>
      (readValue fuel text).bind fun (item,rest) =>
        match skip rest with
        | [] => none
        | c :: rest =>
            if c = ',' then (readItems fuel rest).map fun (items,rest) => (item :: items,rest)
            else if c = ']' then some ([item],rest)
            else none

def readFields : Nat → List Char → Option (List (Units × Value) × List Char)
  | 0, _ => none
  | fuel + 1, text =>
      (after ['"'] (skip text)).bind fun rest => (readUnits rest).bind fun (name,rest) =>
        (after [':'] (skip rest)).bind fun rest => (readValue fuel rest).bind fun (value,rest) =>
          match skip rest with
          | [] => none
          | c :: rest =>
              if c = ',' then (readFields fuel rest).map fun (fields,rest) => ((name,value) :: fields,rest)
              else if c = '}' then some ([(name,value)],rest)
              else none

end

/-- Every level of a text takes a character or two. -/
def read (text : List Char) : Option Value :=
  match readValue (2 * text.length + 1) text with
  | some (value,rest) => if skip rest = [] then some value else none
  | none => none

section Texts

theorem hexValue : ∀ n < 16, Numerals.isDigitOf 16 (hexDigit n) = true ∧ Numerals.digitValue (hexDigit n) = n := by decide

theorem hexRead {u : Nat} (small : u < 0x10000) :
    Numerals.digitsOf 16 [hexDigit (u / 4096),hexDigit (u / 256 % 16),hexDigit (u / 16 % 16),hexDigit (u % 16)] = some u := by
  obtain ⟨first,a⟩ := hexValue (u / 4096) (by omega)
  obtain ⟨second,b⟩ := hexValue (u / 256 % 16) (by omega)
  obtain ⟨third,c⟩ := hexValue (u / 16 % 16) (by omega)
  obtain ⟨fourth,d⟩ := hexValue (u % 16) (by omega)
  simp only [Numerals.digitsOf,List.all_cons,first,second,third,fourth,List.foldl_cons,List.foldl_nil,a,b,c,d]
  simp
  omega

theorem charNat {u : Nat} (small : u < 0x110000) (whole : isSurrogate u = false) : (Char.ofNat u).toNat = u := by
  have valid : u.isValidChar := by
    simp only [isSurrogate,Bool.and_eq_false_iff,decide_eq_false_iff_not] at whole
    unfold Nat.isValidChar
    omega
  rw [Char.ofNat,dif_pos valid]
  rfl

theorem readChar {c : Char} {rest : List Char} (plain : 0x20 ≤ c.toNat) (quote : c ≠ '"') (slash : c ≠ '\\') :
    readUnits (c :: rest) = (readUnits rest).map fun (units,rest) => (codeUnits c ++ units,rest) := by
  rw [readUnits.eq_5]
  · exact if_neg (by omega)
  all_goals simp_all

theorem escapeRead : ∀ entry ∈ shortEscapes, entry.2 ≠ 'u' ∧ escapedUnit entry.2 = some entry.1 := by decide

theorem shortMem {u : Nat} {letter : Char} (short : shortEscapes.lookup u = some letter) : (u,letter) ∈ shortEscapes := by
  obtain ⟨before,_,same,_⟩ := List.lookup_eq_some_iff.mp short
  rw [same]
  simp

theorem plainUnits {u : Nat} (small : u < 0x10000) (whole : isSurrogate u = false) : codeUnits (Char.ofNat u) = [u] := by
  rw [codeUnits,charNat (by omega) whole,if_pos small]

theorem readEscape {u : Nat} {rest : List Char} (small : u < 0x10000) :
    readUnits (escapeUnit u ++ rest) = (readUnits rest).map fun (units,rest) => (u :: units,rest) := by
  unfold escapeUnit
  cases short : shortEscapes.lookup u with
  | some letter =>
    obtain ⟨other,read⟩ := escapeRead _ (shortMem short)
    show readUnits ('\\' :: letter :: rest) = _
    rw [readUnits.eq_4 _ _ fun _ _ _ _ _ same _ => other same,read]
    rfl
  | none =>
    cases special : (u < 0x20 || isSurrogate u : Bool) with
    | true =>
      dsimp only
      rw [if_pos rfl]
      show readUnits ('\\' :: 'u' :: _ :: _ :: _ :: _ :: rest) = _
      rw [readUnits.eq_3,hexRead small]
      rfl
    | false =>
      obtain ⟨large,whole⟩ := Bool.or_eq_false_iff.mp special
      have large := of_decide_eq_false large
      have code := charNat (show u < 0x110000 by omega) whole
      dsimp only
      rw [if_neg Bool.false_ne_true]
      have quote : Char.ofNat u ≠ '"' := by
        intro same
        have quoted : u = 34 := code.symm.trans (congrArg Char.toNat same)
        rw [quoted] at short
        cases short
      have slash : Char.ofNat u ≠ '\\' := by
        intro same
        have slashed : u = 92 := code.symm.trans (congrArg Char.toNat same)
        rw [slashed] at short
        cases short
      show readUnits (Char.ofNat u :: rest) = _
      rw [readChar (by omega) quote slash,plainUnits small whole]
      rfl

theorem pairUnits {u v : Nat} (pair : isPair u v = true) : 0x10000 ≤ (pairChar u v).toNat ∧ codeUnits (pairChar u v) = [u,v] := by
  simp only [isPair,Bool.and_eq_true,decide_eq_true_eq] at pair
  have code : (pairChar u v).toNat = 0x10000 + (u - 0xd800) * 0x400 + (v - 0xdc00) := by
    refine charNat (by omega) ?_
    simp only [isSurrogate,Bool.and_eq_false_iff,decide_eq_false_iff_not]
    omega
  refine ⟨by omega,?_⟩
  rw [codeUnits,code,if_neg (by omega)]
  simp only [List.cons.injEq,and_true]
  omega

-- a surrogate without its pair is replaced
def chars : Units → List Char
  | [] => []
  | [u] => [if isSurrogate u then '\ufffd' else Char.ofNat u]
  | u :: v :: rest =>
      if isPair u v then pairChar u v :: chars rest
      else (if isSurrogate u then '\ufffd' else Char.ofNat u) :: chars (v :: rest)

theorem charsPlain {u : Nat} (whole : isSurrogate u = false) (rest : Units) : chars (u :: rest) = Char.ofNat u :: chars rest := by
  cases rest with
  | nil => exact congrArg (fun c => [c]) (if_neg (by simp [whole]))
  | cons v rest =>
    have alone : isPair u v = false := by
      simp only [isSurrogate,isPair,Bool.and_eq_false_iff,decide_eq_false_iff_not] at whole ⊢
      omega
    rw [chars,alone,whole]
    rfl

theorem charsCode (c : Char) (rest : Units) : chars (codeUnits c ++ rest) = c :: chars rest := by
  have range := charCode c
  rw [codeUnits]
  split
  · have whole : isSurrogate c.toNat = false := by
      simp only [isSurrogate,Bool.and_eq_false_iff,decide_eq_false_iff_not]
      omega
    rw [List.singleton_append,charsPlain whole,Char.ofNat_toNat]
  · have pair : isPair (0xd800 + (c.toNat - 0x10000) / 0x400) (0xdc00 + (c.toNat - 0x10000) % 0x400) = true := by
      simp only [isPair,Bool.and_eq_true,decide_eq_true_eq]
      omega
    have code : pairChar (0xd800 + (c.toNat - 0x10000) / 0x400) (0xdc00 + (c.toNat - 0x10000) % 0x400) = c := by
      refine (congrArg Char.ofNat ?_).trans (Char.ofNat_toNat c)
      omega
    rw [List.cons_append,List.singleton_append,chars,if_pos pair,code]

theorem charsUtf16 (s : String) : chars (utf16 s) = s.toList := by
  rw [utf16]
  induction s.toList with
  | nil => rfl
  | cons c rest ih => rw [List.flatMap_cons,charsCode,ih]

/-- A text is read back up to its closing quote. -/
theorem readWritten {units : Units} (small : ∀ u ∈ units, u < 0x10000) (rest : List Char) :
    readUnits (writeUnits units ++ '"' :: rest) = some (units,rest) := by
  induction units using writeUnits.induct with
  | case1 => exact readUnits.eq_2 rest
  | case2 u =>
    rw [writeUnits,readEscape (small u List.mem_cons_self),readUnits.eq_2]
    rfl
  | case3 u v units pair ih =>
    obtain ⟨large,code⟩ := pairUnits pair
    have away : ∀ c : Char, c.toNat < 0x10000 → pairChar u v ≠ c := fun c low same => by rw [same] at large; omega
    rw [writeUnits,if_pos pair,List.cons_append,readChar (by omega) (away _ (by decide)) (away _ (by decide)),
      ih fun w inside => small w (by simp [inside]),code]
    rfl
  | case4 u v units pair ih =>
    rw [writeUnits,if_neg pair,List.append_assoc,readEscape (small u List.mem_cons_self),
      ih fun w inside => small w (List.mem_cons_of_mem _ inside)]
    rfl

theorem hexAscii (n : Nat) : (hexDigit n).toNat < 0x80 := by
  have digits : (['0','1','2','3','4','5','6','7','8','9','a','b','c','d','e','f'].all fun c => decide (c.toNat < 0x80)) = true := rfl
  rw [hexDigit,List.getD_eq_getElem?_getD]
  cases found : (['0','1','2','3','4','5','6','7','8','9','a','b','c','d','e','f'] : List Char)[n]? with
  | none => decide
  | some c => exact of_decide_eq_true (List.all_eq_true.mp digits c (List.mem_of_getElem? found))

theorem escapeAscii {u : Nat} (small : u < 0x80) : ∀ c ∈ escapeUnit u, c.toNat < 0x80 := by
  have letters : (shortEscapes.all fun short => decide (short.2.toNat < 0x80)) = true := rfl
  unfold escapeUnit
  cases short : shortEscapes.lookup u with
  | some letter =>
    have letter := of_decide_eq_true (List.all_eq_true.mp letters _ (shortMem short))
    exact List.forall_mem_cons.mpr ⟨by decide,List.forall_mem_cons.mpr ⟨letter,nofun⟩⟩
  | none =>
    dsimp only
    split
    · simp only [hexUnit,List.forall_mem_cons]
      exact ⟨by decide,by decide,hexAscii _,hexAscii _,hexAscii _,hexAscii _,nofun⟩
    · rename_i ordinary
      obtain ⟨_,whole⟩ := Bool.or_eq_false_iff.mp (Bool.eq_false_iff.mpr ordinary)
      refine List.forall_mem_cons.mpr ⟨?_,nofun⟩
      rw [charNat (by omega) whole]
      exact small

theorem writtenAscii {units : Units} (ascii : ∀ u ∈ units, u < 0x80) : ∀ c ∈ writeUnits units, c.toNat < 0x80 := by
  induction units using writeUnits.induct with
  | case1 => nofun
  | case2 u => exact escapeAscii (ascii u List.mem_cons_self)
  | case3 u v units pair ih =>
    have low := ascii u List.mem_cons_self
    simp only [isPair,Bool.and_eq_true,decide_eq_true_eq] at pair
    omega
  | case4 u v units pair ih =>
    rw [writeUnits,if_neg pair]
    intro c inside
    obtain here | there := List.mem_append.mp inside
    · exact escapeAscii (ascii u List.mem_cons_self) c here
    · exact ih (fun w inside => ascii w (List.mem_cons_of_mem _ inside)) c there

end Texts

section Values

def Numeral (literal : List Char) : Prop := isNumber literal = true ∧ literal.all isNumberChar = true

theorem headDigit (n : Nat) : (Nat.toDigits 10 n).length = 1 ∨ (Nat.toDigits 10 n).head? ≠ some '0' := by
  induction n using Nat.strongRecOn with
  | ind n ih =>
    by_cases small : n < 10
    · exact .inl (by rw [Nat.toDigits_of_lt_base small]; rfl)
    · rw [Nat.toDigits_of_base_le (by decide) (by omega)]
      have nonempty := @Nat.toDigits_ne_nil (n / 10) 10
      refine .inr ?_
      rw [List.head?_append_of_ne_nil _ nonempty]
      rcases ih (n / 10) (by omega) with single | other
      · have low : n / 10 < 10 := by
          have := (Nat.length_toDigits_le_iff (b := 10) (n := n / 10) (k := 1) (by decide) (by decide)).mp (by omega)
          omega
        rw [Nat.toDigits_of_lt_base low]
        exact (by decide : ∀ m < 10, 0 < m → [Nat.digitChar m].head? ≠ some '0') _ low (by omega)
      · exact other

theorem unsignedRepr (n : Nat) : isUnsigned n.repr.toList = true := by
  have digits := List.all_eq_true.mp (Numerals.digitsNat n)
  have whole : n.repr.toList.takeWhile Char.isDigit = n.repr.toList := List.takeWhile_eq_self_iff.mpr digits
  have rest : n.repr.toList.dropWhile Char.isDigit = [] := List.dropWhile_eq_nil_iff.mpr digits
  have some : n.repr.toList ≠ [] := by rw [Nat.toList_repr]; exact Nat.toDigits_ne_nil
  have head := headDigit n
  rw [← Nat.toList_repr] at head
  simp only [isUnsigned,whole,rest,isExponent,Bool.and_true,Bool.and_eq_true,Bool.or_eq_true,decide_eq_true_eq]
  exact ⟨some,head⟩

theorem numeralInt (n : Int) : Numeral (toString n).toList := by
  have shown : ∀ n : Nat, n.repr.toList.all isNumberChar = true := fun n =>
    List.all_eq_true.mpr fun c inside => by simp [isNumberChar,List.all_eq_true.mp (Numerals.digitsNat n) c inside]
  cases n with
  | ofNat n =>
    refine ⟨?_,shown n⟩
    show isNumber n.repr.toList = true
    have unsigned := unsignedRepr n
    have digits := Numerals.digitsNat n
    generalize n.repr.toList = literal at unsigned digits
    unfold isNumber
    split
    · simp at digits
    · exact unsigned
  | negSucc n =>
    rw [Numerals.textNegSucc]
    exact ⟨unsignedRepr (n + 1),by rw [List.all_cons,shown]; rfl⟩

mutual

/-- The values that a text can be of: units are of 16 bits and numerals are numerals. -/
def Proper : Value → Prop
  | .null | .bool _ => True
  | .number literal => Numeral literal
  | .text units => ∀ u ∈ units, u < 0x10000
  | .array items => ProperItems items
  | .object fields => ProperFields fields

def ProperItems : List Value → Prop
  | [] => True
  | item :: rest => Proper item ∧ ProperItems rest

def ProperFields : List (Units × Value) → Prop
  | [] => True
  | (name,value) :: rest => (∀ u ∈ name, u < 0x10000) ∧ Proper value ∧ ProperFields rest

end

variable {fuel : Nat} {rest : List Char}

-- what follows a numeral does not prolong it
def Ends (rest : List Char) : Prop := ∀ c ∈ rest.head?, isNumberChar c = false

theorem endsCons {c : Char} (other : isNumberChar c = false) : Ends (c :: rest) := by
  intro d there
  cases there
  exact other

theorem skipShown {c : Char} (shown : isBlank c = false) : skip (c :: rest) = c :: rest := by
  rw [skip,List.dropWhile_cons_of_neg (by rw [shown]; exact Bool.false_ne_true)]

theorem numberShown : ∀ {c : Char}, isNumberChar c = true → isBlank c = false ∧ c ≠ ']' ∧ c ≠ '"' ∧ c ≠ '[' ∧ c ≠ '\x7b' ∧
    c ≠ 'n' ∧ c ≠ 't' ∧ c ≠ 'f' := by
  intro c digit
  have away : ∀ d : Char, isNumberChar d = false → c ≠ d := fun d other same => by rw [same,other] at digit; cases digit
  refine ⟨?_,away _ (by decide),away _ (by decide),away _ (by decide),away _ (by decide),away _ (by decide),away _ (by decide),
    away _ (by decide)⟩
  simp only [isBlank,decide_eq_false (away ' ' (by decide)),decide_eq_false (away '\t' (by decide)),
    decide_eq_false (away '\n' (by decide)),decide_eq_false (away '\r' (by decide)),Bool.or_self]

theorem numeralHead {literal : List Char} (numeral : Numeral literal) :
    ∃ c rest, literal = c :: rest ∧ isNumberChar c = true := by
  cases literal with
  | nil => exact absurd numeral.1 (by decide)
  | cons c rest => exact ⟨c,rest,rfl,List.all_eq_true.mp numeral.2 c List.mem_cons_self⟩

theorem writeHead {v : Value} (proper : Proper v) : ∃ c rest, write v = c :: rest ∧ isBlank c = false ∧ c ≠ ']' := by
  cases v with
  | null => exact ⟨_,_,rfl,by decide,by decide⟩
  | bool b => cases b <;> exact ⟨_,_,rfl,by decide,by decide⟩
  | number literal =>
    obtain ⟨c,rest,same,digit⟩ := numeralHead proper
    exact ⟨c,rest,same,(numberShown digit).1,(numberShown digit).2.1⟩
  | text units => exact ⟨_,_,rfl,by decide,by decide⟩
  | array items => exact ⟨_,_,rfl,by decide,by decide⟩
  | object fields => exact ⟨_,_,rfl,by decide,by decide⟩

theorem readNumeral {literal : List Char} (numeral : Numeral literal) (ends : Ends rest) :
    readNumber (literal ++ rest) = some (.number literal,rest) := by
  have stops : rest.takeWhile isNumberChar = [] ∧ rest.dropWhile isNumberChar = rest := by
    cases rest with
    | nil => exact ⟨rfl,rfl⟩
    | cons c rest =>
      have other : ¬ isNumberChar c = true := by rw [ends c rfl]; exact Bool.false_ne_true
      exact ⟨List.takeWhile_cons_of_neg other,List.dropWhile_cons_of_neg other⟩
  have all := List.all_eq_true.mp numeral.2
  rw [readNumber,List.takeWhile_append_of_pos all,List.dropWhile_append_of_pos all,stops.1,stops.2,List.append_nil,if_pos numeral.1]

theorem readsText {units : Units} (small : ∀ u ∈ units, u < 0x10000) :
    readValue (fuel + 1) (writeText units ++ rest) = some (.text units,rest) := by
  have read := readWritten small rest
  rw [readValue,writeText,List.cons_append,skipShown (by decide),List.append_assoc]
  show (readUnits (writeUnits units ++ '"' :: rest)).map _ = _
  rw [read]
  rfl

theorem itemsHead {item : Value} {c : Char} {more : List Char} (items : List Value) (same : write item = c :: more) :
    ∃ tail, writeItems (item :: items) = c :: tail := by
  cases items with
  | nil => exact ⟨more ++ [']'],by rw [writeItems,same]; rfl⟩
  | cons next items => exact ⟨more ++ ',' :: writeItems (next :: items),by rw [writeItems,same]; rfl⟩

theorem fieldsHead (field : Units × Value) (fields : List (Units × Value)) : ∃ tail, writeFields (field :: fields) = '"' :: tail := by
  obtain ⟨name,value⟩ := field
  cases fields <;> exact ⟨_,by rw [writeFields,writeText,List.cons_append]⟩

mutual

theorem readsValue (v : Value) (proper : Proper v) (fuel : Nat) (rest : List Char) (enough : 2 * (write v).length ≤ fuel)
    (ends : Ends rest) : readValue fuel (write v ++ rest) = some (v,rest) := by
  obtain ⟨c,text,head,shown,open'⟩ := writeHead proper
  obtain ⟨fuel,rfl⟩ : ∃ more, fuel = more + 1 := ⟨fuel - 1,by rw [head,List.length_cons] at enough; omega⟩
  cases v with
  | null => rfl
  | bool b => cases b <;> rfl
  | number literal =>
    obtain ⟨d,more,same,digit⟩ := numeralHead proper
    obtain ⟨shown,_,quote,array,object,null,yes,no⟩ := numberShown digit
    have read := readNumeral proper ends
    rw [same] at read
    show readValue (fuel + 1) (literal ++ rest) = _
    rw [readValue,same,List.cons_append,skipShown shown]
    simp only [if_neg quote,if_neg array,if_neg object,if_neg null,if_neg yes,if_neg no]
    exact read
  | text units => exact readsText proper
  | array items =>
    cases items with
    | nil => rfl
    | cons item items =>
      obtain ⟨d,more,same,shown,close⟩ := writeHead proper.1
      have read := readsItems (item :: items) proper (List.cons_ne_nil _ _) fuel rest (by
        rw [write,List.length_cons] at enough
        omega)
      obtain ⟨tail,begins⟩ := itemsHead items same
      have other : after [']'] (d :: (tail ++ rest)) = none := if_neg (by simpa using Ne.symm close)
      rw [readValue,write,List.cons_append,skipShown (by decide)]
      show (match after [']'] (skip (writeItems (item :: items) ++ rest)) with
        | some rest => some (Value.array [],rest)
        | none => (readItems fuel (writeItems (item :: items) ++ rest)).map _) = _
      rw [read,begins,List.cons_append,skipShown shown,other]
      rfl
  | object fields =>
    cases fields with
    | nil => rfl
    | cons field fields =>
      have read := readsFields (field :: fields) proper (List.cons_ne_nil _ _) fuel rest (by
        rw [write,List.length_cons] at enough
        omega)
      obtain ⟨tail,begins⟩ := fieldsHead field fields
      rw [readValue,write,List.cons_append,skipShown (by decide)]
      show (match after ['}'] (skip (writeFields (field :: fields) ++ rest)) with
        | some rest => some (Value.object [],rest)
        | none => (readFields fuel (writeFields (field :: fields) ++ rest)).map _) = _
      rw [read,begins,List.cons_append,skipShown (by decide)]
      rfl

theorem readsItems (items : List Value) (proper : ProperItems items) (filled : items ≠ []) (fuel : Nat) (rest : List Char)
    (enough : 2 * (writeItems items).length + 1 ≤ fuel) : readItems fuel (writeItems items ++ rest) = some (items,rest) := by
  obtain ⟨fuel,rfl⟩ : ∃ more, fuel = more + 1 := ⟨fuel - 1,by omega⟩
  cases items with
  | nil => exact absurd rfl filled
  | cons item items =>
    cases items with
    | nil =>
      have read := readsValue item proper.1 fuel (']' :: rest) (by
        rw [writeItems,List.length_append] at enough
        omega) (endsCons (by decide))
      rw [readItems,writeItems,List.append_assoc]
      show (readValue fuel (write item ++ ']' :: rest)).bind _ = _
      rw [read]
      rfl
    | cons next items =>
      have long : (writeItems (item :: next :: items)).length = (write item).length + ((writeItems (next :: items)).length + 1) := by
        rw [writeItems,List.length_append,List.length_cons]
      have first := readsValue item proper.1 fuel (',' :: (writeItems (next :: items) ++ rest)) (by omega) (endsCons (by decide))
      have others := readsItems (next :: items) proper.2 (List.cons_ne_nil _ _) fuel rest (by omega)
      rw [readItems,writeItems,List.append_assoc]
      show (readValue fuel (write item ++ ',' :: (writeItems (next :: items) ++ rest))).bind _ = _
      rw [first]
      show (readItems fuel (writeItems (next :: items) ++ rest)).map _ = _
      rw [others]
      rfl

theorem readsFields (fields : List (Units × Value)) (proper : ProperFields fields) (filled : fields ≠ []) (fuel : Nat)
    (rest : List Char) (enough : 2 * (writeFields fields).length + 1 ≤ fuel) :
    readFields fuel (writeFields fields ++ rest) = some (fields,rest) := by
  obtain ⟨fuel,rfl⟩ : ∃ more, fuel = more + 1 := ⟨fuel - 1,by omega⟩
  cases fields with
  | nil => exact absurd rfl filled
  | cons field fields =>
    obtain ⟨name,value⟩ := field
    obtain ⟨small,proper,others⟩ := proper
    cases fields with
    | nil =>
      have long : (writeFields [(name,value)]).length = (writeText name).length + ((write value).length + 1 + 1) := by
        rw [writeFields,List.length_append,List.length_cons,List.length_append,List.length_singleton]
      have named := readWritten small (':' :: (write value ++ '}' :: rest))
      have read := readsValue value proper fuel ('}' :: rest) (by omega) (endsCons (by decide))
      have text : writeFields [(name,value)] ++ rest = '"' :: (writeUnits name ++ '"' :: ':' :: (write value ++ '}' :: rest)) := by
        simp [writeFields,writeText]
      rw [readFields,text,skipShown (by decide)]
      show (readUnits (writeUnits name ++ '"' :: ':' :: (write value ++ '}' :: rest))).bind _ = _
      rw [named]
      show (readValue fuel (write value ++ '}' :: rest)).bind _ = _
      rw [read]
      rfl
    | cons next fields =>
      have long : (writeFields ((name,value) :: next :: fields)).length =
          (writeText name).length + ((write value).length + ((writeFields (next :: fields)).length + 1) + 1) := by
        rw [writeFields,List.length_append,List.length_cons,List.length_append,List.length_cons]
      have named := readWritten small (':' :: (write value ++ ',' :: (writeFields (next :: fields) ++ rest)))
      have first := readsValue value proper fuel (',' :: (writeFields (next :: fields) ++ rest)) (by omega) (endsCons (by decide))
      have others := readsFields (next :: fields) others (List.cons_ne_nil _ _) fuel rest (by omega)
      have text : writeFields ((name,value) :: next :: fields) ++ rest =
          '"' :: (writeUnits name ++ '"' :: ':' :: (write value ++ ',' :: (writeFields (next :: fields) ++ rest))) := by
        rw [writeFields,writeText]
        simp
      rw [readFields,text,skipShown (by decide)]
      show (readUnits (writeUnits name ++ '"' :: ':' :: (write value ++ ',' :: (writeFields (next :: fields) ++ rest)))).bind _ = _
      rw [named]
      show (readValue fuel (write value ++ ',' :: (writeFields (next :: fields) ++ rest))).bind _ = _
      rw [first]
      show (readFields fuel (writeFields (next :: fields) ++ rest)).map _ = _
      rw [others]
      rfl

end

/-- What has been written is read back. -/
theorem readWrite {v : Value} (proper : Proper v) : read (write v) = some v := by
  have whole := readsValue v proper (2 * (write v).length + 1) [] (Nat.le_succ _) nofun
  rw [List.append_nil] at whole
  rw [read,whole]
  rfl

theorem fieldsAscii {fields : List (Units × Value)} (texts : ∀ entry ∈ fields, (∀ u ∈ entry.1, u < 0x80) ∧
    ∃ units, entry.2 = .text units ∧ ∀ u ∈ units, u < 0x80) : ∀ c ∈ writeFields fields, c.toNat < 0x80 := by
  have quoted : ∀ units : Units, (∀ u ∈ units, u < 0x80) → ∀ c ∈ writeText units, c.toNat < 0x80 := by
    intro units small c inside
    obtain rfl | inside := List.mem_cons.mp inside
    · decide
    · obtain inside | last := List.mem_append.mp inside
      · exact writtenAscii small c inside
      · rw [List.mem_singleton.mp last]
        decide
  induction fields with
  | nil =>
    intro c inside
    rw [List.mem_singleton.mp inside]
    decide
  | cons entry fields ih =>
    obtain ⟨⟨named,units,same,small⟩,others⟩ := List.forall_mem_cons.mp texts
    obtain ⟨name,value⟩ := entry
    cases same
    have later := ih others
    have text : writeFields ((name,Value.text units) :: fields) = writeText name ++ ':' :: (writeText units ++ match fields with
        | [] => ['}']
        | _ :: _ => ',' :: writeFields fields) := by
      cases fields <;> rw [writeFields,write]
    rw [text]
    intro c inside
    obtain inside | inside := List.mem_append.mp inside
    · exact quoted name named c inside
    · obtain rfl | inside := List.mem_cons.mp inside
      · decide
      · obtain inside | inside := List.mem_append.mp inside
        · exact quoted units small c inside
        · cases fields with
          | nil => exact later c inside
          | cons next fields =>
            obtain rfl | inside := List.mem_cons.mp inside
            · decide
            · exact later c inside

end Values

section Accepted

variable {text rest : List Char}

theorem hexSmall {a b c d : Char} {u : Nat} (read : Numerals.digitsOf 16 [a,b,c,d] = some u) : u < 0x10000 := by
  unfold Numerals.digitsOf at read
  split at read
  · rename_i digits
    have digit : ∀ x ∈ [a,b,c,d], Numerals.digitValue x < 16 := fun x inside => by
      have its := List.all_eq_true.mp digits.2 x inside
      simp only [Numerals.isDigitOf,Bool.and_eq_true,decide_eq_true_eq] at its
      exact its.2
    simp only [List.forall_mem_cons] at digit
    simp only [List.foldl_cons,List.foldl_nil,Option.some.injEq] at read
    omega
  · cases read

theorem escapedSmall {letter : Char} {u : Nat} (read : escapedUnit letter = some u) : u < 0x10000 := by
  unfold escapedUnit at read
  split at read
  · cases read
    decide
  · obtain ⟨entry,found,rfl⟩ := Option.map_eq_some_iff.mp read
    have all : ∀ entry ∈ shortEscapes, entry.1 < 0x10000 := by decide
    exact all entry (List.mem_of_find?_eq_some found)

theorem codeSmall (c : Char) : ∀ u ∈ codeUnits c, u < 0x10000 := by
  have code := charCode c
  unfold codeUnits
  split
  · simpa using by omega
  · simp only [List.forall_mem_cons]
    exact ⟨by omega,by omega,nofun⟩

theorem unitsSmall {units : Units} (read : readUnits text = some (units,rest)) : ∀ u ∈ units, u < 0x10000 := by
  induction text using readUnits.induct generalizing units rest with
  | case1 => cases read
  | case2 => cases read; nofun
  | case3 a b c d more ih =>
    rw [readUnits.eq_3] at read
    obtain ⟨unit,hex,read⟩ := Option.bind_eq_some_iff.mp read
    obtain ⟨⟨units',rest'⟩,later,same⟩ := Option.map_eq_some_iff.mp read
    cases same
    exact List.forall_mem_cons.mpr ⟨hexSmall hex,ih later⟩
  | case4 letter more other ih =>
    rw [readUnits.eq_4 _ _ other] at read
    obtain ⟨unit,escaped,read⟩ := Option.bind_eq_some_iff.mp read
    obtain ⟨⟨units',rest'⟩,later,same⟩ := Option.map_eq_some_iff.mp read
    cases same
    exact List.forall_mem_cons.mpr ⟨escapedSmall escaped,ih later⟩
  | case5 c more quote hex letter low =>
    rw [readUnits.eq_5 _ _ quote hex letter,if_pos low] at read
    cases read
  | case6 c more quote hex letter low ih =>
    rw [readUnits.eq_5 _ _ quote hex letter,if_neg low] at read
    obtain ⟨⟨units',rest'⟩,later,same⟩ := Option.map_eq_some_iff.mp read
    cases same
    intro u inside
    obtain here | there := List.mem_append.mp inside
    · exact codeSmall c u here
    · exact ih later u there

theorem numberProper {v : Value} (read : readNumber text = some (v,rest)) : Proper v := by
  unfold readNumber at read
  split at read
  · rename_i number
    cases read
    exact ⟨number,List.all_eq_true.mpr fun c inside => List.mem_takeWhile_imp inside⟩
  · cases read

theorem readsProper (fuel : Nat) : ∀ {text rest : List Char},
    (∀ {v}, readValue fuel text = some (v,rest) → Proper v) ∧
    (∀ {items}, readItems fuel text = some (items,rest) → ProperItems items) ∧
    ∀ {fields}, readFields fuel text = some (fields,rest) → ProperFields fields := by
  induction fuel with
  | zero => exact ⟨fun read => (by cases read),fun read => (by cases read),fun read => (by cases read)⟩
  | succ fuel ih =>
    intro text rest
    refine ⟨fun {v} read => ?_,fun {items} read => ?_,fun {fields} read => ?_⟩
    · rw [readValue] at read
      split at read
      · cases read
      · split at read
        · obtain ⟨⟨units,_⟩,inside,same⟩ := Option.map_eq_some_iff.mp read
          cases same
          exact unitsSmall inside
        · split at read
          · split at read
            · cases read
              exact trivial
            · obtain ⟨⟨items,_⟩,inside,same⟩ := Option.map_eq_some_iff.mp read
              cases same
              exact ih.2.1 inside
          · split at read
            · split at read
              · cases read
                exact trivial
              · obtain ⟨⟨fields,_⟩,inside,same⟩ := Option.map_eq_some_iff.mp read
                cases same
                exact ih.2.2 inside
            · split at read
              · obtain ⟨_,_,same⟩ := Option.map_eq_some_iff.mp read
                cases same
                exact trivial
              · split at read
                · obtain ⟨_,_,same⟩ := Option.map_eq_some_iff.mp read
                  cases same
                  exact trivial
                · split at read
                  · obtain ⟨_,_,same⟩ := Option.map_eq_some_iff.mp read
                    cases same
                    exact trivial
                  · exact numberProper read
    · rw [readItems] at read
      obtain ⟨⟨item,behind⟩,first,read⟩ := Option.bind_eq_some_iff.mp read
      dsimp only at read
      split at read
      · cases read
      · split at read
        · obtain ⟨⟨items,_⟩,later,same⟩ := Option.map_eq_some_iff.mp read
          cases same
          exact ⟨ih.1 first,ih.2.1 later⟩
        · split at read
          · cases read
            exact ⟨ih.1 first,trivial⟩
          · cases read
    · rw [readFields] at read
      obtain ⟨_,_,read⟩ := Option.bind_eq_some_iff.mp read
      obtain ⟨⟨name,_⟩,named,read⟩ := Option.bind_eq_some_iff.mp read
      obtain ⟨_,_,read⟩ := Option.bind_eq_some_iff.mp read
      obtain ⟨⟨value,_⟩,first,read⟩ := Option.bind_eq_some_iff.mp read
      dsimp only at read
      split at read
      · cases read
      · split at read
        · obtain ⟨⟨fields,_⟩,later,same⟩ := Option.map_eq_some_iff.mp read
          cases same
          exact ⟨unitsSmall named,ih.1 first,ih.2.2 later⟩
        · split at read
          · cases read
            exact ⟨unitsSmall named,ih.1 first,trivial⟩
          · cases read

/-- What is read could have been written. -/
theorem readProper {v : Value} (accepted : read text = some v) : Proper v := by
  unfold read at accepted
  split at accepted
  · rename_i inside
    split at accepted
    · cases accepted
      exact (readsProper _).1 inside
    · cases accepted
  · cases accepted

theorem itemProper {items : List Value} {item : Value} (proper : ProperItems items) (inside : item ∈ items) : Proper item := by
  induction items with
  | nil => cases inside
  | cons first items ih =>
    cases inside with
    | head => exact proper.1
    | tail _ later => exact ih proper.2 later

theorem fieldProper {fields : List (Units × Value)} {entry : Units × Value} (proper : ProperFields fields) (inside : entry ∈ fields) :
    Proper entry.2 := by
  induction fields with
  | nil => cases inside
  | cons first fields ih =>
    cases inside with
    | head => exact proper.2.1
    | tail _ later => exact ih proper.2.2 later

theorem fieldOfProper {v field : Value} {name : String} (proper : Proper v) (there : v.field name = some field) : Proper field := by
  cases v with
  | object fields =>
    obtain ⟨entry,found,rfl⟩ := Option.map_eq_some_iff.mp there
    exact fieldProper proper (List.mem_reverse.mp (List.mem_of_find?_eq_some found))
  | _ => cases there

end Accepted

end Workflow.JsonTexts
