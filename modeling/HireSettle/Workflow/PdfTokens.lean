import Mathlib

/-! The tokens of a page in a PDF file: words, which are the numbers and the operators,
names, and literal strings with their escapes. Arrays, dictionaries and comments, which
the text of a page can do without, are not read. -/
namespace Workflow.PdfTokens

def isWhite (b : Nat) : Bool := b ∈ [0,9,10,12,13,32]

-- the brackets, the slash and the percent sign
def isDelimiter (b : Nat) : Bool := b ∈ [40,41,60,62,91,93,123,125,47,37]

def isRegular (b : Nat) : Bool := !isWhite b && !isDelimiter b

def isOctal (b : Nat) : Bool := 48 ≤ b && b ≤ 55

/-- Where the reader of a string stands: behind a backslash, inside an octal code, behind a carriage return. -/
inductive Mode where
  | plain
  | escaped
  | octal (value count : Nat)
  | lineEnd
  deriving DecidableEq, Repr

abbrev Scanned := Option (List Nat × List Nat)

def written (byte : Nat) (scanned : Scanned) : Scanned := scanned.map fun (text,rest) => (byte :: text,rest)

-- the letters `n`, `r`, `t`, `b` and `f`
def control : Nat → Option Nat
  | 110 => some 10
  | 114 => some 13
  | 116 => some 9
  | 98 => some 8
  | 102 => some 12
  | _ => none

/-- The text of a string up to its closing parenthesis, and what is behind it. -/
def readString : Nat → Mode → List Nat → Scanned
  | _, _, [] => none
  | depth, mode, b :: rest =>
      let plain :=
        if b = 41 then
          if depth = 0 then some ([],rest) else written 41 (readString (depth - 1) .plain rest)
        else if b = 40 then written 40 (readString (depth + 1) .plain rest)
        else if b = 92 then readString depth .escaped rest
        else if b = 13 then written 10 (readString depth .lineEnd rest)
        else written b (readString depth .plain rest)
      match mode with
      | .plain => plain
      | .lineEnd => if b = 10 then readString depth .plain rest else plain
      | .octal value count =>
          if isOctal b && count < 3 then readString depth (.octal (8 * value + (b - 48)) (count + 1)) rest
          else written (value % 256) plain
      | .escaped =>
          if isOctal b then readString depth (.octal (b - 48) 1) rest
          else if b = 13 then readString depth .lineEnd rest
          else if b = 10 then readString depth .plain rest
          else written ((control b).getD b) (readString depth .plain rest)

def Shorter (n : Nat) (scanned : Scanned) : Prop := ∀ text left, scanned = some (text,left) → left.length < n

theorem shorterWritten {byte n : Nat} {scanned : Scanned} (short : Shorter n scanned) : Shorter n (written byte scanned) := by
  intro text left read
  obtain ⟨⟨inner,behind⟩,found,same⟩ := Option.map_eq_some_iff.mp read
  cases same
  exact short _ _ found

theorem readShorter (bytes : List Nat) : ∀ depth mode, Shorter bytes.length (readString depth mode bytes) := by
  induction bytes with
  | nil => exact fun _ _ => nofun
  | cons b rest ih =>
      intro depth mode
      have later (depth : Nat) (mode : Mode) : Shorter (b :: rest).length (readString depth mode rest) :=
        fun text left read => (ih depth mode text left read).trans (Nat.lt_succ_self _)
      have plain : Shorter (b :: rest).length (readString depth .plain (b :: rest)) := by
        rw [readString]
        split
        · split
          · intro text left read
            cases read
            exact Nat.lt_succ_self _
          · exact shorterWritten (later _ _)
        · split
          · exact shorterWritten (later _ _)
          · split
            · exact later _ _
            · split
              · exact shorterWritten (later _ _)
              · exact shorterWritten (later _ _)
      cases mode with
      | plain => exact plain
      | lineEnd =>
          rw [readString] at plain
          rw [readString]
          split
          · exact later _ _
          · exact plain
      | octal value count =>
          rw [readString] at plain
          rw [readString]
          split
          · exact later _ _
          · exact shorterWritten plain
      | escaped =>
          rw [readString]
          split
          · exact later _ _
          · split
            · exact later _ _
            · split
              · exact later _ _
              · exact shorterWritten (later _ _)

/-- A byte with the backslash it needs inside a string. -/
def escaped (b : Nat) : List Nat := if b = 92 ∨ b = 40 ∨ b = 41 then [92,b] else [b]

/-- An escaped text without line ends is read back, and its parenthesis is the one behind it. -/
theorem readEscaped (text rest : List Nat) (unbroken : 13 ∉ text) :
    readString 0 .plain (text.flatMap escaped ++ 41 :: rest) = some (text,rest) := by
  induction text with
  | nil => rfl
  | cons b text ih =>
      obtain ⟨other,later⟩ : 13 ≠ b ∧ 13 ∉ text := by simpa [not_or] using unbroken
      have read := ih later
      rw [List.flatMap_cons,List.append_assoc,escaped]
      split
      · rename_i special
        have alone : control b = none := by
          obtain rfl | rfl | rfl := special <;> rfl
        have symbol : isOctal b = false ∧ b ≠ 10 := by
          obtain rfl | rfl | rfl := special <;> decide
        simp [readString,symbol.1,symbol.2,other.symm,alone,read,written]
      · rename_i usual
        obtain ⟨backslash,opening,closing⟩ : b ≠ 92 ∧ b ≠ 40 ∧ b ≠ 41 := by simpa [not_or] using usual
        simp [readString,backslash,opening,closing,other.symm,read,written]

inductive Token where
  | word (bytes : List Nat)
  | name (bytes : List Nat)
  | string (bytes : List Nat)
  deriving DecidableEq, Repr

/-- The tokens of a text, `none` when it has a string that does not end, or a delimiter that is not read. -/
def tokens : List Nat → Option (List Token)
  | [] => some []
  | b :: rest =>
      if isWhite b then tokens rest
      else if b = 47 then
        have : (rest.dropWhile isRegular).length < (b :: rest).length :=
          Nat.lt_succ_of_le (List.dropWhile_suffix isRegular).length_le
        (tokens (rest.dropWhile isRegular)).map (.name (rest.takeWhile isRegular) :: ·)
      else if b = 40 then
        match read : readString 0 .plain rest with
        | none => none
        | some (text,left) =>
            have : left.length < (b :: rest).length := (readShorter rest 0 .plain text left read).trans (Nat.lt_succ_self _)
            (tokens left).map (.string text :: ·)
      else if isRegular b then
        have : (rest.dropWhile isRegular).length < (b :: rest).length :=
          Nat.lt_succ_of_le (List.dropWhile_suffix isRegular).length_le
        (tokens (rest.dropWhile isRegular)).map (.word (b :: rest.takeWhile isRegular) :: ·)
      else none
termination_by bytes => bytes.length
decreasing_by
  · exact Nat.lt_succ_self _
  · exact this
  · exact this
  · exact this

section Reads

variable {bytes more : List Nat} {found others : List Token}

/-- The text does not go on with a regular byte. -/
def Ends (rest : List Nat) : Prop := ∀ b ∈ rest.head?, isRegular b = false

/-- The bytes have these tokens, whatever is behind them that is not part of the last one. -/
def Reads (bytes : List Nat) (found : List Token) : Prop :=
  ∀ rest, Ends rest → tokens (bytes ++ rest) = (tokens rest).map (found ++ ·)

theorem readsNil : Reads [] [] := fun rest _ => by simp

theorem readsWhite {b : Nat} (white : isWhite b = true) (reads : Reads bytes found) : Reads (b :: bytes) found := by
  intro rest ends
  rw [List.cons_append,tokens,if_pos white,reads rest ends]

theorem readsAppend (first : Reads bytes found) (second : Reads more others) (ends : ∀ rest, Ends rest → Ends (more ++ rest)) :
    Reads (bytes ++ more) (found ++ others) := by
  intro rest behind
  rw [List.append_assoc,first _ (ends rest behind),second rest behind,Option.map_map]
  congr 1
  funext read
  simp

theorem takenRegular {word rest : List Nat} (regular : ∀ b ∈ word, isRegular b = true) (ends : Ends rest) :
    (word ++ rest).takeWhile isRegular = word ∧ (word ++ rest).dropWhile isRegular = rest := by
  have stops : rest.takeWhile isRegular = [] ∧ rest.dropWhile isRegular = rest := by
    cases rest with
    | nil => exact ⟨rfl,rfl⟩
    | cons b rest =>
        have other : isRegular b = false := ends b rfl
        simp [other]
  rw [List.takeWhile_append_of_pos regular,List.dropWhile_append_of_pos regular,stops.1,stops.2,List.append_nil]
  exact ⟨rfl,rfl⟩

theorem regularPlain {b : Nat} (regular : isRegular b = true) : isWhite b = false ∧ b ≠ 47 ∧ b ≠ 40 := by
  obtain ⟨white,delimiter⟩ : isWhite b = false ∧ isDelimiter b = false := by simpa [isRegular] using regular
  refine ⟨white,?_,?_⟩
  · rintro rfl
    cases delimiter
  · rintro rfl
    cases delimiter

theorem readsWord {word : List Nat} (filled : word ≠ []) (regular : ∀ b ∈ word, isRegular b = true) : Reads word [.word word] := by
  intro rest ends
  obtain ⟨b,word,rfl⟩ := List.exists_cons_of_ne_nil filled
  obtain ⟨first,others⟩ := List.forall_mem_cons.mp regular
  obtain ⟨taken,dropped⟩ := takenRegular others ends
  obtain ⟨white,slash,opening⟩ := regularPlain first
  rw [List.cons_append,tokens]
  simp [white,slash,opening,first,taken,dropped]

theorem readsName {name : List Nat} (regular : ∀ b ∈ name, isRegular b = true) : Reads (47 :: name) [.name name] := by
  intro rest ends
  obtain ⟨taken,dropped⟩ := takenRegular regular ends
  have dark : isWhite 47 = false := rfl
  rw [List.cons_append,tokens]
  simp [dark,taken,dropped]

theorem readsString {text : List Nat} (unbroken : 13 ∉ text) : Reads (40 :: (text.flatMap escaped ++ [41])) [.string text] := by
  intro rest ends
  have read : readString 0 .plain (text.flatMap escaped ++ 41 :: rest) = some (text,rest) := readEscaped text rest unbroken
  have dark : isWhite 40 = false := rfl
  have other : ¬ 40 = 47 := by decide
  rw [List.cons_append,List.append_assoc,List.singleton_append,tokens]
  simp only [dark,Bool.false_eq_true,other,reduceIte]
  split
  · rename_i missing
    rw [read] at missing
    cases missing
  · rename_i found
    rw [read] at found
    cases found
    rfl

/-- Texts that are read apart are read with a space or a line end between them. -/
theorem readsJoined {separator : Nat} (white : isWhite separator = true) {parts : List (List Nat × List Token)}
    (each : ∀ part ∈ parts, Reads part.1 part.2) :
    Reads ([separator].intercalate (parts.map Prod.fst)) (parts.map Prod.snd).flatten := by
  induction parts with
  | nil => exact readsNil
  | cons part parts ih =>
      obtain ⟨first,others⟩ := List.forall_mem_cons.mp each
      cases parts with
      | nil => simpa using first
      | cons next parts =>
          have apart : isRegular separator = false := by simp [isRegular,white]
          have ends : ∀ rest, Ends rest → Ends (([separator] ++ [separator].intercalate ((next :: parts).map Prod.fst)) ++ rest) := by
            intro rest _ b head
            cases head
            exact apart
          have read := readsAppend first (readsWhite white (ih others)) ends
          rw [List.map_cons,List.map_cons,List.map_cons,List.intercalate_cons_cons,List.append_assoc,List.flatten_cons]
          exact read

theorem readsWhole (reads : Reads bytes found) : tokens bytes = some found := by
  have read := reads [] nofun
  rwa [List.append_nil,tokens,Option.map_some,List.append_nil] at read

end Reads

end Workflow.PdfTokens
