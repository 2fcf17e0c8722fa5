import Mathlib

/-! Texts as JavaScript sees them: compared by UTF-16 code units, and written as
the base64 or base64url of their UTF-8 bytes. -/
namespace Workflow

def codeUnits (c : Char) : List Nat :=
  if c.toNat < 0x10000 then [c.toNat]
  else [0xd800 + (c.toNat - 0x10000) / 0x400,0xdc00 + (c.toNat - 0x10000) % 0x400]

def utf16 (s : String) : List Nat := s.toList.flatMap codeUnits

def textBefore (s t : String) : Bool := decide (utf16 s < utf16 t)

theorem charCode (c : Char) : c.toNat < 0xd800 ∨ (0xdfff < c.toNat ∧ c.toNat < 0x110000) := by
  obtain small | large := c.valid
  · exact Or.inl (by simpa using small)
  · exact Or.inr (by simpa using large)

theorem unitsInjective {c d : Char} {s t : List Nat} (same : codeUnits c ++ s = codeUnits d ++ t) : c = d ∧ s = t := by
  have first := charCode c
  have second := charCode d
  unfold codeUnits at same
  split at same <;> split at same
  · exact ⟨Char.toNat_inj.mp (List.cons.inj same).1,(List.cons.inj same).2⟩
  · have high := (List.cons.inj same).1
    omega
  · have high := (List.cons.inj same).1
    omega
  · obtain ⟨high,rest⟩ := List.cons.inj same
    obtain ⟨low,rest⟩ := List.cons.inj rest
    exact ⟨Char.toNat_inj.mp (by omega),rest⟩

theorem utf16Injective {s t : String} (same : utf16 s = utf16 t) : s = t := by
  have lists : ∀ xs ys : List Char, xs.flatMap codeUnits = ys.flatMap codeUnits → xs = ys := by
    have filled : ∀ c : Char, codeUnits c ≠ [] := by
      intro c
      unfold codeUnits
      split <;> exact List.cons_ne_nil _ _
    intro xs
    induction xs with
    | nil =>
        intro ys equal
        cases ys with
        | nil => rfl
        | cons y ys => cases filled y (List.append_eq_nil_iff.mp equal.symm).1
    | cons x xs ih =>
        intro ys equal
        cases ys with
        | nil => cases filled x (List.append_eq_nil_iff.mp equal).1
        | cons y ys =>
            obtain ⟨head,tail⟩ := unitsInjective equal
            rw [head,ih ys tail]
  exact String.toList_injective (lists s.toList t.toList same)

theorem textTrichotomy (s t : String) : textBefore s t = true ∨ s = t ∨ textBefore t s = true := by
  obtain less | same | more := lt_trichotomy (utf16 s) (utf16 t)
  · exact Or.inl (decide_eq_true less)
  · exact Or.inr (Or.inl (utf16Injective same))
  · exact Or.inr (Or.inr (decide_eq_true more))

theorem textAsymm {s t : String} (before : textBefore s t = true) : textBefore t s = false :=
  decide_eq_false (lt_asymm (of_decide_eq_true before))

theorem textNotBefore {s t u : String} (first : textBefore s t = false) (second : textBefore t u = false) :
    textBefore s u = false :=
  decide_eq_false (not_lt.mpr ((not_lt.mp (of_decide_eq_false second)).trans (not_lt.mp (of_decide_eq_false first))))

namespace Base64Url

def alphabet : List Char :=
  "ABCDEFGHIJKLMNOPQRSTUVWXYZabcdefghijklmnopqrstuvwxyz0123456789-_".toList

def digit (n : Nat) : Char := alphabet.getD n 'A'

-- the decoder also reads the two digits of plain base64
def value (c : Char) : Option Nat :=
  if c = '+' then some 62 else if c = '/' then some 63
  else if c ∈ alphabet then some (alphabet.idxOf c) else none

def sextets : List Nat → List Nat
  | [] => []
  | [a] => [a / 4,a % 4 * 16]
  | [a,b] => [a / 4,a % 4 * 16 + b / 16,b % 16 * 4]
  | a :: b :: c :: rest => [a / 4,a % 4 * 16 + b / 16,b % 16 * 4 + c / 64,c % 64] ++ sextets rest

def octets : List Nat → List Nat
  | v :: w :: x :: y :: rest => [v * 4 + w / 16,w % 16 * 16 + x / 4,x % 4 * 64 + y] ++ octets rest
  | [v,w,x] => [v * 4 + w / 16,w % 16 * 16 + x / 4]
  | [v,w] => [v * 4 + w / 16]
  | _ => []

-- whatever is no digit is passed over, and padding ends the text
def bytes (text : String) : List Nat := octets ((text.toList.takeWhile (· ≠ '=')).filterMap value)

def write (bytes : List Nat) : String := String.ofList ((sextets bytes).map digit)

theorem valueDigit : ∀ n < 64, digit n ≠ '=' ∧ value (digit n) = some n := by decide +kernel

theorem sextetSmall (data : List Nat) (small : ∀ b ∈ data, b < 256) : ∀ n ∈ sextets data, n < 64 := by
  induction data using sextets.induct with
  | case1 => nofun
  | case2 a =>
      have := small a List.mem_cons_self
      simp only [sextets,List.mem_cons,List.not_mem_nil,or_false]
      omega
  | case3 a b =>
      simp only [List.forall_mem_cons] at small
      simp only [sextets,List.mem_cons,List.not_mem_nil,or_false]
      omega
  | case4 a b c rest ih =>
      simp only [List.forall_mem_cons] at small
      obtain ⟨first,second,third,small⟩ := small
      intro n inside
      obtain here | later := List.mem_append.mp inside
      · simp only [List.mem_cons,List.not_mem_nil,or_false] at here
        omega
      · exact ih small n later

theorem octetsSextets (data : List Nat) (small : ∀ b ∈ data, b < 256) : octets (sextets data) = data := by
  induction data using sextets.induct with
  | case1 => rfl
  | case2 a =>
      have := small a List.mem_cons_self
      simp only [sextets,octets,List.cons.injEq,and_true]
      omega
  | case3 a b =>
      simp only [List.forall_mem_cons] at small
      simp only [sextets,octets,List.cons.injEq,and_true]
      omega
  | case4 a b c rest ih =>
      simp only [List.forall_mem_cons] at small
      obtain ⟨first,second,third,small⟩ := small
      simp only [sextets,octets,List.cons_append,List.nil_append,ih small,List.cons.injEq,and_true]
      omega

theorem bytesWrite (data : List Nat) (small : ∀ b ∈ data, b < 256) : bytes (write data) = data := by
  have digits := sextetSmall data small
  have plain : ((sextets data).map digit).takeWhile (· ≠ '=') = (sextets data).map digit := by
    rw [List.takeWhile_eq_self_iff]
    intro c inside
    obtain ⟨n,there,rfl⟩ := List.mem_map.mp inside
    exact decide_eq_true (valueDigit n (digits n there)).1
  rw [bytes,write,String.toList_ofList,plain,List.filterMap_map]
  have read : (sextets data).filterMap (value ∘ digit) = (sextets data).filterMap some :=
    List.filterMap_congr fun n there => (valueDigit n (digits n there)).2
  rw [read,List.filterMap_some,octetsSextets data small]

end Base64Url

namespace Base64

def alphabet : List Char :=
  "ABCDEFGHIJKLMNOPQRSTUVWXYZabcdefghijklmnopqrstuvwxyz0123456789+/".toList

def digit (n : Nat) : Char := alphabet.getD n 'A'

def write (bytes : List Nat) : String :=
  String.ofList ((Base64Url.sextets bytes).map digit ++ List.replicate ((3 - bytes.length % 3) % 3) '=')

theorem lengthWrite (bytes : List Nat) : (write bytes).length = (bytes.length + 2) / 3 * 4 := by
  rw [write,String.length_ofList,List.length_append,List.length_map,List.length_replicate]
  induction bytes using Base64Url.sextets.induct with
  | case1 => rfl
  | case2 | case3 => simp [Base64Url.sextets]
  | case4 a b c rest ih =>
      simp only [Base64Url.sextets,List.length_append,List.length_cons,List.length_nil]
      omega

end Base64

def utf8 (s : String) : List Nat := s.toByteArray.data.toList.map UInt8.toNat

def readUtf8 (data : List Nat) : Option String := String.fromUTF8? ⟨(data.map UInt8.ofNat).toArray⟩

theorem utf8Small (s : String) : ∀ b ∈ utf8 s, b < 256 := by
  intro b inside
  obtain ⟨octet,_,rfl⟩ := List.mem_map.mp inside
  exact octet.toNat_lt

theorem lengthUtf8 (s : String) : s.length ≤ (utf8 s).length := by
  have each : ∀ l : List Char, l.length ≤ l.utf8Encode.size := by
    intro l
    induction l with
    | nil => exact Nat.zero_le _
    | cons c rest ih =>
        have filled := c.utf8Size_pos
        have first : [c].utf8Encode.size = c.utf8Size := by
          rw [List.utf8Encode_singleton,List.size_toByteArray,String.length_utf8EncodeChar]
        rw [List.utf8Encode_cons,ByteArray.size_append,List.length_cons,first]
        omega
  rw [utf8,List.length_map,← String.length_toList]
  refine (each s.toList).trans (le_of_eq ?_)
  rw [String.utf8Encode_toList]
  rfl

theorem readUtf8Utf8 (s : String) : readUtf8 (utf8 s) = some s := by
  have same : (utf8 s).map UInt8.ofNat = s.toByteArray.data.toList := by
    rw [utf8,List.map_map]
    exact (List.map_congr_left fun b _ => UInt8.ofNat_toNat).trans (List.map_id _)
  rw [readUtf8,same,Array.toArray_toList,String.fromUTF8?]
  exact dif_pos s.isValidUTF8

namespace Utf8

/-- A character of several bytes that has begun: how many are missing, its code so far, and
between which bounds the next byte lies. -/
structure Begun where
  needed : Nat
  code : Nat
  lower : Nat := 0x80
  upper : Nat := 0xbf

def start (b : Nat) : List Char × Option Begun :=
  if b < 0x80 then ([Char.ofNat b],none)
  else if 0xc2 ≤ b ∧ b ≤ 0xdf then ([],some { needed := 1, code := b % 0x20 })
  else if b = 0xe0 then ([],some { needed := 2, code := 0, lower := 0xa0 })
  else if b = 0xed then ([],some { needed := 2, code := 0xd, upper := 0x9f })
  else if 0xe1 ≤ b ∧ b ≤ 0xef then ([],some { needed := 2, code := b % 0x10 })
  else if b = 0xf0 then ([],some { needed := 3, code := 0, lower := 0x90 })
  else if b = 0xf4 then ([],some { needed := 3, code := 4, upper := 0x8f })
  else if 0xf1 ≤ b ∧ b ≤ 0xf3 then ([],some { needed := 3, code := b % 8 })
  else (['\ufffd'],none)

-- a byte that does not continue what has begun starts anew
def feed (b : Nat) : Option Begun → List Char × Option Begun
  | none => start b
  | some begun =>
      if begun.lower ≤ b ∧ b ≤ begun.upper then
        let code := begun.code * 0x40 + b % 0x40
        if begun.needed = 1 then ([Char.ofNat code],none) else ([],some { needed := begun.needed - 1, code := code })
      else ('\ufffd' :: (start b).1,(start b).2)

def decodeFrom : Option Begun → List Nat → List Char
  | none, [] => []
  | some _, [] => ['\ufffd']
  | begun, b :: rest => (feed b begun).1 ++ decodeFrom (feed b begun).2 rest

/-- The text of any bytes: what is no character is replaced. -/
def decode (data : List Nat) : List Char := decodeFrom none data

theorem decodeAscii {data : List Nat} (ascii : ∀ b ∈ data, b < 0x80) : decode data = data.map Char.ofNat := by
  induction data with
  | nil => rfl
  | cons b rest ih =>
    obtain ⟨first,others⟩ := List.forall_mem_cons.mp ascii
    have fed : feed b none = ([Char.ofNat b],none) := if_pos first
    rw [decode,decodeFrom,fed,List.map_cons,← ih others]
    rfl

end Utf8

end Workflow
