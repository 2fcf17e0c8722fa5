import HireSettle.Workflow.BitGroups

/-! The text of a secret for one-time codes. The encoder shifts the bytes through a number
of 32 bits and never clears the bits it has written. -/
namespace HireSettle.Auth.TwoFactorSecrets
open Workflow.BitGroups

namespace TwoFactorService

-- the operators take the count of a shift modulo 32
def shiftLeft (value : BitVec 32) (count : Nat) : BitVec 32 := value <<< (count % 32)

def shiftRight (value : BitVec 32) (count : Nat) : BitVec 32 := value >>> (count % 32)

def chars : String := "ABCDEFGHIJKLMNOPQRSTUVWXYZ234567"

def charAt (index : BitVec 32) : Char := chars.toList.getD index.toNat 'A'

def drain (value : BitVec 32) : Nat → String → Nat × String
  | bits + 5, output => drain value bits (output.push (charAt (shiftRight value bits &&& 31)))
  | bits, output => (bits,output)

def encodeFrom : List UInt8 → Nat → BitVec 32 → String → String
  | [], bits, value, output => if 0 < bits then output.push (charAt (shiftLeft value (5 - bits) &&& 31)) else output
  | byte :: bytes, bits, value, output =>
      let value := shiftLeft value 8 ||| byte.toBitVec.setWidth 32
      let (bits,output) := drain value (bits + 8) output
      encodeFrom bytes bits value output

def base32Encode (bytes : List UInt8) : String := encodeFrom bytes 0 0 ""

-- `i += 5` with `slice(i, i + 5)`
def secretText : List UInt8 → String
  | [] => ""
  | a :: b :: c :: d :: e :: rest => base32Encode [a,b,c,d,e] ++ secretText rest
  | rest => base32Encode rest

end TwoFactorService

open TwoFactorService

/-- The character of a group of five bits: the letters, and then the digits from 2 to 7. -/
def digit (n : Nat) : Char := if n < 26 then Char.ofNat (65 + n) else Char.ofNat (24 + n)

def undigit (c : Char) : Option Nat :=
  if 'A' ≤ c ∧ c ≤ 'Z' then some (c.toNat - 65) else if '2' ≤ c ∧ c ≤ '7' then some (c.toNat - 24) else none

def octets (bytes : List UInt8) : List Bool := (bytes.map fun byte => bits 8 byte.toNat).flatten

def digits (pending rest : List Bool) : List Char := (groups 5 pending rest).map fun group => digit (number group)

/-- The Base 32 encoding without padding characters. -/
def base32 (bytes : List UInt8) : String := String.ofList (digits [] (octets bytes))

def unbase32 (text : String) : Option (List UInt8) := do
  let values ← text.toList.mapM undigit
  let read := (values.map (bits 5)).flatten
  return (groups 8 [] (read.take (read.length / 8 * 8))).map fun group => UInt8.ofNat (number group)

example : base32Encode [102,111,111,98] = "MZXW6YQ" ∧ unbase32 "MZXW6YQ" = some [102,111,111,98] := by decide +kernel

theorem charAtDigit (index : BitVec 32) (less : index.toNat < 32) : charAt index = digit index.toNat := by
  have table : ∀ n < 32, chars.toList.getD n 'A' = digit n := by decide
  exact table _ less

theorem lowToNat (value : BitVec 32) : (value &&& 31).toNat = value.toNat % 2 ^ 5 := by
  rw [BitVec.toNat_and]
  exact Nat.and_two_pow_sub_one_eq_mod value.toNat 5

theorem charAtLow (value : BitVec 32) : charAt (value &&& 31) = digit (value.toNat % 2 ^ 5) := by
  rw [charAtDigit _ (by rw [lowToNat]; exact Nat.mod_lt _ (by decide)),lowToNat]

/-- The lowest bits of the value are the pending ones. -/
def Holds (value : BitVec 32) (pending : List Bool) : Prop := value.toNat % 2 ^ pending.length = number pending

section Loop

variable {value : BitVec 32} {pending : List Bool}

theorem modAdd {a b m n : Nat} (positive : 0 < n) (less : b < m) : (a * m + b) % (n * m) = a % n * m + b := by
  have parts : a * m + b = n * m * (a / n) + (a % n * m + b) := by
    conv_lhs => rw [← Nat.div_add_mod a n]
    ring
  have most : a % n + 1 ≤ n := Nat.mod_lt a positive
  have below : a % n * m + b < n * m := by
    have scaled : (a % n + 1) * m ≤ n * m := Nat.mul_le_mul_right m most
    rw [Nat.add_one_mul] at scaled
    omega
  rw [parts,Nat.mul_add_mod,Nat.mod_eq_of_lt below]

theorem pushedToNat (byte : UInt8) :
    (shiftLeft value 8 ||| byte.toBitVec.setWidth 32).toNat = value.toNat % 2 ^ 24 * 2 ^ 8 + byte.toNat := by
  have less : byte.toNat < 2 ^ 8 := byte.toNat_lt
  have shifted : (shiftLeft value 8).toNat = value.toNat % 2 ^ 24 * 2 ^ 8 := by
    rw [shiftLeft,BitVec.toNat_shiftLeft,Nat.shiftLeft_eq]
    exact Nat.mul_mod_mul_right (2 ^ 8) value.toNat (2 ^ 24)
  have widened : (byte.toBitVec.setWidth 32).toNat = byte.toNat :=
    (BitVec.toNat_setWidth 32 byte.toBitVec).trans (Nat.mod_eq_of_lt (less.trans (by decide)))
  rw [BitVec.toNat_or,shifted,widened,← Nat.shiftLeft_eq,← Nat.shiftLeft_add_eq_or_of_lt less]

theorem holdsByte (byte : UInt8) (holds : Holds value pending) (short : pending.length < 5) :
    Holds (shiftLeft value 8 ||| byte.toBitVec.setWidth 32) (pending ++ bits 8 byte.toNat) := by
  have less : byte.toNat < 2 ^ 8 := byte.toNat_lt
  have kept : value.toNat % 2 ^ 24 % 2 ^ pending.length = number pending :=
    (Nat.mod_mod_of_dvd value.toNat (pow_dvd_pow 2 (by omega))).trans holds
  rw [Holds,pushedToNat,List.length_append,bitsLength,pow_add,modAdd (Nat.two_pow_pos _) less,kept,numberAppend,bitsLength,
    numberBits,Nat.mod_eq_of_lt less]

theorem holdsGroup {group rest : List Bool} (width : group.length = 5) (few : rest.length ≤ 7)
    (holds : Holds value (group ++ rest)) :
    charAt (shiftRight value rest.length &&& 31) = digit (number group) ∧ Holds value rest := by
  have less : number rest < 2 ^ rest.length := numberLess rest
  rw [Holds,List.length_append,width,numberAppend,pow_add] at holds
  have shifted : (shiftRight value rest.length).toNat = value.toNat / 2 ^ rest.length := by
    rw [shiftRight,Nat.mod_eq_of_lt (by omega),BitVec.toNat_ushiftRight,Nat.shiftRight_eq_div_pow]
  constructor
  · rw [charAtLow,shifted,← Nat.mod_mul_right_div_self,mul_comm (2 ^ rest.length),holds,mul_comm,
      Nat.mul_add_div (Nat.two_pow_pos _),Nat.div_eq_of_lt less,Nat.add_zero]
  · rw [Holds,← Nat.mod_mod_of_dvd value.toNat (Nat.dvd_mul_left (2 ^ rest.length) (2 ^ 5)),holds,mul_comm,Nat.mul_add_mod,
      Nat.mod_eq_of_lt less]

theorem drainFew {bits : Nat} (output : String) (few : bits < 5) : drain value bits output = (bits,output) := by
  rcases bits with _ | _ | _ | _ | _ | bits
  all_goals first | rfl | omega

theorem drainDigits {window : List Bool} (output : String) (few : window.length ≤ 12) (holds : Holds value window) :
    ∃ rest : List Bool, rest.length < 5 ∧ Holds value rest ∧ (drain value window.length output).1 = rest.length ∧
      ∀ more, (drain value window.length output).2.toList ++ digits rest more = output.toList ++ digits [] (window ++ more) := by
  induction h : window.length using Nat.strongRecOn generalizing window output with
  | ind n ih =>
      obtain less | enough := Nat.lt_or_ge n 5
      · refine ⟨window,by omega,holds,by rw [drainFew output less,h],fun more => ?_⟩
        rw [drainFew output less,digits,digits,groupsShort (by simp; omega),List.nil_append]
      · obtain ⟨group,others,rfl,width⟩ : ∃ group others, window = group ++ others ∧ group.length = 5 :=
          ⟨window.take 5,window.drop 5,(List.take_append_drop 5 window).symm,by rw [List.length_take]; omega⟩
        rw [List.length_append,width] at h few
        obtain ⟨written,kept⟩ := holdsGroup width (by omega) holds
        subst h
        obtain ⟨rest,short,left,count,texts⟩ := ih others.length (by omega)
          (output.push (charAt (shiftRight value others.length &&& 31))) (by omega) kept rfl
        rw [Nat.add_comm 5,drain]
        refine ⟨rest,short,left,count,fun more => ?_⟩
        have first : groups 5 [] (group ++ (others ++ more)) = group :: groups 5 [] (others ++ more) :=
          groupsFull (by simpa using width) (by decide)
        rw [texts more,String.toList_push,written,digits,digits,List.append_assoc group,first]
        simp

theorem lastDigit (short : pending.length < 5) (holds : Holds value pending) :
    charAt (shiftLeft value (5 - pending.length) &&& 31) = digit (number (padded 5 pending)) := by
  have zeros : ∀ n, number (List.replicate n false) = 0 := by
    intro n
    induction n with
    | zero => rfl
    | succ n ih => rw [List.replicate_succ,numberCons,ih,Bool.toNat_false,zero_mul]
  have shifted : (shiftLeft value (5 - pending.length)).toNat % 2 ^ 5 = number (padded 5 pending) := by
    have five : 2 ^ 5 = 2 ^ pending.length * 2 ^ (5 - pending.length) := by rw [← pow_add,Nat.add_sub_cancel' short.le]
    have count : (5 - pending.length) % 32 = 5 - pending.length := Nat.mod_eq_of_lt (by omega)
    have divides : 2 ^ 5 ∣ 2 ^ 32 := pow_dvd_pow 2 (by decide)
    rw [shiftLeft,count,BitVec.toNat_shiftLeft,Nat.shiftLeft_eq,Nat.mod_mod_of_dvd _ divides,five,Nat.mul_mod_mul_right,holds,
      padded,numberAppend,zeros,List.length_replicate,Nat.add_zero]
  rw [charAtLow,shifted]

theorem encodeDigits (bytes : List UInt8) (output : String) (short : pending.length < 5) (holds : Holds value pending) :
    (encodeFrom bytes pending.length value output).toList = output.toList ++ digits pending (octets bytes) := by
  induction bytes generalizing pending value output with
  | nil =>
      rw [encodeFrom]
      cases pending with
      | nil => simp [digits,groups,octets]
      | cons bit rest =>
          rw [if_pos (by simp),String.toList_push,lastDigit short holds]
          rfl
  | cons byte bytes ih =>
      obtain ⟨rest,few,left,count,texts⟩ := drainDigits output (by simp; omega) (holdsByte byte holds short)
      rw [List.length_append,bitsLength] at count texts
      rw [encodeFrom]
      dsimp only
      have joined : digits [] (pending ++ bits 8 byte.toNat ++ octets bytes) = digits pending (octets (byte :: bytes)) := by
        have fewer : ([] : List Bool).length + pending.length < 5 := by simpa using short
        rw [digits,List.append_assoc,groupsShort fewer]
        rfl
      rw [count,ih _ few left,texts,joined]

end Loop

theorem encodeBase32 (bytes : List UInt8) : base32Encode bytes = base32 bytes := by
  have empty : Holds 0 [] := rfl
  have written : (base32Encode bytes).toList = "".toList ++ digits [] (octets bytes) := encodeDigits bytes "" (by decide) empty
  exact String.toList_injective (written.trans (String.toList_ofList).symm)

theorem octetsWidth (bytes : List UInt8) : ∀ part ∈ bytes.map (fun byte => bits 8 byte.toNat), part.length = 8 :=
  List.forall_mem_map.mpr fun _ _ => bitsLength _

theorem octetsLength (bytes : List UInt8) : (octets bytes).length = 8 * bytes.length := by
  induction bytes with
  | nil => rfl
  | cons byte bytes ih =>
      rw [octets,List.map_cons,List.flatten_cons,List.length_append,bitsLength,← octets,ih,List.length_cons]
      omega

theorem undigitDigit {n : Nat} (less : n < 32) : undigit (digit n) = some n := by
  have table : ∀ n < 32, undigit (digit n) = some n := by decide
  exact table n less

theorem undigitDigits {parts : List (List Bool)} (width : ∀ part ∈ parts, part.length = 5) :
    (parts.map fun group => digit (number group)).mapM undigit = some (parts.map number) := by
  induction parts with
  | nil => rfl
  | cons part parts ih =>
      obtain ⟨first,others⟩ := List.forall_mem_cons.mp width
      have less : number part < 32 := (numberLess part).trans_eq (by rw [first]; rfl)
      rw [List.map_cons,List.mapM_cons,undigitDigit less,ih others]
      rfl

theorem bitsNumbers {parts : List (List Bool)} (width : ∀ part ∈ parts, part.length = 5) :
    (parts.map number).map (bits 5) = parts := by
  induction parts with
  | nil => rfl
  | cons part parts ih =>
      obtain ⟨first,others⟩ := List.forall_mem_cons.mp width
      have same : bits 5 (number part) = part := first ▸ bitsNumber part
      rw [List.map_cons,List.map_cons,same,ih others]

theorem readBytes (bytes : List UInt8) :
    ((bytes.map fun byte => bits 8 byte.toNat).map fun group => UInt8.ofNat (number group)) = bytes := by
  induction bytes with
  | nil => rfl
  | cons byte bytes ih =>
      have same : UInt8.ofNat (number (bits 8 byte.toNat)) = byte := by
        rw [numberBits,Nat.mod_eq_of_lt byte.toNat_lt,UInt8.ofNat_toNat]
      rw [List.map_cons,List.map_cons,same,ih]

theorem base32Decodes (bytes : List UInt8) : unbase32 (base32 bytes) = some bytes := by
  have width : ∀ group ∈ groups 5 [] (octets bytes), group.length = 5 := groupsWidth (by decide)
  obtain ⟨zeros,few,joined⟩ := @groupsJoin 5 [] (octets bytes) (by decide)
  rw [List.nil_append] at joined
  have count : (groups 5 [] (octets bytes)).flatten.length / 8 * 8 = (octets bytes).length := by
    rw [joined,List.length_append,List.length_replicate,octetsLength]
    omega
  rw [unbase32,base32,String.toList_ofList,digits,undigitDigits width]
  simp only [Option.bind_eq_bind,Option.bind_some,bitsNumbers width,count]
  rw [joined,List.take_left,octets,groupsFlatten (by decide) (octetsWidth bytes),readBytes]
  rfl

theorem base32Append {first : List UInt8} (rest : List UInt8) (whole : 5 ∣ first.length) :
    base32 (first ++ rest) = base32 first ++ base32 rest := by
  have apart : octets (first ++ rest) = octets first ++ octets rest := by rw [octets,List.map_append,List.flatten_append]; rfl
  have grouped : groups 5 [] (octets first ++ octets rest) = groups 5 [] (octets first) ++ groups 5 [] (octets rest) := by
    refine groupsAppend ?_ (by decide)
    rw [octetsLength,List.length_nil,Nat.zero_add]
    exact Dvd.dvd.mul_left whole 8
  rw [base32,apart,digits,grouped,List.map_append,String.ofList_append]
  rfl

theorem chunkedBase32 (bytes : List UInt8) : secretText bytes = base32 bytes := by
  induction bytes using secretText.induct with
  | case1 => rfl
  | case2 a b c d e rest ih =>
      have parted : base32 ([a,b,c,d,e] ++ rest) = base32 [a,b,c,d,e] ++ base32 rest := base32Append rest (Nat.dvd_refl 5)
      rw [secretText,encodeBase32,ih,← parted]
      rfl
  | case3 rest filled short =>
      rw [secretText,encodeBase32]
      · exact filled
      · exact short

/-- The encoder writes the Base 32 text of its bytes, whole or in chunks of five. -/
theorem encodesExactly (bytes : List UInt8) : base32Encode bytes = base32 bytes ∧ unbase32 (base32Encode bytes) = some bytes ∧
    secretText bytes = base32Encode bytes := by
  rw [encodeBase32]
  exact ⟨rfl,base32Decodes bytes,chunkedBase32 bytes⟩

end HireSettle.Auth.TwoFactorSecrets
