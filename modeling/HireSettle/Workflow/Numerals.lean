import Mathlib

/-! Numerals as JavaScript reads them. A text is taken without the white space around
it; `bigInt` is exact, `number` goes to the nearest double. -/
namespace Workflow.Numerals

def digitValue (c : Char) : Nat :=
  if c.isDigit then c.toNat - '0'.toNat else c.toLower.toNat - 'a'.toNat + 10

def isDigitOf (radix : Nat) (c : Char) : Bool := c.isAlphanum && digitValue c < radix

def decimalDigits (digits : List Char) : Option Nat :=
  if digits ≠ [] ∧ digits.all Char.isDigit then some (Nat.ofDigitChars 10 digits 0) else none

def digitsOf (radix : Nat) (digits : List Char) : Option Nat :=
  if digits ≠ [] ∧ digits.all (isDigitOf radix) then some (digits.foldl (fun n c => radix * n + digitValue c) 0) else none

-- a literal with the prefix of a radix has no sign
def radixLiteral : List Char → Option (Option Nat)
  | '0' :: 'x' :: digits | '0' :: 'X' :: digits => some (digitsOf 16 digits)
  | '0' :: 'o' :: digits | '0' :: 'O' :: digits => some (digitsOf 8 digits)
  | '0' :: 'b' :: digits | '0' :: 'B' :: digits => some (digitsOf 2 digits)
  | _ => none

def signed {α : Type} [Neg α] (unsigned : List Char → Option α) : List Char → Option α
  | '+' :: literal => unsigned literal
  | '-' :: literal => (unsigned literal).map (- ·)
  | literal => unsigned literal

def signedDigits : List Char → Option Int := signed fun digits => (decimalDigits digits).map Nat.cast

/-- `BigInt` of a text, none when it throws. -/
def bigInt (text : List Char) : Option Int :=
  if text = [] then some 0
  else match radixLiteral text with
    | some value => value.map Nat.cast
    | none => signedDigits text

/-- A value of the type `number`, the two zeros taken for one. -/
inductive Number where
  | finite (value : ℚ)
  | infinite (negative : Bool)
  | nan
  deriving DecidableEq, Repr

namespace Number

instance : Neg Number where
  neg
    | .finite value => .finite (-value)
    | .infinite negative => .infinite !negative
    | .nan => .nan

-- the integers among the numbers
def integer : Number → Option Int
  | .finite value => if value.den = 1 then some value.num else none
  | _ => none

-- `n < x`
def isAbove (n : Int) : Number → Bool
  | .finite value => (n : ℚ) < value
  | .infinite negative => !negative
  | .nan => false

-- `x < n`
def isBelow (n : Int) : Number → Bool
  | .finite value => value < (n : ℚ)
  | .infinite negative => negative
  | .nan => false

end Number

def roundEven (q : ℚ) : Int :=
  let below := ⌊q⌋
  if q - below < 1 / 2 ∨ q - below = 1 / 2 ∧ below % 2 = 0 then below else below + 1

/-- The double nearest to a number that is not negative. -/
def double (q : ℚ) : Number :=
  let unit : ℚ := 2 ^ max (Int.log 2 q - 52) (-1074)
  let nearest := roundEven (q / unit) * unit
  if nearest < 2 ^ 1024 then .finite nearest else .infinite false

def exponent : List Char → Option Int
  | [] => some 0
  | 'e' :: digits | 'E' :: digits => signedDigits digits
  | _ => none

/-- A decimal literal without a sign. -/
def decimalLiteral (text : List Char) : Option ℚ :=
  let whole := text.takeWhile Char.isDigit
  let rest := text.dropWhile Char.isDigit
  let behind := if rest.head? = some '.' then rest.drop 1 else []
  let fraction := behind.takeWhile Char.isDigit
  let last := if rest.head? = some '.' then behind.dropWhile Char.isDigit else rest
  (exponent last).bind fun e =>
    (decimalDigits (whole ++ fraction)).map fun n : Nat => (n : ℚ) * (10 : ℚ) ^ (e - fraction.length)

def unsignedNumber (text : List Char) : Option Number :=
  if text = "Infinity".toList then some (.infinite false) else (decimalLiteral text).map double

/-- `Number` of a text. -/
def number (text : List Char) : Number :=
  if text = [] then .finite 0
  else match radixLiteral text with
    | some value => (value.map fun n : Nat => double n).getD .nan
    | none => (signed unsignedNumber text).getD .nan

/-- A decimal numeral that is not negative. -/
structure Decimal where
  whole : List Char
  fraction : Option (List Char)
  nonempty : whole ≠ []
  wholeDigits : whole.all Char.isDigit = true
  fractionDigits : ∀ digits ∈ fraction, digits.all Char.isDigit = true

namespace Decimal

def places (d : Decimal) : List Char := d.fraction.getD []

def text (d : Decimal) : List Char :=
  match d.fraction with
  | none => d.whole
  | some digits => d.whole ++ '.' :: digits

def value (d : Decimal) : ℚ := (Nat.ofDigitChars 10 (d.whole ++ d.places) 0 : Nat) / 10 ^ d.places.length

theorem placesDigits (d : Decimal) : d.places.all Char.isDigit = true := by
  unfold places
  cases behind : d.fraction with
  | none => rfl
  | some digits => exact d.fractionDigits digits behind

theorem pointless {digits : List Char} (plain : digits.all Char.isDigit = true) : '.' ∉ digits :=
  fun inside => absurd (List.all_eq_true.mp plain '.' inside) (by decide)

/-- The digits in front of the point and, filled up with zeros, those behind it. -/
theorem valueScaled (d : Decimal) {places : Nat} (short : d.places.length ≤ places) :
    d.value * 10 ^ places = ((Nat.ofDigitChars 10 d.whole 0 * 10 ^ places +
      Nat.ofDigitChars 10 (d.places ++ List.replicate (places - d.places.length) '0') 0 : Nat) : ℚ) := by
  obtain ⟨missing,rfl⟩ := Nat.exists_eq_add_of_le short
  rw [value,Nat.ofDigitChars_append,Nat.ofDigitChars_append,Nat.add_sub_cancel_left,Nat.ofDigitChars_replicate_zero,
    Nat.ofDigitChars_eq_ofDigitChars_zero (l := d.places),pow_add,← mul_assoc,div_mul_cancel₀ _ (pow_ne_zero _ (by norm_num))]
  push_cast
  ring

end Decimal

section Integers

theorem roundEvenInt (n : Int) : roundEven n = n := by
  simp [roundEven]

theorem doubleNat {n : Nat} (small : n < 2 ^ 53) : double n = .finite n := by
  have logs : Int.log 2 (n : ℚ) ≤ 52 := by
    rw [Int.log_natCast]
    have bounded := Nat.log_lt_of_lt_pow' (b := 2) (by decide) small
    omega
  obtain ⟨k,unit⟩ : ∃ k : Nat, max (Int.log 2 (n : ℚ) - 52) (-1074) = -(k : Int) :=
    ⟨(-(max (Int.log 2 (n : ℚ) - 52) (-1074))).toNat,by omega⟩
  have whole : (n : ℚ) / 2 ^ max (Int.log 2 (n : ℚ) - 52) (-1074) = ((n * 2 ^ k : Nat) : Int) := by
    rw [unit,zpow_neg,div_inv_eq_mul,zpow_natCast]
    push_cast
    rfl
  have back : (((n * 2 ^ k : Nat) : Int) : ℚ) * 2 ^ max (Int.log 2 (n : ℚ) - 52) (-1074) = n := by
    rw [← whole,div_mul_cancel₀ _ (zpow_ne_zero _ two_ne_zero)]
  unfold double
  dsimp only
  rw [whole,roundEvenInt,back,if_pos]
  have range : (n : ℚ) < 2 ^ 53 := by exact_mod_cast small
  exact range.trans_le (pow_le_pow_right₀ (by norm_num) (by norm_num))

section Digits

variable {digits : List Char}

theorem radixDigits (plain : digits.all Char.isDigit = true) : radixLiteral digits = none := by
  unfold radixLiteral
  split
  all_goals simp_all [Char.isDigit]

theorem signedPlain {α : Type} [Neg α] (unsigned : List Char → Option α) (plain : digits.all Char.isDigit = true) :
    signed unsigned digits = unsigned digits := by
  unfold signed
  split
  · simp [Char.isDigit] at plain
  · simp [Char.isDigit] at plain
  · rfl

theorem decimalLiteralDigits (plain : digits.all Char.isDigit = true) :
    decimalLiteral digits = (decimalDigits digits).map Nat.cast := by
  have all : digits.takeWhile Char.isDigit = digits := List.takeWhile_eq_self_iff.mpr (List.all_eq_true.mp plain)
  have none : digits.dropWhile Char.isDigit = [] := List.dropWhile_eq_nil_iff.mpr (List.all_eq_true.mp plain)
  simp only [decimalLiteral,all,none,exponent,List.head?_nil,reduceCtorEq,if_false,List.takeWhile_nil,List.append_nil,
    Option.bind_some,List.length_nil,Nat.cast_zero,sub_zero,zpow_zero,mul_one]

theorem notInfinity (plain : digits.all Char.isDigit = true) : digits ≠ "Infinity".toList := by
  intro same
  rw [same] at plain
  revert plain
  decide

theorem bigIntDigits (plain : digits.all Char.isDigit = true) (some : digits ≠ []) :
    bigInt digits = .some (Nat.ofDigitChars 10 digits 0 : Nat) := by
  rw [bigInt,if_neg some,radixDigits plain]
  simp only [signedDigits,signedPlain _ plain,decimalDigits]
  rw [if_pos ⟨some,plain⟩]
  rfl

theorem bigIntPoint {d : Decimal} {places : List Char} (point : d.fraction = some places) : bigInt d.text = none := by
  obtain ⟨whole,fraction,nonempty,wholeDigits,fractionDigits⟩ := d
  cases point
  cases whole with
  | nil => exact absurd rfl nonempty
  | cons c rest =>
    have digit := List.all_eq_true.mp wholeDigits c List.mem_cons_self
    have plain : radixLiteral (c :: (rest ++ '.' :: places)) = none := by
      unfold radixLiteral
      cases rest with
      | nil => split <;> simp_all
      | cons c' rest' =>
        have digit' := List.all_eq_true.mp wholeDigits c' (List.mem_cons_of_mem _ List.mem_cons_self)
        split <;> simp_all [Char.isDigit]
    have unsigned : signedDigits (c :: (rest ++ '.' :: places)) = (decimalDigits (c :: (rest ++ '.' :: places))).map Nat.cast := by
      unfold signedDigits signed
      split <;> simp_all [Char.isDigit]
    have refused : decimalDigits (c :: (rest ++ '.' :: places)) = none := by
      refine if_neg fun all => ?_
      have := List.all_eq_true.mp all.2 '.' (by simp)
      revert this
      decide
    show bigInt (c :: (rest ++ '.' :: places)) = none
    rw [bigInt,if_neg (List.cons_ne_nil _ _),plain]
    exact unsigned.trans (congrArg (Option.map Nat.cast) refused)

end Digits

theorem digitsNat (n : Nat) : n.repr.toList.all Char.isDigit = true := by
  rw [Nat.toList_repr]
  exact List.all_eq_true.mpr fun c inside => Nat.isDigit_of_mem_toDigits (by decide) (by decide) inside

theorem decimalDigitsNat (n : Nat) : decimalDigits n.repr.toList = some n := by
  have some : n.repr.toList ≠ [] := by rw [Nat.toList_repr]; exact Nat.toDigits_ne_nil
  rw [decimalDigits,if_pos ⟨some,digitsNat n⟩,Nat.toList_repr,Nat.ofDigitChars_ten_toDigits]

theorem unsignedNat {n : Nat} (small : n < 2 ^ 53) : unsignedNumber n.repr.toList = some (.finite n) := by
  rw [unsignedNumber,if_neg (notInfinity (digitsNat n)),decimalLiteralDigits (digitsNat n),decimalDigitsNat]
  exact congrArg some (doubleNat small)

theorem textNegSucc (n : Nat) : (toString (Int.negSucc n)).toList = '-' :: (n + 1).repr.toList := by
  show (Int.repr (Int.negSucc n)).toList = _
  simp [Int.repr,String.toList_append]

theorem natInjective {a b : Nat} (same : a.repr.toList = b.repr.toList) : a = b := by
  have read := decimalDigitsNat a
  rw [same,decimalDigitsNat] at read
  exact (Option.some.inj read).symm

theorem intInjective {a b : Int} (same : (toString a).toList = (toString b).toList) : a = b := by
  have unsigned : ∀ m n : Nat, '-' :: (m + 1).repr.toList ≠ n.repr.toList := fun m n mixed => by
    have digits := digitsNat n
    rw [← mixed] at digits
    cases digits
  cases a with
  | ofNat m =>
    cases b with
    | ofNat n => exact congrArg Int.ofNat (natInjective same)
    | negSucc n =>
      rw [textNegSucc] at same
      exact absurd same.symm (unsigned n m)
  | negSucc m =>
    rw [textNegSucc] at same
    cases b with
    | ofNat n => exact absurd same (unsigned m n)
    | negSucc n =>
      rw [textNegSucc] at same
      have next : m + 1 = n + 1 := natInjective (List.cons.inj same).2
      rw [Nat.succ.inj next]

/-- An integer that the doubles have is read back from its text. -/
theorem numberInt {n : Int} (small : n.natAbs < 2 ^ 53) : number (toString n).toList = .finite n := by
  cases n with
  | ofNat n =>
    have text : (toString (Int.ofNat n)).toList = n.repr.toList := rfl
    have some : n.repr.toList ≠ [] := by rw [Nat.toList_repr]; exact Nat.toDigits_ne_nil
    have read : signed unsignedNumber n.repr.toList = .some (.finite n) :=
      (signedPlain _ (digitsNat n)).trans (unsignedNat (show n < 2 ^ 53 from small))
    rw [text,number,if_neg some,radixDigits (digitsNat n)]
    exact congrArg (fun value => value.getD Number.nan) read
  | negSucc n =>
    rw [textNegSucc,number,if_neg (List.cons_ne_nil _ _)]
    have read : signed unsignedNumber ('-' :: (n + 1).repr.toList) = some (.finite (-((n + 1 : Nat) : ℚ))) := by
      simp only [signed,unsignedNat (show n + 1 < 2 ^ 53 from small)]
      rfl
    rw [show (((Int.negSucc n : Int)) : ℚ) = -((n + 1 : Nat) : ℚ) by push_cast [Int.negSucc_eq]; ring]
    exact congrArg (fun value => value.getD Number.nan) read

end Integers

end Workflow.Numerals
