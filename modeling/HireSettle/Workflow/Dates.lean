import Mathlib

/-! JavaScript's dates: a count of milliseconds within the range of the language,
written as an ISO 8601 text in UTC and read back from it. -/
namespace Workflow

structure Date where
  ms : Int
  valid : ms.natAbs ≤ 8640000000000000
  deriving DecidableEq, Repr

namespace Date

def epoch : Date := ⟨0,by decide⟩

def dayFromYear (y : Int) : Int := 365 * (y - 1970) + (y - 1969) / 4 - (y - 1901) / 100 + (y - 1601) / 400

-- the mean year is a day off at most
def yearFromDay (day : Int) : Int :=
  let y := 1970 + day * 400 / 146097
  if dayFromYear (y + 1) ≤ day then y + 1 else if day < dayFromYear y then y - 1 else y

def leapDay (y : Int) : Int := dayFromYear (y + 1) - dayFromYear y - 365

def monthLengths (leap : Int) : List Int := [31,28 + leap,31,30,31,30,31,31,30,31,30,31]

-- how many of the lengths have passed, and the days left
def passed : List Int → Int → Nat × Int
  | [], n => (0,n)
  | length :: rest, n =>
      if n < length then (0,n)
      else
        let found := passed rest (n - length)
        (found.1 + 1,found.2)

def pad : Nat → Nat → List Char
  | 0, _ => []
  | w + 1, n => pad w (n / 10) ++ [Nat.digitChar (n % 10)]

def yearText (y : Int) : List Char :=
  if 0 ≤ y ∧ y ≤ 9999 then pad 4 y.toNat else (if y < 0 then '-' else '+') :: pad 6 y.natAbs

def isoText (year : Int) (month day time : Nat) : List Char :=
  yearText year ++ '-' :: (pad 2 month ++ '-' :: (pad 2 day ++ 'T' :: (pad 2 (time / 3600000) ++ ':' ::
    (pad 2 (time / 60000 % 60) ++ ':' :: (pad 2 (time / 1000 % 60) ++ '.' :: (pad 3 (time % 1000) ++ ['Z']))))))

def toISOString (d : Date) : String :=
  let day := d.ms / 86400000
  let year := yearFromDay day
  let (months,left) := passed (monthLengths (leapDay year)) (day - dayFromYear year)
  String.ofList (isoText year (months + 1) (left.toNat + 1) (d.ms % 86400000).toNat)

def readDigit (c : Char) : Option Nat := if c.isDigit then some (c.toNat - 48) else none

def readNumber (cs : List Char) : Option Nat := cs.foldlM (fun n c => (readDigit c).map (n * 10 + ·)) 0

def field (w : Nat) (cs : List Char) : Option (Nat × List Char) :=
  if w ≤ cs.length then (readNumber (cs.take w)).map (·,cs.drop w) else none

def literal (c : Char) : List Char → Option (List Char)
  | d :: rest => if d = c then some rest else none
  | [] => none

def readYear : List Char → Option (Int × List Char)
  | '-' :: rest => (field 6 rest).bind fun (y,rest) => if y = 0 then none else some (-(y : Int),rest)
  | '+' :: rest => (field 6 rest).map fun (y,rest) => ((y : Int),rest)
  | text => (field 4 text).map fun (y,rest) => ((y : Int),rest)

def readMs (text : List Char) : Option Int := do
  let (year,rest) ← readYear text
  let (month,rest) ← field 2 (← literal '-' rest)
  let (day,rest) ← field 2 (← literal '-' rest)
  let (hours,rest) ← field 2 (← literal 'T' rest)
  let (minutes,rest) ← field 2 (← literal ':' rest)
  let (seconds,rest) ← field 2 (← literal ':' rest)
  let (fraction,rest) ← field 3 (← literal '.' rest)
  if rest = ['Z'] ∧ 1 ≤ month ∧ month ≤ 12 ∧ 1 ≤ day ∧ day ≤ 31 ∧ hours < 24 ∧ minutes < 60 ∧ seconds < 60 then
    let days := dayFromYear year + ((monthLengths (leapDay year)).take (month - 1)).sum + day - 1
    some (days * 86400000 + (hours * 3600000 + minutes * 60000 + seconds * 1000 + fraction : Nat))
  else none

/-- Reads the texts that `toISOString` writes. -/
def parse (text : String) : Option Date := do
  let ms ← readMs text.toList
  if valid : ms.natAbs ≤ 8640000000000000 then some ⟨ms,valid⟩ else none

theorem meanYear (day : Int) : dayFromYear (1970 + day * 400 / 146097 - 1) ≤ day ∧
    day < dayFromYear (1970 + day * 400 / 146097 + 1 + 1) := by
  unfold dayFromYear
  omega

theorem yearOfDay (day : Int) : dayFromYear (yearFromDay day) ≤ day ∧ day < dayFromYear (yearFromDay day + 1) := by
  obtain ⟨before,after⟩ := meanYear day
  unfold yearFromDay
  dsimp only
  split_ifs with later earlier
  · exact ⟨later,after⟩
  · rw [Int.sub_add_cancel]
    exact ⟨before,earlier⟩
  · exact ⟨not_lt.mp earlier,not_le.mp later⟩

theorem leapBound (y : Int) : 0 ≤ leapDay y ∧ leapDay y ≤ 1 := by
  unfold leapDay dayFromYear
  omega

theorem passedSum (lengths : List Int) (n : Int) (inside : 0 ≤ n ∧ n < lengths.sum) :
    (passed lengths n).1 < lengths.length ∧ n = (lengths.take (passed lengths n).1).sum + (passed lengths n).2 ∧
      0 ≤ (passed lengths n).2 ∧ ∃ length ∈ lengths, (passed lengths n).2 < length := by
  induction lengths generalizing n with
  | nil =>
      rw [List.sum_nil] at inside
      omega
  | cons length rest ih =>
      rw [List.sum_cons] at inside
      rw [passed]
      split_ifs with within
      · exact ⟨Nat.succ_pos _,(Int.zero_add n).symm,inside.1,length,List.mem_cons_self,within⟩
      · dsimp only
        obtain ⟨short,whole,positive,bound,there,below⟩ := ih (n - length) (by omega)
        refine ⟨Nat.succ_lt_succ short,?_,positive,bound,List.mem_cons_of_mem _ there,below⟩
        rw [List.take_succ_cons,List.sum_cons]
        omega

theorem readDigitChar (n : Nat) (small : n < 10) : readDigit (Nat.digitChar n) = some n := by
  have all : ∀ n < 10, readDigit (Nat.digitChar n) = some n := by decide
  exact all n small

theorem readPad (w n : Nat) (fits : n < 10 ^ w) : readNumber (pad w n) = some n := by
  induction w generalizing n with
  | zero =>
      rw [Nat.pow_zero,Nat.lt_one_iff] at fits
      rw [fits]
      rfl
  | succ w ih =>
      rw [Nat.pow_succ] at fits
      have front := ih (n / 10) (by omega)
      unfold readNumber at front ⊢
      rw [pad,List.foldlM_append,front]
      have last := readDigitChar (n % 10) (Nat.mod_lt n (by omega))
      simp only [Option.bind_eq_bind,Option.bind_some,List.foldlM_cons,List.foldlM_nil,last,Option.map_some,Option.pure_def,
        Option.some.injEq]
      omega

theorem padLength (w n : Nat) : (pad w n).length = w := by
  induction w generalizing n with
  | zero => rfl
  | succ w ih => rw [pad,List.length_append,ih,List.length_singleton]

theorem digitChars (n : Nat) (small : n < 10) : (Nat.digitChar n).isDigit = true := by
  have all : ∀ n < 10, (Nat.digitChar n).isDigit = true := by decide
  exact all n small

theorem padDigits (w n : Nat) : ∀ c ∈ pad w n, c.isDigit = true := by
  induction w generalizing n with
  | zero => nofun
  | succ w ih =>
      intro c inside
      obtain front | last := List.mem_append.mp inside
      · exact ih (n / 10) c front
      · rw [List.mem_singleton.mp last]
        exact digitChars (n % 10) (Nat.mod_lt n (by omega))

theorem fieldPad (w n : Nat) (rest : List Char) (fits : n < 10 ^ w) : field w (pad w n ++ rest) = some (n,rest) := by
  have wide := padLength w n
  rw [field,if_pos (by rw [List.length_append]; omega),List.take_left' wide,List.drop_left' wide,readPad w n fits]
  rfl

theorem literalSame (c : Char) (rest : List Char) : literal c (c :: rest) = some rest := if_pos rfl

theorem readYearText (y : Int) (rest : List Char) (fits : y.natAbs < 10 ^ 6) : readYear (yearText y ++ rest) = some (y,rest) := by
  unfold yearText
  split
  · rename_i plain
    have digits := padDigits 4 y.toNat
    have read := fieldPad 4 y.toNat rest (by omega)
    unfold readYear
    split
    · rename_i minus
      cases text : pad 4 y.toNat with
      | nil => cases text ▸ padLength 4 y.toNat
      | cons c front =>
          rw [text] at minus digits
          cases (List.cons.inj minus).1
          cases digits '-' List.mem_cons_self
    · rename_i plus
      cases text : pad 4 y.toNat with
      | nil => cases text ▸ padLength 4 y.toNat
      | cons c front =>
          rw [text] at plus digits
          cases (List.cons.inj plus).1
          cases digits '+' List.mem_cons_self
    · rw [read,Option.map_some]
      dsimp only
      rw [Int.toNat_of_nonneg plain.1]
  · split
    · rename_i negative
      rw [List.cons_append,readYear,fieldPad 6 y.natAbs rest fits,Option.bind_some]
      dsimp only
      rw [if_neg (by omega),Int.ofNat_natAbs_of_nonpos (by omega),Int.neg_neg]
    · rw [List.cons_append,readYear,fieldPad 6 y.natAbs rest fits,Option.map_some]
      dsimp only
      rw [Int.natAbs_of_nonneg (by omega)]

theorem fieldThen {α : Type} (w n : Nat) (rest : List Char) (fits : n < 10 ^ w) (k : Nat × List Char → Option α) :
    (field w (pad w n ++ rest) >>= k) = k (n,rest) := by
  rw [fieldPad w n rest fits]
  rfl

theorem literalThen {α : Type} (c : Char) (rest : List Char) (k : List Char → Option α) : (literal c (c :: rest) >>= k) = k rest := by
  rw [literalSame]
  rfl

theorem yearThen {α : Type} (y : Int) (rest : List Char) (fits : y.natAbs < 10 ^ 6) (k : Int × List Char → Option α) :
    (readYear (yearText y ++ rest) >>= k) = k (y,rest) := by
  rw [readYearText y rest fits]
  rfl

theorem readIsoText (year : Int) (month day time : Nat) (early : year.natAbs < 10 ^ 6) (months : 1 ≤ month ∧ month ≤ 12)
    (days : 1 ≤ day ∧ day ≤ 31) (times : time < 86400000) : readMs (isoText year month day time) =
      some ((dayFromYear year + ((monthLengths (leapDay year)).take (month - 1)).sum + day - 1) * 86400000 + time) := by
  unfold readMs isoText
  refine (yearThen year _ early _).trans ((literalThen _ _ _).trans ?_)
  refine (fieldThen 2 month _ (by omega) _).trans ((literalThen _ _ _).trans ?_)
  refine (fieldThen 2 day _ (by omega) _).trans ((literalThen _ _ _).trans ?_)
  refine (fieldThen 2 (time / 3600000) _ (by omega) _).trans ((literalThen _ _ _).trans ?_)
  refine (fieldThen 2 (time / 60000 % 60) _ (by omega) _).trans ((literalThen _ _ _).trans ?_)
  refine (fieldThen 2 (time / 1000 % 60) _ (by omega) _).trans ((literalThen _ _ _).trans ?_)
  refine (fieldThen 3 (time % 1000) _ (by omega) _).trans ?_
  refine (if_pos ⟨rfl,months.1,months.2,days.1,days.2,by omega,by omega,by omega⟩).trans ?_
  dsimp only
  congr 2
  omega

theorem yearBound {day : Int} (inside : day.natAbs ≤ 100000000) : (yearFromDay day).natAbs < 10 ^ 6 := by
  obtain ⟨before,after⟩ := yearOfDay day
  unfold dayFromYear at before after
  omega

theorem parseToISOString (d : Date) : parse (toISOString d) = some d := by
  obtain ⟨before,after⟩ := yearOfDay (d.ms / 86400000)
  have bound := leapBound (yearFromDay (d.ms / 86400000))
  have valid := d.valid
  have total : (monthLengths (leapDay (yearFromDay (d.ms / 86400000)))).sum = 365 + leapDay (yearFromDay (d.ms / 86400000)) := by
    simp only [monthLengths,List.sum_cons,List.sum_nil]
    omega
  have inside : d.ms / 86400000 - dayFromYear (yearFromDay (d.ms / 86400000)) <
      365 + leapDay (yearFromDay (d.ms / 86400000)) := by
    unfold leapDay
    omega
  obtain ⟨short,whole,positive,length,there,below⟩ :=
    passedSum (monthLengths (leapDay (yearFromDay (d.ms / 86400000)))) _ ⟨Int.sub_nonneg_of_le before,total ▸ inside⟩
  have most : length ≤ 31 := by
    simp only [monthLengths,List.mem_cons,List.not_mem_nil,or_false] at there
    omega
  have months : (monthLengths (leapDay (yearFromDay (d.ms / 86400000)))).length = 12 := rfl
  have read : readMs (toISOString d).toList = some d.ms := by
    unfold toISOString
    dsimp only
    rw [String.toList_ofList,readIsoText _ _ _ _ (yearBound (by omega)) (by omega) (by omega) (by omega),Nat.add_sub_cancel]
    congr 1
    omega
  rw [parse,read,Option.bind_eq_bind,Option.bind_some,dif_pos valid]

theorem padWithout {c : Char} (other : c.isDigit = false) (w n : Nat) : c ∉ pad w n := by
  intro inside
  rw [padDigits w n c inside] at other
  cases other

theorem isoWithout {c : Char} (other : c.isDigit = false) (mark : c ∉ ['-','+','T',':','.','Z']) (d : Date) :
    c ∉ (toISOString d).toList := by
  have pads := padWithout other
  simp only [List.mem_cons,List.not_mem_nil,or_false,not_or] at mark
  unfold toISOString isoText yearText
  rw [String.toList_ofList]
  split_ifs <;> simp [pads,mark]

theorem isoWithoutBar (d : Date) : '|' ∉ (toISOString d).toList := isoWithout rfl (by decide) d

end Date
end Workflow
