import HireSettle.Workflow.Dates

/-! The UTC fields of JavaScript's dates and their setters, and the division of time into
days and months. A month is counted from the first of the year 0, and each division is
given by where its units start and by which unit an instant is in. -/
namespace Workflow
namespace Date

def day (d : Date) : Int := d.ms / 86400000

def monthAndDay (day : Int) : Nat × Int := passed (monthLengths (leapDay (yearFromDay day))) (day - dayFromYear (yearFromDay day))

def getUTCFullYear (d : Date) : Int := yearFromDay d.day

def getUTCMonth (d : Date) : Int := (monthAndDay d.day).1

def getUTCDate (d : Date) : Int := (monthAndDay d.day).2 + 1

def daysBefore (year : Int) (month : Nat) : Int := ((monthLengths (leapDay year)).take month).sum

-- months beyond the year run into the next ones
def makeDay (year month date : Int) : Int :=
  dayFromYear (year + month / 12) + daysBefore (year + month / 12) (month % 12).toNat + date - 1

def timeClip (ms : Int) : Option Date := if valid : ms.natAbs ≤ 8640000000000000 then some ⟨ms,valid⟩ else none

def setUTCDate (date : Int) (d : Date) : Option Date :=
  timeClip (makeDay d.getUTCFullYear d.getUTCMonth date * 86400000 + d.ms % 86400000)

def setUTCMonth (month : Int) (d : Date) : Option Date :=
  timeClip (makeDay d.getUTCFullYear month d.getUTCDate * 86400000 + d.ms % 86400000)

def setUTCHours (hours minutes seconds ms : Int) (d : Date) : Option Date :=
  timeClip (d.day * 86400000 + (hours * 3600000 + minutes * 60000 + seconds * 1000 + ms))

def monthStart (month : Int) : Int := makeDay 0 month 1

def monthOf (day : Int) : Int := yearFromDay day * 12 + (monthAndDay day).1

theorem makeDayMonth (year month date : Int) : makeDay year month date = monthStart (year * 12 + month) + date - 1 := by
  have year' : (year * 12 + month) / 12 = year + month / 12 := by omega
  have month' : (year * 12 + month) % 12 = month % 12 := by omega
  rw [monthStart,makeDay,makeDay,year',month',Int.zero_add]
  omega

theorem yearNext (year : Int) : dayFromYear (year + 1) = dayFromYear year + daysBefore year 12 := by
  simp only [daysBefore,monthLengths,List.take_succ_cons,List.take_zero,List.sum_cons,List.sum_nil]
  rw [leapDay]
  omega

/-- The first of a month, and of the one after the last. -/
theorem monthFirst (year : Int) {k : Nat} (inside : k ≤ 12) : monthStart (year * 12 + k) = dayFromYear year + daysBefore year k := by
  rw [monthStart,makeDay,Int.zero_add]
  by_cases last : k = 12
  · rw [last,show (year * 12 + (12 : Nat)) / 12 = year + 1 by omega,show ((year * 12 + (12 : Nat)) % 12).toNat = 0 by omega,yearNext]
    simp [daysBefore]
  · rw [show (year * 12 + (k : Int)) / 12 = year by omega,show ((year * 12 + (k : Int)) % 12).toNat = k by omega]
    omega

theorem monthSecond (year : Int) {k : Nat} (inside : k < 12) :
    monthStart (year * 12 + k + 1) = dayFromYear year + daysBefore year (k + 1) := by
  have next := monthFirst year (show k + 1 ≤ 12 from inside)
  rw [Int.natCast_add,← Int.add_assoc] at next
  exact next

theorem daysNext (year : Int) {k : Nat} (inside : k < 12) : daysBefore year k < daysBefore year (k + 1) := by
  have wide : ∀ length ∈ monthLengths (leapDay year), 0 < length := by
    have leap := leapBound year
    simp only [monthLengths,List.forall_mem_cons]
    refine ⟨?_,?_,?_,?_,?_,?_,?_,?_,?_,?_,?_,?_,(by simp)⟩ <;> omega
  have here : k < (monthLengths (leapDay year)).length := inside
  rw [daysBefore,daysBefore,List.take_succ_eq_append_getElem here,List.sum_append,List.sum_singleton]
  have := wide _ (List.getElem_mem here)
  omega

theorem monthNext (month : Int) : monthStart month < monthStart (month + 1) := by
  obtain ⟨k,inside,here⟩ : ∃ k : Nat, k < 12 ∧ month = month / 12 * 12 + k := ⟨(month % 12).toNat,by omega,by omega⟩
  have first := monthFirst (month / 12) (Nat.le_of_lt inside)
  have next := monthSecond (month / 12) inside
  have more := daysNext (month / 12) inside
  rw [← here] at first
  rw [← here] at next
  omega

theorem monthMonotone : Monotone monthStart :=
  monotone_int_of_le_succ fun month => by
    have := monthNext month
    omega

theorem passedNext (lengths : List Int) (n : Int) (inside : n < lengths.sum) :
    n < (lengths.take ((passed lengths n).1 + 1)).sum := by
  induction lengths generalizing n with
  | nil => exact inside
  | cons length rest ih =>
      rw [List.sum_cons] at inside
      rw [passed]
      split_ifs with within
      · simpa using within
      · have later := ih (n - length) (by omega)
        dsimp only
        rw [List.take_succ_cons,List.sum_cons]
        omega

theorem dayInside (day : Int) : 0 ≤ day - dayFromYear (yearFromDay day) ∧
    day - dayFromYear (yearFromDay day) < (monthLengths (leapDay (yearFromDay day))).sum := by
  obtain ⟨before,after⟩ := yearOfDay day
  have years := yearNext (yearFromDay day)
  have whole : daysBefore (yearFromDay day) 12 = (monthLengths (leapDay (yearFromDay day))).sum := rfl
  omega

theorem monthInside (day : Int) : (monthAndDay day).1 < 12 ∧ 0 ≤ (monthAndDay day).2 ∧ (monthAndDay day).2 < 31 := by
  obtain ⟨short,_,positive,length,there,below⟩ := passedSum _ _ (dayInside day)
  have leap := leapBound (yearFromDay day)
  have most : length ≤ 31 := by
    simp only [monthLengths,List.mem_cons,List.not_mem_nil,or_false] at there
    omega
  exact ⟨short,positive,lt_of_lt_of_le below most⟩

/-- The day stands in its month, and there at its date. -/
theorem monthDay (day : Int) : monthStart (monthOf day) ≤ day ∧ day < monthStart (monthOf day + 1) ∧
    day = monthStart (monthOf day) + (monthAndDay day).2 := by
  have inside := dayInside day
  obtain ⟨_,whole,_⟩ := passedSum _ _ inside
  obtain ⟨few,positive,_⟩ := monthInside day
  have ends := passedNext _ _ inside.2
  have first := monthFirst (yearFromDay day) (Nat.le_of_lt few)
  rw [monthOf,first,monthSecond (yearFromDay day) few,daysBefore,daysBefore]
  rw [monthAndDay] at positive ⊢
  omega

theorem monthBelow (month day : Int) : monthStart month ≤ day ↔ month ≤ monthOf day := by
  obtain ⟨first,before,_⟩ := monthDay day
  constructor
  · intro started
    by_contra later
    have := monthMonotone (show monthOf day + 1 ≤ month by omega)
    omega
  · exact fun earlier => (monthMonotone earlier).trans first

theorem monthOfStart (month : Int) : monthOf (monthStart month) = month := by
  have here := (monthBelow month _).mp (Int.le_refl (monthStart month))
  have next := (monthBelow (month + 1) (monthStart month)).mpr
  have := monthNext month
  omega

theorem timeClipMs {ms : Int} {d : Date} (clipped : timeClip ms = some d) : d.ms = ms := by
  rw [timeClip] at clipped
  split at clipped
  · cases clipped
    rfl
  · cases clipped

theorem timeClipNone {ms : Int} (clipped : timeClip ms = none) : 8640000000000000 < ms.natAbs := by
  rw [timeClip] at clipped
  split at clipped
  · cases clipped
  · omega

end Date

/-- Time divided into units that follow on one another. -/
structure Division where
  start : Int → Int
  unit : Int → Int
  below : ∀ u ms, start u ≤ ms ↔ u ≤ unit ms
  unitStart : ∀ u, unit (start u) = u

def days : Division where
  start u := u * 86400000
  unit ms := ms / 86400000
  below u ms := (Int.le_ediv_iff_mul_le (by decide)).symm
  unitStart u := Int.mul_ediv_cancel u (by decide)

def months : Division where
  start u := Date.monthStart u * 86400000
  unit ms := Date.monthOf (ms / 86400000)
  below u ms := by rw [← Date.monthBelow,Int.le_ediv_iff_mul_le (by decide)]
  unitStart u := by rw [Int.mul_ediv_cancel _ (by decide),Date.monthOfStart]

section Division
variable (division : Division)

theorem unitMonotone {a b : Int} (before : a ≤ b) : division.unit a ≤ division.unit b :=
  (division.below _ _).mp (((division.below _ _).mpr (Int.le_refl _)).trans before)

/-- The units from one on. -/
def span (u : Int) (n : Nat) : List Int := (List.range n).map fun i : Nat => u + i

theorem spanSucc (u : Int) (n : Nat) : span u (n + 1) = u :: span (u + 1) n := by
  rw [span,List.range_succ_eq_map,List.map_cons,List.map_map]
  refine List.cons_eq_cons.mpr ⟨Int.add_zero u,List.map_congr_left fun i _ => ?_⟩
  show u + ((i + 1 : Nat) : Int) = u + 1 + i
  omega

theorem spanMem {u v : Int} {n : Nat} : v ∈ span u n ↔ u ≤ v ∧ v < u + n := by
  rw [span,List.mem_map]
  constructor
  · intro ⟨i,inside,same⟩
    have := List.mem_range.mp inside
    omega
  · intro ⟨low,high⟩
    exact ⟨(v - u).toNat,List.mem_range.mpr (by omega),by omega⟩

theorem spanSorted (u : Int) (n : Nat) : (span u n).Pairwise (· < ·) := by
  rw [span,List.pairwise_map]
  exact List.pairwise_lt_range.imp fun before => by omega

end Division

end Workflow
