import HireSettle.Admin.ReportExports
import HireSettle.Workflow.Buckets
import HireSettle.Workflow.Calendars

/-! The revenue dashboard: a bucket for each UTC day or month of a range, and in it what
was released for the milestones that were confirmed then. -/
namespace HireSettle.Admin.RevenueDashboard
open Workflow CsvCells
open ReportExports (MilestoneRow within)
open ReportExports.AdminReportsService (confirmedMs)

inductive RevenueGranularity where
  | daily | monthly
  deriving DecidableEq, Repr

def RevenueGranularity.text : RevenueGranularity → String
  | daily => "daily"
  | monthly => "monthly"

structure Bucket where
  period : String
  amount : String
  deriving DecidableEq, Repr

structure Dashboard where
  fromText : String
  toText : String
  granularity : RevenueGranularity
  total : String
  buckets : List Bucket
  deriving DecidableEq, Repr

def readGranularity (text : String) : Option RevenueGranularity :=
  if text = "daily" then some .daily else if text = "monthly" then some .monthly else none

-- `/^\d{4}-\d{2}-\d{2}$/`
def isDateOnly (text : String) : Bool :=
  let chars := text.toList
  chars.length = 10 && chars.zipIdx.all fun (c,i) => if i = 4 ∨ i = 7 then c = '-' else c.isDigit

def padStart (width : Nat) (text : List Char) : List Char := List.replicate (width - text.length) '0' ++ text

namespace AdminReportsService

def revenuePeriod (date : Date) (granularity : RevenueGranularity) : List Char :=
  let year := (toString date.getUTCFullYear).toList
  let month := padStart 2 (toString (date.getUTCMonth + 1)).toList
  match granularity with
  | .monthly => year ++ '-' :: month
  | .daily =>
      let day := padStart 2 (toString date.getUTCDate).toList
      year ++ '-' :: (month ++ '-' :: day)

def firstCursor (granularity : RevenueGranularity) (fromDate : Date) : Option Date :=
  match granularity with
  | .daily => fromDate.setUTCHours 0 0 0 0
  | .monthly => (fromDate.setUTCDate 1).bind (·.setUTCHours 0 0 0 0)

def nextCursor (granularity : RevenueGranularity) (cursor : Date) : Option Date :=
  match granularity with
  | .daily => cursor.setUTCDate (cursor.getUTCDate + 1)
  | .monthly => cursor.setUTCMonth (cursor.getUTCMonth + 1)

-- an invalid cursor is not before the end
def emptyBuckets (granularity : RevenueGranularity) (toDate : Date) : Nat → Option Date → List (List Char × Int) →
    Option (List (List Char × Int))
  | 0, _, _ => none
  | _ + 1, none, buckets => some buckets
  | fuel + 1, some cursor, buckets =>
      if cursor.ms ≤ toDate.ms then
        emptyBuckets granularity toDate fuel (nextCursor granularity cursor)
          (Buckets.set (revenuePeriod cursor granularity) 0 buckets)
      else some buckets

def selects (fromDate toDate : Date) (m : MilestoneRow) : Bool :=
  m.status = .confirmed && m.confirmedAt.any (within fromDate toDate) && m.paymentReleased.isSome

def collectOne (granularity : RevenueGranularity) (collected : List (List Char × Int) × Int) (m : MilestoneRow) :
    List (List Char × Int) × Int :=
  match m.confirmedAt,m.paymentReleased with
  | some confirmedAt,some amount => (Buckets.add (revenuePeriod confirmedAt granularity) amount collected.1,collected.2 + amount)
  | _,_ => collected

def reportedEnd (toText : String) (toDate : Date) : Option Date :=
  if isDateOnly toText then toDate.setUTCHours 23 59 59 999 else some toDate

def getRevenueDashboard (fuel : Nat) (newDate : String → Option Date) (milestones : List MilestoneRow)
    (fromText toText granularityText : String) : Option (Except Exception Dashboard) :=
  match newDate fromText,newDate toText with
  | some fromDate,some toDate =>
      if toDate.ms < fromDate.ms then some (.error (.badRequest "\"from\" must be before \"to\"."))
      else
        match readGranularity granularityText with
        | none => some (.error (.badRequest "\"granularity\" must be daily or monthly."))
        | some granularity =>
            match reportedEnd toText toDate with
            -- the client library refuses an invalid date
            | none => some (.error .database)
            | some toDate =>
                let selected := (milestones.filter (selects fromDate toDate)).insertionSort fun a b => confirmedMs a ≤ confirmedMs b
                (emptyBuckets granularity toDate fuel (firstCursor granularity fromDate) []).map fun buckets =>
                  let (buckets,total) := selected.foldl (collectOne granularity) (buckets,0)
                  .ok
                    { fromText := fromDate.toISOString
                      toText := toDate.toISOString
                      granularity
                      total := toString total
                      buckets := buckets.map fun (period,amount) => ⟨String.ofList period,toString amount⟩ }
  | _,_ => some (.error (.badRequest "Invalid date format. Use ISO 8601 (e.g. 2026-01-01)."))

end AdminReportsService

open AdminReportsService

def division : RevenueGranularity → Division
  | .daily => days
  | .monthly => months

/-- The day or the month that an instant is in. -/
def unitOf (granularity : RevenueGranularity) (d : Date) : Int := (division granularity).unit d.ms

def monthText (month : Nat) : List Char := Date.pad 2 (month + 1)

/-- The name of a day or of a month. -/
def periodOf : RevenueGranularity → Int → List Char
  | .daily, day => (toString (Date.yearFromDay day)).toList ++
      '-' :: (monthText (Date.monthAndDay day).1 ++ '-' :: Date.pad 2 ((Date.monthAndDay day).2.toNat + 1))
  | .monthly, month => (toString (month / 12)).toList ++ '-' :: monthText (month % 12).toNat

section Periods

theorem padTwo {n : Nat} (small : n < 100) : padStart 2 n.repr.toList = Date.pad 2 n := by
  rw [Nat.toList_repr]
  have low : n / 10 < 10 := by omega
  by_cases single : n < 10
  · rw [Nat.toDigits_of_lt_base single]
    simp [padStart,Date.pad,Nat.div_eq_of_lt single,Nat.mod_eq_of_lt single,Nat.digitChar]
  · rw [Nat.toDigits_of_base_le (by decide) (by omega),Nat.toDigits_of_lt_base low]
    simp [padStart,Date.pad,Nat.mod_eq_of_lt low]

theorem padInjective {m n : Nat} (smallM : m < 100) (smallN : n < 100) (same : Date.pad 2 m = Date.pad 2 n) : m = n := by
  have read := Date.readPad 2 m smallM
  rw [same,Date.readPad 2 n smallN] at read
  exact (Option.some.inj read).symm

theorem shownTwo {n : Int} (positive : 0 ≤ n) (small : n < 99) : padStart 2 (toString (n + 1)).toList = Date.pad 2 (n.toNat + 1) := by
  obtain ⟨k,rfl⟩ := Int.eq_ofNat_of_zero_le positive
  exact padTwo (show k + 1 < 100 by omega)

theorem periodDate (granularity : RevenueGranularity) (d : Date) : revenuePeriod d granularity = periodOf granularity (unitOf granularity d) := by
  obtain ⟨few,positive,below⟩ := Date.monthInside d.day
  have month : padStart 2 (toString (d.getUTCMonth + 1)).toList = monthText (Date.monthAndDay d.day).1 := by
    have two := shownTwo (Int.natCast_nonneg (Date.monthAndDay d.day).1) (by omega)
    rwa [Int.toNat_natCast] at two
  have date : padStart 2 (toString d.getUTCDate).toList = Date.pad 2 ((Date.monthAndDay d.day).2.toNat + 1) :=
    shownTwo positive (by omega)
  cases granularity with
  | daily =>
      rw [revenuePeriod,month,date]
      rfl
  | monthly =>
      have unit : unitOf .monthly d = Date.monthOf d.day := rfl
      have year : Date.monthOf d.day / 12 = d.getUTCFullYear := by
        rw [Date.monthOf,Date.getUTCFullYear]
        omega
      have inYear : (Date.monthOf d.day % 12).toNat = (Date.monthAndDay d.day).1 := by
        rw [Date.monthOf]
        omega
      rw [revenuePeriod,month,unit,periodOf,year,inYear]

theorem monthTextInjective {m n : Nat} (smallM : m < 12) (smallN : n < 12) (same : monthText m = monthText n) : m = n :=
  Nat.succ.inj (padInjective (by omega) (by omega) same)

theorem periodInjective (granularity : RevenueGranularity) : Function.Injective (periodOf granularity) := by
  intro u v same
  cases granularity with
  | daily =>
      obtain ⟨year,rest⟩ := List.append_inj' same (by
        simp only [List.length_cons,List.length_append,monthText,Date.padLength])
      obtain ⟨month,date⟩ := List.append_inj (List.cons.inj rest).2 (by rw [monthText,monthText,Date.padLength,Date.padLength])
      obtain ⟨fewU,positiveU,belowU⟩ := Date.monthInside u
      obtain ⟨fewV,positiveV,belowV⟩ := Date.monthInside v
      have sameYear := Numerals.intInjective year
      have sameMonth := monthTextInjective fewU fewV month
      have sameDate := padInjective (by omega) (by omega) (List.cons.inj date).2
      obtain ⟨_,_,atU⟩ := Date.monthDay u
      obtain ⟨_,_,atV⟩ := Date.monthDay v
      have same : Date.monthOf u = Date.monthOf v := by rw [Date.monthOf,Date.monthOf,sameYear,sameMonth]
      rw [same] at atU
      omega
  | monthly =>
      obtain ⟨year,rest⟩ := List.append_inj' same (by simp only [List.length_cons,monthText,Date.padLength])
      have sameYear := Numerals.intInjective year
      have sameMonth := monthTextInjective (by omega) (by omega) (List.cons.inj rest).2
      omega

end Periods

section Cursor

/-- The years that the validation of the query lets through are of four digits; a time zone can shift them by one. -/
def Validated (d : Date) : Prop := -10000 ≤ d.getUTCFullYear ∧ d.getUTCFullYear ≤ 10000

theorem validatedMs {d : Date} (validated : Validated d) : -400000000000000 ≤ d.ms ∧ d.ms ≤ 400000000000000 := by
  obtain ⟨low,high⟩ := validated
  obtain ⟨before,after⟩ := Date.yearOfDay d.day
  rw [Date.getUTCFullYear] at low high
  unfold Date.dayFromYear at before after
  have := d.day
  rw [Date.day] at *
  omega

theorem startNear (d : Date) (granularity : RevenueGranularity) :
    (division granularity).start (unitOf granularity d) ≤ d.ms ∧ d.ms < (division granularity).start (unitOf granularity d) + 2678400000 := by
  refine ⟨((division granularity).below _ _).mpr (Int.le_refl _),?_⟩
  cases granularity with
  | daily =>
      show d.ms < d.ms / 86400000 * 86400000 + 2678400000
      omega
  | monthly =>
      obtain ⟨_,_,whole⟩ := Date.monthDay (d.ms / 86400000)
      obtain ⟨_,_,below⟩ := Date.monthInside (d.ms / 86400000)
      show d.ms < Date.monthStart (Date.monthOf (d.ms / 86400000)) * 86400000 + 2678400000
      omega

theorem clipped {ms : Int} (low : -8640000000000000 ≤ ms) (high : ms ≤ 8640000000000000) :
    ∃ d : Date, Date.timeClip ms = some d ∧ d.ms = ms :=
  ⟨⟨ms,by omega⟩,dif_pos (by omega),rfl⟩

theorem firstCursorAt {d : Date} (validated : Validated d) (granularity : RevenueGranularity) :
    firstCursor granularity d = Date.timeClip ((division granularity).start (unitOf granularity d)) := by
  cases granularity with
  | daily => exact congrArg Date.timeClip (Int.add_zero _)
  | monthly =>
      obtain ⟨low,high⟩ := validatedMs validated
      obtain ⟨below,near⟩ := startNear d .monthly
      have start : (division .monthly).start (unitOf .monthly d) = Date.monthStart (Date.monthOf d.day) * 86400000 := rfl
      have first : Date.makeDay d.getUTCFullYear d.getUTCMonth 1 = Date.monthStart (Date.monthOf d.day) := by
        rw [Date.makeDayMonth,Date.monthOf]
        exact Int.add_sub_cancel _ 1
      rw [start] at below near ⊢
      obtain ⟨c,clip,ms⟩ := @clipped (Date.monthStart (Date.monthOf d.day) * 86400000 + d.ms % 86400000) (by omega) (by omega)
      rw [firstCursor,Date.setUTCDate,first,clip,Option.bind_some,Date.setUTCHours,Date.day,ms]
      refine congrArg Date.timeClip ?_
      omega

theorem nextCursorAt {granularity : RevenueGranularity} {cursor : Date} {u : Int} (starts : cursor.ms = (division granularity).start u) :
    nextCursor granularity cursor = Date.timeClip ((division granularity).start (u + 1)) := by
  cases granularity with
  | daily =>
      have day : cursor.day = u := by
        rw [Date.day,starts]
        exact days.unitStart u
      have time : cursor.ms % 86400000 = 0 := by
        rw [starts]
        exact Int.mul_emod_left u 86400000
      have next : Date.makeDay cursor.getUTCFullYear cursor.getUTCMonth (cursor.getUTCDate + 1) = u + 1 := by
        obtain ⟨_,_,whole⟩ := Date.monthDay cursor.day
        rw [Date.makeDayMonth,Date.getUTCFullYear,Date.getUTCMonth,Date.getUTCDate]
        rw [Date.monthOf] at whole
        omega
      rw [nextCursor,Date.setUTCDate,next,time,Int.add_zero]
      rfl
  | monthly =>
      have day : cursor.day = Date.monthStart u := by
        rw [Date.day,starts]
        exact Int.mul_ediv_cancel _ (by decide)
      have time : cursor.ms % 86400000 = 0 := by
        rw [starts]
        exact Int.mul_emod_left _ 86400000
      have month : Date.monthOf cursor.day = u := by rw [day,Date.monthOfStart]
      have first : cursor.getUTCDate = 1 := by
        obtain ⟨_,_,whole⟩ := Date.monthDay cursor.day
        rw [month,← day] at whole
        rw [Date.getUTCDate]
        omega
      have next : Date.makeDay cursor.getUTCFullYear (cursor.getUTCMonth + 1) 1 = Date.monthStart (u + 1) := by
        rw [Date.makeDayMonth,← month,Date.monthOf,Int.add_assoc]
        exact Int.add_sub_cancel _ 1
      rw [nextCursor,Date.setUTCMonth,first,next,time,Int.add_zero]
      rfl

variable {granularity : RevenueGranularity}

/-- The loop writes an empty bucket for every unit that is left, and ends. -/
theorem emptied (last : Date) (fuel n : Nat) (u : Int) (units : List Int) (bounded : -8640000000000000 ≤ (division granularity).start u)
    (left : n = (unitOf granularity last + 1 - u).toNat) (enough : n < fuel) (fresh : ∀ v ∈ units, v < u) :
    emptyBuckets granularity last fuel (Date.timeClip ((division granularity).start u)) (Buckets.table (periodOf granularity) units fun _ => 0) =
      some (Buckets.table (periodOf granularity) (units ++ span u n) fun _ => 0) := by
  have whole := last.valid
  have reached := (division granularity).below u last.ms
  induction fuel generalizing n u units with
  | zero => cases enough
  | succ fuel ih =>
      have ended : ¬ u ≤ unitOf granularity last → units ++ span u n = units := fun past => by
        rw [left,Int.toNat_eq_zero.mpr (by omega),span,List.range_zero,List.map_nil,List.append_nil]
      cases clip : Date.timeClip ((division granularity).start u) with
      | none =>
          have far := Date.timeClipNone clip
          have past : ¬ u ≤ unitOf granularity last := reached.not.mp (by omega)
          rw [ended past]
          rfl
      | some cursor =>
          have starts := Date.timeClipMs clip
          rw [emptyBuckets]
          split
          · rename_i within
            rw [starts] at within
            have inside : u ≤ unitOf granularity last := reached.mp within
            have period : revenuePeriod cursor granularity = periodOf granularity u := by
              rw [periodDate,unitOf,starts,(division granularity).unitStart]
            obtain ⟨m,rfl⟩ : ∃ m, n = m + 1 := ⟨n - 1,by omega⟩
            have onwards : (division granularity).start u ≤ (division granularity).start (u + 1) := by
              rw [(division granularity).below,(division granularity).unitStart]
              omega
            have next := ih m (u + 1) (units ++ [u]) (bounded.trans onwards) (by omega) (by omega)
              (List.forall_mem_append.mpr ⟨fun v here => by have := fresh v here; omega,fun v here => by
                rw [List.mem_singleton.mp here]
                omega⟩) ((division granularity).below _ _)
            rw [nextCursorAt starts,period,Buckets.setFresh (periodInjective granularity) _ (fun here => by have := fresh u here; omega),
              spanSucc,List.append_cons units u,← next,Buckets.table,Buckets.table,List.map_append]
            rfl
          · rename_i past
            rw [starts] at past
            rw [ended (reached.not.mp past)]

end Cursor

section Tiles
variable (granularity : RevenueGranularity)

def paid (m : MilestoneRow) : Option (Date × Int) :=
  match m.confirmedAt,m.paymentReleased with
  | some confirmedAt,some amount => some (confirmedAt,amount)
  | _,_ => none

/-- What was released for the milestones confirmed in the range, and when. -/
def payments (milestones : List MilestoneRow) (fromDate toDate : Date) : List (Date × Int) :=
  (milestones.filter (selects fromDate toDate)).filterMap paid

def releasedIn (rows : List (Date × Int)) (u : Int) : Int := Buckets.sumOf (fun r => unitOf granularity r.1) (·.2) rows u

theorem collected (milestones : List MilestoneRow) (buckets : List (List Char × Int)) (total : Int) :
    milestones.foldl (collectOne granularity) (buckets,total) =
      ((milestones.filterMap paid).foldl (fun buckets r => Buckets.add (periodOf granularity (unitOf granularity r.1)) r.2 buckets) buckets,
        total + ((milestones.filterMap paid).map (·.2)).sum) := by
  induction milestones generalizing buckets total with
  | nil => rw [List.foldl_nil,List.filterMap_nil,List.map_nil,List.sum_nil,Int.add_zero,List.foldl_nil]
  | cons m milestones ih =>
      rw [List.foldl_cons,List.filterMap_cons]
      obtain ⟨_,_,_,_,_,_,_,paymentReleased,_,confirmedAt,_,_⟩ := m
      cases confirmedAt with
      | none => exact ih buckets total
      | some d =>
          cases paymentReleased with
          | none => exact ih buckets total
          | some amount =>
              rw [collectOne,paid]
              dsimp only
              rw [ih,periodDate,List.foldl_cons,List.map_cons,List.sum_cons,Int.add_assoc]

variable {granularity : RevenueGranularity}

theorem reported (toText : String) {toDate : Date} (validated : Validated toDate) :
    ∃ last, reportedEnd toText toDate = some last ∧ toDate.ms ≤ last.ms := by
  rw [reportedEnd]
  split
  · obtain ⟨low,high⟩ := validatedMs validated
    obtain ⟨last,clip,ms⟩ := @clipped (toDate.day * 86400000 + (23 * 3600000 + 59 * 60000 + 59 * 1000 + 999))
      (by rw [Date.day]; omega) (by rw [Date.day]; omega)
    refine ⟨last,clip,?_⟩
    rw [ms,Date.day]
    omega
  · exact ⟨toDate,rfl,Int.le_refl _⟩

theorem paymentWithin {milestones : List MilestoneRow} {fromDate last : Date} {r : Date × Int} (inside : r ∈ payments milestones fromDate last) :
    fromDate.ms ≤ r.1.ms ∧ r.1.ms ≤ last.ms := by
  obtain ⟨m,here,pays⟩ := List.mem_filterMap.mp inside
  have selected := (List.mem_filter.mp here).2
  rw [selects,Bool.and_eq_true,Bool.and_eq_true] at selected
  obtain ⟨⟨_,range⟩,_⟩ := selected
  rw [paid] at pays
  cases confirmed : m.confirmedAt with
  | none =>
      rw [confirmed] at pays
      cases pays
  | some d =>
      rw [confirmed] at range pays
      cases released : m.paymentReleased with
      | none =>
          rw [released] at pays
          cases pays
      | some amount =>
          rw [released] at pays
          cases pays
          simpa [within] using range

theorem spanUnits {fromDate last : Date} (forward : fromDate.ms ≤ last.ms) {u : Int} :
    u ∈ span (unitOf granularity fromDate) (unitOf granularity last + 1 - unitOf granularity fromDate).toNat ↔
      ∃ d : Date, fromDate.ms ≤ d.ms ∧ d.ms ≤ last.ms ∧ unitOf granularity d = u := by
  have along := unitMonotone (division granularity) forward
  rw [spanMem]
  constructor
  · intro ⟨low,high⟩
    obtain same | after := eq_or_lt_of_le low
    · exact ⟨fromDate,Int.le_refl _,forward,same⟩
    · have late : ¬ (division granularity).start u ≤ fromDate.ms := by
        rw [(division granularity).below]
        exact Int.not_le.mpr after
      have early : (division granularity).start u ≤ last.ms := by
        rw [(division granularity).below]
        show u ≤ unitOf granularity last
        rw [unitOf,unitOf] at *
        omega
      have whole := last.valid
      have whole' := fromDate.valid
      obtain ⟨d,_,ms⟩ := @clipped ((division granularity).start u) (by omega) (by omega)
      exact ⟨d,by omega,by omega,by rw [unitOf,ms,(division granularity).unitStart]⟩
  · intro ⟨d,low,high,same⟩
    have first := unitMonotone (division granularity) low
    have second := unitMonotone (division granularity) high
    rw [← same]
    unfold unitOf at *
    omega

/-- Every day or month of the range has its bucket, in order, with what was released in it. -/
theorem bucketsTile (newDate : String → Option Date) (milestones : List MilestoneRow) (granularity : RevenueGranularity)
    {fromText toText : String} {fromDate toDate : Date} (reads : newDate fromText = some fromDate ∧ newDate toText = some toDate)
    (forward : fromDate.ms ≤ toDate.ms) (validated : Validated fromDate ∧ Validated toDate) :
    ∃ (last : Date) (units : List Int), reportedEnd toText toDate = some last ∧ units.Pairwise (· < ·) ∧
      (∀ u, u ∈ units ↔ ∃ d : Date, fromDate.ms ≤ d.ms ∧ d.ms ≤ last.ms ∧ unitOf granularity d = u) ∧
      ∀ fuel, units.length < fuel → getRevenueDashboard fuel newDate milestones fromText toText granularity.text = some (.ok
        { fromText := fromDate.toISOString
          toText := last.toISOString
          granularity
          total := toString (units.map (releasedIn granularity (payments milestones fromDate last))).sum
          buckets := units.map fun u =>
            ⟨String.ofList (periodOf granularity u),toString (releasedIn granularity (payments milestones fromDate last) u)⟩ }) := by
  obtain ⟨readFrom,readTo⟩ := reads
  obtain ⟨last,ends,extended⟩ := reported toText validated.2
  have range := forward.trans extended
  let units := span (unitOf granularity fromDate) (unitOf granularity last + 1 - unitOf granularity fromDate).toNat
  refine ⟨last,units,ends,spanSorted _ _,fun u => spanUnits range,fun fuel enough => ?_⟩
  let sorted := (milestones.filter (selects fromDate last)).insertionSort fun a b => confirmedMs a ≤ confirmedMs b
  have same : (sorted.filterMap paid).Perm (payments milestones fromDate last) := (List.perm_insertionSort _ _).filterMap paid
  have distinct : units.Nodup := (spanSorted _ _).imp fun before => Int.ne_of_lt before
  have covered : ∀ r ∈ sorted.filterMap paid, unitOf granularity r.1 ∈ units := fun r inside =>
    have within := paymentWithin (same.mem_iff.mp inside)
    (spanUnits range).mpr ⟨r.1,within.1,within.2,rfl⟩
  have released : ∀ u, Buckets.sumOf (fun r : Date × Int => unitOf granularity r.1) (·.2) (sorted.filterMap paid) u =
      releasedIn granularity (payments milestones fromDate last) u := fun u => ((same.filter _).map _).sum_eq
  obtain ⟨low,high⟩ := validatedMs validated.1
  obtain ⟨_,near⟩ := startNear fromDate granularity
  have bounded : -8640000000000000 ≤ (division granularity).start (unitOf granularity fromDate) := by omega
  have empty := emptied last fuel _ (unitOf granularity fromDate) [] bounded rfl
    (by simpa only [units,span,List.length_map,List.length_range] using enough) nofun
  have tallied : (sorted.filterMap paid).foldl (fun buckets r => Buckets.add (periodOf granularity (unitOf granularity r.1)) r.2 buckets)
      (Buckets.table (periodOf granularity) units fun _ => 0) =
      Buckets.table (periodOf granularity) units (releasedIn granularity (payments milestones fromDate last)) := by
    refine (Buckets.tallyTable (periodInjective granularity) distinct covered fun _ => 0).trans (congrArg _ (funext fun u => ?_))
    rw [Int.zero_add]
    exact released u
  have total : ((sorted.filterMap paid).map (·.2)).sum =
      (units.map (releasedIn granularity (payments milestones fromDate last))).sum := by
    rw [← Buckets.sumUnits distinct covered]
    exact congrArg List.sum (List.map_congr_left fun u _ => released u)
  have folded : sorted.foldl (collectOne granularity) (Buckets.table (periodOf granularity) ([] ++ units) fun _ => 0,0) =
      (Buckets.table (periodOf granularity) units (releasedIn granularity (payments milestones fromDate last)),
        (units.map (releasedIn granularity (payments milestones fromDate last))).sum) := by
    rw [List.nil_append,collected,tallied,total,Int.zero_add]
  have granted : readGranularity granularity.text = some granularity := by cases granularity <;> rfl
  rw [getRevenueDashboard,readFrom,readTo]
  simp only [if_neg (Int.not_lt.mpr forward),granted,ends]
  rw [firstCursorAt validated.1]
  refine (congrArg (Option.map _) empty).trans (congrArg some (congrArg Except.ok ?_))
  rw [folded,Buckets.table,List.map_map]
  rfl

def newYear : Date := .epoch

def februaryNoon : Date := ⟨3499200000,by decide⟩

def januaryPayment : MilestoneRow where
  id := "m"
  engagementId := "e"
  milestoneIndex := 0
  name := "Placement"
  kind := .placement
  status := .confirmed
  paymentPercent := 50
  paymentReleased := some 1000
  proofHash := none
  confirmedAt := some newYear
  updatedAt := newYear
  engagement := ⟨"GC","GR","GA",none⟩

theorem twoMonthsTile : ∃ (last : Date) (units : List Int), reportedEnd februaryNoon.toISOString februaryNoon = some last ∧
    units.Pairwise (· < ·) ∧
      (∀ u, u ∈ units ↔ ∃ d : Date, newYear.ms ≤ d.ms ∧ d.ms ≤ last.ms ∧ unitOf .monthly d = u) ∧
      ∀ fuel, units.length < fuel → getRevenueDashboard fuel Date.parse [januaryPayment] newYear.toISOString
        februaryNoon.toISOString RevenueGranularity.monthly.text = some (.ok
        { fromText := newYear.toISOString
          toText := last.toISOString
          granularity := .monthly
          total := toString (units.map (releasedIn .monthly (payments [januaryPayment] newYear last))).sum
          buckets := units.map fun u =>
            ⟨String.ofList (periodOf .monthly u),toString (releasedIn .monthly (payments [januaryPayment] newYear last) u)⟩ }) :=
  bucketsTile Date.parse [januaryPayment] .monthly ⟨Date.parseToISOString newYear,Date.parseToISOString februaryNoon⟩ (by decide)
    ⟨by unfold Validated; decide,by unfold Validated; decide⟩

end Tiles
end HireSettle.Admin.RevenueDashboard
