import HireSettle.Billing.BillingService
import HireSettle.Common.CsvCells

/-! The two exports of a billing as tables. The summary puts the titles in quotes and
every other cell down as it is; the history asks of each cell whether it needs them. -/
namespace HireSettle.Billing.BillingTables
open Workflow BillingService CsvCells

variable (calendar : Calendar) (now : Date) (db : Table Engagement) (user : User) (fromDate toDate : Option Date)

def summaryHeaders : List (Option String) :=
  [some "Engagement ID",some "Job Title",some "Created At",some "Total Escrowed",some "Total Released",some "Status"]

def summaryRecord (item : BilledEngagement) : List (Option String) :=
  [some item.engagementId,some item.jobTitle,some item.createdAt.toISOString,some item.totalEscrowed,some item.totalReleased,
    some item.status.text]

def summaryTotals (summary : Totals) : List (Option String) :=
  [some "Summary",none,none,some summary.totalEscrowed,some summary.totalReleased,some s!"{summary.totalEngagements} engagements"]

/-- The text holds the table and the last record, with a blank line between them. -/
def ReadableApart (text : String) (columns : Nat) (table : List (List (Option String))) (last : List (Option String)) : Prop :=
  Csv.ReadsBack text.toList ((table ++ [[none],last]).map fun row => row.map chars) ∧ ∀ row ∈ table ++ [last], row.length = columns

def exportedSummary : Prop :=
  let billingData := getBillingSummary calendar now db user fromDate toDate
  ReadableApart (exportBillingToCsv calendar now db user fromDate toDate) 6
    (summaryHeaders :: billingData.engagementBreakdown.map summaryRecord) (summaryTotals billingData.summary)

def historyHeaders : List (Option String) := [some "Date",some "Engagement Reference",some "Amount (stroops)",some "Status"]

def historyRecord (e : Engagement) : List (Option String) :=
  [some e.createdAt.toISOString,some e.id,some (toString e.totalAmount),some e.status.text]

/-- The engagements that a user's history tells of. -/
def historyEngagements : List Engagement :=
  findEngagements db (if user.role = .admin then none else user.stellarAddress) (fromDate.getD (calendar.monthStart now))
    (toDate.getD (calendar.monthEnd now))

section History

theorem csvCellChars (value : String) : (csvCell value).toList = (escaped (some value)).text := by
  show _ = if value.toList.any special then Csv.quoted value.toList else value.toList
  rw [csvCell]
  split <;> rename_i quotes
  · have some : value.toList.any special = true := by
      rw [← quotes]
      exact congrArg _ (funext fun c => by simp [special])
    rw [if_pos some]
    simp [doubleQuotes,Csv.quoted,Csv.doubled,String.toList_append]
  · have none : ¬ value.toList.any special = true := by
      intro found
      exact quotes (found ▸ congrArg _ (funext fun c => by simp [special]))
    rw [if_neg none]

theorem buildChars (cells : List String) : (buildCsvRow cells).toList = Csv.rowText ((cells.map some).map escaped) := by
  rw [buildCsvRow,show ",".intercalate (cells.map csvCell) = (String.singleton ',').intercalate (cells.map csvCell) from rfl,joined,
    Csv.rowText,List.map_map,List.map_map,List.map_map]
  simp only [Function.comp_def,csvCellChars]

theorem statusPlain (status : Escrow.EngagementStatus) : Plain status.text.toList := by
  cases status <;> exact plainText (by decide)

/-- The history is read back when, and only when, a carriage return in an id does not stand alone. -/
theorem historyReadable : Readable (exportBillingHistory calendar now db user fromDate toDate) 4
    (historyHeaders :: (historyEngagements calendar now db user fromDate toDate).map historyRecord) ↔
      ∀ e ∈ historyEngagements calendar now db user fromDate toDate, Kept (some e.id) := by
  have written : (exportBillingHistory calendar now db user fromDate toDate).toList =
      Csv.fileText ((historyHeaders :: (historyEngagements calendar now db user fromDate toDate).map historyRecord).map (List.map escaped))
        ++ [] := by
    rw [List.append_nil,Csv.fileText,exportBillingHistory]
    show ((String.singleton '\n').intercalate _).toList = _
    rw [joined]
    simp only [List.map_cons,List.map_map,Function.comp_def,buildChars]
    rfl
  have width : ∀ row ∈ historyHeaders :: (historyEngagements calendar now db user fromDate toDate).map historyRecord, row.length = 4 :=
    List.forall_mem_cons.mpr ⟨rfl,List.forall_mem_map.mpr fun _ _ => rfl⟩
  have headers : ∀ cell ∈ historyHeaders, Kept cell := by
    simp only [historyHeaders,List.forall_mem_cons]
    exact ⟨plainKept (plainText (by decide)),plainKept (plainText (by decide)),plainKept (plainText (by decide)),plainKept (plainText (by decide)),List.forall_mem_nil _⟩
  have others : ∀ e : Engagement, (∀ cell ∈ historyRecord e, Kept cell) ↔ Kept (some e.id) := fun e => by
    simp only [historyRecord,List.forall_mem_cons]
    exact ⟨fun kept => kept.2.1,fun kept =>
      ⟨plainKept (plainDate _),kept,plainKept (plainInt _),plainKept (statusPlain _),List.forall_mem_nil _⟩⟩
  rw [escapedReadable width (by decide) (by simp) (.inl rfl) written,List.forall_mem_cons,and_iff_right headers,List.forall_mem_map]
  exact forall₂_congr fun e _ => others e

end History

section Summary

/-- The engagements that a user's summary tells of. -/
def summaryEngagements : List Engagement :=
  findEngagements db user.stellarAddress (fromDate.getD (calendar.monthStart now)) (toDate.getD (calendar.monthEnd now))

def billed (engagement : Engagement) : BilledEngagement where
  engagementId := engagement.id
  jobTitle := engagement.jobTitle
  createdAt := engagement.createdAt
  totalEscrowed := toString engagement.totalAmount
  totalReleased := toString engagement.releasedAmount
  status := engagement.status

def writtenItem (item : BilledEngagement) : List Csv.Written :=
  [raw (some item.engagementId),⟨item.jobTitle.toList,true⟩,raw (some item.createdAt.toISOString),raw (some item.totalEscrowed),
    raw (some item.totalReleased),raw (some item.status.text)]

def writtenSummary (engagements : List Engagement) (summary : Totals) : List (List Csv.Written) :=
  (summaryHeaders.map raw :: engagements.map fun e => writtenItem (billed e)) ++ [[raw none],(summaryTotals summary).map raw]

theorem titleChars (title : String) : ("\"" ++ doubleQuotes title ++ "\"").toList = Csv.quoted title.toList := by
  simp [doubleQuotes,Csv.quoted,Csv.doubled,String.toList_append]

theorem rawChars (cells : List String) : (",".intercalate cells).toList = Csv.rowText ((cells.map some).map raw) := by
  rw [show ",".intercalate cells = (String.singleton ',').intercalate cells from rfl,joined,Csv.rowText,List.map_map,List.map_map]
  rfl

theorem itemChars (item : BilledEngagement) :
    (",".intercalate [item.engagementId,"\"" ++ doubleQuotes item.jobTitle ++ "\"",item.createdAt.toISOString,item.totalEscrowed,
      item.totalReleased,item.status.text]).toList = Csv.rowText (writtenItem item) := by
  show ((String.singleton ',').intercalate _).toList = _
  rw [joined]
  simp only [List.map_cons,List.map_nil,titleChars]
  rfl

theorem breakdownBilled : (getBillingSummary calendar now db user fromDate toDate).engagementBreakdown =
    (summaryEngagements calendar now db user fromDate toDate).map billed := rfl

theorem summaryChars : (exportBillingToCsv calendar now db user fromDate toDate).toList =
    Csv.fileText (writtenSummary (summaryEngagements calendar now db user fromDate toDate)
      (getBillingSummary calendar now db user fromDate toDate).summary) ++ [] := by
  rw [List.append_nil,Csv.fileText,exportBillingToCsv]
  show ((String.singleton '\n').intercalate _).toList = _
  rw [joined]
  simp only [breakdownBilled,writtenSummary,List.map_append,List.map_cons,List.map_nil,List.map_map,Function.comp_def,itemChars]
  rw [rawChars,rawChars]
  rfl

theorem soundRaw {cell : Option String} : (raw cell).Sound ↔ Plain (chars cell) := ⟨fun sound => sound rfl,fun plain _ => plain⟩

theorem soundItem (e : Engagement) : Csv.SoundRow (writtenItem (billed e)) ↔ Plain e.id.toList := by
  simp only [Csv.SoundRow,writtenItem,List.forall_mem_cons,soundRaw]
  exact ⟨fun sound => sound.1,fun plain => ⟨plain,(by rintro ⟨⟩),plainDate _,plainInt _,plainInt _,statusPlain _,List.forall_mem_nil _⟩⟩

theorem soundHeaders : Csv.SoundRow (summaryHeaders.map raw) := by
  simp only [Csv.SoundRow,summaryHeaders,List.map_cons,List.map_nil,List.forall_mem_cons,soundRaw]
  refine ⟨?_,?_,?_,?_,?_,?_,List.forall_mem_nil _⟩
  all_goals exact plainText (by decide)

theorem soundTotals (engagements : List Engagement) : Csv.SoundRow ((summaryTotals
    ⟨toString (engagements.map Engagement.totalAmount).sum,toString (engagements.map Engagement.releasedAmount).sum,
      engagements.length⟩).map raw) := by
  have count : Plain s!"{engagements.length} engagements".toList := by
    show Plain (engagements.length.repr ++ " engagements").toList
    rw [String.toList_append]
    exact List.forall_mem_append.mpr ⟨plainNat _,plainText (by decide)⟩
  simp only [Csv.SoundRow,summaryTotals,List.map_cons,List.map_nil,List.forall_mem_cons,soundRaw]
  exact ⟨plainText (by decide),List.forall_mem_nil _,List.forall_mem_nil _,plainInt _,plainInt _,count,List.forall_mem_nil _⟩

/-- The summary is read back when, and only when, the ids can stand without quotes. -/
theorem summaryReadable : exportedSummary calendar now db user fromDate toDate ↔
    ∀ e ∈ summaryEngagements calendar now db user fromDate toDate, Plain e.id.toList := by
  have filled : ∀ row ∈ writtenSummary (summaryEngagements calendar now db user fromDate toDate)
      (getBillingSummary calendar now db user fromDate toDate).summary, row ≠ [] := by
    refine List.forall_mem_append.mpr ⟨List.forall_mem_cons.mpr ⟨List.cons_ne_nil _ _,List.forall_mem_map.mpr fun _ _ => List.cons_ne_nil _ _⟩,?_⟩
    exact List.forall_mem_cons.mpr ⟨List.cons_ne_nil _ _,List.forall_mem_cons.mpr ⟨List.cons_ne_nil _ _,List.forall_mem_nil _⟩⟩
  have solid : Csv.Solid (writtenSummary (summaryEngagements calendar now db user fromDate toDate)
      (getBillingSummary calendar now db user fromDate toDate).summary) [] := by
    refine .inr ⟨rfl,fun row last => ?_⟩
    have totals : row = (summaryTotals (getBillingSummary calendar now db user fromDate toDate).summary).map raw := by
      rw [writtenSummary,List.getLast?_append] at last
      exact (Option.some.inj last).symm
    rw [totals]
    exact wideText (Nat.le_add_left 2 4)
  have back := Csv.readsBackIff filled (by exact List.cons_ne_nil _ _) solid
  have same : Csv.values (writtenSummary (summaryEngagements calendar now db user fromDate toDate)
      (getBillingSummary calendar now db user fromDate toDate).summary) =
      ((summaryHeaders :: (getBillingSummary calendar now db user fromDate toDate).engagementBreakdown.map summaryRecord) ++
        [[none],summaryTotals (getBillingSummary calendar now db user fromDate toDate).summary]).map fun row => row.map chars := by
    rw [breakdownBilled,writtenSummary,Csv.values]
    simp only [List.map_append,List.map_cons,List.map_nil,List.map_map]
    rfl
  have width : ∀ row ∈ (summaryHeaders :: (getBillingSummary calendar now db user fromDate toDate).engagementBreakdown.map summaryRecord) ++
      [summaryTotals (getBillingSummary calendar now db user fromDate toDate).summary], row.length = 6 := by
    refine List.forall_mem_append.mpr ⟨List.forall_mem_cons.mpr ⟨rfl,List.forall_mem_map.mpr fun _ _ => rfl⟩,?_⟩
    exact List.forall_mem_cons.mpr ⟨rfl,List.forall_mem_nil _⟩
  rw [exportedSummary,ReadableApart,summaryChars,← same,back,and_iff_left width,writtenSummary,List.forall_mem_append,List.forall_mem_cons,
    and_iff_right soundHeaders,List.forall_mem_map]
  have last : ∀ row ∈ [[raw none],(summaryTotals (getBillingSummary calendar now db user fromDate toDate).summary).map raw],
      Csv.SoundRow row :=
    List.forall_mem_cons.mpr ⟨List.forall_mem_cons.mpr ⟨soundRaw.mpr (plainText (by decide)),List.forall_mem_nil _⟩,List.forall_mem_cons.mpr ⟨soundTotals _,List.forall_mem_nil _⟩⟩
  rw [and_iff_left last]
  exact forall₂_congr fun e _ => soundItem e

end Summary
end HireSettle.Billing.BillingTables
