import HireSettle.Admin.ReportExports
import HireSettle.Billing.BillingTables

/-! Which exports can be read back. Three of the writers leave a carriage return without
quotes, and the fourth leaves the ids of the engagements as they are. -/
namespace HireSettle.Admin.ReadableExports
open Workflow CsvCells ReportExports AuditExport
open AuditExport.AdminAuditLogsService (header cells)
open AdminReportsService Billing.BillingTables

def auditHeaders : List String :=
  ["id","type","entityType","entityId","action","oldValue","newValue","reason","changedBy","createdAt"]

/-- The text of the export of these rows. -/
def auditText (rows : List LogRow) : String := String.join (header :: rows.map fun row => auditCsvRow (cells row))

theorem auditEscape (cell : Option String) : AuditExport.escapeCsv cell = (escaped cell).text := by
  cases cell with
  | none => rfl
  | some value =>
      have same : (fun c => decide (c ∈ ['"',',','\n'])) = special := by
        funext c
        simp only [special,List.mem_cons,List.not_mem_nil,or_false,Bool.decide_or]
        rw [← Bool.or_assoc,Bool.or_comm (decide (c = '"'))]
      show (if value.toList.any (fun c => decide (c ∈ ['"',',','\n'])) then Csv.quoted value.toList else value.toList) = _
      rw [same]
      rfl

theorem auditRow (values : List (Option String)) : (auditCsvRow values).toList = Csv.rowText (values.map escaped) ++ ['\n'] := by
  rw [auditCsvRow,String.toList_ofList,Csv.rowText,List.map_map,funext auditEscape]
  rfl

theorem auditHeader : header.toList = Csv.rowText ((auditHeaders.map some).map escaped) ++ ['\n'] := by
  rfl

theorem auditReadable (rows : List LogRow) : Readable (auditText rows) 10 (auditHeaders.map some :: rows.map record) ↔
    ∀ row ∈ rows, ∀ cell ∈ record row, Kept cell := by
  have written : (auditText rows).toList = Csv.fileText ((auditHeaders.map some :: rows.map record).map (List.map escaped)) ++ ['\n'] := by
    rw [auditText,String.toList_join,Csv.fileText,
      ← terminated (((auditHeaders.map some :: rows.map record).map (List.map escaped)).map Csv.rowText) (by simp)]
    simp only [List.flatMap_cons,List.map_cons,List.flatMap_map,List.map_map,auditRow,auditHeader,cellsRecord]
    rfl
  have width : ∀ row ∈ auditHeaders.map some :: rows.map record, row.length = 10 :=
    List.forall_mem_cons.mpr ⟨rfl,List.forall_mem_map.mpr fun row _ => by cases row <;> rfl⟩
  have headers : ∀ cell ∈ auditHeaders.map some, Kept cell := by
    simp only [auditHeaders,List.map_cons,List.map_nil,List.forall_mem_cons]
    refine ⟨?_,?_,?_,?_,?_,?_,?_,?_,?_,?_,(by simp)⟩
    all_goals exact plainKept (plainText (by decide))
  rw [escapedReadable width (by decide) (by simp) (.inr rfl) written,List.forall_mem_cons,and_iff_right headers,List.forall_mem_map]

/-- When what each export writes can be read back. -/
theorem exportsReadBackIff (calendar : Billing.BillingService.Calendar) (now : Date) :
    (∀ db user fromDate toDate, exportedSummary calendar now db user fromDate toDate ↔
      ∀ e ∈ summaryEngagements calendar now db user fromDate toDate, Plain e.id.toList) ∧
    (∀ db user fromDate toDate,
      Readable (Billing.BillingService.exportBillingHistory calendar now db user fromDate toDate) 4
        (historyHeaders :: (historyEngagements calendar now db user fromDate toDate).map historyRecord) ↔
      ∀ e ∈ historyEngagements calendar now db user fromDate toDate, Kept (some e.id)) ∧
    (∀ rows : List EngagementRow, Readable (sent (engagementsCsv rows)) 17 (engagementHeaders.map some :: rows.map engagementCells) ↔
      ∀ row ∈ rows, ∀ cell ∈ engagementCells row, Kept cell) ∧
    (∀ rows : List MilestoneRow, Readable (sent (paymentsCsv rows)) 11 (paymentHeaders.map some :: rows.map paymentCells) ↔
      ∀ row ∈ rows, ∀ cell ∈ paymentCells row, Kept cell) ∧
    (∀ rows : List MilestoneRow, Readable (sent (disputesCsv rows)) 10 (disputeHeaders.map some :: rows.map disputeCells) ↔
      ∀ row ∈ rows, ∀ cell ∈ disputeCells row, Kept cell) ∧
    ∀ rows : List LogRow, Readable (auditText rows) 10 (auditHeaders.map some :: rows.map record) ↔
      ∀ row ∈ rows, ∀ cell ∈ record row, Kept cell := by
  refine ⟨summaryReadable calendar now,historyReadable calendar now,fun rows => ?_,fun rows => ?_,fun rows => ?_,auditReadable⟩
  · refine (reportReadable _ (by decide) (by decide) (List.forall_mem_map.mpr fun _ _ => rfl)).trans ?_
    rw [List.forall_mem_map]
  · refine (reportReadable _ (by decide) (by decide) (List.forall_mem_map.mpr fun _ _ => rfl)).trans ?_
    rw [List.forall_mem_map]
  · refine (reportReadable _ (by decide) (by decide) (List.forall_mem_map.mpr fun _ _ => rfl)).trans ?_
    rw [List.forall_mem_map]

def commaId : Billing.BillingService.Engagement :=
  { id := "ENG,1", companyAddress := "GC", totalAmount := 1000, jobTitle := "Engineer", createdAt := Billing.BillingService.epoch }

def brokenTitle : MilestoneRow where
  id := "m"
  engagementId := "e"
  milestoneIndex := 0
  name := "Start\rdate"
  kind := .placement
  status := .disputed
  paymentPercent := 50
  paymentReleased := none
  proofHash := none
  confirmedAt := none
  updatedAt := Billing.BillingService.epoch
  engagement := ⟨"GC","GR","GA",none⟩

/-- The comma of an id makes two cells of one, and a lone carriage return stands outside quotes. -/
theorem exportsNotReadBack :
    ¬ exportedSummary Billing.BillingService.momentary Billing.BillingService.epoch
      ⟨[commaId],Billing.BillingService.oneEngagement commaId⟩ { id := "u", stellarAddress := some "GC" } none none ∧
    ¬ Readable (sent (disputesCsv [brokenTitle])) 10 (disputeHeaders.map some :: [brokenTitle].map disputeCells) := by
  constructor
  · rw [summaryReadable]
    intro plain
    exact (plain commaId (by decide) ',' (by decide)).2.1 rfl
  · unfold disputesCsv
    rw [show 10 = disputeHeaders.length from rfl,reportReadable _ (by decide) (by decide) (List.forall_mem_map.mpr fun _ _ => rfl)]
    intro kept
    exact absurd (kept (disputeCells brokenTitle) List.mem_cons_self (some "Start\rdate") (by decide) (by decide)) (by decide)

end HireSettle.Admin.ReadableExports
