import HireSettle.Admin.AuditExport
import HireSettle.Common.CsvCells
import HireSettle.Escrow.Engagements

/-! The reports of an administrator: the engagements, the payments or the disputes of
at most ninety days, oldest first, as comma-separated values. -/
namespace HireSettle.Admin.ReportExports
open Workflow AuditLogs CsvCells
open Escrow (EngagementStatus MilestoneStatus MilestoneKind)
open AuditExport.AdminAuditLogsService (Response)

def MAX_RANGE_DAYS : Int := 90

/-- A number as the runtime shows it. -/
structure Shown where
  text : String
  plain : Plain text.toList

-- an engagement with the mail addresses of its company and its recruiter
structure EngagementRow where
  id : String
  status : EngagementStatus
  jobTitle : String
  companyAddress : String
  companyEmail : Option String
  recruiterAddress : String
  recruiterEmail : Option String
  arbiterAddress : String
  tokenAddress : String
  totalAmount : Int
  releasedAmount : Int
  fundingRateUsd : Option Shown
  fundingRateAt : Option Date
  txHash : Option String
  createdLedger : Option Int
  createdAt : Date
  updatedAt : Date

structure RowEngagement where
  companyAddress : String
  recruiterAddress : String
  arbiterAddress : String
  txHash : Option String

-- a milestone with its engagement
structure MilestoneRow where
  id : String
  engagementId : String
  milestoneIndex : Int
  name : String
  kind : MilestoneKind
  status : MilestoneStatus
  paymentPercent : Int
  paymentReleased : Option Int
  proofHash : Option String
  confirmedAt : Option Date
  updatedAt : Date
  engagement : RowEngagement

def kindText : MilestoneKind → String
  | .placement => "PLACEMENT"
  | .retention => "RETENTION"

def escapeCsv : Option String → String
  | none => ""
  | some val =>
      if val.toList.any fun c => c = ',' || c = '"' || c = '\n' then String.ofList (Csv.quoted val.toList) else val

def rowToCsv (values : List (Option String)) : String := ",".intercalate (values.map escapeCsv)

def parseAndValidateDateRange (newDate : String → Option Date) (fromText toText : String) : Except Exception (Date × Date) :=
  match newDate fromText,newDate toText with
  | some fromDate,some toDate =>
      if toDate.ms < fromDate.ms then .error (.badRequest "\"from\" must be before \"to\".")
      else if MAX_RANGE_DAYS * 86400000 < toDate.ms - fromDate.ms then
        .error (.badRequest s!"Date range cannot exceed {MAX_RANGE_DAYS} days.")
      else .ok (fromDate,toDate)
  | _,_ => .error (.badRequest "Invalid date format. Use ISO 8601 (e.g. 2026-01-01).")

def within (fromDate toDate d : Date) : Bool := fromDate.ms ≤ d.ms && d.ms ≤ toDate.ms

/-- What a report writes of its rows. -/
def report (filename : String) (headers : List String) (rows : List (List (Option String))) : Response where
  headers := [("Content-Type","text/csv; charset=utf-8"),("Content-Disposition",s!"attachment; filename=\"{filename}\"")]
  chunks := (",".intercalate headers ++ "\n") :: rows.map fun values => rowToCsv values ++ "\n"
  ended := true

namespace AdminReportsService

def engagementHeaders : List String :=
  ["id","status","jobTitle","companyAddress","companyEmail","recruiterAddress","recruiterEmail","arbiterAddress","tokenAddress",
    "totalAmount","releasedAmount","fundingRateUsd","fundingRateAt","txHash","createdLedger","createdAt","updatedAt"]

def engagementCells (e : EngagementRow) : List (Option String) :=
  [some e.id,some e.status.text,some e.jobTitle,some e.companyAddress,e.companyEmail,some e.recruiterAddress,e.recruiterEmail,
    some e.arbiterAddress,some e.tokenAddress,some (toString e.totalAmount),some (toString e.releasedAmount),
    e.fundingRateUsd.map (·.text),e.fundingRateAt.map (·.toISOString),e.txHash,e.createdLedger.map toString,
    some e.createdAt.toISOString,some e.updatedAt.toISOString]

def engagementsCsv (engagements : List EngagementRow) : Response :=
  report "engagements.csv" engagementHeaders (engagements.map engagementCells)

def streamEngagementsCsv (newDate : String → Option Date) (engagements : List EngagementRow) (fromText toText : String) :
    Except Exception Response := do
  let (fromDate,toDate) ← parseAndValidateDateRange newDate fromText toText
  .ok (engagementsCsv ((engagements.filter fun e => within fromDate toDate e.createdAt).insertionSort
    fun a b => a.createdAt.ms ≤ b.createdAt.ms))

def paymentHeaders : List String :=
  ["milestoneId","engagementId","milestoneIndex","name","kind","paymentPercent","paymentReleased","companyAddress",
    "recruiterAddress","engagementTxHash","confirmedAt"]

def paymentCells (m : MilestoneRow) : List (Option String) :=
  [some m.id,some m.engagementId,some (toString m.milestoneIndex),some m.name,some (kindText m.kind),some (toString m.paymentPercent),
    m.paymentReleased.map toString,some m.engagement.companyAddress,some m.engagement.recruiterAddress,m.engagement.txHash,
    m.confirmedAt.map (·.toISOString)]

def paymentsCsv (milestones : List MilestoneRow) : Response := report "payments.csv" paymentHeaders (milestones.map paymentCells)

def confirmedMs (m : MilestoneRow) : Int := (m.confirmedAt.map (·.ms)).getD 0

def streamPaymentsCsv (newDate : String → Option Date) (milestones : List MilestoneRow) (fromText toText : String) :
    Except Exception Response := do
  let (fromDate,toDate) ← parseAndValidateDateRange newDate fromText toText
  let selected := milestones.filter fun m =>
    m.status = .confirmed && m.confirmedAt.any (within fromDate toDate) && m.paymentReleased.isSome
  .ok (paymentsCsv (selected.insertionSort fun a b => confirmedMs a ≤ confirmedMs b))

def disputeHeaders : List String :=
  ["milestoneId","engagementId","milestoneIndex","name","status","companyAddress","recruiterAddress","arbiterAddress","proofHash",
    "updatedAt"]

def disputeCells (m : MilestoneRow) : List (Option String) :=
  [some m.id,some m.engagementId,some (toString m.milestoneIndex),some m.name,some (statusText m.status),
    some m.engagement.companyAddress,some m.engagement.recruiterAddress,some m.engagement.arbiterAddress,m.proofHash,
    some m.updatedAt.toISOString]

def disputesCsv (milestones : List MilestoneRow) : Response := report "disputes.csv" disputeHeaders (milestones.map disputeCells)

def streamDisputesCsv (newDate : String → Option Date) (milestones : List MilestoneRow) (fromText toText : String) :
    Except Exception Response := do
  let (fromDate,toDate) ← parseAndValidateDateRange newDate fromText toText
  let selected := milestones.filter fun m => m.status ∈ [.disputed,.resolved] && within fromDate toDate m.updatedAt
  .ok (disputesCsv (selected.insertionSort fun a b => a.updatedAt.ms ≤ b.updatedAt.ms))

end AdminReportsService

/-- The text that a response has sent. -/
def sent (response : Response) : String := String.join response.chunks

section Sent

theorem escapeChars (cell : Option String) : (escapeCsv cell).toList = (escaped cell).text := by
  cases cell with
  | none => rfl
  | some val =>
      show (escapeCsv (some val)).toList = if val.toList.any special then Csv.quoted val.toList else val.toList
      rw [escapeCsv]
      split <;> rename_i quotes <;> unfold special <;> simp [quotes]

theorem rowChars (values : List (Option String)) : (rowToCsv values).toList = Csv.rowText (values.map escaped) := by
  rw [rowToCsv,show ",".intercalate (values.map escapeCsv) = (String.singleton ',').intercalate (values.map escapeCsv) from rfl,joined,
    Csv.rowText,List.map_map,List.map_map]
  simp only [Function.comp_def,escapeChars]

theorem headerChars {headers : List String} (plain : ∀ h ∈ headers, Plain h.toList) :
    (",".intercalate headers).toList = Csv.rowText ((headers.map some).map escaped) := by
  rw [show ",".intercalate headers = (String.singleton ',').intercalate headers from rfl,joined,Csv.rowText,List.map_map,List.map_map]
  refine congrArg _ (List.map_congr_left fun h inside => ?_)
  have same : escaped (some h) = raw (some h) := plainEscaped (plain h inside)
  rw [Function.comp_apply,Function.comp_apply,same]
  rfl

/-- A report is read back when, and only when, no cell has a carriage return and nothing to put it in quotes. -/
theorem reportReadable (filename : String) {headers : List String} {rows : List (List (Option String))}
    (simple : (headers.all fun h => isPlain h.toList) = true) (wide : 2 ≤ headers.length) (width : ∀ row ∈ rows, row.length = headers.length) :
    Readable (sent (report filename headers rows)) headers.length (headers.map some :: rows) ↔ ∀ row ∈ rows, ∀ cell ∈ row, Kept cell := by
  have plain : ∀ h ∈ headers, Plain h.toList := fun h inside => plainText (List.all_eq_true.mp simple h inside)
  have written : (sent (report filename headers rows)).toList =
      Csv.fileText ((headers.map some :: rows).map (List.map escaped)) ++ ['\n'] := by
    rw [sent,String.toList_join,Csv.fileText,
      ← terminated (((headers.map some :: rows).map (List.map escaped)).map Csv.rowText) nofun]
    show ((",".intercalate headers ++ "\n") :: rows.map fun values => rowToCsv values ++ "\n").flatMap String.toList = _
    simp only [List.flatMap_cons,List.map_cons,List.flatMap_map,List.map_map,String.toList_append,headerChars plain,rowChars]
    rfl
  have kept : ∀ cell ∈ headers.map some, Kept cell := by
    intro cell inside
    obtain ⟨h,here,rfl⟩ := List.mem_map.mp inside
    exact plainKept (plain h here)
  rw [escapedReadable (List.forall_mem_cons.mpr ⟨List.length_map ..,width⟩) wide nofun (.inr rfl) written,List.forall_mem_cons,
    and_iff_right kept]

end Sent
end HireSettle.Admin.ReportExports
