import HireSettle.Escrow.Database
import HireSettle.Workflow.Paging
import HireSettle.Workflow.Keyset
import HireSettle.Workflow.Dates

/-! The audit logs of three tables, read newest first in numbered pages. Every
request lets the database order the rows of one time anew. -/
namespace HireSettle.Admin.AuditLogs
open Workflow Escrow

/-- A generated uuid or cuid. -/
structure LogId where
  text : String
  given : text ≠ ""
  deriving DecidableEq

structure AuditLog where
  id : LogId
  entityType : String
  entityId : String
  action : String
  oldValue : Option String := none
  newValue : String
  reason : String
  changedBy : String
  createdAt : Date

structure EngagementAuditLog where
  id : LogId
  engagementId : String
  fromStatus : String
  toStatus : String
  changedBy : String
  reason : Option String := none
  createdAt : Date

structure MilestoneAuditLog where
  id : LogId
  milestoneId : String
  fromStatus : MilestoneStatus
  toStatus : MilestoneStatus
  changedBy : String
  createdAt : Date

instance : Keyed AuditLog LogId := ⟨AuditLog.id⟩
instance : Keyed EngagementAuditLog LogId := ⟨EngagementAuditLog.id⟩
instance : Keyed MilestoneAuditLog LogId := ⟨MilestoneAuditLog.id⟩

structure Store where
  auditLogs : Table AuditLog := .empty
  engagementAuditLogs : Table EngagementAuditLog := .empty
  milestoneAuditLogs : Table MilestoneAuditLog := .empty

structure Orders where
  auditLogs : Arrangement AuditLog (·.createdAt.ms)
  engagementAuditLogs : Arrangement EngagementAuditLog (·.createdAt.ms)
  milestoneAuditLogs : Arrangement MilestoneAuditLog (·.createdAt.ms)

def statusText : MilestoneStatus → String
  | .locked => "LOCKED"
  | .pending => "PENDING"
  | .proofSubmitted => "PROOF_SUBMITTED"
  | .confirmed => "CONFIRMED"
  | .disputed => "DISPUTED"
  | .resolved => "RESOLVED"

inductive LogType where
  | auditLog | engagementAuditLog | milestoneAuditLog
  deriving DecidableEq, Repr

structure UnifiedAuditLog where
  id : LogId
  type : LogType
  actorId : String
  action : String
  entityType : String
  entityId : String
  oldValue : Option String
  newValue : String
  reason : Option String
  createdAt : Date
  deriving DecidableEq

structure AuditLogsQuery where
  actorId : Option String := none
  action : Option String := none
  entityType : Option String := none
  fromText : Option String := none
  toText : Option String := none
  page : Option Nat := none
  limit : Option Nat := none

structure AuditLogsResponse where
  logs : List UnifiedAuditLog
  total : Nat
  page : Nat
  limit : Nat
  totalPages : Nat

structure DateFilter where
  gte : Option Date := none
  lte : Option Date := none

def DateFilter.admits (filter : DateFilter) (d : Date) : Bool := filter.gte.all (·.ms ≤ d.ms) && filter.lte.all (d.ms ≤ ·.ms)

namespace AdminAuditLogsService

-- the client library refuses an invalid date
def readDate (newDate : String → Option Date) (text : String) : Except Exception Date := (newDate text).elim (.error .database) .ok

def dateFilter (newDate : String → Option Date) (fromText toText : Option String) : Except Exception DateFilter := do
  let gte ← (present fromText).mapM (readDate newDate)
  let lte ← (present toText).mapM (readDate newDate)
  .ok ⟨gte,lte⟩

def auditLog (log : AuditLog) : UnifiedAuditLog where
  id := log.id
  type := .auditLog
  actorId := log.changedBy
  action := log.action
  entityType := log.entityType
  entityId := log.entityId
  oldValue := log.oldValue
  newValue := log.newValue
  reason := some log.reason
  createdAt := log.createdAt

def engagementAuditLog (log : EngagementAuditLog) : UnifiedAuditLog where
  id := log.id
  type := .engagementAuditLog
  actorId := log.changedBy
  action := s!"STATUS_CHANGE: {log.fromStatus} -> {log.toStatus}"
  entityType := "Engagement"
  entityId := log.engagementId
  oldValue := some log.fromStatus
  newValue := log.toStatus
  reason := log.reason
  createdAt := log.createdAt

def milestoneAuditLog (log : MilestoneAuditLog) : UnifiedAuditLog where
  id := log.id
  type := .milestoneAuditLog
  actorId := log.changedBy
  action := s!"STATUS_CHANGE: {statusText log.fromStatus} -> {statusText log.toStatus}"
  entityType := "Milestone"
  entityId := log.milestoneId
  oldValue := some (statusText log.fromStatus)
  newValue := statusText log.toStatus
  reason := none
  createdAt := log.createdAt

def auditLogWhere (dto : AuditLogsQuery) (dates : DateFilter) (log : AuditLog) : Bool :=
  (present dto.actorId).all (log.changedBy = ·) && (present dto.action).all (log.action = ·) && dates.admits log.createdAt

def engagementAuditLogWhere (dto : AuditLogsQuery) (dates : DateFilter) (log : EngagementAuditLog) : Bool :=
  (present dto.actorId).all (log.changedBy = ·) && (present dto.entityType).all (log.engagementId = ·) && dates.admits log.createdAt

def milestoneAuditLogWhere (dto : AuditLogsQuery) (dates : DateFilter) (log : MilestoneAuditLog) : Bool :=
  (present dto.actorId).all (log.changedBy = ·) && dates.admits log.createdAt

def findMany {ρ : Type} [Keyed ρ LogId] {time : ρ → Int} (order : Arrangement ρ time) (table : Table ρ) (selects : ρ → Bool)
    (skip take : Nat) : List ρ :=
  ((order.arrange (table.findMany selects)).drop skip).take take

def queryAuditLogs (newDate : String → Option Date) (orders : Orders) (store : Store) (dto : AuditLogsQuery) :
    Except Exception AuditLogsResponse := do
  let page := dto.page.getD 1
  let limit := dto.limit.getD 50
  let skip := (page - 1) * limit
  let dates ← dateFilter newDate dto.fromText dto.toText
  let auditLogs := findMany orders.auditLogs store.auditLogs (auditLogWhere dto dates) skip limit
  let engagementAuditLogs := findMany orders.engagementAuditLogs store.engagementAuditLogs (engagementAuditLogWhere dto dates) skip limit
  let milestoneAuditLogs := findMany orders.milestoneAuditLogs store.milestoneAuditLogs (milestoneAuditLogWhere dto dates) skip limit
  let unifiedLogs := (auditLogs.map auditLog ++ engagementAuditLogs.map engagementAuditLog ++
    milestoneAuditLogs.map milestoneAuditLog).insertionSort fun a b => b.createdAt.ms ≤ a.createdAt.ms
  let paginatedLogs := (unifiedLogs.drop skip).take limit
  let total := unifiedLogs.length
  .ok ⟨paginatedLogs,total,page,limit,(total + limit - 1) / limit⟩

end AdminAuditLogsService

open AdminAuditLogsService

section Pages
variable (newDate : String → Option Date) (orders : Nat → Orders) (store : Store) (dto : AuditLogsQuery) (limit : Nat)

/-- The rows of the three tables that a request selects. -/
def matching (dates : DateFilter) : List (List UnifiedAuditLog) :=
  [(store.auditLogs.findMany (auditLogWhere dto dates)).map auditLog,
    (store.engagementAuditLogs.findMany (engagementAuditLogWhere dto dates)).map engagementAuditLog,
    (store.milestoneAuditLogs.findMany (milestoneAuditLogWhere dto dates)).map milestoneAuditLog]

def sources (dates : DateFilter) (request : Nat) : List (List UnifiedAuditLog) :=
  [((orders request).auditLogs.arrange (store.auditLogs.findMany (auditLogWhere dto dates))).map auditLog,
    ((orders request).engagementAuditLogs.arrange (store.engagementAuditLogs.findMany (engagementAuditLogWhere dto dates))).map
      engagementAuditLog,
    ((orders request).milestoneAuditLogs.arrange (store.milestoneAuditLogs.findMany (milestoneAuditLogWhere dto dates))).map
      milestoneAuditLog]

/-- The pages a caller reads of a log that nobody writes to meanwhile. -/
structure PagesPartition (answers : Nat → AuditLogsResponse) (rows : List UnifiedAuditLog) : Prop where
  total : ∀ page, page = 1 ∨ (1 ≤ page ∧ page ≤ (answers 1).totalPages) → (answers page).total = rows.length
  pages : ((List.range (answers 1).totalPages).flatMap fun i => (answers (i + 1)).logs).Perm rows
  newest : ((List.range (answers 1).totalPages).flatMap fun i => (answers (i + 1)).logs).Pairwise
    fun a b => b.createdAt.ms ≤ a.createdAt.ms

def time (log : UnifiedAuditLog) : Int := log.createdAt.ms

def answer (dates : DateFilter) (page : Nat) : AuditLogsResponse where
  logs := Paging.page time (sources orders store dto dates page) ((page - 1) * limit) limit
  total := (Paging.merged time (sources orders store dto dates page) ((page - 1) * limit) limit).length
  page := page
  limit := limit
  totalPages := Paging.pageCount (Paging.merged time (sources orders store dto dates page) ((page - 1) * limit) limit).length limit

variable {newDate}

theorem answered {dates : DateFilter} (read : dateFilter newDate dto.fromText dto.toText = .ok dates) (page : Nat) :
    queryAuditLogs newDate (orders page) store { dto with page := some page, limit := some limit } =
      .ok (answer orders store dto limit dates page) := by
  simp only [queryAuditLogs,Option.getD_some,read]
  simp only [answer,Paging.page,Paging.pageCount,Paging.merged,Paging.newestFirst,sources,findMany,List.flatMap_cons,
    List.flatMap_nil,List.append_nil,List.append_assoc,List.map_take,List.map_drop]
  rfl

variable {dto}

theorem sourcesArranged (dates : DateFilter) (request : Nat) :
    List.Forall₂ List.Perm (sources orders store dto dates request) (matching store dto dates) :=
  .cons (((orders request).auditLogs.perm _).map _) (.cons (((orders request).engagementAuditLogs.perm _).map _)
    (.cons (((orders request).milestoneAuditLogs.perm _).map _) .nil))

theorem partitionPages (dates : DateFilter) (rows : List UnifiedAuditLog) :
    PagesPartition (answer orders store dto limit dates) rows ↔
      Paging.Partition time (sources orders store dto dates) limit rows := by
  have first : (answer orders store dto limit dates 1).totalPages =
      Paging.pageCount (Paging.merged time (sources orders store dto dates 1) 0 limit).length limit := by
    rw [answer,Nat.sub_self,Nat.zero_mul]
  constructor
  · intro ⟨total,pages,newest⟩
    rw [first] at total pages newest
    exact ⟨fun i here => total (i + 1) (by omega),pages,newest⟩
  · intro ⟨total,pages,newest⟩
    refine ⟨fun page here => ?_,first ▸ pages,first ▸ newest⟩
    rw [first] at here
    cases page with
    | zero => omega
    | succ i => exact total i (by omega)

/-- The pages hold the matching rows, and count them, only when one page takes them all. -/
theorem pagesPartitionIff {actorId fromText toText : Option String} {dates : DateFilter}
    (read : dateFilter newDate fromText toText = .ok dates) (positive : 1 ≤ limit) :
    ∃ answers : Nat → AuditLogsResponse,
      (∀ page, queryAuditLogs newDate (orders page) store
        { actorId, fromText, toText, page := some page, limit := some limit } = .ok (answers page)) ∧
      (PagesPartition answers (matching store { actorId, fromText, toText } dates).flatten ↔
        (matching store { actorId, fromText, toText } dates).flatten.length ≤ limit) := by
  refine ⟨answer orders store { actorId, fromText, toText } limit dates,?_,?_⟩
  · exact answered orders store { actorId, fromText, toText } limit read
  · rw [partitionPages]
    exact Paging.partitionIff (sourcesArranged orders store dates) positive

end Pages
def moment (n : Nat) (early : n ≤ 1000) : Date := ⟨n,by omega⟩

def anyOrder : Orders where
  auditLogs := .by (fun a b => b.createdAt.ms ≤ a.createdAt.ms) (fun a b => (Int.le_total _ _).symm)
    (fun _ _ _ first second => second.trans first) (fun _ _ older => older)
  engagementAuditLogs := .by (fun a b => b.createdAt.ms ≤ a.createdAt.ms) (fun a b => (Int.le_total _ _).symm)
    (fun _ _ _ first second => second.trans first) (fun _ _ older => older)
  milestoneAuditLogs := .by (fun a b => b.createdAt.ms ≤ a.createdAt.ms) (fun a b => (Int.le_total _ _).symm)
    (fun _ _ _ first second => second.trans first) (fun _ _ older => older)

def twoLogs : Store where
  auditLogs := ⟨[⟨⟨"a",by decide⟩,"DISPUTE","d","APPEAL",none,"OPEN","late","u",moment 1 (by decide)⟩],by simp⟩
  engagementAuditLogs := ⟨[⟨⟨"e",by decide⟩,"g","ACTIVE","PAUSED","u",none,moment 2 (by decide)⟩],by simp⟩

theorem twoLogsPaged : ∃ answers : Nat → AuditLogsResponse,
    (∀ page, queryAuditLogs (fun _ => none) anyOrder twoLogs { page := some page, limit := some 2 } = .ok (answers page)) ∧
      PagesPartition answers (matching twoLogs {} {}).flatten := by
  obtain ⟨answers,same,parts⟩ :=
    @pagesPartitionIff (fun _ => none) (fun _ => anyOrder) twoLogs 2 none none none {} rfl (by decide)
  exact ⟨answers,same,parts.mpr (by decide)⟩

/-- Two pages are announced, the first shows one row, and the second skips the other in its table. -/
theorem olderLogSkipped : ∃ answers : Nat → AuditLogsResponse,
    (∀ page, queryAuditLogs (fun _ => none) anyOrder twoLogs { page := some page, limit := some 1 } = .ok (answers page)) ∧
      (answers 1).totalPages = 2 ∧ (answers 1).logs.map (·.id.text) = ["e"] ∧ (answers 2).logs = [] ∧
      ¬ PagesPartition answers (matching twoLogs {} {}).flatten := by
  refine ⟨answer (fun _ => anyOrder) twoLogs {} 1 {},answered (fun _ => anyOrder) twoLogs {} 1 rfl,by decide,by decide,by decide,?_⟩
  intro parts
  have seen := parts.pages.length_eq
  revert seen
  decide

end HireSettle.Admin.AuditLogs
