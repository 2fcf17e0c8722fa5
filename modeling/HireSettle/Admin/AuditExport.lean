import HireSettle.Admin.AuditLogs
import HireSettle.Workflow.Csv
import HireSettle.Workflow.Merging
import HireSettle.Workflow.Texts

/-! The export of the audit logs: the three tables read oldest first in batches that
resume after a cursor, and merged row by row into lines of comma-separated values. -/
namespace HireSettle.Admin.AuditExport
open Workflow AuditLogs

def AUDIT_EXPORT_BATCH_SIZE : Nat := 500

def escapeCsv : Option String → List Char
  | none => []
  | some value =>
      let text := value.toList
      if text.any (· ∈ ['"',',','\n']) then Csv.quoted text else text

def auditCsvRow (values : List (Option String)) : String := String.ofList (Csv.join ',' (values.map escapeCsv) ++ ['\n'])

inductive LogRow where
  | auditLog (log : AuditLog)
  | engagementAuditLog (log : EngagementAuditLog)
  | milestoneAuditLog (log : MilestoneAuditLog)

namespace LogRow

def id : LogRow → LogId
  | auditLog log => log.id
  | engagementAuditLog log => log.id
  | milestoneAuditLog log => log.id

def createdAt : LogRow → Date
  | auditLog log => log.createdAt
  | engagementAuditLog log => log.createdAt
  | milestoneAuditLog log => log.createdAt

def changedBy : LogRow → String
  | auditLog log => log.changedBy
  | engagementAuditLog log => log.changedBy
  | milestoneAuditLog log => log.changedBy

def reason : LogRow → Option String
  | auditLog log => some log.reason
  | engagementAuditLog log => log.reason
  | milestoneAuditLog _ => none

def engagementId : LogRow → Option String
  | engagementAuditLog log => some log.engagementId
  | _ => none

def milestoneId : LogRow → Option String
  | milestoneAuditLog log => some log.milestoneId
  | _ => none

def fromStatus : LogRow → Option String
  | auditLog _ => none
  | engagementAuditLog log => some log.fromStatus
  | milestoneAuditLog log => some (statusText log.fromStatus)

def toStatus : LogRow → Option String
  | auditLog _ => none
  | engagementAuditLog log => some log.toStatus
  | milestoneAuditLog log => some (statusText log.toStatus)

/-- What a row of the table without statuses has in a field. -/
def field (read : AuditLog → Option String) : LogRow → Option String
  | auditLog log => read log
  | _ => none

end LogRow

def earlier (row selectedRow : LogRow) : Bool :=
  row.createdAt.ms < selectedRow.createdAt.ms ||
    (row.createdAt.ms = selectedRow.createdAt.ms && textBefore row.id.text selectedRow.id.text)

namespace AdminAuditLogsService

def cells (row : LogRow) : List (Option String) :=
  let isEngagementLog := row.engagementId.isSome
  let isMilestoneLog := row.milestoneId.isSome
  let fromStatus := row.fromStatus.getD "undefined"
  let toStatus := row.toStatus.getD "undefined"
  let change := s!"STATUS_CHANGE: {fromStatus} -> {toStatus}"
  [some row.id.text,
    some (if isEngagementLog then "EngagementAuditLog" else if isMilestoneLog then "MilestoneAuditLog" else "AuditLog"),
    if isEngagementLog then some "Engagement" else if isMilestoneLog then some "Milestone" else row.field (some ·.entityType),
    if isEngagementLog then row.engagementId else if isMilestoneLog then row.milestoneId else row.field (some ·.entityId),
    if isEngagementLog || isMilestoneLog then some change else row.field (some ·.action),
    if isEngagementLog || isMilestoneLog then row.fromStatus else row.field (·.oldValue),
    if isEngagementLog || isMilestoneLog then row.toStatus else row.field (some ·.newValue),
    row.reason,
    some row.changedBy,
    some row.createdAt.toISOString]

def findBatch {ρ : Type} [Keyed ρ LogId] (row : ρ → LogRow) (table : Table ρ) (dates : DateFilter) (cursor : Option String) :
    List LogRow :=
  let rows := ((table.findMany fun log => dates.admits (row log).createdAt).map row).insertionSort fun a b => earlier b a = false
  match present cursor with
  | none => rows.take AUDIT_EXPORT_BATCH_SIZE
  | some cursor =>
      match (table.rows.map row).find? (·.id.text = cursor) with
      | none => []
      | some last => (rows.filter (earlier last)).take AUDIT_EXPORT_BATCH_SIZE

structure Source where
  fetch : Option String → List LogRow
  rows : List LogRow := []
  index : Nat := 0
  cursor : Option String := none
  done : Bool := false

def makeSource (fetch : Option String → List LogRow) : Source := { fetch }

def Source.first (source : Source) : Source :=
  let rows := source.fetch none
  { source with rows, done := source.done || rows.isEmpty }

def Source.current (source : Source) : Option LogRow := source.rows[source.index]?

/-- The source once its row is written. -/
def Source.advance (row : LogRow) (source : Source) : Source :=
  let index := source.index + 1
  if index = source.rows.length then
    let cursor := some row.id.text
    let rows := source.fetch cursor
    { source with cursor, rows, index := 0, done := source.done || rows.isEmpty }
  else { source with index }

def exportRows : Nat → List Source → Option (List LogRow)
  | 0, _ => none
  | fuel + 1, sources =>
      if sources.any (!·.done) then
        match Merging.choose earlier (sources.map Source.current) 0 none with
        | none => some []
        | some (i,row) => (exportRows fuel (sources.modify i (Source.advance row))).map (row :: ·)
      else some []

structure Response where
  headers : List (String × String)
  chunks : List String
  ended : Bool
  deriving DecidableEq, Repr

def header : String := "id,type,entityType,entityId,action,oldValue,newValue,reason,changedBy,createdAt\n"

def streamAuditLogCsv (fuel : Nat) (newDate : String → Option Date) (store : Store) (fromText toText : String) :
    Option (Except Exception Response) :=
  match newDate fromText,newDate toText with
  | some fromDate,some toDate =>
      if toDate.ms < fromDate.ms then some (.error (.badRequest "\"from\" must be before \"to\"."))
      else
        let dates : DateFilter := ⟨some fromDate,some toDate⟩
        let sources := [makeSource (findBatch .auditLog store.auditLogs dates),
          makeSource (findBatch .engagementAuditLog store.engagementAuditLogs dates),
          makeSource (findBatch .milestoneAuditLog store.milestoneAuditLogs dates)]
        (exportRows fuel (sources.map Source.first)).map fun rows => .ok
          { headers := [("Content-Type","text/csv; charset=utf-8"),("Content-Disposition","attachment; filename=\"audit-log.csv\"")]
            chunks := header :: rows.map fun row => auditCsvRow (cells row)
            ended := true }
  | _,_ => some (.error (.badRequest "Invalid date range. Use ISO 8601 dates."))

end AdminAuditLogsService

open AdminAuditLogsService

section Order

theorem earlierAsymm (a b : LogRow) (before : earlier a b = true) : earlier b a = false := by
  rw [earlier,Bool.or_eq_true,Bool.and_eq_true,decide_eq_true_eq,decide_eq_true_eq] at before
  rw [earlier,Bool.or_eq_false_iff,Bool.and_eq_false_iff,decide_eq_false_iff_not,decide_eq_false_iff_not]
  obtain sooner | ⟨same,first⟩ := before
  · exact ⟨by omega,.inl (by omega)⟩
  · exact ⟨by omega,.inr (textAsymm first)⟩

theorem earlierIrrefl (a : LogRow) : earlier a a = false := by
  cases same : earlier a a with
  | false => rfl
  | true => exact same.symm.trans (earlierAsymm a a same)

theorem idSame {a b : LogId} (same : a.text = b.text) : a = b := by
  cases a
  cases b
  cases same
  rfl

theorem earlierLater (a b c : LogRow) (first : earlier b a = false) (second : earlier c b = false) : earlier c a = false := by
  rw [earlier,Bool.or_eq_false_iff,Bool.and_eq_false_iff,decide_eq_false_iff_not,decide_eq_false_iff_not] at *
  refine ⟨by omega,?_⟩
  by_cases same : c.createdAt.ms = a.createdAt.ms
  · have one := second.2.resolve_left (by omega)
    have two := first.2.resolve_left (by omega)
    exact .inr (textNotBefore one two)
  · exact .inl same

theorem earlierOther {a b : LogRow} (other : a.id.text ≠ b.id.text) (notLater : earlier b a = false) : earlier a b = true := by
  rw [earlier,Bool.or_eq_false_iff,Bool.and_eq_false_iff,decide_eq_false_iff_not,decide_eq_false_iff_not] at notLater
  rw [earlier,Bool.or_eq_true,Bool.and_eq_true,decide_eq_true_eq,decide_eq_true_eq]
  obtain sooner | same := lt_or_eq_of_le (Int.not_lt.mp notLater.1)
  · exact .inl sooner
  · obtain first | equal | second := textTrichotomy a.id.text b.id.text
    · exact .inr ⟨same,first⟩
    · exact absurd equal other
    · cases second.symm.trans (notLater.2.resolve_left (not_not.mpr same.symm))

theorem earlierSorted (rows : List LogRow) :
    Merging.Sorted earlier (rows.insertionSort fun a b => earlier b a = false) := by
  have : Std.Total fun a b : LogRow => earlier b a = false := ⟨fun a b => by
    cases before : earlier b a with
    | false => exact .inl rfl
    | true => exact .inr (earlierAsymm b a before)⟩
  have : IsTrans LogRow fun a b => earlier b a = false := ⟨earlierLater⟩
  exact List.pairwise_insertionSort _ rows

end Order

section Batches

/-- The batches of the source are those of the rows, each resumed after the last of the one before. -/
structure Batches (fetch : Option String → List LogRow) (rows : List LogRow) : Prop where
  first : fetch none = rows.take AUDIT_EXPORT_BATCH_SIZE
  resumed : ∀ front last rest, rows = front ++ last :: rest → fetch (some last.id.text) = rest.take AUDIT_EXPORT_BATCH_SIZE

variable {ρ : Type} [Keyed ρ LogId] (row : ρ → LogRow) (table : Table ρ) (dates : DateFilter)

def ordered : List LogRow :=
  ((table.findMany fun log => dates.admits (row log).createdAt).map row).insertionSort fun a b => earlier b a = false

variable {row}

theorem idsApart (keeps : ∀ r, (row r).id = Keyed.key r) : ((table.rows.map row).map LogRow.id).Nodup := by
  have same : LogRow.id ∘ row = Keyed.key := funext keeps
  rw [List.map_map,same]
  exact table.unique

theorem orderedPerm : (ordered row table dates).Perm ((table.findMany fun log => dates.admits (row log).createdAt).map row) :=
  List.perm_insertionSort _ _

theorem orderedApart (keeps : ∀ r, (row r).id = Keyed.key r) : ((ordered row table dates).map LogRow.id).Nodup := by
  rw [((orderedPerm table dates).map LogRow.id).nodup_iff]
  exact (idsApart table keeps).sublist ((List.filter_sublist.map row).map LogRow.id)

theorem afterLast {front rest : List LogRow} {last : LogRow} (sorted : Merging.Sorted earlier (front ++ last :: rest))
    (apart : ((front ++ last :: rest).map LogRow.id).Nodup) : (front ++ last :: rest).filter (earlier last) = rest := by
  obtain ⟨_,behind,before⟩ := List.pairwise_append.mp sorted
  have none : (front ++ [last]).filter (earlier last) = [] := by
    refine List.filter_eq_nil_iff.mpr fun x inside => ?_
    rw [Bool.not_eq_true]
    obtain here | same := List.mem_append.mp inside
    · exact before x here last List.mem_cons_self
    · rw [List.mem_singleton.mp same]
      exact earlierIrrefl last
  have all : rest.filter (earlier last) = rest := by
    refine List.filter_eq_self.mpr fun x inside => ?_
    refine earlierOther (fun same => ?_) (List.rel_of_pairwise_cons behind inside)
    rw [List.map_append,List.map_cons] at apart
    refine (List.nodup_cons.mp (List.nodup_append.mp apart).2.1).1 (List.mem_map.mpr ⟨x,inside,?_⟩)
    exact idSame same.symm
  rw [List.append_cons,List.filter_append,none,all,List.nil_append]

theorem findsLast (keeps : ∀ r, (row r).id = Keyed.key r) {last : LogRow} (inside : last ∈ ordered row table dates) :
    (table.rows.map row).find? (·.id.text = last.id.text) = some last := by
  have stored : last ∈ table.rows.map row :=
    (List.filter_sublist.map row).subset ((orderedPerm table dates).mem_iff.mp inside)
  cases found : (table.rows.map row).find? (·.id.text = last.id.text) with
  | none => exact absurd (decide_eq_true rfl) (List.find?_eq_none.mp found last stored)
  | some other =>
      have named : other.id.text = last.id.text := by simpa using List.find?_some found
      rw [List.inj_on_of_nodup_map (idsApart table keeps) (List.mem_of_find?_eq_some found) stored (idSame named)]

theorem batches (keeps : ∀ r, (row r).id = Keyed.key r) : Batches (findBatch row table dates) (ordered row table dates) where
  first := rfl
  resumed front last rest split := by
    have given : present (some last.id.text) = some last.id.text := Option.filter_eq_some_iff.mpr ⟨rfl,decide_eq_true last.id.given⟩
    have found := findsLast table dates keeps (split ▸ List.mem_append_right front List.mem_cons_self)
    have sorted : Merging.Sorted earlier (ordered row table dates) := earlierSorted _
    have apart := orderedApart table dates keeps
    rw [split] at sorted apart
    have after := afterLast sorted apart
    rw [← split] at after
    rw [findBatch,given]
    simp only [found]
    exact congrArg (List.take _) after

end Batches

section Feeding

/-- The rows that the source is yet to write: those left of its batch, and those after the batch. -/
structure Fed (source : Source) (pending : List LogRow) : Prop where
  supply : ∃ front rest, Batches source.fetch (front ++ source.rows ++ rest) ∧ pending = source.rows.drop source.index ++ rest
  live : source.done = false → source.index < source.rows.length
  spent : source.done = true → pending = []

variable {source : Source} {pending : List LogRow}

theorem fedCurrent (fed : Fed source pending) : source.current = pending.head? := by
  obtain ⟨front,rest,_,split⟩ := fed.supply
  cases ended : source.done with
  | false => rw [split,List.head?_append,List.head?_drop,List.getElem?_eq_getElem (fed.live ended),Option.some_or,
      Source.current,List.getElem?_eq_getElem (fed.live ended)]
  | true =>
      have empty := fed.spent ended
      rw [empty] at split
      rw [empty,Source.current,← List.head?_drop,(List.append_eq_nil_iff.mp split.symm).1,List.head?_nil]

theorem fedDone (fed : Fed source pending) : source.done = pending.isEmpty := by
  cases ended : source.done with
  | true => rw [fed.spent ended,List.isEmpty_nil]
  | false =>
      have head := fedCurrent fed
      rw [Source.current,List.getElem?_eq_getElem (fed.live ended)] at head
      cases pending with
      | nil => cases head
      | cons row rest => rfl

theorem fedFirst {fetch : Option String → List LogRow} {rows : List LogRow} (batches : Batches fetch rows) :
    Fed (makeSource fetch).first rows where
  supply := ⟨[],rows.drop AUDIT_EXPORT_BATCH_SIZE,by
    show Batches fetch ([] ++ fetch none ++ _) ∧ _ = (fetch none).drop 0 ++ _
    rw [List.nil_append,List.drop_zero,batches.first,List.take_append_drop]
    exact ⟨batches,rfl⟩⟩
  live fresh := by
    have some : (fetch none).isEmpty = false := fresh
    exact List.length_pos_iff.mpr (List.isEmpty_eq_false_iff.mp some)
  spent ended := by
    have none : fetch none = [] := List.isEmpty_iff.mp ended
    rw [batches.first,List.take_eq_nil_iff] at none
    exact none.resolve_left (by decide)

theorem fedAdvance {row : LogRow} (fed : Fed source (row :: pending)) : Fed (source.advance row) pending := by
  obtain ⟨front,rest,batches,split⟩ := fed.supply
  have ended : source.done = false := (fedDone fed).trans rfl
  have inside := fed.live ended
  rw [List.drop_eq_getElem_cons inside,List.cons_append,List.cons.injEq] at split
  obtain ⟨here,left⟩ := split
  rw [Source.advance]
  split
  · rename_i last
    have none : source.rows.drop (source.index + 1) = [] := List.drop_eq_nil_of_le last.ge
    rw [none,List.nil_append] at left
    have whole : source.rows = source.rows.take source.index ++ [row] := by
      rw [here,List.take_append_getElem,List.take_of_length_le last.ge]
    have next : source.fetch (some row.id.text) = rest.take AUDIT_EXPORT_BATCH_SIZE := by
      refine batches.resumed (front ++ source.rows.take source.index) row rest ?_
      rw [List.append_cons,List.append_assoc front _ [row],← whole]
    refine ⟨⟨front ++ source.rows,rest.drop AUDIT_EXPORT_BATCH_SIZE,?_⟩,fun fresh => ?_,fun closed => ?_⟩
    · show Batches source.fetch (front ++ source.rows ++ source.fetch (some row.id.text) ++ _) ∧
        _ = (source.fetch (some row.id.text)).drop 0 ++ _
      rw [next,List.drop_zero,List.append_assoc (front ++ source.rows),List.take_append_drop]
      exact ⟨batches,left⟩
    · exact List.length_pos_iff.mpr (List.isEmpty_eq_false_iff.mp (Bool.or_eq_false_iff.mp fresh).2)
    · have empty := List.isEmpty_iff.mp ((Bool.or_eq_true_iff.mp closed).resolve_left (ended ▸ Bool.false_ne_true))
      have cut : source.fetch (some row.id.text) = [] := empty
      rw [next,List.take_eq_nil_iff] at cut
      exact left.trans (cut.resolve_left (by decide))
  · rename_i more
    exact ⟨⟨front,rest,batches,left⟩,fun _ => by
      have := inside
      show source.index + 1 < source.rows.length
      omega,fun closed => absurd (ended.symm.trans closed) nofun⟩

end Feeding

section Export
variable {sources : List Source} {pending : List (List LogRow)}

theorem fedHeads (fed : List.Forall₂ Fed sources pending) : sources.map Source.current = pending.map List.head? := by
  induction fed with
  | nil => rfl
  | cons first rest ih => rw [List.map_cons,List.map_cons,fedCurrent first,ih]

theorem fedEmpty (fed : List.Forall₂ Fed sources pending) (closed : sources.any (!·.done) = false) :
    ∀ head ∈ pending.map List.head?, head = none := by
  induction fed with
  | nil => exact nofun
  | cons first rest ih =>
      rw [List.any_cons,Bool.or_eq_false_iff,fedDone first,Bool.not_eq_false',List.isEmpty_iff] at closed
      rw [List.map_cons,closed.1]
      exact List.forall_mem_cons.mpr ⟨rfl,ih closed.2⟩

theorem fedNext (fed : List.Forall₂ Fed sources pending) {i : Nat} {row : LogRow}
    (place : (pending.map List.head?)[i]? = some (some row)) :
    List.Forall₂ Fed (sources.modify i (Source.advance row)) (pending.modify i List.tail) := by
  induction fed generalizing i with
  | nil => cases place
  | cons first rest ih =>
      cases i with
      | zero =>
          rw [List.map_cons,List.getElem?_cons_zero,Option.some_inj,List.head?_eq_some_iff] at place
          obtain ⟨left,rfl⟩ := place
          exact .cons (fedAdvance first) rest
      | succ i => exact .cons first (ih place)

/-- The loop of the export is the merge of what its sources have left. -/
theorem exportMerges (fed : List.Forall₂ Fed sources pending) (fuel : Nat) :
    exportRows fuel sources = Merging.merge earlier fuel pending := by
  induction fuel generalizing sources pending with
  | zero => rfl
  | succ fuel ih =>
      rw [exportRows,Merging.merge,fedHeads fed]
      cases live : sources.any (!·.done) with
      | false =>
          rw [Merging.chooseNone earlier (fedEmpty fed live)]
          rfl
      | true =>
          have least := Merging.chooseLeast earlierLater earlierAsymm (pending.map List.head?) 0 none
          cases chosen : Merging.choose earlier (pending.map List.head?) 0 none with
          | none => rfl
          | some found =>
              rw [chosen] at least
              exact congrArg (Option.map (found.2 :: ·)) (ih (fedNext fed (least.place.resolve_right (by simp)).2))

end Export

section Complete
variable (store : Store)

/-- The rows of the three tables with a date in the range. -/
def rowsWithin (dates : DateFilter) : List LogRow :=
  (store.auditLogs.findMany (dates.admits ·.createdAt)).map .auditLog ++
    ((store.engagementAuditLogs.findMany (dates.admits ·.createdAt)).map .engagementAuditLog ++
      (store.milestoneAuditLogs.findMany (dates.admits ·.createdAt)).map .milestoneAuditLog)

/-- The line of a row of each table. -/
def record : LogRow → List (Option String)
  | .auditLog log => [some log.id.text,some "AuditLog",some log.entityType,some log.entityId,some log.action,log.oldValue,
      some log.newValue,some log.reason,some log.changedBy,some log.createdAt.toISOString]
  | .engagementAuditLog log => [some log.id.text,some "EngagementAuditLog",some "Engagement",some log.engagementId,
      some s!"STATUS_CHANGE: {log.fromStatus} -> {log.toStatus}",some log.fromStatus,some log.toStatus,log.reason,some log.changedBy,
      some log.createdAt.toISOString]
  | .milestoneAuditLog log => [some log.id.text,some "MilestoneAuditLog",some "Milestone",some log.milestoneId,
      some s!"STATUS_CHANGE: {statusText log.fromStatus} -> {statusText log.toStatus}",some (statusText log.fromStatus),
      some (statusText log.toStatus),none,some log.changedBy,some log.createdAt.toISOString]

theorem cellsRecord (row : LogRow) : cells row = record row := by
  cases row <;> rfl

def pendingRows (dates : DateFilter) : List (List LogRow) :=
  [ordered .auditLog store.auditLogs dates,ordered .engagementAuditLog store.engagementAuditLogs dates,
    ordered .milestoneAuditLog store.milestoneAuditLogs dates]

theorem pendingPerm (dates : DateFilter) : (pendingRows store dates).flatten.Perm (rowsWithin store dates) := by
  rw [pendingRows,List.flatten_cons,List.flatten_cons,List.flatten_cons,List.flatten_nil,List.append_nil]
  exact (orderedPerm _ _).append ((orderedPerm _ _).append (orderedPerm _ _))

theorem pendingSorted (dates : DateFilter) : ∀ rows ∈ pendingRows store dates, Merging.Sorted earlier rows :=
  List.forall_mem_cons.mpr ⟨earlierSorted _,List.forall_mem_cons.mpr ⟨earlierSorted _,List.forall_mem_cons.mpr ⟨earlierSorted _,nofun⟩⟩⟩

theorem sourcesFed (dates : DateFilter) : List.Forall₂ Fed
    ([makeSource (findBatch .auditLog store.auditLogs dates),
      makeSource (findBatch .engagementAuditLog store.engagementAuditLogs dates),
      makeSource (findBatch .milestoneAuditLog store.milestoneAuditLogs dates)].map Source.first) (pendingRows store dates) :=
  .cons (fedFirst (batches _ dates fun _ => rfl)) (.cons (fedFirst (batches _ dates fun _ => rfl))
    (.cons (fedFirst (batches _ dates fun _ => rfl)) .nil))

end Complete
end HireSettle.Admin.AuditExport
