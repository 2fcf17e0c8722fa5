import HireSettle.Escrow.Engagements
import HireSettle.Workflow.Guards
import HireSettle.Workflow.Turns

/-! The two operations that set the status of an engagement by hand, and the audit log of
what they change. Each reads the old status first; the write, with its audit entry,
commits on its own whatever the status is by then. -/
namespace HireSettle.Escrow.StatusAudits
open Workflow

structure EngagementAuditLog where
  id : String
  engagementId : String
  fromStatus : String
  toStatus : String
  changedBy : String
  reason : Option String := none
  createdAt : Nat := 0
  deriving DecidableEq, Repr

instance : Keyed EngagementAuditLog String := ⟨EngagementAuditLog.id⟩

structure World where
  engagements : Table Engagement
  auditLogs : Table EngagementAuditLog := Table.empty
  clock : Nat := 0

inductive Site where
  | findCurrent (engagementId : String)
  | findEngagement (engagementId : String)
  | notifyUser (address title message : String)
  | commitStatus (engagementId : String)
  | findOne
  deriving DecidableEq, Repr

abbrev Op := Process Site Answer World Exception

-- what the audit log records, but for the engagement
structure Transition where
  fromStatus : String
  toStatus : String
  changedBy : String
  reason : Option String
  deriving DecidableEq, Repr

-- the id is what the environment answers
def record (engagementId : String) (transition : Transition) (id : String) (w : World) : Except Exception World :=
  let row : EngagementAuditLog :=
    { id := id
      engagementId := engagementId
      fromStatus := transition.fromStatus
      toStatus := transition.toStatus
      changedBy := transition.changedBy
      reason := transition.reason
      createdAt := w.clock }
  match w.auditLogs.create row with
  | none => .error .uniqueViolation
  | some logs => .ok { w with auditLogs := logs }

def statusRow (newStatus : EngagementStatus) (row : Engagement) : Engagement := { row with status := newStatus }

theorem statusKey (newStatus : EngagementStatus) (row : Engagement) : Keyed.key (statusRow newStatus row) = Keyed.key row := rfl

/-- The update of the row and its audit entry. The row is locked by the update until both commit. -/
def commitStatus (engagementId : String) (newStatus : EngagementStatus) (transition : Transition) (answer : Answer) (w : World) :
    Except Exception (Engagement × World) :=
  if answer.fails then .error .database
  else match w.engagements.modify engagementId (statusRow newStatus) (statusKey newStatus) with
    | none => .error .recordNotFound
    | some (row,engagements) => (record engagementId transition answer.text { w with engagements := engagements }).map fun after => (row,after)

def read {α : Type} (site : Site) (f : World → α) : Op α :=
  .query site fun answer w => if answer.fails then .error .database else .ok (f w)

def updateStatus (engagementId : String) (newStatus : EngagementStatus) (requestingUserId : String) (reason : Option String) : Op Engagement := do
  let found ← read (.findCurrent engagementId) fun w => w.engagements.get? engagementId
  match found with
  | none => .raise .recordNotFound
  | some current =>
      .transact (.commitStatus engagementId) (commitStatus engagementId newStatus
        { fromStatus := current.status.text, toStatus := newStatus.text, changedBy := requestingUserId, reason := reason })

def notifyUser (engagementId oldStatus newStatus reason address : String) : Op Unit :=
  .query (.notifyUser address s!"Engagement {engagementId} status updated by Admin"
    (s!"The status of engagement {engagementId} has been manually changed from {oldStatus} to {newStatus} by an administrator. " ++
      s!"Reason: {reason}")) fun answer _ => if answer.fails then .error .database else .ok ()

def updateEngagementStatusByAdmin (engagementId : String) (newStatus : EngagementStatus) (reason adminId : String) : Op Engagement := do
  let found ← read (.findEngagement engagementId) fun w => w.engagements.get? engagementId
  match found with
  | none => .raise (.notFound s!"Engagement {engagementId} not found")
  | some engagement => do
      let oldStatus := engagement.status.text
      -- nobody else writes the row between its update and the notices, so both are one commit after them
      Process.forEach (notifyUser engagementId oldStatus newStatus.text reason)
        [engagement.companyAddress,engagement.recruiterAddress,engagement.arbiterAddress]
      let _ ← .transact (.commitStatus engagementId) (commitStatus engagementId newStatus
        { fromStatus := oldStatus, toStatus := newStatus.text, changedBy := adminId, reason := some reason })
      let updated ← read .findOne fun w => w.engagements.get? engagementId
      match updated with
      | none => .raise (.notFound s!"Engagement {engagementId} not found")
      | some row => return row

inductive Request where
  | updateStatus (engagementId : String) (newStatus : EngagementStatus) (requestingUserId : String) (reason : Option String)
  | updateEngagementStatusByAdmin (engagementId : String) (newStatus : EngagementStatus) (reason adminId : String)
  deriving DecidableEq, Repr

def handler : Request → Op Engagement
  | .updateStatus engagementId newStatus requestingUserId reason => updateStatus engagementId newStatus requestingUserId reason
  | .updateEngagementStatusByAdmin engagementId newStatus reason adminId => updateEngagementStatusByAdmin engagementId newStatus reason adminId

/-- Only the time passes by itself. -/
def service : System Request Nat Site Answer World Exception Engagement where
  handler := handler
  environment elapsed w := { w with clock := w.clock + elapsed }

abbrev AuditEvent := Event Site Answer World

abbrev AuditPool := Pool Request Site Answer World Exception Engagement

abbrev AuditMove := Move Request Nat Answer

def statusOf (engagementId : String) (w : World) : Option String := (w.engagements.get? engagementId).map fun row => row.status.text

/-- The entries of the engagement, in the order in which they were committed. -/
def entries (engagementId : String) (w : World) : List EngagementAuditLog := w.auditLogs.findMany fun row => row.engagementId = engagementId

/-- The entries lead from one status to the other. -/
structure Chained (initial : String) (logs : List EngagementAuditLog) (current : String) : Prop where
  first : ∀ log ∈ logs.head?, log.fromStatus = initial
  further : logs.IsChain fun a b => b.fromStatus = a.toStatus
  last : (logs.getLast?.map EngagementAuditLog.toStatus).getD initial = current

/-- What the run has added to the audit log leads from the status before it to the one after it. -/
def EntriesChain (w : World) (pool : AuditPool) (engagementId : String) : Prop :=
  ∀ initial, statusOf engagementId w = some initial → ∃ added current, statusOf engagementId pool.world = some current ∧
    entries engagementId pool.world = entries engagementId w ++ added ∧ Chained initial added current

def Logs (engagementId : String) (e : AuditEvent) : Prop := ∃ log, entries engagementId e.after = entries engagementId e.before ++ [log]

/-- A change finds the status that its thread has read. -/
def Current (engagementId : String) (earlier : List AuditEvent) (e : AuditEvent) : Prop :=
  Logs engagementId e → ∀ r ∈ earlier, r.thread = e.thread → r.site = .findCurrent engagementId ∨ r.site = .findEngagement engagementId →
    statusOf engagementId r.before = statusOf engagementId e.before

section Chains

variable {initial current : String} {logs : List EngagementAuditLog} {log : EngagementAuditLog}

/-- The status after the entries. -/
def reached (initial : String) (logs : List EngagementAuditLog) : String := (logs.getLast?.map EngagementAuditLog.toStatus).getD initial

theorem reachedAppend : reached initial (logs ++ [log]) = log.toStatus := by
  simp [reached]

theorem chainedReached : Chained initial logs current ↔ Chained initial logs (reached initial logs) ∧ reached initial logs = current :=
  ⟨fun chained => ⟨⟨chained.first,chained.further,rfl⟩,chained.last⟩,fun ⟨chained,same⟩ => same ▸ chained⟩

theorem chainedAppend : Chained initial (logs ++ [log]) (reached initial (logs ++ [log])) ↔
    Chained initial logs (reached initial logs) ∧ log.fromStatus = reached initial logs := by
  rcases List.eq_nil_or_concat logs with rfl | ⟨before,previous,rfl⟩
  · constructor
    · exact fun chained => ⟨⟨by simp,by simp,rfl⟩,chained.first log rfl⟩
    · exact fun ⟨_,same⟩ => ⟨by simpa [reached] using same,by simp,rfl⟩
  · have link : (before ++ [previous] ++ [log]).IsChain (fun a b => b.fromStatus = a.toStatus) ↔
        (before ++ [previous]).IsChain (fun a b => b.fromStatus = a.toStatus) ∧ log.fromStatus = previous.toStatus := by
      rw [List.isChain_append]
      simp
    have head : ∀ a, a ∈ (before ++ [previous] ++ [log]).head? ↔ a ∈ (before ++ [previous]).head? := fun a => by
      cases before <;> simp
    rw [List.concat_eq_append,show reached initial (before ++ [previous]) = previous.toStatus from reachedAppend]
    constructor
    · exact fun chained => ⟨⟨fun a inside => chained.first a ((head a).mpr inside),(link.mp chained.further).1,by rw [← reachedAppend]; rfl⟩,
        (link.mp chained.further).2⟩
    · exact fun ⟨chained,same⟩ => ⟨fun a inside => chained.first a ((head a).mp inside),link.mpr ⟨chained.further,same⟩,rfl⟩

end Chains

section Calls

variable {w w' : World} {answer : Answer} {engagementId : String} {own : List AuditEvent} {α : Type}

/-- What a commit does to the engagement, and to no other. -/
structure Committed (engagementId : String) (log : EngagementAuditLog) (w w' : World) : Prop where
  there : statusOf engagementId w ≠ none
  status : statusOf engagementId w' = some log.toStatus
  logged : entries engagementId w' = entries engagementId w ++ [log]
  otherStatus : ∀ other, other ≠ engagementId → statusOf other w' = statusOf other w
  otherLogs : ∀ other, other ≠ engagementId → entries other w' = entries other w

theorem recordRows {transition : Transition} {id : String} (recorded : record engagementId transition id w = .ok w') :
    w'.engagements = w.engagements ∧ ∃ log, w'.auditLogs.rows = w.auditLogs.rows ++ [log] ∧ log.engagementId = engagementId ∧
      log.fromStatus = transition.fromStatus ∧ log.toStatus = transition.toStatus := by
  unfold record at recorded
  dsimp only at recorded
  split at recorded
  · cases recorded
  · rename_i created
    cases recorded
    exact ⟨rfl,_,(Table.createGet created).2.1,rfl,rfl,rfl⟩

theorem commitCommitted {newStatus : EngagementStatus} {transition : Transition} (named : transition.toStatus = newStatus.text) {row : Engagement}
    (commits : commitStatus engagementId newStatus transition answer w = .ok (row,w')) :
    ∃ log, log.fromStatus = transition.fromStatus ∧ Committed engagementId log w w' := by
  unfold commitStatus at commits
  split at commits
  · cases commits
  split at commits
  · cases commits
  rename_i engagements modified
  obtain ⟨old,found,_,same⟩ := Table.modifyGet modified
  cases recorded : record engagementId transition answer.text { w with engagements := engagements } with
  | error error => simp [recorded,Except.map] at commits
  | ok after =>
    obtain ⟨kept,log,rows,owner,before,reaches⟩ := recordRows recorded
    simp only [recorded,Except.map,Except.ok.injEq,Prod.mk.injEq] at commits
    obtain ⟨_,rfl⟩ := commits
    refine ⟨log,before,by simp [statusOf,found],?_,?_,fun other differs => ?_,fun other differs => ?_⟩
    · simp only [statusOf,kept,same,Table.getUpdateSelf found _ (statusKey newStatus),Option.map_some,statusRow,reaches,named]
    · simp [entries,Table.findMany,rows,owner]
    · simp only [statusOf,kept,same,Table.getUpdateOther _ differs _ (statusKey newStatus)]
    · simp [entries,Table.findMany,rows,owner,differs.symm]

def Looks (engagementId : String) (r : AuditEvent) : Prop := r.site = .findCurrent engagementId ∨ r.site = .findEngagement engagementId

/-- What is known of each call, from those before it. -/
inductive Calls (own : List AuditEvent) (e : AuditEvent) : Prop where
  | idle (engagements : e.after.engagements = e.before.engagements) (logs : e.after.auditLogs = e.before.auditLogs)
  | committed (engagementId : String) (log : EngagementAuditLog) (committed : Committed engagementId log e.before e.after)
      (looked : ∃ r ∈ own, Looks engagementId r)
      (shown : ∀ r ∈ own, Looks engagementId r → statusOf engagementId r.before = some log.fromStatus)

variable {done : List AuditEvent → Except Exception α → Prop}

theorem guardedRead {site : Site} {f : World → α} (fails : ∀ own error, done own (.error error))
    (finds : ∀ thread i w, done (⟨thread,site,i,w,w⟩ :: own) (.ok (f w))) : Guarded Calls done (read site f) own := by
  refine guardedQuery fun thread i w => ⟨.idle rfl rfl,?_⟩
  split
  · exact fails _ _
  · exact finds thread i w

theorem guardedCommit {newStatus : EngagementStatus} {transition : Transition} (named : transition.toStatus = newStatus.text)
    (looked : ∃ r ∈ own, Looks engagementId r) (shown : ∀ r ∈ own, Looks engagementId r → statusOf engagementId r.before = some transition.fromStatus) :
    Guarded Calls anyOutcome (.transact (.commitStatus engagementId) (commitStatus engagementId newStatus transition)) own := by
  refine guardedTransact (fun thread i w row w' commits => ⟨?_,trivial⟩) fun _ _ _ _ _ => ⟨.idle rfl rfl,trivial⟩
  obtain ⟨log,from',committed⟩ := commitCommitted named commits
  exact .committed engagementId log committed looked fun r inside looks => from' ▸ shown r inside looks

theorem guardedUpdate (engagementId : String) (newStatus : EngagementStatus) (requestingUserId : String) (reason : Option String) :
    Guarded Calls anyOutcome (updateStatus engagementId newStatus requestingUserId reason) [] := by
  refine guardedBind (guardedRead (fun _ _ => trivial) fun thread i w => ?_)
  cases found : w.engagements.get? engagementId with
  | none => trivial
  | some current =>
    refine guardedCommit rfl ⟨_,List.mem_singleton_self _,Or.inl rfl⟩ fun r inside _ => ?_
    rw [List.mem_singleton.mp inside]
    simp [statusOf,found]

/-- The one read of the status so far. -/
def Known (engagementId : String) (first : AuditEvent) (own : List AuditEvent) : Prop :=
  first ∈ own ∧ ∀ r ∈ own, Looks engagementId r → r = first

theorem guardedNotice {oldStatus newStatus reason : String} {first : AuditEvent} (address : String) (known : Known engagementId first own) :
    Guarded Calls (fun own' _ => Known engagementId first own') (notifyUser engagementId oldStatus newStatus reason address) own := by
  refine guardedQuery fun thread i w => ⟨.idle rfl rfl,List.mem_cons_of_mem _ known.1,fun r inside looks => ?_⟩
  rcases List.mem_cons.mp inside with rfl | before
  · rcases looks with same | same <;> cases same
  · exact known.2 r before looks

theorem guardedOverride (engagementId : String) (newStatus : EngagementStatus) (reason adminId : String) :
    Guarded Calls anyOutcome (updateEngagementStatusByAdmin engagementId newStatus reason adminId) [] := by
  refine guardedBind (guardedRead (fun _ _ => trivial) fun thread i w => ?_)
  cases found : w.engagements.get? engagementId with
  | none => trivial
  | some engagement =>
    have first : Known engagementId ⟨thread,.findEngagement engagementId,i,w,w⟩ [⟨thread,.findEngagement engagementId,i,w,w⟩] :=
      ⟨List.mem_singleton_self _,fun r inside _ => List.mem_singleton.mp inside⟩
    refine guardedBind (guardedMono (fun own out known => ?_)
      (guardedForKeeps (fun address _ own known => guardedNotice address known) first))
    cases out with
    | error error => trivial
    | ok _ =>
      refine guardedThen (guardedCommit rfl ⟨_,known.1,Or.inr rfl⟩ fun r inside looks => ?_) fun _ own =>
        guardedBind (guardedRead (fun _ _ => trivial) fun _ _ w => ?_)
      · rw [known.2 r inside looks]
        simp [statusOf,found]
      · dsimp only
        split <;> trivial

theorem guardedHandler (request : Request) : Guarded Calls anyOutcome (handler request) [] := by
  cases request with
  | updateStatus engagementId newStatus requestingUserId reason => exact guardedUpdate engagementId newStatus requestingUserId reason
  | updateEngagementStatusByAdmin engagementId newStatus reason adminId => exact guardedOverride engagementId newStatus reason adminId

end Calls

section Runs

variable {c : Snapshot Site Answer World} {own : List AuditEvent} {engagementId : String} {w : World}

/-- The entries follow the status, and link up where every change has found what it had read. -/
structure Inv (w : World) (engagementId : String) (c : Snapshot Site Answer World) : Prop where
  absent : statusOf engagementId w = none → statusOf engagementId c.world = none ∧ AllMeet (Current engagementId) c.history
  follows : ∀ initial, statusOf engagementId w = some initial → ∃ added, statusOf engagementId c.world = some (reached initial added) ∧
    entries engagementId c.world = entries engagementId w ++ added ∧
    (Chained initial added (reached initial added) ↔ AllMeet (Current engagementId) c.history)

/-- A call that leaves the engagement and its entries alone. -/
theorem invElsewhere (inv : Inv w engagementId c) {thread : Nat} {site : Site} {i : Answer} {w' : World}
    (status : statusOf engagementId w' = statusOf engagementId c.world) (logs : entries engagementId w' = entries engagementId c.world) :
    Inv w engagementId (c.record thread site i w') := by
  have silent : Current engagementId c.history (c.event thread site i w') := by
    rintro ⟨log,added⟩
    have longer := congrArg List.length (logs.symm.trans added)
    simp [Snapshot.event] at longer
  refine ⟨fun none => ?_,fun initial there => ?_⟩
  · obtain ⟨absent,current⟩ := inv.absent none
    exact ⟨status.trans absent,silent,current⟩
  · obtain ⟨added,now,same,iff⟩ := inv.follows initial there
    exact ⟨added,status.trans now,logs.trans same,iff.trans ⟨fun current => ⟨silent,current⟩,fun current => current.2⟩⟩

theorem invRecord (inv : Inv w engagementId c) {thread : Nat} {site : Site} {i : Answer} {w' : World}
    (calls : Calls (c.history.filter fun e => e.thread = thread) (c.event thread site i w')) : Inv w engagementId (c.record thread site i w') := by
  cases calls with
  | idle engagements logs =>
    have engagements : w'.engagements = c.world.engagements := engagements
    have logs : w'.auditLogs = c.world.auditLogs := logs
    exact invElsewhere inv (by rw [statusOf,statusOf,engagements]) (by rw [entries,entries,logs])
  | committed id log committed looked shown =>
    by_cases same : engagementId = id
    · subst same
      refine ⟨fun none => absurd (inv.absent none).1 committed.there,fun initial there => ?_⟩
      obtain ⟨added,now,before,iff⟩ := inv.follows initial there
      have current : Current engagementId c.history (c.event thread site i w') ↔ log.fromStatus = reached initial added := by
        constructor
        · intro current
          obtain ⟨r,mine,looks⟩ := looked
          obtain ⟨inside,thread'⟩ := List.mem_filter.mp mine
          have found := current ⟨log,committed.logged⟩ r inside (of_decide_eq_true thread') looks
          exact Option.some.inj ((shown r mine looks).symm.trans (found.trans now))
        · intro same _ r inside thread' looks
          exact (shown r (List.mem_filter.mpr ⟨inside,decide_eq_true thread'⟩) looks).trans (same ▸ now.symm)
      refine ⟨added ++ [log],committed.status.trans (congrArg some reachedAppend.symm),?_,?_⟩
      · rw [← List.append_assoc,← before]
        exact committed.logged
      · rw [chainedAppend,iff,← current]
        exact and_comm
    · exact invElsewhere inv (committed.otherStatus _ same) (committed.otherLogs _ same)

theorem guardedAudits (w : World) (moves : List AuditMove) (engagementId : String) :
    GuardedEnds (fun _ => Calls) (fun _ => anyOutcome) (Inv w engagementId) (service.run (Pool.initial w) moves) := by
  refine guardedRun (P := fun _ _ _ => True) (fun request c thread site i w' inv calls _ => invRecord inv calls) (fun elapsed c inv => ?_)
    guardedHandler (guardedInitial ⟨fun none => ⟨none,trivial⟩,fun initial there => ?_⟩) moves (meetsAlways (fun _ _ _ _ => trivial) _)
  · exact ⟨inv.absent,inv.follows⟩
  · exact ⟨[],there,(List.append_nil _).symm,fun _ => trivial,fun _ => ⟨by simp,by simp,rfl⟩⟩

end Runs

theorem entriesChainIff (w : World) (moves : List AuditMove) (engagementId : String) :
    EntriesChain w (service.run (Pool.initial w) moves) engagementId ↔
      AllMeet (Current engagementId) (service.run (Pool.initial w) moves).history := by
  have inv := (guardedAudits w moves engagementId).holds
  cases there : statusOf engagementId w with
  | none => exact ⟨fun _ => (inv.absent there).2,fun _ initial found => by cases there.symm.trans found⟩
  | some initial =>
    obtain ⟨added,now,same,iff⟩ := inv.follows initial there
    constructor
    · intro chain
      obtain ⟨added',current,now',same',chained⟩ := chain initial there
      cases List.append_cancel_left (same.symm.trans same')
      exact iff.mp (chainedReached.mp chained).1
    · intro current initial' found
      cases there.symm.trans found
      exact ⟨added,_,now,same,iff.mpr current⟩

def overridden : World where
  engagements := .single { id := "g", companyAddress := "C", recruiterAddress := "R", arbiterAddress := "A", totalAmount := 100 }

-- both read the engagement as active
def overlapping : List AuditMove :=
  [.start (.updateEngagementStatusByAdmin "g" .completed "r" "a"),.start (.updateStatus "g" .cancelled "b" none),.answer 0 {},.answer 1 {},
    .answer 0 {},.answer 0 {},.answer 0 {},.answer 0 { text := "l1" },.answer 1 { text := "l2" }]

/-- Two entries both start from the first status. -/
theorem entriesFork :
    (entries "g" (service.run (Pool.initial overridden) overlapping).world).map (fun log => (log.fromStatus,log.toStatus)) =
      [("ACTIVE","COMPLETED"),("ACTIVE","CANCELLED")] ∧
    ¬ EntriesChain overridden (service.run (Pool.initial overridden) overlapping) "g" := by
  have forks : (entries "g" (service.run (Pool.initial overridden) overlapping).world).map (fun log => (log.fromStatus,log.toStatus)) =
      [("ACTIVE","COMPLETED"),("ACTIVE","CANCELLED")] := by decide +kernel
  refine ⟨forks,fun chain => ?_⟩
  obtain ⟨added,current,_,same,chained⟩ := chain "ACTIVE" (by decide +kernel)
  have empty : entries "g" overridden = [] := rfl
  rw [empty,List.nil_append] at same
  rw [same] at forks
  obtain ⟨a,rest,rfl,ends,others⟩ := List.map_eq_cons_iff.mp forks
  obtain ⟨b,_,rfl,begins,_⟩ := List.map_eq_cons_iff.mp others
  have link : b.fromStatus = a.toStatus := (List.isChain_cons_cons.mp chained.further).1
  exact absurd ((Prod.mk.inj begins).1.symm.trans (link.trans (Prod.mk.inj ends).2)) (by decide)

end HireSettle.Escrow.StatusAudits
