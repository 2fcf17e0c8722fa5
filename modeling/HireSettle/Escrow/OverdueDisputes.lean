import HireSettle.Escrow.AppealWindows
import HireSettle.Escrow.CallEffects
import HireSettle.Workflow.Guards

/-! The deadlines of the stages of a dispute. The job flags what it has scanned as
past its deadline, and a decision records the status of the dispute it has read;
meanwhile the dispute may have entered its next stage, with a deadline of its own. -/
namespace HireSettle.Escrow.OverdueDisputes
open Workflow ArbiterAssignmentService

inductive Request where
  | flagOverdueDisputes
  | autoAssign (disputeId : String)
  | applyManualOverride (engagementId arbiterId : String)
  -- the dispute, or its appeal
  | decide (id : String) (outcome : DisputeOutcome) (user : DisputeActor)
  | recordDecision (milestoneId : String) (outcome : DisputeOutcome) (actor : Option DisputeActor)
  | openAppeal (disputeId : String) (user : DisputeActor) (reason : String)
  | decideAppeal (disputeId : String) (user : DisputeActor) (outcome : DisputeOutcome)

def handler (self : Config) : Request → Op Unit
  | .flagOverdueDisputes => do
      let _ ← DisputeSlaService.flagOverdueDisputes
  | .autoAssign disputeId => do
      let _ ← autoAssign self disputeId
  | .applyManualOverride engagementId arbiterId => do
      let _ ← applyManualOverride self engagementId arbiterId
  | .decide id outcome user => do
      let _ ← DisputesController.decide self id outcome user
  | .recordDecision milestoneId outcome actor => do
      let _ ← DisputesService.recordDecision self milestoneId outcome actor
  | .openAppeal disputeId user reason => do
      let _ ← AppealService.openAppeal self disputeId user reason
  | .decideAppeal disputeId user outcome => do
      let _ ← AppealService.decideAppeal self disputeId user outcome

def service (self : Config) : System Request Nat Site Answer Db Exception Unit where
  handler := handler self
  environment elapsed db := { db with clock := db.clock + elapsed }

abbrev SlaMove := Move Request Nat Answer

abbrev SlaPool := Pool Request Site Answer Db Exception Unit

def changed (id : String) (e : EscrowEvent) : Bool := e.after.disputes.get? id ≠ e.before.disputes.get? id

/-- The admins are told that the dispute has missed the deadline of the stage. -/
def Escalates (id : String) (stage : DisputeStage) (e : EscrowEvent) : Bool :=
  match e.site with
  | .flagOverdue dispute _ => dispute.id = id && dispute.stage = stage && changed id e
  | _ => false

def completed : Site → Option String
  | .decide id | .decideAppeal id => some id
  | _ => none

/-- What the job makes OVERDUE has a deadline that has come. -/
def FlagsDue (e : EscrowEvent) : Prop :=
  ∀ dispute at', e.site = .flagOverdue dispute at' → ∀ id row row', e.before.disputes.get? id = some row →
    e.after.disputes.get? id = some row' → row.slaStatus ≠ .overdue → row'.slaStatus = .overdue →
      row.responseDeadline.any (· ≤ at') = true

/-- A stage that is completed by its deadline is recorded as MET. -/
def RecordsMet (e : EscrowEvent) : Prop :=
  ∀ id, completed e.site = some id → ∀ row row', e.before.disputes.get? id = some row → e.after.disputes.get? id = some row' →
    row' ≠ row → ∀ deadline at', row.responseDeadline = some deadline → row'.resolvedAt = some at' → at' ≤ deadline →
      row'.slaStatus = .met

structure KeepsDeadlines (history : List EscrowEvent) : Prop where
  due : ∀ e ∈ history, FlagsDue e
  once : ∀ id stage, history.countP (Escalates id stage) ≤ 1
  met : ∀ e ∈ history, RecordsMet e

section Conditions

-- the calls that a thread has made before, newest first
variable (own : List EscrowEvent)

def seen (id : String) : Option Dispute :=
  (own.find? fun e => e.site = .find .dispute).bind fun e => e.before.disputes.get? id

def instant : Option Nat := (own.find? fun e => e.site = .clock).map fun e => e.before.clock

/-- The stage that a call starts. -/
def started : Site → Option (String × DisputeStage)
  | .assignArbiter id => some (id,.arbiterReview)
  | .overrideArbiter id => if (seen own id).any (fun d => d.stage = .assignment) then some (id,.arbiterReview) else none
  | .openAppeal id => some (id,.appealReview)
  | _ => none

end Conditions

/-- A flag meets the stage and the deadline that the job has scanned, and a decision the deadline that it has read,
not flagged at this very instant; no stage is started again after its escalation. -/
def Timely (_ : Request) (earlier : List EscrowEvent) (e : EscrowEvent) : Prop :=
  let own := earlier.filter fun d => d.thread = e.thread
  match e.site with
  | .flagOverdue dispute _ => changed dispute.id e = true → ∀ row ∈ e.before.disputes.get? dispute.id,
      row.stage = dispute.stage ∧ row.responseDeadline = dispute.responseDeadline
  | .decide id | .decideAppeal id => changed id e = true → ∀ row ∈ e.before.disputes.get? id, ∀ d ∈ seen own id,
      row.responseDeadline = d.responseDeadline ∧ ¬ (d.slaStatus = .overdue ∧ d.responseDeadline = instant own)
  | site => ∀ start ∈ started own site, changed start.1 e = true → earlier.countP (Escalates start.1 start.2) = 0

instance (request : Request) (earlier : List EscrowEvent) (e : EscrowEvent) : Decidable (Timely request earlier e) := by
  unfold Timely
  dsimp only
  generalize e.site = site
  induction site using Site.casesOn <;> infer_instance

/-- An OVERDUE dispute is past its deadline. -/
def Lapsed (db : Db) : Prop := ∀ row ∈ db.disputes.rows, row.slaStatus = .overdue → ∀ deadline ∈ row.responseDeadline, deadline ≤ db.clock

instance (db : Db) : Decidable (Lapsed db) := inferInstanceAs (Decidable (∀ _ ∈ _, _))

section Guards

def sla (d : Dispute) : DisputeStage × Option Nat × DisputeSlaStatus := (d.stage,d.responseDeadline,d.slaStatus)

/-- The calls that judge a deadline. -/
def Site.judges : Site → Bool
  | .flagOverdue _ _ | .decide _ | .decideAppeal _ => true
  | _ => false

/-- How a call moves the deadline of a dispute, after the calls that its thread has made before. -/
inductive Moved (own : List EscrowEvent) (site : Site) (id : String) (row row' : Dispute) : Prop where
  | flagged (dispute : Dispute) (at' : Nat) (here : site = .flagOverdue dispute at') (its : dispute.id = id)
      (due : dispute.responseDeadline.any (· ≤ at') = true) (now : ∃ k ∈ own, k.before.clock = at')
      (onTrack : row.slaStatus = .onTrack) (same : row' = DisputeSlaService.flagged at' row)
  | started (stage : DisputeStage) (here : started own site = some (id,stage)) (other : Site.judges site = false)
      (enters : row'.stage = stage) (onTrack : row'.slaStatus = .onTrack)
  | completed (k : EscrowEvent) (rest : List EscrowEvent) (d : Dispute) (here : completed site = some id) (calls : own = k :: rest)
      (clock : k.site = .clock) (read : seen rest id = some d) (resolved : row'.resolvedAt = some k.before.clock)
      (recorded : row'.slaStatus = DisputeSlaService.completionStatus d k.before.clock) (deadline : row'.responseDeadline = row.responseDeadline)

/-- A call leaves the disputes alone, or what is judged of them, or moves one. -/
inductive MovesOne (own : List EscrowEvent) (e : EscrowEvent) : Prop where
  | none (same : ∀ id, e.after.disputes.get? id = e.before.disputes.get? id)
  | quiet (elsewhere : Site.judges e.site = false)
      (same : ∀ id, (e.after.disputes.get? id).map sla = (e.before.disputes.get? id).map sla)
  | one (id : String) (row row' : Dispute) (found : e.before.disputes.get? id = some row) (found' : e.after.disputes.get? id = some row')
      (others : ∀ other, other ≠ id → e.after.disputes.get? other = e.before.disputes.get? other) (moved : Moved own e.site id row row')

structure Guard (own : List EscrowEvent) (e : EscrowEvent) : Prop where
  clock : e.after.clock = e.before.clock
  moves : MovesOne own e

variable {own : List EscrowEvent} {α : Type}

theorem seenOther {e : EscrowEvent} {id : String} (other : e.site ≠ .find .dispute) : seen (e :: own) id = seen own id := by
  rw [seen,List.find?_cons_of_neg (by simpa using other)]
  rfl

theorem seenFound {e : EscrowEvent} {id : String} (here : e.site = .find .dispute) : seen (e :: own) id = e.before.disputes.get? id := by
  rw [seen,List.find?_cons_of_pos (by simpa using here)]
  rfl

theorem instantClock {e : EscrowEvent} (here : e.site = .clock) : instant (e :: own) = some e.before.clock := by
  rw [instant,List.find?_cons_of_pos (by simpa using here)]
  rfl

theorem guardSame {thread : Nat} {site : Site} {i : Answer} {db : Db} : Guard own ⟨thread,site,i,db,db⟩ := ⟨rfl,.none fun _ => rfl⟩

def Quiet (site : Site) (db db' : Db) : Prop := Site.judges site = false ∧ AppealWindows.Settling db db'

theorem guardQuiet {e : EscrowEvent} (quiet : Quiet e.site e.before e.after) : Guard own e :=
  ⟨quiet.2.clock,.quiet quiet.1 (AppealWindows.settlingMap (fun _ => rfl) quiet.2)⟩

theorem guardedQuiet {p : Op α} (acts : Acts Quiet p) : Guarded Guard anyOutcome p own :=
  guardedAny (guardedActs (fun _ _ _ quiet => guardQuiet quiet) acts)

theorem quietReads {p : Op α} (reads : Reads Site.reads p) : Acts Quiet p := by
  refine actsMono (fun site db db' (here : site.reads = true ∧ db = db') => ?_) (actsSteps reads)
  obtain ⟨read,rfl⟩ := here
  refine ⟨?_,AppealWindows.settlingStay _⟩
  cases site <;> first | rfl | cases read

theorem guardedReads {p : Op α} (reads : Reads Site.reads p) : Guarded Guard anyOutcome p own := guardedQuiet (quietReads reads)

theorem quietSettle (self : Config) (disputeId : String) : Acts Quiet (DisputesService.settle self disputeId) := by
  have sites : Acts (Within Site.settles) (DisputesService.settle self disputeId) := actsSettle self (fun _ here => here) disputeId
  refine actsMono (fun site db db' (both : Within Site.settles site db db' ∧ _ ∧ _) => ?_) (actsBoth sites (actsSteps (AppealWindows.settlingSettle disputeId)))
  obtain ⟨⟨settles,_⟩,_,settling⟩ := both
  refine ⟨?_,settling⟩
  cases site <;> first | rfl | cases settles

end Guards

section Walks

variable {own : List EscrowEvent} {α β : Type}

theorem guardedWrite {site : Site} {f : Answer → Db → Except Exception (α × Db)}
    (commits : ∀ thread i db value db', f i db = .ok (value,db') → Guard own ⟨thread,site,i,db,db'⟩) :
    Guarded Guard (fun own' _ => ∃ e, own' = e :: own ∧ e.site = site) (write site f) own := by
  refine guardedTransact (fun thread i db value db' ok => ?_) fun thread i db error _ => ⟨guardSame,_,rfl,rfl⟩
  split at ok
  · cases ok
  · exact ⟨commits thread i db value db' ok,_,rfl,rfl⟩

theorem guardedWhere {site : Site} (id : String) {p : Dispute → Bool} {f : Dispute → Dispute} {keeps : ∀ d, (f d).id = d.id}
    (byId : ∀ row, p row = true → row.id = id) (moved : ∀ row, p row = true → Moved own site id row (f row)) :
    Guarded Guard anyOutcome (write site fun _ db => .ok (db.updateDisputesWhere p f keeps)) own := by
  refine guardedAny (guardedWrite fun thread i db count db' ok => ?_)
  cases ok
  refine ⟨rfl,?_⟩
  rcases Table.updateManyCases db.disputes f keeps byId with ⟨_,row,found,matched,found',others⟩ | ⟨_,same⟩
  · exact .one id row (f row) found found' others (moved row matched)
  · exact .none same

theorem guardedKnowing {k : EscrowEvent} {p : Op α} {rest : α → Op β} (first : Guarded Guard anyOutcome p own) (inside : k ∈ own)
    (next : ∀ value own, k ∈ own → Guarded Guard anyOutcome (rest value) own) : Guarded Guard anyOutcome (p >>= rest) own := by
  refine guardedBind (guardedMono (fun own' out known => ?_) (guardedRemembers first inside))
  cases out with
  | ok value => exact next value own' known
  | error error => trivial

open DisputeSlaService in
theorem guardedFlag {at' : Nat} {admins : List User} {flagged' : Nat} {dispute : Dispute}
    (due : dispute.responseDeadline.any (· ≤ at') = true) (now : ∃ k ∈ own, k.before.clock = at') :
    Guarded Guard anyOutcome (flag at' admins flagged' dispute) own := by
  refine guardedThen (guardedWhere dispute.id ?_ ?_) fun count own => ?_
  · intro row matched
    simp only [Bool.and_eq_true,decide_eq_true_eq] at matched
    exact matched.1.1
  · intro row matched
    simp only [Bool.and_eq_true,decide_eq_true_eq] at matched
    exact .flagged dispute at' rfl rfl due now matched.1.2 rfl
  · split
    · trivial
    · exact guardedReads (readsBind (stepsForEach (fun _ => readsNotify) admins) fun _ => trivial)

open DisputeSlaService in
theorem guardedFlagOverdueDisputes : Guarded Guard anyOutcome flagOverdueDisputes own := by
  have unlocks : ∀ {α : Type} (p : Op α), Reads Site.reads p → Reads Site.reads (DistributedLockService.releaseLock >>= fun _ => p) :=
    fun p reads => readsBind (readsQuery rfl _) fun _ => reads
  refine guardedBind (guardedQuery fun thread i db => ⟨guardSame,?_⟩)
  have now : (⟨thread,.clock,i,db,db⟩ : EscrowEvent) ∈ ⟨thread,.clock,i,db,db⟩ :: own := List.mem_cons_self
  dsimp only
  generalize (⟨thread,.clock,i,db,db⟩ : EscrowEvent) :: own = own at now ⊢
  refine guardedKnowing (guardedReads (readsQuery rfl _)) now fun locked own now => ?_
  split
  · trivial
  · refine guardedThen (guardedElse ?_ fun error own => guardedReads (unlocks _ trivial)) fun flagged own => guardedReads (unlocks _ trivial)
    refine guardedBind (guardedQuery fun thread' i' db' => ⟨guardSame,?_⟩)
    split
    · rename_i overdue out
      split at out
      · cases out
      · cases out
        split
        · trivial
        · refine guardedKnowing (guardedReads (readsFind _ _)) (List.mem_cons_of_mem _ now) fun admins own now => ?_
          refine guardedFoldKeeps (fun flagged' dispute inside own now => ?_) 0 now
          have due := (List.mem_filter.mp inside).2
          simp only [Bool.and_eq_true] at due
          exact guardedMono (fun _ _ known _ _ => known) (guardedRemembers (guardedFlag due.2 ⟨_,now,rfl⟩) now)
    · trivial

theorem guardedAutoAssign (self : Config) (disputeId : String) : Guarded Guard anyOutcome (autoAssign self disputeId) own := by
  refine guardedThen (guardedReads (readsFindOr _ _)) fun found own => ?_
  split
  · trivial
  · split
    · trivial
    · refine guardedThen (guardedReads (readsSelectArbiter _ _)) fun selected own => ?_
      split
      · trivial
      · refine guardedThen (guardedReads readsNow) fun at' own => guardedThen (guardedWhere disputeId ?_ ?_) fun count own => ?_
        · intro row matched
          simp only [Bool.and_eq_true,decide_eq_true_eq] at matched
          exact matched.1.1
        · exact fun row _ => .started .arbiterReview rfl rfl rfl rfl
        · dsimp only
          split
          · exact guardedReads (readsBind readsNotify fun _ => readsFind _ _)
          · exact guardedReads (readsFind _ _)

/-- The override restarts what it has read in ASSIGNMENT. -/
theorem guardOverride (self : Config) {dispute d' : Dispute} {arbiterId : String} {at' : Nat} {thread : Nat} {i : Answer} {db db' : Db}
    (read : seen own dispute.id = some dispute)
    (updated : db.updateDispute dispute.id (overridden self dispute arbiterId at') (overriddenId self dispute arbiterId at') = .ok (d',db')) :
    Guard own ⟨thread,.overrideArbiter dispute.id,i,db,db'⟩ := by
  obtain ⟨row,found,_,found',others,rfl⟩ := Db.updateDisputeCases updated
  refine ⟨rfl,?_⟩
  by_cases assignment : dispute.stage = .assignment
  · refine .one dispute.id row _ found found' others (.started .arbiterReview ?_ rfl ?_ ?_)
    · simp [started,read,assignment]
    · simp [overridden,assignment,DisputeSlaService.stageFields]
    · simp [overridden,assignment,DisputeSlaService.stageFields]
  · refine .quiet rfl fun id => Table.getUpdateManyMap db.disputes (overriddenId self dispute arbiterId at') (fun d => ?_) id
    simp [overridden,assignment,sla]

/-- The thread has last read these rows. -/
def ReadThese (disputes : List Dispute) (own : List EscrowEvent) : Prop := ∀ dispute ∈ disputes, seen own dispute.id = some dispute

theorem readOther {disputes : List Dispute} {e : EscrowEvent} (read : ReadThese disputes own) (other : e.site ≠ .find .dispute) :
    ReadThese disputes (e :: own) := fun dispute inside => (seenOther other).trans (read dispute inside)

theorem guardedApplyManualOverride (self : Config) (engagementId arbiterId : String) :
    Guarded Guard anyOutcome (applyManualOverride self engagementId arbiterId) own := by
  refine guardedBind (guardedQuery fun thread i db => ⟨guardSame,?_⟩)
  split
  · rename_i disputes out
    split at out
    · cases out
    · cases out
      have read : ReadThese (db.disputes.findMany fun row => row.engagementId = engagementId && row.active) (⟨thread,.find .dispute,i,db,db⟩ :: own) :=
        fun dispute inside => (seenFound rfl).trans (Table.memGet (List.mem_filter.mp inside).1)
      refine guardedFoldKeeps (fun updated pair inside own read => ?_) 0 read
      obtain ⟨row,there,rfl⟩ := List.mem_map.mp inside
      dsimp only
      split
      · exact fun _ _ => read
      · refine guardedBind (guardedQuery fun thread' i' db' => ⟨guardSame,?_⟩)
        dsimp only
        have read' : seen (⟨thread',.clock,i',db',db'⟩ :: own) row.id = some row := (seenOther (by simp)).trans (read row there)
        refine guardedBind (guardedMono ?_ (guardedWrite fun thread i db d' db' ok => guardOverride self read' ok))
        rintro own' out ⟨e, rfl, here⟩
        cases out with
        | error error => exact fun _ same => absurd same (by simp)
        | ok d' =>
          have known := readOther (readOther (e := ⟨thread',.clock,i',db',db'⟩) read (by simp)) (e := e) (by rw [here]; simp)
          dsimp only
          split
          · refine guardedBind (guardedMono ?_ (guardedWrite fun thread i db value db' ok => ?_))
            · rintro own' out ⟨e', rfl, here'⟩
              cases out with
              | error error => exact fun _ same => absurd same (by simp)
              | ok value => exact fun _ _ => readOther known (by rw [here']; simp)
            · obtain ⟨_,_,same⟩ := exceptBind.mp ok
              cases same
              exact guardQuiet ⟨rfl,fun _ => rfl,rfl⟩
          · exact fun _ _ => known
  · trivial

open AppealService in
theorem guardedOpenAppeal (self : Config) (disputeId : String) (user : DisputeActor) (reason : String) :
    Guarded Guard anyOutcome (openAppeal self disputeId user reason) own := by
  refine guardedThen (guardedReads readsNow) fun at' own => guardedThen (guardedReads (readsFindOr _ _)) fun found own => ?_
  split
  · trivial
  · split
    · trivial
    · split
      · trivial
      · split
        · trivial
        · split
          · split
            · trivial
            · refine guardedThen (guardedReads (readsSelectArbiter _ _)) fun arbiter own => ?_
              refine guardedThen (guardedElse (guardedAny (guardedWrite fun thread i db appeal db' ok => ?_)) fun error own => ?_) fun _ own => ?_
              · obtain ⟨row,disputes,appeals,found,_,found',others,_,rfl⟩ := createAppealCases ok
                exact ⟨rfl,.one disputeId row _ found found' others (.started .appealReview rfl rfl rfl rfl)⟩
              · split <;> trivial
              · exact guardedReads (readsBind (readsAnnounceAppeal _ _ _) fun _ => trivial)
          · trivial

open AppealService in
theorem guardedDecideAppeal (self : Config) (disputeId : String) (user : DisputeActor) (outcome : DisputeOutcome) :
    Guarded Guard anyOutcome (decideAppeal self disputeId user outcome) own := by
  refine guardedBind (guardedQuery fun thread i db => ⟨guardSame,?_⟩)
  split
  · rename_i found out
    split at out
    · cases out
    · cases out
      split
      · trivial
      · rename_i dispute appeal stored
        obtain ⟨_,there,same⟩ := Option.map_eq_some_iff.mp stored
        cases same
        have read : seen (⟨thread,.find .dispute,i,db,db⟩ :: own) disputeId = some dispute := (seenFound rfl).trans there
        split
        · trivial
        · split
          · trivial
          · refine guardedBind (guardedQuery fun thread' i' db' => ⟨guardSame,?_⟩)
            refine guardedThen (guardedAny (guardedWrite fun thread'' i'' db'' value after ok => ?_)) fun _ own => ?_
            · obtain ⟨row,_,disputes,appeals,found,_,_,found',others,_,_,rfl⟩ := recordAppealDecisionCases ok
              exact ⟨rfl,.one disputeId row _ found found' others (.completed _ _ dispute rfl rfl rfl read rfl rfl rfl)⟩
            · exact guardedQuiet (actsBind (quietReads (readsNotifyParties _ _)) fun _ => quietSettle self disputeId)
  · trivial

theorem guardedDecide (self : Config) {dispute : Dispute} (read : seen own dispute.id = some dispute) (outcome : DisputeOutcome)
    (actor : Option DisputeActor) : Guarded Guard anyOutcome (DisputesService.decide self dispute outcome actor) own := by
  unfold DisputesService.decide
  split
  · trivial
  · split
    · trivial
    · split
      · trivial
      · refine guardedBind (guardedQuery fun thread i db => ⟨guardSame,?_⟩)
        refine guardedThen (guardedWhere dispute.id ?_ ?_) fun count own => ?_
        · intro row matched
          simp only [Bool.and_eq_true,decide_eq_true_eq] at matched
          exact matched.1
        · exact fun row _ => .completed _ _ dispute rfl rfl rfl read rfl rfl rfl
        · split
          · trivial
          · split
            · exact guardedQuiet (quietSettle self dispute.id)
            · exact guardedReads (readsBind (readsFindOr _ _) fun updated => readsBind (readsNotifyParties _ _) fun _ => trivial)

theorem guardedDecideController (self : Config) (id : String) (outcome : DisputeOutcome) (user : DisputeActor) :
    Guarded Guard anyOutcome (DisputesController.decide self id outcome user) own := by
  refine guardedBind (guardedQuery fun thread i db => ⟨guardSame,?_⟩)
  split
  · rename_i found out
    split at out
    · cases out
    · cases out
      split
      · trivial
      · rename_i dispute there
        obtain rfl : dispute.id = id := Table.getKey there
        split
        · exact guardedDecideAppeal self dispute.id user outcome
        · exact guardedDecide self ((seenFound rfl).trans there) outcome (some user)
  · trivial

theorem guardedRecordDecision (self : Config) (milestoneId : String) (outcome : DisputeOutcome) (actor : Option DisputeActor) :
    Guarded Guard anyOutcome (DisputesService.recordDecision self milestoneId outcome actor) own := by
  refine guardedBind (guardedQuery fun thread i db => ⟨guardSame,?_⟩)
  split
  · rename_i found out
    split at out
    · cases out
    · cases out
      split
      · trivial
      · rename_i dispute newest
        have there := List.mem_of_mem_head? newest
        have stored := (List.mem_filter.mp ((List.mem_insertionSort _).mp there)).1
        refine guardedThen (guardedDecide self ((seenFound rfl).trans (Table.memGet stored)) outcome actor) fun _ _ => trivial
  · trivial

theorem guardedHandler (self : Config) (request : Request) : Guarded Guard anyOutcome (handler self request) own := by
  cases request with
  | flagOverdueDisputes => exact guardedThen guardedFlagOverdueDisputes fun _ _ => trivial
  | autoAssign => exact guardedThen (guardedAutoAssign self _) fun _ _ => trivial
  | applyManualOverride => exact guardedThen (guardedApplyManualOverride self _ _) fun _ _ => trivial
  | decide => exact guardedThen (guardedDecideController self _ _ _) fun _ _ => trivial
  | recordDecision => exact guardedThen (guardedRecordDecision self _ _ _) fun _ _ => trivial
  | openAppeal => exact guardedThen (guardedOpenAppeal self _ _ _) fun _ _ => trivial
  | decideAppeal => exact guardedThen (guardedDecideAppeal self _ _ _) fun _ _ => trivial

end Walks

section Steps

structure Inv (c : EscrowSnapshot) : Prop where
  lapsed : Lapsed c.world
  past : ∀ e ∈ c.history, Lapsed e.before ∧ e.before.clock ≤ c.world.clock
  ordered : c.history.Pairwise fun later e => e.before.clock ≤ later.before.clock
  escalated : ∀ e ∈ c.history, ∀ id stage, Escalates id stage e = true → ∀ row, c.world.disputes.get? id = some row →
    row.stage = stage → row.slaStatus ≠ .onTrack
  kept : KeepsDeadlines c.history

variable {request : Request} {c : EscrowSnapshot} {e : EscrowEvent} {own : List EscrowEvent} {id : String} {row row' : Dispute}

theorem lapsedRow {db : Db} (lapsed : Lapsed db) (found : db.disputes.get? id = some row) (overdue : row.slaStatus = .overdue)
    {deadline : Nat} (due : row.responseDeadline = some deadline) : deadline ≤ db.clock :=
  lapsed row (Table.getMem found) overdue deadline due

theorem guardRow (guard : Guard own e) (found' : e.after.disputes.get? id = some row') : ∃ row, e.before.disputes.get? id = some row ∧
    (sla row' = sla row ∨ changed id e = true ∧ Moved own e.site id row row') := by
  cases guard.moves with
  | none same => exact ⟨row',(same id).symm.trans found',Or.inl rfl⟩
  | quiet _ same =>
    have kept := same id
    rw [found'] at kept
    obtain ⟨row,found,same⟩ := Option.map_eq_some_iff.mp kept.symm
    exact ⟨row,found,Or.inl same.symm⟩
  | one moved row row'' found there others step =>
    by_cases mine : id = moved
    · subst mine
      cases there.symm.trans found'
      refine ⟨row,found,?_⟩
      by_cases same : row' = row
      · exact Or.inl (congrArg sla same)
      · exact Or.inr ⟨by simpa [changed,found,found'] using same,step⟩
    · exact ⟨row',(others id mine).symm.trans found',Or.inl rfl⟩

theorem guardChanged (guard : Guard own e) (judges : Site.judges e.site = true) (moves : changed id e = true) :
    ∃ row row', e.before.disputes.get? id = some row ∧ e.after.disputes.get? id = some row' ∧ Moved own e.site id row row' := by
  have differs : e.after.disputes.get? id ≠ e.before.disputes.get? id := of_decide_eq_true moves
  cases guard.moves with
  | none same => exact absurd (same id) differs
  | quiet elsewhere _ => cases judges.symm.trans elsewhere
  | one moved row row' found there others step =>
    by_cases mine : id = moved
    · subst mine
      exact ⟨row,row',found,there,step⟩
    · exact absurd (others id mine) differs

/-- The calls that its thread has made before. -/
abbrev calls (c : EscrowSnapshot) (e : EscrowEvent) : List EscrowEvent := c.history.filter fun d => d.thread = e.thread

theorem timelyFlagged (timely : Timely request c.history e) {dispute : Dispute} {at' : Nat} (here : e.site = .flagOverdue dispute at')
    (moves : changed dispute.id e = true) (found : e.before.disputes.get? dispute.id = some row) :
    row.stage = dispute.stage ∧ row.responseDeadline = dispute.responseDeadline := by
  obtain ⟨_,_,_,_,_⟩ := e
  cases here
  exact timely moves row found

theorem timelyStarted (timely : Timely request c.history e) {stage : DisputeStage} (here : started (calls c e) e.site = some (id,stage))
    (moves : changed id e = true) : c.history.countP (Escalates id stage) = 0 := by
  obtain ⟨_,site,_,_,_⟩ := e
  cases site with
  | assignArbiter | overrideArbiter | openAppeal => exact timely _ here moves
  | _ => cases here

theorem timelyCompleted (timely : Timely request c.history e) (here : completed e.site = some id) (moves : changed id e = true)
    (found : e.before.disputes.get? id = some row) {d : Dispute} (read : seen (calls c e) id = some d) :
    row.responseDeadline = d.responseDeadline ∧ ¬ (d.slaStatus = .overdue ∧ d.responseDeadline = instant (calls c e)) := by
  obtain ⟨_,site,_,_,_⟩ := e
  cases site with
  | decide | decideAppeal =>
    cases here
    exact timely moves row found d read
  | _ => cases here

/-- What a decision has read was past its deadline by then if it was OVERDUE. -/
theorem readLapsed (inv : Inv c) {k : EscrowEvent} {rest : List EscrowEvent} (made : calls c e = k :: rest) {d : Dispute}
    (read : seen rest id = some d) (overdue : d.slaStatus = .overdue) {deadline : Nat} (due : d.responseDeadline = some deadline) :
    deadline ≤ k.before.clock := by
  obtain ⟨f,first,stored⟩ := Option.bind_eq_some_iff.mp read
  have inside : f ∈ rest := List.mem_of_find?_eq_some first
  have before : f ∈ c.history := List.mem_of_mem_filter (made ▸ List.mem_cons_of_mem k inside : f ∈ calls c e)
  have sooner : (k :: rest).Pairwise fun later e => e.before.clock ≤ later.before.clock := made ▸ inv.ordered.filter _
  exact Nat.le_trans (lapsedRow (inv.past f before).1 stored overdue due) ((List.pairwise_cons.mp sooner).1 f inside)

theorem pastClock (inv : Inv c) {k : EscrowEvent} (inside : k ∈ calls c e) : k.before.clock ≤ c.world.clock :=
  (inv.past k (List.mem_of_mem_filter inside)).2

theorem lapsedStep (inv : Inv c) (here : e.before = c.world) (guard : Guard (calls c e) e) (timely : Timely request c.history e) :
    Lapsed e.after := by
  intro row' inside overdue deadline due
  obtain ⟨row,found,same | ⟨moves,moved⟩⟩ := guardRow guard (Table.memGet inside)
  · simp only [sla,Prod.mk.injEq] at same
    rw [guard.clock,here]
    exact lapsedRow inv.lapsed (here ▸ found) (same.2.2 ▸ overdue) (same.2.1 ▸ due)
  · rw [guard.clock,here]
    cases moved with
    | flagged dispute at' site its dueThen now onTrack same =>
      obtain ⟨k,made,rfl⟩ := now
      have current := (timelyFlagged timely site (its ▸ moves) (its ▸ found)).2
      subst same
      rw [← current,show row.responseDeadline = some deadline from due] at dueThen
      exact Nat.le_trans (of_decide_eq_true dueThen) (pastClock inv made)
    | started _ _ _ _ onTrack => cases onTrack.symm.trans overdue
    | completed k rest d site made clock read resolved recorded deadline' =>
      have current := timelyCompleted timely site moves found (d := d) (made ▸ (seenOther (by rw [clock]; nofun)).trans read)
      have dueThen : d.responseDeadline = some deadline := by rw [← current.1,← deadline',due]
      have bound : k.before.clock ≤ c.world.clock := pastClock inv (made ▸ List.mem_cons_self)
      rw [overdue,DisputeSlaService.completionStatus] at recorded
      split at recorded
      · rename_i late
        exact Nat.le_trans (readLapsed inv made read late dueThen) bound
      · rw [dueThen] at recorded
        dsimp only at recorded
        split at recorded
        · omega
        · cases recorded

theorem escalatesFlag {stage : DisputeStage} (escalates : Escalates id stage e = true) :
    ∃ dispute at', e.site = .flagOverdue dispute at' ∧ dispute.id = id ∧ dispute.stage = stage ∧ changed id e = true := by
  unfold Escalates at escalates
  split at escalates
  · rename_i dispute at' site
    simp only [Bool.and_eq_true,decide_eq_true_eq] at escalates
    exact ⟨dispute,at',site,escalates.1.1,escalates.1.2,escalates.2⟩
  · cases escalates

theorem flagMoves (guard : Guard own e) {dispute : Dispute} {at' : Nat} (here : e.site = .flagOverdue dispute at') (moves : changed id e = true) :
    ∃ row row', e.before.disputes.get? id = some row ∧ e.after.disputes.get? id = some row' ∧ dispute.id = id ∧
      dispute.responseDeadline.any (· ≤ at') = true ∧ row.slaStatus = .onTrack ∧ row'.slaStatus = .overdue := by
  obtain ⟨row,row',found,found',moved⟩ := guardChanged guard (by rw [here]; rfl) moves
  refine ⟨row,row',found,found',?_⟩
  cases moved with
  | flagged dispute' at'' site its due now onTrack same =>
    cases here.symm.trans site
    exact ⟨its,due,onTrack,same ▸ rfl⟩
  | started _ _ other => cases (here ▸ other : Site.judges (.flagOverdue dispute at') = false)
  | completed _ _ _ other => cases (here ▸ other : completed (.flagOverdue dispute at') = some id)

theorem escalatedStep (inv : Inv c) (here : e.before = c.world) (guard : Guard (calls c e) e) (timely : Timely request c.history e)
    {old : EscrowEvent} (inside : old ∈ c.history) {stage : DisputeStage} (escalates : Escalates id stage old = true)
    (found' : e.after.disputes.get? id = some row') (its : row'.stage = stage) : row'.slaStatus ≠ .onTrack := by
  obtain ⟨row,found,same | ⟨moves,moved⟩⟩ := guardRow guard found'
  · simp only [sla,Prod.mk.injEq] at same
    rw [same.2.2]
    exact inv.escalated old inside id stage escalates row (here ▸ found) (same.1 ▸ its)
  · cases moved with
    | flagged _ _ _ _ _ _ _ same =>
      subst same
      nofun
    | started stage' site _ enters _ =>
      obtain rfl : stage' = stage := enters.symm.trans its
      have none : c.history.countP (Escalates id stage') = 0 := timelyStarted timely site moves
      exact absurd escalates (List.countP_eq_zero.mp none old inside)
    | completed _ _ d _ _ _ _ _ recorded _ =>
      rw [recorded]
      unfold DisputeSlaService.completionStatus
      split
      · nofun
      · split
        · split <;> nofun
        · nofun

theorem escalatesOnce (inv : Inv c) (here : e.before = c.world) (guard : Guard (calls c e) e) (timely : Timely request c.history e)
    (id : String) (stage : DisputeStage) : (e :: c.history).countP (Escalates id stage) ≤ 1 := by
  by_cases escalates : Escalates id stage e = true
  · obtain ⟨dispute,at',site,_,its,moves⟩ := escalatesFlag escalates
    obtain ⟨row,_,found,_,rfl,_,onTrack,_⟩ := flagMoves guard site moves
    have current := (timelyFlagged timely site moves found).1
    -- the stage was ON_TRACK, so it has not been escalated before
    have none : c.history.countP (Escalates dispute.id stage) = 0 := List.countP_eq_zero.mpr fun old inside escalated =>
      inv.escalated old inside dispute.id stage escalated row (here ▸ found) (current.trans its) onTrack
    rw [List.countP_cons_of_pos escalates,none]
  · rw [List.countP_cons_of_neg escalates]
    exact inv.kept.once id stage

theorem flagsDue (guard : Guard (calls c e) e) (timely : Timely request c.history e) : FlagsDue e := by
  intro dispute at' site id row row' found found' fresh overdue
  have moves : changed id e = true := by
    refine decide_eq_true fun same => fresh ?_
    rw [found,found'] at same
    exact Option.some.inj same ▸ overdue
  obtain ⟨_,_,_,_,its,due,_⟩ := flagMoves guard site moves
  subst its
  rwa [(timelyFlagged timely site moves found).2]

theorem recordsMet (inv : Inv c) (guard : Guard (calls c e) e) (timely : Timely request c.history e) : RecordsMet e := by
  intro id site row row' found found' differs deadline at' due resolved inTime
  have moves : changed id e = true := by
    refine decide_eq_true fun same => differs ?_
    rw [found,found'] at same
    exact Option.some.inj same
  have judges : Site.judges e.site = true := by
    cases judged : e.site <;> first | rfl | exact absurd (judged ▸ site) nofun
  obtain ⟨_,_,there,there',moved⟩ := guardChanged guard judges moves
  cases there.symm.trans found
  cases there'.symm.trans found'
  cases moved with
  | flagged _ _ other => cases (other ▸ site : completed (.flagOverdue _ _) = some id)
  | started _ _ other => cases judges.symm.trans other
  | completed k rest d _ made clock read resolved' recorded _ =>
    cases resolved.symm.trans resolved'
    have current := timelyCompleted timely site moves found (d := d) (made ▸ (seenOther (by rw [clock]; nofun)).trans read)
    have dueThen : d.responseDeadline = some deadline := current.1.symm.trans due
    rw [recorded,DisputeSlaService.completionStatus,if_neg,dueThen]
    · exact if_neg (Nat.not_lt.mpr inTime)
    · intro overdue
      -- then the deadline is the instant of the decision
      have bound := readLapsed inv made read overdue dueThen
      refine current.2 ⟨overdue,?_⟩
      rw [made,instantClock clock,dueThen,Nat.le_antisymm bound inTime]

theorem invStep (inv : Inv c) (thread : Nat) (site : Site) (i : Answer) (s' : Db)
    (guard : Guard (c.history.filter fun d => d.thread = thread) (c.event thread site i s'))
    (timely : Timely request c.history (c.event thread site i s')) : Inv (c.record thread site i s') := by
  have clock : s'.clock = c.world.clock := guard.clock
  refine ⟨lapsedStep inv rfl guard timely,?_,List.pairwise_cons.mpr ⟨fun e inside => (inv.past e inside).2,inv.ordered⟩,?_,?_,?_,?_⟩
  · intro e inside
    show Lapsed e.before ∧ e.before.clock ≤ s'.clock
    rw [clock]
    rcases List.mem_cons.mp inside with rfl | old
    · exact ⟨inv.lapsed,Nat.le_refl _⟩
    · exact inv.past e old
  · intro e inside id stage escalates row' found' its
    rcases List.mem_cons.mp inside with rfl | old
    · obtain ⟨_,_,here,_,_,moves⟩ := escalatesFlag escalates
      obtain ⟨_,_,_,there,_,_,_,overdue⟩ := flagMoves guard here moves
      cases there.symm.trans found'
      rw [overdue]
      nofun
    · exact escalatedStep inv rfl guard timely old escalates found' its
  · exact List.forall_mem_cons.mpr ⟨flagsDue guard timely,inv.kept.due⟩
  · exact escalatesOnce inv rfl guard timely
  · exact List.forall_mem_cons.mpr ⟨recordsMet inv guard timely,inv.kept.met⟩

theorem invElapsed (inv : Inv c) (elapsed : Nat) : Inv { c with world := { c.world with clock := c.world.clock + elapsed } } where
  lapsed row inside overdue deadline due := Nat.le_add_right_of_le (inv.lapsed row inside overdue deadline due)
  past e inside := ⟨(inv.past e inside).1,Nat.le_add_right_of_le (inv.past e inside).2⟩
  ordered := inv.ordered
  escalated := inv.escalated
  kept := inv.kept

theorem invInitial {db : Db} (lapsed : Lapsed db) : Inv ⟨db,[]⟩ := by
  have none : ∀ {P : EscrowEvent → Prop}, ∀ e ∈ ([] : List EscrowEvent), P e := fun e inside => absurd inside List.not_mem_nil
  exact ⟨lapsed,none,.nil,none,none,fun _ _ => Nat.zero_le 1,none⟩

end Steps

/-- In a run whose calls are all timely, what is flagged is due, each stage is escalated once, and what is
decided in time is recorded as MET. -/
theorem deadlinesKept (self : Config) (db : Db) (lapsed : Lapsed db) (moves : List SlaMove)
    (timely : Meets Timely ((service self).run (Pool.initial db) moves)) :
    KeepsDeadlines ((service self).run (Pool.initial db) moves).history := by
  have start : GuardedPool (fun _ => Guard) Inv (Pool.initial db : SlaPool) := guardedInitial (invInitial lapsed)
  have guarded : GuardedPool (fun _ => Guard) Inv ((service self).run (Pool.initial db) moves) := by
    refine guardedRun ?_ ?_ ?_ start moves timely
    · exact fun request c thread site i s' inv guard timely => invStep inv thread site i s' guard timely
    · exact fun elapsed c inv => invElapsed inv elapsed
    · exact fun request => guardedHandler self request
  exact guarded.holds.kept

def lapsing : Dispute where
  id := "d"
  engagementId := "e"
  milestoneId := "m"
  responseDeadline := some 100

def court : Db where
  users := ⟨[{ id := "a", role := .arbiter },{ id := "b", role := .admin }],by decide⟩
  engagements := .single { id := "e", companyAddress := "GC", recruiterAddress := "GR", arbiterAddress := "GA", totalAmount := 1000 }
  disputes := .single lapsing
  clock := 100

def admin : DisputeActor where
  id := "b"
  role := .admin

-- the job flags the ASSIGNMENT stage, and the next one is decided in time
def inTurn : List SlaMove := List.flatten
  [[.start .flagOverdueDisputes],answered 0 (.replicate 7 {}),
    [.environment 10,.start (.autoAssign "d")],answered 1 (.replicate 8 {}),
    [.environment 10,.start (.decide "d" .release admin)],answered 2 (.replicate 3 {})]

theorem inTurnKept :
    KeepsDeadlines ((service {}).run (Pool.initial court) inTurn).history ∧
    (((service {}).run (Pool.initial court) inTurn).history.filter (Escalates "d" .assignment)).length = 1 ∧
    ((service {}).run (Pool.initial court) inTurn).world.disputes.rows.map Dispute.slaStatus = [.met] :=
  ⟨deadlinesKept {} court (by decide) inTurn (by decide +kernel),by decide +kernel,by decide +kernel⟩

-- an arbiter is assigned between the scan and the flag
def restarted : List SlaMove := List.flatten
  [[.start .flagOverdueDisputes],answered 0 (.replicate 4 {}),[.start (.autoAssign "d")],answered 1 (.replicate 8 {}),answered 0 [{}]]

-- two runs of the job have scanned the dispute, and the second flags it once it is assigned
def scannedTwice : List SlaMove := List.flatten
  [[.start .flagOverdueDisputes,.start .flagOverdueDisputes],answered 0 (.replicate 4 {}),answered 1 (.replicate 4 {}),answered 0 [{}],
    [.start (.autoAssign "d")],answered 2 (.replicate 8 {}),answered 1 [{}]]

-- the job and the decision at the very deadline
def atDeadline : List SlaMove := List.flatten
  [[.start .flagOverdueDisputes],answered 0 (.replicate 7 {}),[.start (.decide "d" .release admin)],answered 1 (.replicate 3 {})]

def assignedTo : Dispute := { lapsing with
  arbiterId := some "a"
  arbiterAssignedAt := some 100
  status := .underReview
  stage := .arbiterReview
  responseDeadline := some 259200100 }

def decidedOverdue : Dispute := { DisputeSlaService.flagged 100 lapsing with
  status := .resolved
  outcome := some .release
  resolvedAt := some 100
  appealDeadline := some 259200100 }

def latest (moves : List SlaMove) : Option EscrowEvent := ((service {}).run (Pool.initial court) moves).history.head?

theorem deadlinesMissed :
    ¬ KeepsDeadlines ((service {}).run (Pool.initial court) restarted).history ∧
    ¬ KeepsDeadlines ((service {}).run (Pool.initial court) scannedTwice).history ∧
    ¬ KeepsDeadlines ((service {}).run (Pool.initial court) atDeadline).history := by
  refine ⟨fun kept => ?_,fun kept => ?_,fun kept => ?_⟩
  · have last : (latest restarted).map (fun e => (e.site,e.before.disputes.get? "d",(e.after.disputes.get? "d").map Dispute.slaStatus)) =
        some (.flagOverdue lapsing 100,some assignedTo,some .overdue) := by decide +kernel
    obtain ⟨e,there,same⟩ := Option.map_eq_some_iff.mp last
    simp only [Prod.mk.injEq,Option.map_eq_some_iff] at same
    obtain ⟨site,found,row',found',overdue⟩ := same
    have due := kept.due e (List.mem_of_mem_head? there) lapsing 100 site "d" assignedTo row' found found' (by rintro ⟨⟩) overdue
    cases due
  · have twice : ((service {}).run (Pool.initial court) scannedTwice).history.countP (Escalates "d" .assignment) = 2 := by decide +kernel
    have once := kept.once "d" .assignment
    omega
  · have last : (latest atDeadline).map (fun e => (e.site,e.before.disputes.get? "d",e.after.disputes.get? "d")) =
        some (.decide "d",some (DisputeSlaService.flagged 100 lapsing),some decidedOverdue) := by decide +kernel
    obtain ⟨e,there,same⟩ := Option.map_eq_some_iff.mp last
    simp only [Prod.mk.injEq] at same
    obtain ⟨site,found,found'⟩ := same
    have met := kept.met e (List.mem_of_mem_head? there) "d" (by rw [site]; rfl) _ _ found found' (by decide) 100 100 rfl rfl (Nat.le_refl _)
    cases met

end HireSettle.Escrow.OverdueDisputes
