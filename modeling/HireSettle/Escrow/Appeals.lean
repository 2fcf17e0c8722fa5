import HireSettle.Escrow.Disputes

/-! Appeals: a party may appeal a decision once within its window, the appeal is
decided for good, and a job settles the decisions whose window has lapsed. Also
the controller that sends a decision to the first tier or to the appeal. -/
namespace HireSettle.Escrow
open Workflow

variable (self : Config)

namespace AppealService

def findAppealable (disputeId : String) : Op (Option (Dispute × Engagement × Option DisputeAppeal)) :=
  findOr .dispute fun db =>
    match db.disputes.get? disputeId with
    | none => .ok none
    | some dispute =>
        match db.engagements.get? dispute.engagementId with
        | none => .error .database
        | some engagement => .ok (some (dispute,engagement,db.appeals.get? disputeId))

def appealable (disputeId : String) (at' : Nat) (row : Dispute) : Bool :=
  row.id = disputeId && row.status = .resolved && !row.isFinal && row.appealDeadline.any (at' ≤ ·)

def underAppeal (appeal : DisputeAppeal) (at' : Nat) (row : Dispute) : Dispute :=
  DisputeSlaService.stageFields self .appealReview at' { row with
    status := if appeal.arbiterId.isSome then .underReview else .opened
    arbiterId := appeal.arbiterId
    arbiterAssignedAt := appeal.arbiterId.map fun _ => at'
    arbiterManuallyAssigned := false
    fundsLocked := true }

-- the transaction: the guarded transition of the dispute and the appeal row
def createAppeal (disputeId : String) (appeal : DisputeAppeal) (at' : Nat) (db : Db) :
    Except Exception (DisputeAppeal × Db) :=
  let (count,updated) := db.updateDisputesWhere (appealable disputeId at') (underAppeal self appeal at')
  if count = 0 then .error (.conflict "The dispute can no longer be appealed")
  else match updated.appeals.create appeal with
    | none => .error .uniqueViolation
    | some appeals => .ok (appeal,{ updated with appeals := appeals })

theorem createAppealCases {self : Config} {disputeId : String} {appeal appeal' : DisputeAppeal} {at' : Nat} {db db' : Db}
    (created : createAppeal self disputeId appeal at' db = .ok (appeal',db')) :
    ∃ dispute disputes appeals, db.disputes.get? disputeId = some dispute ∧ appealable disputeId at' dispute = true ∧
      disputes.get? disputeId = some (underAppeal self appeal at' dispute) ∧
      (∀ other, other ≠ disputeId → disputes.get? other = db.disputes.get? other) ∧
      db.appeals.create appeal = some appeals ∧ db' = { db with disputes := disputes, appeals := appeals } := by
  have byId : ∀ row, appealable disputeId at' row = true → Keyed.key row = disputeId := by
    intro row matched
    simp only [appealable,Bool.and_eq_true,decide_eq_true_eq] at matched
    exact matched.1.1.1
  unfold createAppeal Db.updateDisputesWhere at created
  dsimp only at created
  split at created
  · contradiction
  · rename_i met
    split at created
    · contradiction
    · rename_i appeals made
      cases created
      rcases Table.updateManyCases db.disputes (underAppeal self appeal at') (fun _ => rfl) byId with
        ⟨_,dispute,found,matched,found',elsewhere⟩ | ⟨nothing,_⟩
      · exact ⟨dispute,_,appeals,found,matched,found',elsewhere,made,rfl⟩
      · exact absurd nothing met

-- the notifications of `openAppeal`
def announceAppeal (engagementId appellantId : String) (arbiter : Option User) : Op Unit := do
  notifyParties engagementId (some appellantId)
  match arbiter with
  | some _ => notify
  | none => do
      let admins ← find .user fun db => db.users.findMany fun row => row.role = .admin && row.deactivatedAt.isNone
      .forEach (fun _ => notify) admins

theorem readsAnnounceAppeal (engagementId appellantId : String) (arbiter : Option User) :
    Reads Site.reads (announceAppeal engagementId appellantId arbiter) := by
  refine readsBind (readsNotifyParties _ _) fun _ => ?_
  split
  · exact readsNotify
  · exact readsBind (readsFind _ _) fun admins => stepsForEach (fun _ => readsNotify) admins

def openAppeal (disputeId : String) (user : DisputeActor) (reason : String) : Op DisputeAppeal := do
  let at' ← now
  let found ← findAppealable disputeId
  match found with
  | none => .raise (.notFound s!"Dispute {disputeId} not found")
  | some (dispute,engagement,existing) =>
      if !DisputesService.isParty engagement user then
        .raise (.forbidden "Only the company or recruiter on this engagement may appeal")
      else if existing.isSome then .raise (.conflict "This dispute has already been appealed")
      else if dispute.isFinal then .raise (.conflict "This decision is final and cannot be appealed")
      else match dispute.status,dispute.outcome,dispute.appealDeadline with
        | .resolved, some outcome, some deadline =>
            if deadline < at' then .raise (.unprocessable s!"The appeal window closed at {self.toISOString deadline}")
            else do
              let arbiter ← ArbiterAssignmentService.selectArbiter engagement (present dispute.arbiterId).toList
              let row : DisputeAppeal :=
                { disputeId := disputeId
                  appellantId := user.id
                  reason := reason
                  originalArbiterId := dispute.arbiterId
                  arbiterId := arbiter.map User.id
                  originalOutcome := outcome }
              let appeal ← (write (.openAppeal disputeId) fun _ db => createAppeal self disputeId row at' db).handle
                fun error =>
                  if isUniqueViolation error then .raise (.conflict "This dispute has already been appealed")
                  else .raise error
              announceAppeal dispute.engagementId user.id arbiter
              return appeal
        | _, _, _ => .raise (.unprocessable "No appealable decision has been recorded for this dispute")

def decidedAs (outcome : DisputeOutcome) (at' : Nat) (row : DisputeAppeal) : DisputeAppeal :=
  { row with status := .decided, outcome := some outcome, isFinal := true, decidedAt := some at' }

def finallyResolved (outcome : DisputeOutcome) (slaStatus : DisputeSlaStatus) (at' : Nat) (row : Dispute) : Dispute :=
  { row with
    status := .resolved
    outcome := some outcome
    resolvedAt := some at'
    appealDeadline := some at'
    isFinal := true
    slaStatus := slaStatus }

-- the transaction: the appeal is decided and its dispute becomes final
def recordAppealDecision (disputeId : String) (outcome : DisputeOutcome) (slaStatus : DisputeSlaStatus) (at' : Nat)
    (db : Db) : Except Exception (Unit × Db) :=
  let decides (row : DisputeAppeal) : Bool := row.disputeId = disputeId && row.status = .opened
  if db.appeals.count decides = 0 then .error (.conflict "This appeal has already been decided")
  else do
    let appeals := db.appeals.updateMany decides (decidedAs outcome at')
    let (_,updated) ← { db with appeals := appeals }.updateDispute disputeId (finallyResolved outcome slaStatus at')
    return ((),updated)

theorem recordAppealDecisionCases {disputeId : String} {outcome : DisputeOutcome} {slaStatus : DisputeSlaStatus} {at' : Nat}
    {db db' : Db} (recorded : recordAppealDecision disputeId outcome slaStatus at' db = .ok ((),db')) :
    ∃ dispute appeal disputes appeals, db.disputes.get? disputeId = some dispute ∧
      db.appeals.get? disputeId = some appeal ∧ appeal.status = .opened ∧
      disputes.get? disputeId = some (finallyResolved outcome slaStatus at' dispute) ∧
      (∀ other, other ≠ disputeId → disputes.get? other = db.disputes.get? other) ∧
      appeals.get? disputeId = some (decidedAs outcome at' appeal) ∧
      (∀ other, other ≠ disputeId → appeals.get? other = db.appeals.get? other) ∧
      db' = { db with disputes := disputes, appeals := appeals } := by
  have byId : ∀ row : DisputeAppeal, (row.disputeId = disputeId && row.status = .opened) = true →
      Keyed.key row = disputeId := by
    intro row matched
    simp only [Bool.and_eq_true,decide_eq_true_eq] at matched
    exact matched.1
  unfold recordAppealDecision at recorded
  dsimp only at recorded
  split at recorded
  · contradiction
  · rename_i met
    obtain ⟨out,updated,same⟩ := exceptBind.mp recorded
    cases same
    obtain ⟨dispute,found,_,found',elsewhere,rest⟩ := Db.updateDisputeCases updated
    rcases Table.updateManyCases db.appeals (decidedAs outcome at') (fun _ => rfl) byId with
      ⟨_,appeal,there,matched,there',others⟩ | ⟨nothing,_⟩
    · simp only [Bool.and_eq_true,decide_eq_true_eq] at matched
      rw [rest] at found' elsewhere
      exact ⟨dispute,appeal,_,_,found,there,matched.2,found',elsewhere,there',others,rest⟩
    · exact absurd nothing met

def decideAppeal (disputeId : String) (user : DisputeActor) (outcome : DisputeOutcome) : Op Dispute := do
  let found ← find .dispute fun db => (db.disputes.get? disputeId).map fun row => (row,db.appeals.get? disputeId)
  match found with
  | none => .raise (.notFound s!"Dispute {disputeId} not found")
  | some (dispute,appeal) =>
      if dispute.stage ≠ .appealReview ∨ ¬ appeal.any (fun row => row.status = .opened) then
        .raise (.unprocessable "This dispute has no open appeal")
      else if user.role ≠ .admin ∧ dispute.arbiterId ≠ some user.id then
        .raise (.forbidden "Only the assigned appeal arbiter can decide this appeal")
      else do
        let at' ← now
        write (.decideAppeal disputeId) fun _ db =>
          recordAppealDecision disputeId outcome (DisputeSlaService.completionStatus dispute at') at' db
        notifyParties dispute.engagementId
        DisputesService.settle self disputeId

def expireWindow (at' : Nat) (dispute : Dispute) : Op Nat :=
  if dispute.isFinal then return 1
  else write (.expireAppealWindow dispute.id) fun _ db => .ok (db.updateDisputesWhere
    (fun row => row.id = dispute.id && row.status = .resolved && !row.isFinal && row.appealDeadline.any (· < at'))
    (fun row => { row with isFinal := true }))

-- one round of the job's loop
def finalize (at' : Nat) (settled : Nat) (dispute : Dispute) : Op Nat := do
  let count ← expireWindow at' dispute
  if count = 0 then return settled
  else
    (do
      let _ ← DisputesService.settle self dispute.id
      return settled + 1 : Op Nat).handle fun _ => return settled

def finalizeExpiredAppealWindows : Op Nat := do
  let at' ← now
  let locked ← DistributedLockService.tryAcquireLock
  if !locked then return 0
  else do
    let settled ← (do
      let expired ← find .dispute fun db =>
        db.disputes.findMany fun row => row.status = .resolved && row.appealDeadline.any (· < at')
      .foldEach (finalize self at') 0 expired : Op Nat).handle fun error => do
        DistributedLockService.releaseLock
        .raise error
    DistributedLockService.releaseLock
    return settled

end AppealService

def DisputesController.decide (id : String) (outcome : DisputeOutcome) (user : DisputeActor) : Op Dispute := do
  let found ← ArbiterAssignmentService.findDispute id
  match found with
  | none => .raise (.notFound s!"Dispute {id} not found")
  | some dispute =>
      if dispute.stage = .appealReview then AppealService.decideAppeal self id user outcome
      else DisputesService.decide self dispute outcome (some user)

end HireSettle.Escrow
