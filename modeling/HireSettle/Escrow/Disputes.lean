import HireSettle.Escrow.Database

/-! Disputes: the row that shadows a disputed milestone, the arbiter it is routed
to, the first-tier decision and the settlement. A decision with an appeal window
leaves the funds locked; a final one is claimed (RESOLVED to CLOSED) and settled
on-chain, and the claim is undone when the chain call throws. -/
namespace HireSettle.Escrow
open Workflow

def ACTIVE_DISPUTE_STATUSES : List DisputeStatus := [.opened,.underReview]

def Dispute.active (dispute : Dispute) : Bool := dispute.status ∈ ACTIVE_DISPUTE_STATUSES

variable (self : Config)

namespace DisputeSlaService

def deadlineFor (stage : DisputeStage) (from' : Nat) : Nat := from' + self.slaHours stage * HOUR_MS

def stageFields (stage : DisputeStage) (from' : Nat) (dispute : Dispute) : Dispute :=
  { dispute with
    stage := stage
    responseDeadline := some (deadlineFor self stage from')
    slaStatus := .onTrack
    slaEscalatedAt := none }

def completionStatus (dispute : Dispute) (at' : Nat) : DisputeSlaStatus :=
  if dispute.slaStatus = .overdue then .overdue
  else match dispute.responseDeadline with
    | some deadline => if deadline < at' then .overdue else .met
    | none => .met

def overdueDisputes (at' : Nat) (db : Db) : List Dispute :=
  db.disputes.findMany fun row => row.active && row.slaStatus = .onTrack && row.responseDeadline.any (· ≤ at')

def flagged (at' : Nat) (row : Dispute) : Dispute := { row with slaStatus := .overdue, slaEscalatedAt := some at' }

-- one round of the job's loop
def flag (at' : Nat) (admins : List User) (flagged' : Nat) (dispute : Dispute) : Op Nat := do
  let count ← write (.flagOverdue dispute at') fun _ db => .ok (db.updateDisputesWhere
    (fun row => row.id = dispute.id && row.slaStatus = .onTrack && row.active) (flagged at'))
  if count = 0 then return flagged'
  else do
    .forEach (fun _ => notify) admins
    return flagged' + 1

def flagOverdueDisputes : Op Nat := do
  let at' ← now
  let locked ← DistributedLockService.tryAcquireLock
  if !locked then return 0
  else do
    let flagged ← (do
      let overdue ← find .dispute (overdueDisputes at')
      if overdue = [] then return 0
      else do
        let admins ← find .user fun db => db.users.findMany fun row => row.role = .admin && row.deactivatedAt.isNone
        .foldEach (flag at' admins) 0 overdue : Op Nat).handle fun error => do
          DistributedLockService.releaseLock
          .raise error
    DistributedLockService.releaseLock
    return flagged

end DisputeSlaService

def notifyParties (engagementId : String) (excludeUserId : Option String := none) : Op Unit := do
  let engagement ← find .engagement fun db => db.engagements.get? engagementId
  match engagement with
  | none => return
  | some engagement => .forEach (fun userId =>
      match present userId with
      | none => .ret ()
      | some id => if some id = excludeUserId then .ret () else notify) [engagement.companyId,engagement.recruiterId]

theorem readsNotifyParties (engagementId : String) (excludeUserId : Option String) :
    Reads Site.reads (notifyParties engagementId excludeUserId) := by
  refine readsBind (readsFind _ _) fun engagement => ?_
  split
  · trivial
  · refine stepsForEach (fun userId => ?_) _
    split
    · trivial
    · split
      · trivial
      · exact readsNotify

namespace ArbiterAssignmentService

def conflictedArbiterIds (engagement : Engagement) : Op (List String) := do
  let recusals ← find .recusal fun db => db.recusals.findMany (fun row => row.engagementId = engagement.id)
  return recusals.map ArbiterRecusal.arbiterId ++
    (present engagement.companyId).toList ++ (present engagement.recruiterId).toList

def standing (a b : User) : Prop := a.createdAt < b.createdAt ∨ a.createdAt = b.createdAt ∧ a.id ≤ b.id

instance : DecidableRel standing := fun _ _ => inferInstanceAs (Decidable (_ ∨ _))

def candidates (db : Db) (conflicted : List String) : List User :=
  (db.users.findMany fun user => user.role = .arbiter && user.deactivatedAt.isNone && user.deletedAt.isNone &&
    user.id ∉ conflicted).insertionSort standing

def isPartyAddress (engagement : Engagement) (arbiter : User) : Bool :=
  match present arbiter.stellarAddress with
  | some address => address = engagement.companyAddress || address = engagement.recruiterAddress
  | none => false

def leastLoaded (load : String → Nat) : List User → Option User
  | [] => none
  | arbiter :: rest => some (rest.foldl (fun best next => if load next.id < load best.id then next else best) arbiter)

def selectArbiter (engagement : Engagement) (exclude : List String := []) : Op (Option User) := do
  let conflicted ← conflictedArbiterIds engagement
  let arbiters ← find .user fun db => candidates db (conflicted ++ exclude)
  let eligible := arbiters.filter (fun arbiter => !isPartyAddress engagement arbiter)
  if eligible = [] then return none
  else do
    let load ← find .dispute fun db => fun (id : String) =>
      db.disputes.count (fun dispute => dispute.arbiterId = some id && dispute.active)
    return leastLoaded load eligible

theorem readsSelectArbiter (engagement : Engagement) (exclude : List String) :
    Reads Site.reads (selectArbiter engagement exclude) := by
  refine readsBind (readsBind (readsFind _ _) fun _ => trivial) fun conflicted => ?_
  refine readsBind (readsFind _ _) fun arbiters => ?_
  dsimp only
  split
  · trivial
  · exact readsBind (readsFind _ _) fun load => trivial

def findDispute (disputeId : String) : Op (Option Dispute) := find .dispute fun db => db.disputes.get? disputeId

def findWithEngagement (disputeId : String) : Op (Option (Dispute × Engagement)) :=
  findOr .dispute fun db =>
    match db.disputes.get? disputeId with
    | none => .ok none
    | some dispute =>
        match db.engagements.get? dispute.engagementId with
        | none => .error .database
        | some engagement => .ok (some (dispute,engagement))

def autoAssign (disputeId : String) : Op (Option Dispute) := do
  let found ← findWithEngagement disputeId
  match found with
  | none => return none
  | some (dispute,engagement) =>
      if (present dispute.arbiterId).isSome ∨ dispute.arbiterManuallyAssigned = true ∨ dispute.status ≠ .opened then
        return some dispute
      else do
        let selected ← selectArbiter engagement
        match selected with
        | none => return some dispute
        | some arbiter => do
            let at' ← now
            let count ← write (.assignArbiter disputeId) fun _ db => .ok (db.updateDisputesWhere
              (fun row => row.id = disputeId && row.arbiterId.isNone && !row.arbiterManuallyAssigned)
              (fun row => DisputeSlaService.stageFields self .arbiterReview at'
                { row with
                  arbiterId := some arbiter.id
                  arbiterAssignedAt := some at'
                  status := .underReview }))
            if count ≠ 0 then notify
            findDispute disputeId

def overridden (dispute : Dispute) (arbiterId : String) (at' : Nat) (row : Dispute) : Dispute :=
  let assigned : Dispute := { row with
    arbiterId := some arbiterId
    arbiterAssignedAt := some at'
    arbiterManuallyAssigned := true
    status := .underReview }
  if dispute.stage = .assignment then DisputeSlaService.stageFields self .arbiterReview at' assigned else assigned

theorem overriddenId (dispute : Dispute) (arbiterId : String) (at' : Nat) (row : Dispute) :
    (overridden self dispute arbiterId at' row).id = row.id := by
  unfold overridden
  dsimp only
  split <;> rfl

def reassign (disputeId arbiterId : String) (db : Db) : Except Exception (Unit × Db) := do
  let (_,appeals) ← required (db.appeals.modify disputeId fun row => { row with arbiterId := some arbiterId })
  return ((),{ db with appeals := appeals })

def applyManualOverride (engagementId arbiterId : String) : Op Nat := do
  let disputes ← find .dispute fun db => (db.disputes.findMany fun row => row.engagementId = engagementId && row.active).map
    fun row => (row,db.appeals.get? row.id)
  .foldEach (fun updated (dispute,appeal) => do
    let isAppeal := dispute.stage = .appealReview
    if isAppeal ∧ appeal.any (fun row => row.originalArbiterId = some arbiterId) = true then return updated
    else do
      let at' ← now
      let _ ← write (.overrideArbiter dispute.id) fun _ db =>
        db.updateDispute dispute.id (overridden self dispute arbiterId at') (overriddenId self dispute arbiterId at')
      if isAppeal ∧ appeal.isSome = true then write (.overrideAppeal dispute.id) fun _ db => reassign dispute.id arbiterId db
      return updated + 1) 0 disputes

end ArbiterAssignmentService

namespace DisputesService

def computeArbiterFee (milestoneAmount : Int) : Int :=
  if self.arbiterFeeValue ≤ 0 then 0
  else match self.arbiterFeeType with
    | .flat => (self.arbiterFeeValue + 50) / 100
    | .percent => (milestoneAmount * self.arbiterFeeValue).tdiv 10000

def recordArbiterPayout (dispute : Dispute) (milestoneAmount : Int) : Op (Option ArbiterPayout) :=
  match present dispute.arbiterId with
  | none => return none
  | some arbiterId => do
      let amount := computeArbiterFee self milestoneAmount
      if amount ≤ 0 then return none
      else do
        let existing ← find .payout fun db => db.payouts.get? dispute.id
        match existing with
        | some payout => return some payout
        | none => do
            let payout ← write (.createPayout dispute.id) fun _ db =>
              let row : ArbiterPayout := ⟨dispute.id,arbiterId,amount⟩
              match db.payouts.create row with
              | none => .error .uniqueViolation
              | some payouts => .ok (row,{ db with payouts := payouts })
            return some payout

theorem stepsRecordArbiterPayout {at' : Site → Bool} {R : Db → Db → Prop}
    (reads : ∀ site, site.reads = true → at' site = true) (creates : ∀ id, at' (.createPayout id) = true)
    (stays : ∀ db, R db db) (payouts : ∀ db payouts, R db { db with payouts := payouts })
    (dispute : Dispute) (milestoneAmount : Int) :
    Steps at' R (recordArbiterPayout self dispute milestoneAmount) := by
  unfold recordArbiterPayout
  split
  · trivial
  · dsimp only
    split
    · trivial
    · refine stepsBind (stepsQuery (reads _ rfl) stays _) fun existing => ?_
      split
      · trivial
      · refine stepsBind (stepsWrite (creates _) stays ?_) fun _ => trivial
        intro i db value after ok
        split at ok
        · contradiction
        · cases ok
          exact payouts db _

def openForMilestone (milestoneId : String) (reason raisedById : Option String := none) : Op Dispute := do
  let existing ← find .dispute fun db =>
    db.disputes.findFirst (fun row => row.milestoneId = milestoneId && row.status ≠ .closed)
  match existing with
  | some dispute => return dispute
  | none => do
      let found ← find .milestone fun db => db.milestones.get? milestoneId
      match found with
      | none => .raise (.notFound s!"Milestone {milestoneId} not found")
      | some milestone => do
          let at' ← now
          let dispute ← write (.openDispute milestoneId) fun answer db =>
            let row := DisputeSlaService.stageFields self .assignment at'
              { id := answer.text
                engagementId := milestone.engagementId
                milestoneId := milestoneId
                raisedById := raisedById
                reason := reason.or milestone.disputeReason
                evidenceDeadline := some (at' + self.evidenceWindowHours * HOUR_MS)
                createdAt := db.clock }
            match db.disputes.create row with
            | none => .error .uniqueViolation
            | some disputes => .ok (row,{ db with disputes := disputes })
          let assigned ← ArbiterAssignmentService.autoAssign self dispute.id
          return assigned.getD dispute

def isParty (engagement : Engagement) (user : DisputeActor) : Bool :=
  (user.id ≠ "" && (some user.id = engagement.companyId || some user.id = engagement.recruiterId)) ||
  (present user.stellarAddress).any fun address =>
    address = engagement.companyAddress || address = engagement.recruiterAddress

-- the try of the settlement: the refund row and the on-chain call
def payOut (dispute : Dispute) (milestone : Milestone) (approved : Bool) (amount : Int) : Op Unit := do
  if !approved then
    write (.refundMilestone milestone.id) fun _ db => .ok ((),db.upsertRefund
      { milestoneId := milestone.id
        amount := amount
        status := .pending
        reason := some "Resolved dispute in favor of the company" })
  stellar (.resolveMilestoneDispute (some dispute.id) dispute.engagementId milestone.milestoneIndex approved) fun _ => ()

def findWithMilestone (disputeId : String) : Op (Dispute × Milestone) :=
  findOr .dispute fun db =>
    match db.disputes.get? disputeId with
    | none => .error .recordNotFound
    | some dispute =>
        match db.milestones.get? dispute.milestoneId with
        | none => .error .database
        | some milestone => .ok (dispute,milestone)

def unclaim (disputeId : String) (error : Exception) : Op Unit := do
  let _ ← write (.unclaimSettlement disputeId) fun _ db => db.updateDispute disputeId fun row =>
    { row with status := .resolved }
  .raise error

def settleable (disputeId : String) (row : Dispute) : Bool :=
  row.id = disputeId && row.status = .resolved && row.isFinal && row.fundsReleasedAt.isNone

theorem settleableIff {disputeId : String} {row : Dispute} : settleable disputeId row = true ↔
    row.id = disputeId ∧ row.status = .resolved ∧ row.isFinal = true ∧ row.fundsReleasedAt = none := by
  simp only [settleable,Bool.and_eq_true,decide_eq_true_eq,Option.isNone_iff_eq_none,and_assoc]

def claimSettlement (disputeId : String) : Op Nat :=
  write (.claimSettlement disputeId) fun _ db =>
    .ok (db.updateDisputesWhere (settleable disputeId) fun row => { row with status := .closed })

-- what `settle` writes once the chain call has returned
def recordSettlement (dispute : Dispute) (milestone : Milestone) (approved : Bool) (amount : Int) : Op Dispute := do
  let at' ← now
  let _ ← write (.settleMilestone dispute.id) fun _ db => db.updateMilestone milestone.id fun row =>
    { row with
      status := if approved then .resolved else .pending
      paymentReleased := if approved ∧ amount ≠ 0 then some amount else row.paymentReleased
      confirmedAt := if approved ∧ amount ≠ 0 then some at' else row.confirmedAt }
  let settled ← write (.unlockFunds dispute.id) fun _ db => db.updateDispute dispute.id fun row =>
    { row with fundsLocked := false, fundsReleasedAt := some at' }
  let _ ← recordArbiterPayout self dispute amount
  notifyParties dispute.engagementId
  return settled

def settle (disputeId : String) : Op Dispute := do
  let count ← claimSettlement disputeId
  let (dispute,milestone) ← findWithMilestone disputeId
  if count = 0 then return dispute
  else do
    let approved := dispute.outcome = some .release
    let amount := milestone.amount.getD 0
    (payOut dispute milestone approved amount).handle (unclaim disputeId)
    recordSettlement self dispute milestone approved amount

def decide (dispute : Dispute) (outcome : DisputeOutcome) (actor : Option DisputeActor) : Op Dispute :=
  if dispute.status = .resolved then
    .raise (.conflict "A decision has already been recorded for this dispute")
  else if dispute.stage = .appealReview then
    .raise (.conflict "This dispute is under appeal; the appeal arbiter must decide it")
  else if actor.any (fun actor => actor.role ≠ .admin &&
      (present dispute.arbiterId).any fun arbiterId => arbiterId ≠ actor.id) then
    .raise (.forbidden "Only the assigned arbiter can decide this dispute")
  else do
    let at' ← now
    let deferred := 0 < self.appealWindowHours
    let appealDeadline := at' + (if deferred then self.appealWindowHours * HOUR_MS else 0)
    let count ← write (.decide dispute.id) fun _ db => .ok (db.updateDisputesWhere
      (fun row => row.id = dispute.id && row.active)
      (fun row => { row with
        status := .resolved
        outcome := some outcome
        resolvedAt := some at'
        appealDeadline := some appealDeadline
        slaStatus := DisputeSlaService.completionStatus dispute at'
        fundsLocked := true
        isFinal := !deferred }))
    if count = 0 then .raise (.conflict "The dispute is no longer awaiting a decision")
    else if ¬ deferred then settle self dispute.id
    else do
      let updated ← findOr .dispute fun db => required (db.disputes.get? dispute.id)
      notifyParties updated.engagementId
      return updated

def newestFirst (a b : Dispute) : Prop := b.createdAt ≤ a.createdAt

instance : DecidableRel newestFirst := fun _ _ => inferInstanceAs (Decidable (_ ≤ _))

def recordDecision (milestoneId : String) (outcome : DisputeOutcome) (actor : Option DisputeActor) :
    Op (Option Dispute) := do
  let found ← find .dispute fun db =>
    ((db.disputes.findMany fun row => row.milestoneId = milestoneId && row.status ≠ .closed).insertionSort newestFirst).head?
  match found with
  | none => return none
  | some dispute => do
      let decided ← decide self dispute outcome actor
      return some decided

def markSettledOnChain (milestoneId : String) : Op Nat := do
  let at' ← now
  write (.markSettledOnChain milestoneId) fun _ db => .ok (db.updateDisputesWhere
    (fun row => row.milestoneId = milestoneId && row.fundsReleasedAt.isNone)
    (fun row => { row with
      status := .closed
      isFinal := true
      fundsLocked := false
      fundsReleasedAt := some at' }))

end DisputesService

end HireSettle.Escrow
