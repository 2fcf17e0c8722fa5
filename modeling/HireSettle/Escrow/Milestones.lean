import HireSettle.Escrow.ProofVersions
import HireSettle.Escrow.Disputes

/-! Milestones from the first unlock to the payment: approval by several users,
confirmation, dispute, retention unlocks, and the two operations that change the
list of milestones of an engagement. -/
namespace HireSettle.Escrow
open Workflow

structure PercentAdjustment where
  milestoneIndex : Nat
  paymentPercent : Int
  deriving DecidableEq, Repr

structure ApprovalResult where
  approvals : Nat
  requiredApprovals : Nat
  confirmed : Bool
  milestone : Option Milestone := none

def byIndex (a b : Milestone) : Prop := a.milestoneIndex ≤ b.milestoneIndex

instance : DecidableRel byIndex := fun _ _ => inferInstanceAs (Decidable (_ ≤ _))

def Db.milestonesOf (db : Db) (engagementId : String) : List Milestone :=
  (db.milestones.findMany fun row => row.engagementId = engagementId).insertionSort byIndex

-- `!!n`
def nonzero (n : Option Int) : Option Int := n.filter (· ≠ 0)

def ledgerToDateTime (targetLedger currentLedger : Int) (at' : Nat) : Int :=
  at' + (targetLedger - currentLedger) * 5 * 1000

def scheduleFor (m : Milestone) (validAfterLedger unlockAt : Int) : RetentionSchedule :=
  { engagementId := m.engagementId
    milestoneIndex := m.milestoneIndex
    validAfterLedger := validAfterLedger
    unlockAt := unlockAt
    notifyAt := unlockAt - 3 * DAY_MS }

variable (self : Config)

namespace MilestonesService

def findOne (engagementId : String) (milestoneIndex : Nat) : Op Milestone :=
  findOr .milestone fun db =>
    match db.milestoneAt engagementId milestoneIndex with
    | none => .error (.notFound s!"Milestone {milestoneIndex} not found on engagement {engagementId}")
    | some milestone => .ok milestone

def bulkMilestone (engagementId : String) (startIndex : Nat) (currentLedger : Int) (at' : Nat) (id : String)
    (offset : Nat) (item : MilestoneInput) : Milestone :=
  let days := if item.kind = .retention then nonzero item.retentionDays else none
  let validAfterLedger := days.map fun days => currentLedger + days * LEDGERS_PER_DAY
  { id := s!"{id}/{offset}"
    engagementId := engagementId
    milestoneIndex := startIndex + offset
    name := item.name
    kind := item.kind
    paymentPercent := item.paymentPercent
    retentionDays := if item.kind = .retention then item.retentionDays else none
    validAfterLedger := validAfterLedger
    unlockEstimatedAt := (nonzero validAfterLedger).map fun ledger => ledgerToDateTime ledger currentLedger at'
    status := if item.kind = .retention then .locked else .pending }

def scheduleOf (m : Milestone) : Option RetentionSchedule :=
  match m.kind, m.unlockEstimatedAt, nonzero m.validAfterLedger with
  | .retention, some unlockAt, some validAfterLedger => some (scheduleFor m validAfterLedger unlockAt)
  | _, _, _ => none

def bulkCreate (engagementId : String) (items : List MilestoneInput) (user : PartyUser) : Op (List Milestone) := do
  let found ← find .engagement fun db => db.engagements.get? engagementId
  match found with
  | none => .raise (.notFound s!"Engagement {engagementId} not found")
  | some engagement =>
      if user.role ≠ some .admin ∧ some engagement.companyAddress ≠ user.stellarAddress then
        .raise (.forbidden "Only the company party may add milestones to this engagement")
      else do
        let last ← find .milestone fun db => (db.milestonesOf engagementId).getLast?
        let startIndex := match last with
          | some m => m.milestoneIndex + 1
          | none => 0
        let currentLedger ← stellar .getLatestLedger Answer.number
        let at' ← now
        write (.bulkCreate engagementId) fun answer db => do
          let created := items.mapIdx (bulkMilestone engagementId startIndex currentLedger at' answer.text)
          let db ← created.foldlM Db.createMilestone db
          let db ← (created.filterMap scheduleOf).foldlM Db.createSchedule db
          return (created,db)

def unlockRetentionOnChain (milestoneId : String) : Op Unit := do
  let found ← find .milestone fun db => db.milestones.get? milestoneId
  match found with
  | none => return
  | some milestone => do
      stellar (.unlockRetentionMilestone milestone.engagementId milestone.milestoneIndex) fun _ => ()
      let _ ← write (.markUnlocked milestoneId) fun _ db =>
        db.updateMilestone milestoneId (fun row => { row with status := .pending }) (Milestone.statusId .pending)
      write .unlockSchedule fun _ db => .ok ((),{ db with
        schedules := db.schedules.updateMany
          (fun row => row.engagementId = milestone.engagementId && row.milestoneIndex = milestone.milestoneIndex)
          fun row => { row with unlocked := true } })

def markConfirmed (engagementId : String) (milestoneIndex : Nat) (paymentReleased : Int) : Op Milestone := do
  let at' ← now
  write (.markConfirmed engagementId milestoneIndex) fun _ db => db.updateMilestoneAt engagementId milestoneIndex fun row =>
    { row with status := .confirmed, paymentReleased := some paymentReleased, confirmedAt := some at' }

def assertReviewable (milestoneId : String) (versionNumber : Option Nat) : Op (Option MilestoneProofVersion) :=
  if self.proofVersions then ProofVersionsService.assertReviewable milestoneId versionNumber
  else .raise .typeError

def markApproved (milestoneId : String) (reviewedById : Option String) : Op (Option MilestoneProofVersion) :=
  if self.proofVersions then ProofVersionsService.markApproved milestoneId reviewedById
  else .raise .typeError

def recordVersion (milestoneId : String) (input : ProofInput) : Op MilestoneProofVersion :=
  if self.proofVersions then ProofVersionsService.recordVersion milestoneId input
  else .raise .typeError

def findEngagement (engagementId : String) : Op Engagement :=
  findOr .engagement fun db =>
    match db.engagements.get? engagementId with
    | none => .error (.notFound "Engagement not found")
    | some engagement => .ok engagement

-- `requiredApprovals || 1`
def requiredApprovals (engagement : Engagement) : Nat :=
  if engagement.requiredApprovals = 0 then 1 else engagement.requiredApprovals

def findApproval (milestoneId userId : String) : Op (Option MilestoneApproval) :=
  find .approval fun db => db.approvals.get? (milestoneId,userId)

def createApproval (milestoneId userId : String) : Op Unit :=
  write (.createApproval milestoneId) fun _ db =>
    match db.approvals.create ⟨milestoneId,userId⟩ with
    | none => .error .uniqueViolation
    | some approvals => .ok ((),{ db with approvals := approvals })

def getApprovalCount (milestoneId : String) : Op Nat :=
  find .approval fun db => db.approvals.count fun row => row.milestoneId = milestoneId

-- the payment that a complete approval makes
def payOut (milestone : Milestone) (engagementId : String) (milestoneIndex : Nat) (reviewedById : Option String) :
    Op Milestone := do
  stellar (.releaseMilestonePayment engagementId milestoneIndex) fun _ => ()
  let updated ← markConfirmed engagementId milestoneIndex (milestone.amount.getD 0)
  let _ ← markApproved self milestone.id reviewedById
  return updated

def approveMilestone (engagementId : String) (milestoneIndex : Nat) (userId : String) (proofVersion : Option Nat) :
    Op ApprovalResult := do
  let milestone ← findOne engagementId milestoneIndex
  if milestone.status ≠ .proofSubmitted then
    .raise (.unprocessable "Milestone must have proof submitted before approval.")
  else do
    let _ ← assertReviewable self milestone.id proofVersion
    let engagement ← findEngagement engagementId
    let existingApproval ← findApproval milestone.id userId
    if existingApproval.isSome then .raise (.badRequest "You have already approved this milestone.")
    else do
      createApproval milestone.id userId
      let approvalCount ← getApprovalCount milestone.id
      if approvalCount < requiredApprovals engagement then return ⟨approvalCount,requiredApprovals engagement,false,none⟩
      else do
        let updated ← payOut self milestone engagementId milestoneIndex (some userId)
        match present engagement.recruiterId with
        | none => return ⟨approvalCount,requiredApprovals engagement,true,some updated⟩
        | some _ => do
            createNotification
            return ⟨approvalCount,requiredApprovals engagement,true,some updated⟩

-- the approval that a named user gives by confirming
def approveOnce (milestoneId : String) : Option String → Op Unit
  | none => return
  | some userId => do
      let existingApproval ← findApproval milestoneId userId
      if existingApproval.isSome then return
      else createApproval milestoneId userId

def confirmFlow (engagementId : String) (milestoneIndex : Nat) (userId : Option String) :
    Op (ApprovalResult ⊕ Milestone) := do
  let milestone ← findOne engagementId milestoneIndex
  if milestone.status ≠ .proofSubmitted then
    .raise (.unprocessable "Milestone proof must be submitted before confirmation.")
  else do
    let _ ← assertReviewable self milestone.id none
    let engagement ← findEngagement engagementId
    approveOnce milestone.id (present userId)
    let approvalCount ← getApprovalCount milestone.id
    if approvalCount < requiredApprovals engagement then
      return .inl ⟨approvalCount,requiredApprovals engagement,false,none⟩
    else do
      let updated ← payOut self milestone engagementId milestoneIndex userId
      createNotification
      return .inr updated

def markProofSubmitted (engagementId : String) (milestoneIndex : Nat) (proofHash : String) : Op Milestone := do
  let updated ← write (.proofSubmittedAt engagementId milestoneIndex) fun _ db =>
    db.updateMilestoneAt engagementId milestoneIndex fun row =>
      { row with proofHash := some proofHash, status := .proofSubmitted }
  let _ ← recordVersion self updated.id { proofHash := some proofHash }
  return updated

def submitProofFlow (engagementId : String) (milestoneIndex : Nat) (proofHash : String) : Op Milestone := do
  let milestone ← findOne engagementId milestoneIndex
  if milestone.status ≠ .pending then .raise (.unprocessable "Milestone must be PENDING to submit proof.")
  else do
    let updated ← markProofSubmitted self engagementId milestoneIndex proofHash
    let engagement ← find .engagement fun db => db.engagements.get? engagementId
    match engagement with
    | none => return updated
    | some _ => do
        createNotification
        return updated

def disputeFlow (engagementId : String) (milestoneIndex : Nat) (reason : String) : Op Milestone := do
  let milestone ← findOne engagementId milestoneIndex
  if milestone.status ≠ .proofSubmitted then
    .raise (.unprocessable "Can only dispute milestones that have proof submitted.")
  else do
    let updated ← write (.markDisputed engagementId milestoneIndex) fun _ db =>
      db.updateMilestoneAt engagementId milestoneIndex fun row =>
        { row with status := .disputed, disputeReason := some reason }
    let _ ← DisputesService.openForMilestone self milestone.id (some reason)
    let engagement ← find .engagement fun db => db.engagements.get? engagementId
    match engagement with
    | none => return updated
    | some engagement => do
        .forEach (fun _ => createNotification)
          ([engagement.companyId,engagement.recruiterId,engagement.arbiterId].filterMap present)
        return updated

def markResolved (engagementId : String) (milestoneIndex : Nat) (approved : Bool) (paymentReleased : Option Int) :
    Op Milestone := do
  let paid := if approved then nonzero paymentReleased else none
  let at' ← now
  let updated ← write (.markResolved engagementId milestoneIndex) fun _ db =>
    db.updateMilestoneAt engagementId milestoneIndex fun row =>
      { row with
        status := if approved then .resolved else .pending
        paymentReleased := paid.or row.paymentReleased
        confirmedAt := if paid.isSome then some at' else row.confirmedAt }
  let _ ← DisputesService.markSettledOnChain updated.id
  return updated

def markUnlocked (engagementId : String) (milestoneIndex : Nat) : Op Milestone :=
  write (.markUnlockedAt engagementId milestoneIndex) fun _ db =>
    db.updateMilestoneAt engagementId milestoneIndex (fun row => { row with status := .pending }) (Milestone.statusId .pending)

def markDisputed (engagementId : String) (milestoneIndex : Nat) : Op Milestone := do
  let updated ← write (.markDisputed engagementId milestoneIndex) fun _ db =>
    db.updateMilestoneAt engagementId milestoneIndex fun row => { row with status := .disputed }
  let _ ← DisputesService.openForMilestone self updated.id
  return updated

def deleteApprovals (milestoneId : String) : Op Unit :=
  write (.deleteApprovals milestoneId) fun _ db => .ok ((),{ db with
    approvals := db.approvals.deleteMany fun row => row.milestoneId = milestoneId })

def resetPlacement (m : Milestone) : Op Unit := do
  let _ ← write (.resetMilestone m.id) fun _ db => db.updateMilestone m.id fun row =>
    { row with status := .pending, proofHash := none, confirmedAt := none, paymentReleased := none }
  deleteApprovals m.id

def resetRetention (engagementId : String) (currentLedger : Int) (m : Milestone) : Op Unit := do
  let validAfterLedger := match nonzero m.retentionDays with
    | some days => some (currentLedger + days * LEDGERS_PER_DAY)
    | none => m.validAfterLedger
  let at' ← now
  let unlockAt := match nonzero validAfterLedger with
    | some ledger => some (ledgerToDateTime ledger currentLedger at')
    | none => m.unlockEstimatedAt
  let _ ← write (.resetMilestone m.id) fun _ db => db.updateMilestone m.id fun row =>
    { row with status := .locked, proofHash := none, validAfterLedger := validAfterLedger, unlockEstimatedAt := unlockAt }
  deleteApprovals m.id
  match unlockAt,validAfterLedger with
  | none, _ => .raise .typeError
  | some _, none => .raise .database
  | some unlockAt, some validAfterLedger =>
      let schedule := scheduleFor { m with engagementId := engagementId } validAfterLedger unlockAt
      write (.upsertSchedule engagementId m.milestoneIndex) fun _ db => .ok ((),{ db with
        schedules := db.schedules.upsert schedule fun row =>
          { row with
            validAfterLedger := schedule.validAfterLedger
            unlockAt := schedule.unlockAt
            notifyAt := schedule.notifyAt
            unlocked := false
            notified := false } })

def resetForReplacement (engagementId : String) (currentLedger : Int) : Op Unit := do
  let milestones ← find .milestone fun db => db.milestonesOf engagementId
  .forEach (fun m =>
    match m.kind with
    | .placement => resetPlacement m
    | .retention =>
        if m.status = .confirmed ∨ m.status = .resolved then .ret ()
        else resetRetention engagementId currentLedger m) milestones

-- a dispute without a tracked row is settled at once
def resolveUntracked (milestone : Milestone) (engagementId : String) (milestoneIndex : Nat) (resolution : DisputeOutcome) :
    Op Milestone := do
  let approved := resolution = .release
  if !approved then
    write (.refundMilestone milestone.id) fun _ db => .ok ((),db.upsertRefund
      { milestoneId := milestone.id
        amount := milestone.amount.getD 0
        status := .pending
        reason := some "Resolved dispute in favor of the company" })
  stellar (.resolveMilestoneDispute none engagementId milestoneIndex approved) fun _ => ()
  let updated ← markResolved engagementId milestoneIndex approved
    (if approved then some (milestone.amount.getD 0) else none)
  let engagement ← find .engagement fun db => db.engagements.get? engagementId
  match engagement with
  | none => return updated
  | some engagement => do
      .forEach (fun _ => createNotification) [engagement.companyId,engagement.recruiterId]
      return updated

def resolveDisputeFlow (engagementId : String) (milestoneIndex : Nat) (resolution : DisputeOutcome)
    (actor : Option DisputeActor) : Op (Milestone × Option Dispute) := do
  let milestone ← findOne engagementId milestoneIndex
  if milestone.status ≠ .disputed then .raise (.unprocessable "Milestone is not under an active dispute phase.")
  else do
    let dispute ← DisputesService.recordDecision self milestone.id resolution actor
    match dispute with
    | some dispute => do
        let current ← findOne engagementId milestoneIndex
        return (current,some dispute)
    | none => do
        let updated ← resolveUntracked milestone engagementId milestoneIndex resolution
        return (updated,none)

-- the entry of the map of new percentages
def adjustedPercent (adjustments : List PercentAdjustment) (m : Milestone) : Int :=
  match (adjustments.filter fun adj => adj.milestoneIndex = m.milestoneIndex).getLast? with
  | some adj => adj.paymentPercent
  | none => m.paymentPercent

def checkAdjustment (milestones : List Milestone) (adj : PercentAdjustment) : Except Exception Milestone :=
  match milestones.find? fun m => m.milestoneIndex = adj.milestoneIndex with
  | none => .error (.notFound s!"Milestone index {adj.milestoneIndex} not found")
  | some m =>
      if m.status = .confirmed ∨ m.status = .resolved then
        .error (.badRequest s!"Milestone {adj.milestoneIndex} is already confirmed and cannot be adjusted")
      else .ok m

theorem checkedTargets {milestones targets : List Milestone} {adjustments : List PercentAdjustment}
    (checked : adjustments.mapM (checkAdjustment milestones) = .ok targets) : ∀ m ∈ targets, m ∈ milestones := by
  induction adjustments generalizing targets with
  | nil => cases checked; simp
  | cons adj adjustments ih =>
    rw [List.mapM_cons] at checked
    obtain ⟨target,here,checked⟩ := exceptBind.mp checked
    obtain ⟨rest,there,same⟩ := exceptBind.mp checked
    cases same
    intro m inside
    rcases List.mem_cons.mp inside with rfl | later
    · unfold checkAdjustment at here
      split at here
      · contradiction
      · rename_i found
        split at here
        · contradiction
        · cases here
          exact List.mem_of_find?_eq_some found
    · exact ih there m later

def adjustMilestonePercents (engagementId : String) (adjustments : List PercentAdjustment) : Op (List Milestone) := do
  let milestones ← find .milestone fun db => db.milestones.findMany fun row => row.engagementId = engagementId
  if milestones = [] then .raise (.notFound s!"No milestones found for engagement {engagementId}")
  else do
    let targets ← .ofExcept (adjustments.mapM (checkAdjustment milestones))
    let total := (milestones.map (adjustedPercent adjustments)).sum
    if total ≠ 100 then .raise (.badRequest s!"Adjusted percentages sum to {total}, must equal 100")
    else write (.adjustPercents engagementId) fun _ db => do
      let db ← (targets.zip adjustments).foldlM (fun db (m,adj) => do
        let (_,db) ← db.updateMilestone m.id fun row => { row with paymentPercent := adj.paymentPercent }
        return db) db
      return (db.milestonesOf engagementId,db)

end MilestonesService

end HireSettle.Escrow
