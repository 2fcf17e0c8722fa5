import HireSettle.Common.Calls
import HireSettle.Common.Json
import HireSettle.Common.Users
import HireSettle.Workflow.Effects

/-! The tables behind engagements, milestones and disputes, and the calls their
services make. Amounts are stroops and times milliseconds. Every call may fail;
a failed database statement changes nothing, a failed Stellar submission moves
nothing. A site names the statement with the row it is about, a consent with the
user who gives it, and a Stellar call with its arguments. Notifications are swallowed by their service when they fail. -/
namespace HireSettle.Escrow
open Workflow

inductive EngagementStatus where
  | pendingAcceptance | active | completed | cancelled | replacementRequested | accountMerged
  deriving DecidableEq, Repr

inductive MilestoneStatus where
  | locked | pending | proofSubmitted | confirmed | disputed | resolved
  deriving DecidableEq, Repr

inductive MilestoneKind where
  | placement | retention
  deriving DecidableEq, Repr

inductive DisputeStatus where
  | opened | underReview | resolved | closed
  deriving DecidableEq, Repr

inductive DisputeStage where
  | assignment | arbiterReview | appealReview
  deriving DecidableEq, Repr

inductive DisputeSlaStatus where
  | onTrack | overdue | met
  deriving DecidableEq, Repr

inductive DisputeOutcome where
  | release | refund
  deriving DecidableEq, Repr

inductive DisputeAppealStatus where
  | opened | decided
  deriving DecidableEq, Repr

inductive PartialReleaseStatus where
  | proposed | executed | rejected | failed
  deriving DecidableEq, Repr

inductive PartialRemainderAction where
  | refund | retain
  deriving DecidableEq, Repr

inductive ProofVersionStatus where
  | submitted | approved | rejected
  deriving DecidableEq, Repr

inductive RefundStatus where
  | pending | completed
  deriving DecidableEq, Repr

structure Engagement where
  id : String
  companyAddress : String
  recruiterAddress : String
  arbiterAddress : String
  companyId : Option String := none
  recruiterId : Option String := none
  arbiterId : Option String := none
  tokenAddress : String := ""
  totalAmount : Int
  releasedAmount : Int := 0
  fundingShortfall : Bool := false
  escrowBalance : Option Int := none
  jobTitle : String := ""
  jobDescription : Option String := none
  salaryRange : Option String := none
  location : Option String := none
  targetStartDate : Option Nat := none
  status : EngagementStatus := .active
  requiredApprovals : Nat := 1
  txHash : Option String := none
  createdLedger : Option Int := none
  templateVersionId : Option String := none
  tags : List String := []
  archivedAt : Option Nat := none
  deriving DecidableEq, Repr

structure Milestone where
  id : String
  engagementId : String
  milestoneIndex : Nat
  name : String
  kind : MilestoneKind
  paymentPercent : Int
  amount : Option Int := none
  retentionDays : Option Int := none
  validAfterLedger : Option Int := none
  unlockEstimatedAt : Option Int := none
  proofHash : Option String := none
  disputeReason : Option String := none
  approachingNotificationSent : Bool := false
  status : MilestoneStatus := .pending
  paymentReleased : Option Int := none
  confirmedAt : Option Nat := none
  deriving DecidableEq, Repr

structure MilestoneApproval where
  milestoneId : String
  userId : String
  deriving DecidableEq, Repr

structure MilestoneProofVersion where
  id : String
  milestoneId : String
  versionNumber : Nat
  proofUrl : Option String := none
  content : Option String := none
  proofHash : Option String := none
  submittedById : Option String := none
  submittedAt : Nat := 0
  status : ProofVersionStatus := .submitted
  reviewedById : Option String := none
  reviewedAt : Option Nat := none
  rejectionReason : Option String := none
  reminder50SentAt : Option Nat := none
  reminder90SentAt : Option Nat := none
  slaExpiredAt : Option Nat := none
  deriving DecidableEq, Repr

structure MilestonePartialRelease where
  id : String
  milestoneId : String
  engagementId : String
  proposedById : String
  releaseAmount : Int
  remainderAmount : Int
  remainderAction : PartialRemainderAction
  reason : Option String := none
  status : PartialReleaseStatus := .proposed
  companyApproverId : Option String := none
  companyApprovedAt : Option Nat := none
  recruiterApproverId : Option String := none
  recruiterApprovedAt : Option Nat := none
  txHash : Option String := none
  executedAt : Option Nat := none
  failureReason : Option String := none
  deriving DecidableEq, Repr

structure Refund where
  milestoneId : String
  amount : Int
  status : RefundStatus
  reason : Option String
  providerEventId : Option String := none
  deriving DecidableEq, Repr

structure Dispute where
  id : String
  engagementId : String
  milestoneId : String
  raisedById : Option String := none
  reason : Option String := none
  status : DisputeStatus := .opened
  stage : DisputeStage := .assignment
  arbiterId : Option String := none
  arbiterAssignedAt : Option Nat := none
  arbiterManuallyAssigned : Bool := false
  responseDeadline : Option Nat := none
  slaStatus : DisputeSlaStatus := .onTrack
  slaEscalatedAt : Option Nat := none
  outcome : Option DisputeOutcome := none
  resolvedAt : Option Nat := none
  appealDeadline : Option Nat := none
  fundsLocked : Bool := true
  fundsReleasedAt : Option Nat := none
  isFinal : Bool := false
  evidenceDeadline : Option Nat := none
  createdAt : Nat := 0
  deriving DecidableEq, Repr

structure DisputeAppeal where
  disputeId : String
  appellantId : String
  reason : String
  originalArbiterId : Option String
  arbiterId : Option String
  originalOutcome : DisputeOutcome
  status : DisputeAppealStatus := .opened
  outcome : Option DisputeOutcome := none
  isFinal : Bool := false
  decidedAt : Option Nat := none
  deriving DecidableEq, Repr

structure ArbiterPayout where
  disputeId : String
  arbiterId : String
  amount : Int
  deriving DecidableEq, Repr

structure ArbiterRecusal where
  engagementId : String
  arbiterId : String
  deriving DecidableEq, Repr

/-- A milestone as a company enters it. -/
structure MilestoneInput where
  name : String
  kind : MilestoneKind
  paymentPercent : Int
  retentionDays : Option Int := none
  deriving DecidableEq, Repr

structure EngagementTemplate where
  id : String
  companyId : String
  currentVersion : Nat := 1
  usageCount : Nat := 0
  lastUsedAt : Option Nat := none
  deriving DecidableEq, Repr

structure EngagementTemplateVersion where
  id : String
  templateId : String
  version : Nat
  jobTitle : Option String := none
  jobDescription : Option String := none
  salaryRange : Option String := none
  location : Option String := none
  milestones : Option (List MilestoneInput) := none
  retentionDays : Option (List (Option Int)) := none
  deriving DecidableEq, Repr

structure Plan where
  id : String
  platformFeeBps : Int := 0
  deriving DecidableEq, Repr

structure RetentionSchedule where
  engagementId : String
  milestoneIndex : Nat
  validAfterLedger : Int
  unlockAt : Int
  notifyAt : Int
  unlocked : Bool := false
  notified : Bool := false
  deriving DecidableEq, Repr

/-- An event of the contract as the RPC returns it. -/
structure ContractEvent where
  ledger : Nat
  txHash : String
  topic : List String
  value : Json
  deriving DecidableEq, Repr

structure ChainEvent where
  id : String
  engagementId : Option String := none
  eventName : String
  ledger : Nat
  txHash : String
  payload : Json
  processed : Bool := false
  retryCount : Nat := 0
  lastErrorAt : Option Nat := none
  createdAt : Nat := 0
  deriving DecidableEq, Repr

structure DeadLetterEvent where
  id : String
  originalId : String
  engagementId : Option String := none
  eventName : String
  ledger : Nat
  txHash : String
  payload : Json
  retryCount : Nat := 0
  lastErrorAt : Option Nat := none
  deriving DecidableEq, Repr

instance : Keyed Engagement String := ⟨Engagement.id⟩
instance : Keyed Milestone String := ⟨Milestone.id⟩
instance : Keyed MilestoneApproval (String × String) := ⟨fun row => (row.milestoneId,row.userId)⟩
instance : Keyed MilestoneProofVersion String := ⟨MilestoneProofVersion.id⟩
instance : Keyed MilestonePartialRelease String := ⟨MilestonePartialRelease.id⟩
instance : Keyed Refund String := ⟨Refund.milestoneId⟩
instance : Keyed Dispute String := ⟨Dispute.id⟩
instance : Keyed DisputeAppeal String := ⟨DisputeAppeal.disputeId⟩
instance : Keyed ArbiterPayout String := ⟨ArbiterPayout.disputeId⟩
instance : Keyed ArbiterRecusal (String × String) := ⟨fun row => (row.engagementId,row.arbiterId)⟩
instance : Keyed EngagementTemplate String := ⟨EngagementTemplate.id⟩
instance : Keyed EngagementTemplateVersion String := ⟨EngagementTemplateVersion.id⟩
instance : Keyed Plan String := ⟨Plan.id⟩
instance : Keyed ChainEvent String := ⟨ChainEvent.id⟩
instance : Keyed DeadLetterEvent String := ⟨DeadLetterEvent.originalId⟩
instance : Keyed RetentionSchedule (String × Nat) := ⟨fun row => (row.engagementId,row.milestoneIndex)⟩

theorem Milestone.statusKey (status : MilestoneStatus) (row : Milestone) : Keyed.key { row with status := status } = Keyed.key row := rfl

theorem Milestone.statusId (status : MilestoneStatus) (row : Milestone) : ({ row with status := status } : Milestone).id = row.id := rfl

theorem Dispute.statusId (status : DisputeStatus) (row : Dispute) : ({ row with status := status } : Dispute).id = row.id := rfl

theorem RetentionSchedule.unlockedKey (unlocked : Bool) (row : RetentionSchedule) :
    Keyed.key { row with unlocked := unlocked } = Keyed.key row := rfl

theorem RetentionSchedule.notifiedKey (notified : Bool) (row : RetentionSchedule) :
    Keyed.key { row with notified := notified } = Keyed.key row := rfl

structure EngagementNote where
  id : String
  engagementId : String
  authorId : String
  body : String
  deriving DecidableEq, Repr

instance : Keyed EngagementNote String := ⟨EngagementNote.id⟩

structure Db where
  users : Table User := Table.empty
  engagements : Table Engagement := Table.empty
  milestones : Table Milestone := Table.empty
  approvals : Table MilestoneApproval := Table.empty
  proofVersions : Table MilestoneProofVersion := Table.empty
  partialReleases : Table MilestonePartialRelease := Table.empty
  refunds : Table Refund := Table.empty
  disputes : Table Dispute := Table.empty
  appeals : Table DisputeAppeal := Table.empty
  payouts : Table ArbiterPayout := Table.empty
  recusals : Table ArbiterRecusal := Table.empty
  schedules : Table RetentionSchedule := Table.empty
  templates : Table EngagementTemplate := Table.empty
  templateVersions : Table EngagementTemplateVersion := Table.empty
  plans : Table Plan := Table.empty
  chainEvents : Table ChainEvent := Table.empty
  deadLetters : Table DeadLetterEvent := Table.empty
  engagementNotes : Table EngagementNote := Table.empty
  -- the cursor of the event poller, which it keeps in memory
  lastProcessedLedger : Nat := 0
  -- `isRunning` of the retention job, in memory too
  retentionRunning : Bool := false
  clock : Nat := 0

/-- A milestone as the contract knows it. -/
structure ChainMilestone where
  name : String
  kind : MilestoneKind
  paymentPercent : Int
  retentionDays : Option Int := none
  deriving DecidableEq, Repr

inductive Model where
  | user | engagement | milestone | approval | proofVersion | partialRelease | refund | dispute | appeal | payout | recusal | template | templateVersion |
    schedule | chainEvent | deadLetter
  deriving DecidableEq, Repr

inductive PartyRole where
  | company | recruiter | arbiter
  deriving DecidableEq, Repr

structure PartyUser where
  id : Option String := none
  stellarAddress : Option String := none
  role : Option UserRole := none
  deriving DecidableEq, Repr

inductive Site where
  | find (model : Model)
  | clock
  | notify
  | audit
  | lock
  | unlock
  | getLatestLedger
  | isMilestoneUnlockable (engagementId : String) (milestoneIndex : Nat)
  | findActiveRetention
  | getEvents
  | findProcessed (event : ContractEvent)
  | findSaved (event : ContractEvent)
  | simulateContract (engagementId : String)
  | getBalance (engagementId : String)
  | checkTokenBalance (engagementId : String)
  | createApproval (milestoneId : String)
  | deleteApprovals (milestoneId : String)
  | writeProofVersion (milestoneId : String)
  | claimProofSla (versionId : String)
  | proofSubmitted (milestoneId : String)
  | proofSubmittedAt (engagementId : String) (milestoneIndex : Nat)
  | proofRejected (milestoneId : String)
  | markConfirmed (engagementId : String) (milestoneIndex : Nat)
  | markResolved (engagementId : String) (milestoneIndex : Nat)
  | markUnlocked (milestoneId : String)
  | markDisputed (engagementId : String) (milestoneIndex : Nat)
  | unlockSchedule
  | markUnlockable (engagementId : String) (milestoneIndex : Nat)
  | warnRetention (milestoneId : String)
  | notifySchedule
  | startRetention
  | stopRetention
  | createRelease (user : PartyUser)
  | approveRelease (releaseId : String) (user : PartyUser)
  | rejectRelease (releaseId : String)
  | claimRelease (releaseId : String)
  | failRelease (releaseId : String)
  | payRelease (releaseId : String)
  | addReleasedAmount (engagementId : String)
  | refundRemainder (releaseId : String)
  | executeRelease (releaseId : String)
  | refundMilestone (milestoneId : String)
  | openDispute (milestoneId : String)
  | assignArbiter (disputeId : String)
  | overrideArbiter (disputeId : String)
  | overrideAppeal (disputeId : String)
  -- a dispute as the job has scanned it, and the job's `now`
  | flagOverdue (dispute : Dispute) (at' : Nat)
  | decide (disputeId : String)
  | openAppeal (disputeId : String)
  | decideAppeal (disputeId : String)
  | expireAppealWindow (disputeId : String)
  | claimSettlement (disputeId : String)
  | unclaimSettlement (disputeId : String)
  | settleMilestone (disputeId : String)
  | unlockFunds (disputeId : String)
  | markSettledOnChain (milestoneId : String)
  | createPayout (disputeId : String)
  | markUnlockedAt (engagementId : String) (milestoneIndex : Nat)
  | resetMilestone (milestoneId : String)
  | upsertSchedule (engagementId : String) (milestoneIndex : Nat)
  | syncEngagement (engagementId : String)
  | advance (event : ContractEvent)
  | saveEvent (event : ContractEvent)
  | markProcessed (event : ContractEvent) (id : String)
  | recordFailure (id : String)
  | moveToDeadLetter (id : String)
  | requeue (id : String)
  | createEngagement (engagementId : String)
  | activateEngagement (engagementId : String)
  | declineInvite (engagementId : String)
  | markCancelled (engagementId : String)
  | bulkCreate (engagementId : String)
  | adjustPercents (engagementId : String)
  | releaseMilestonePayment (engagementId : String) (milestoneIndex : Nat)
  | releasePartialMilestonePayment (releaseId engagementId : String) (milestoneIndex : Nat)
      (amount : Int) (refundRemainder : Bool)
  | resolveMilestoneDispute (disputeId : Option String) (engagementId : String) (milestoneIndex : Nat) (approved : Bool)
  | submitCreateEngagement (engagementId : String) (milestones : List ChainMilestone)
  | unlockRetentionMilestone (engagementId : String) (milestoneIndex : Nat)
  | cancelEngagement (engagementId : String)
  | requestReplacement (engagementId : String)
  | archive (engagementId : String)
  | restore (engagementId : String)
  | updateTags (engagementId : String)
  | createNote (engagementId : String)
  | countTemplateUse (templateId : String)
  | getFeeEstimate
  deriving DecidableEq, Repr

def Site.reads : Site → Bool
  | .find _ | .clock | .notify | .audit | .lock | .unlock | .getLatestLedger | .checkTokenBalance _ => true
  | .getFeeEstimate => true
  | .isMilestoneUnlockable _ _ | .findActiveRetention => true
  | .getEvents | .findProcessed _ | .findSaved _ | .simulateContract _ | .getBalance _ => true
  | _ => false

abbrev Op := Process Site Answer Db Exception

abbrev EscrowEvent := Event Site Answer Db

abbrev EscrowSnapshot := Snapshot Site Answer Db

def answered {ρ : Type} (thread : Nat) (answers : List Answer) : List (Move ρ Nat Answer) := answers.map (.answer thread)

inductive ArbiterFeeType where
  | flat | percent
  deriving DecidableEq, Repr

structure Config where
  -- whether `this.proofVersions` of the milestones service is set
  proofVersions : Bool := true
  appealWindowHours : Nat := 72
  evidenceWindowHours : Nat := 72
  slaHours : DisputeStage → Nat := fun _ => 72
  arbiterFeeType : ArbiterFeeType := .percent
  -- in hundredths
  arbiterFeeValue : Int := 500
  isTokenAllowed : String → Bool := fun _ => true
  toISOString : Nat → String := toString
  -- the events of the contract, by ledger
  chain : List ContractEvent := []
  -- `Number` of a text, none for NaN
  numberOf : String → Option Int := String.toInt?
  -- `BigInt` of a text, none when it throws
  bigIntOf : String → Option Int := String.toInt?

def HOUR_MS : Nat := 60 * 60 * 1000

def DAY_MS : Nat := 24 * 60 * 60 * 1000

def LEDGERS_PER_DAY : Int := 17280

section Calls

variable {α : Type}

def find (model : Model) (f : Db → α) : Op α :=
  .query (.find model) fun answer db => if answer.fails then .error .database else .ok (f db)

def findOr (model : Model) (f : Db → Except Exception α) : Op α :=
  .query (.find model) fun answer db => if answer.fails then .error .database else f db

def write (site : Site) (f : Answer → Db → Except Exception (α × Db)) : Op α :=
  .transact site fun answer db => if answer.fails then .error .database else f answer db

def stellar (site : Site) (f : Answer → α) : Op α :=
  .query site fun answer _ => if answer.fails then .error .stellar else .ok (f answer)

def now : Op Nat := .query .clock fun _ db => .ok db.clock

def notify : Op Unit := .query .notify fun _ _ => .ok ()

-- `prisma.notification.create` and the audit log, which may fail
def createNotification : Op Unit := .query .notify fun answer _ => if answer.fails then .error .database else .ok ()

def audit : Op Unit := .query .audit fun answer _ => if answer.fails then .error .database else .ok ()

def DistributedLockService.tryAcquireLock : Op Bool := .query .lock fun answer _ => .ok !answer.fails

def DistributedLockService.releaseLock : Op Unit := .query .unlock fun _ _ => .ok ()

theorem readsFind (model : Model) (f : Db → α) : Reads Site.reads (find model f) := readsQuery rfl _

theorem readsFindOr (model : Model) (f : Db → Except Exception α) : Reads Site.reads (findOr model f) := readsQuery rfl _

theorem readsNow : Reads Site.reads now := readsQuery rfl _

theorem readsNotify : Reads Site.reads notify := readsQuery rfl _

theorem readsCreateNotification : Reads Site.reads createNotification := readsQuery rfl _

theorem readsAudit : Reads Site.reads audit := readsQuery rfl _

theorem stepsWrite {at' : Site → Bool} {R : Db → Db → Prop} {site : Site} (here : at' site = true) (stays : ∀ db, R db db)
    {f : Answer → Db → Except Exception (α × Db)} (commits : ∀ i db value after, f i db = .ok (value,after) → R db after) :
    Steps at' R (write site f) := by
  refine stepsTransact here stays fun i db value after ok => ?_
  split at ok
  · contradiction
  · exact commits i db value after ok

def required (found : Option α) : Except Exception α :=
  match found with
  | some value => .ok value
  | none => .error .recordNotFound

theorem requiredSome {found : Option α} {value : α} (ok : required found = .ok value) : found = some value := by
  cases found with
  | none => cases ok
  | some other =>
    cases ok
    rfl

end Calls

namespace Db

variable (db : Db)

def milestoneAt (engagementId : String) (milestoneIndex : Nat) : Option Milestone :=
  db.milestones.findFirst (fun m => m.engagementId = engagementId && m.milestoneIndex = milestoneIndex)

def updateMilestone (id : String) (f : Milestone → Milestone) (keeps : ∀ m, (f m).id = m.id := by intro _; rfl) :
    Except Exception (Milestone × Db) := do
  let (m,milestones) ← required (db.milestones.modify id f keeps)
  return (m,{ db with milestones := milestones })

def updateMilestoneAt (engagementId : String) (milestoneIndex : Nat) (f : Milestone → Milestone)
    (keeps : ∀ m, (f m).id = m.id := by intro _; rfl) : Except Exception (Milestone × Db) := do
  let m ← required (db.milestoneAt engagementId milestoneIndex)
  db.updateMilestone m.id f keeps

-- the unique indexes on the id and on (engagementId, milestoneIndex)
def createMilestone (m : Milestone) : Except Exception Db :=
  if (db.milestoneAt m.engagementId m.milestoneIndex).isSome then .error .uniqueViolation
  else match db.milestones.create m with
    | none => .error .uniqueViolation
    | some milestones => .ok { db with milestones := milestones }

def createSchedule (schedule : RetentionSchedule) : Except Exception Db :=
  match db.schedules.create schedule with
  | none => .error .uniqueViolation
  | some schedules => .ok { db with schedules := schedules }

def updateDispute (id : String) (f : Dispute → Dispute) (keeps : ∀ d, (f d).id = d.id := by intro _; rfl) :
    Except Exception (Dispute × Db) := do
  let (d,disputes) ← required (db.disputes.modify id f keeps)
  return (d,{ db with disputes := disputes })

def updateRelease (id : String) (f : MilestonePartialRelease → MilestonePartialRelease)
    (keeps : ∀ r, (f r).id = r.id := by intro _; rfl) : Except Exception (MilestonePartialRelease × Db) := do
  let (r,releases) ← required (db.partialReleases.modify id f keeps)
  return (r,{ db with partialReleases := releases })

def updateEngagement (id : String) (f : Engagement → Engagement) (keeps : ∀ e, (f e).id = e.id := by intro _; rfl) :
    Except Exception (Engagement × Db) := do
  let (e,engagements) ← required (db.engagements.modify id f keeps)
  return (e,{ db with engagements := engagements })

-- a conditional update by id and the count it reports
def updateDisputesWhere (p : Dispute → Bool) (f : Dispute → Dispute) (keeps : ∀ d, (f d).id = d.id := by intro _; rfl) :
    Nat × Db :=
  (db.disputes.count p,{ db with disputes := db.disputes.updateMany p f keeps })

def updateReleasesWhere (p : MilestonePartialRelease → Bool) (f : MilestonePartialRelease → MilestonePartialRelease)
    (keeps : ∀ r, (f r).id = r.id := by intro _; rfl) : Nat × Db :=
  (db.partialReleases.count p,{ db with partialReleases := db.partialReleases.updateMany p f keeps })

def updateVersionsWhere (p : MilestoneProofVersion → Bool) (f : MilestoneProofVersion → MilestoneProofVersion)
    (keeps : ∀ v, (f v).id = v.id := by intro _; rfl) : Nat × Db :=
  (db.proofVersions.count p,{ db with proofVersions := db.proofVersions.updateMany p f keeps })

-- the event of the provider stays on the row
def upsertRefund (refund : Refund) : Db :=
  { db with refunds := db.refunds.upsert refund fun row =>
      { refund with milestoneId := row.milestoneId, providerEventId := row.providerEventId } }

section Updates

variable {db db' : Db} {id : String}

theorem requiredModify {ρ κ : Type} [Keyed ρ κ] [DecidableEq κ] {t : Table ρ} {k : κ} {f : ρ → ρ}
    {keeps : ∀ r, Keyed.key (f r) = Keyed.key r} {out : ρ × Table ρ} (found : required (t.modify k f keeps) = .ok out) :
    ∃ row, t.get? k = some row ∧ out = (f row,t.update k f keeps) := by
  unfold required at found
  split at found
  · rename_i value modified
    obtain ⟨row,there,first,second⟩ := Table.modifyGet modified
    cases found
    exact ⟨row,there,Prod.ext first second⟩
  · contradiction

theorem updateMilestoneCases {f : Milestone → Milestone} {keeps : ∀ m, (f m).id = m.id} {m' : Milestone}
    (updated : db.updateMilestone id f keeps = .ok (m',db')) :
    ∃ m, db.milestones.get? id = some m ∧ m' = f m ∧ db'.milestones.get? id = some (f m) ∧
      (∀ other, other ≠ id → db'.milestones.get? other = db.milestones.get? other) ∧
      db' = { db with milestones := db.milestones.update id f keeps } := by
  obtain ⟨_,found,same⟩ := exceptBind.mp updated
  obtain ⟨m,there,rfl⟩ := requiredModify found
  cases same
  exact ⟨m,there,rfl,Table.getUpdateSelf there f keeps,fun other differs => Table.getUpdateOther _ differs f keeps,rfl⟩

theorem updateMilestoneAtCases {engagementId : String} {milestoneIndex : Nat} {f : Milestone → Milestone}
    {keeps : ∀ m, (f m).id = m.id} {m' : Milestone}
    (here : ∀ m, (f m).engagementId = m.engagementId ∧ (f m).milestoneIndex = m.milestoneIndex)
    (updated : db.updateMilestoneAt engagementId milestoneIndex f keeps = .ok (m',db')) :
    ∃ m, db.milestoneAt engagementId milestoneIndex = some m ∧ m' = f m ∧
      db'.milestoneAt engagementId milestoneIndex = some (f m) ∧ db.updateMilestone m.id f keeps = .ok (m',db') := by
  obtain ⟨m,found,updated⟩ := exceptBind.mp updated
  have there := requiredSome found
  obtain ⟨row,row',same,_,_,rfl⟩ := updateMilestoneCases updated
  have stored := Table.memGet (List.mem_of_find?_eq_some there)
  cases Option.some.inj (row'.symm.trans stored)
  refine ⟨m,there,same,?_,updated⟩
  have kept := Table.findFirstUpdateMany db.milestones (p := fun r => Keyed.key r = m.id)
    (q := fun r => r.engagementId = engagementId && r.milestoneIndex = milestoneIndex) keeps (by
      intro r
      simp only [here])
  have mine : decide (Keyed.key m = m.id) = true := decide_eq_true rfl
  exact kept.trans (by rw [show db.milestones.findFirst _ = some m from there,Option.map_some,mine,if_pos rfl])

theorem updateMilestoneAtMissing {engagementId : String} {milestoneIndex : Nat} {f : Milestone → Milestone}
    {keeps : ∀ m, (f m).id = m.id} {error : Exception}
    (failed : db.updateMilestoneAt engagementId milestoneIndex f keeps = .error error) :
    db.milestoneAt engagementId milestoneIndex = none := by
  cases there : db.milestoneAt engagementId milestoneIndex with
  | none => rfl
  | some m =>
    have stored := Table.memGet (List.mem_of_find?_eq_some there)
    have modified : required (db.milestones.modify m.id f keeps) = .ok (f m,db.milestones.update m.id f keeps) :=
      congrArg (fun found => required (Option.map _ found)) stored
    have updated : db.updateMilestoneAt engagementId milestoneIndex f keeps =
        .ok (f m,{ db with milestones := db.milestones.update m.id f keeps }) :=
      exceptBind.mpr ⟨m,by rw [there]; rfl,exceptBind.mpr ⟨_,modified,rfl⟩⟩
    cases updated.symm.trans failed

theorem updateDisputeCases {f : Dispute → Dispute} {keeps : ∀ d, (f d).id = d.id} {d' : Dispute}
    (updated : db.updateDispute id f keeps = .ok (d',db')) :
    ∃ d, db.disputes.get? id = some d ∧ d' = f d ∧ db'.disputes.get? id = some (f d) ∧
      (∀ other, other ≠ id → db'.disputes.get? other = db.disputes.get? other) ∧
      db' = { db with disputes := db.disputes.update id f keeps } := by
  obtain ⟨_,found,same⟩ := exceptBind.mp updated
  obtain ⟨d,there,rfl⟩ := requiredModify found
  cases same
  exact ⟨d,there,rfl,Table.getUpdateSelf there f keeps,fun other differs => Table.getUpdateOther _ differs f keeps,rfl⟩

theorem updateReleaseCases {f : MilestonePartialRelease → MilestonePartialRelease} {keeps : ∀ r, (f r).id = r.id} {r' : MilestonePartialRelease}
    (updated : db.updateRelease id f keeps = .ok (r',db')) :
    ∃ r, db.partialReleases.get? id = some r ∧ r' = f r ∧ db'.partialReleases.get? id = some (f r) ∧
      (∀ other, other ≠ id → db'.partialReleases.get? other = db.partialReleases.get? other) ∧
      db' = { db with partialReleases := db.partialReleases.update id f keeps } := by
  obtain ⟨_,found,same⟩ := exceptBind.mp updated
  obtain ⟨r,there,rfl⟩ := requiredModify found
  cases same
  exact ⟨r,there,rfl,Table.getUpdateSelf there f keeps,fun other differs => Table.getUpdateOther _ differs f keeps,rfl⟩

theorem updateEngagementCases {f : Engagement → Engagement} {keeps : ∀ e, (f e).id = e.id} {e' : Engagement}
    (updated : db.updateEngagement id f keeps = .ok (e',db')) :
    ∃ e, db.engagements.get? id = some e ∧ e' = f e ∧ db'.engagements.get? id = some (f e) ∧
      (∀ other, other ≠ id → db'.engagements.get? other = db.engagements.get? other) ∧
      db' = { db with engagements := db.engagements.update id f keeps } := by
  obtain ⟨_,found,same⟩ := exceptBind.mp updated
  obtain ⟨e,there,rfl⟩ := requiredModify found
  cases same
  exact ⟨e,there,rfl,Table.getUpdateSelf there f keeps,fun other differs => Table.getUpdateOther _ differs f keeps,rfl⟩

end Updates

end Db

structure DisputeActor where
  id : String
  role : UserRole := .company
  stellarAddress : Option String := none
  deriving DecidableEq, Repr

end HireSettle.Escrow
