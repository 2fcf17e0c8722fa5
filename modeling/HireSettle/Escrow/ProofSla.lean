import HireSettle.Escrow.Milestones

/-! The hourly job over the proofs that await review. At half and at nine tenths of
the company's window it reminds, at its end it approves in the company's place or
calls the admins. Every step is claimed on the version before it is made. -/
namespace HireSettle.Escrow
open Workflow

def DEFAULT_PROOF_SLA_DAYS : Nat := 7

structure ProofSlaRunSummary where
  reminders50 : Nat := 0
  reminders90 : Nat := 0
  autoApproved : Nat := 0
  escalated : Nat := 0
  deriving DecidableEq, Repr

structure PendingVersion where
  version : MilestoneProofVersion
  milestone : Milestone
  engagement : Engagement
  company : Option User

def Db.pendingVersions (db : Db) : List PendingVersion :=
  (db.proofVersions.findMany fun row => row.status = .submitted && row.slaExpiredAt.isNone).filterMap fun version => do
    let milestone ← db.milestones.get? version.milestoneId
    let engagement ← db.engagements.get? milestone.engagementId
    if milestone.status = .proofSubmitted then
      some ⟨version,milestone,engagement,engagement.companyId.bind db.users.get?⟩
    else none

namespace MilestoneProofSlaService

-- whether `tenths` tenths of the window have passed
def elapsed (tenths submittedAt slaDays at' : Nat) : Bool := tenths * (slaDays * DAY_MS) ≤ 10 * (at' - submittedAt)

def claim (id : String) (free : MilestoneProofVersion → Bool) (data : MilestoneProofVersion → MilestoneProofVersion)
    (keeps : ∀ v, (data v).id = v.id := by intro _; rfl) : Op Bool :=
  write (.claimProofSla id) fun _ db =>
    let (count,db) := db.updateVersionsWhere (fun row => row.id = id && row.status = .submitted && free row) data keeps
    .ok (0 < count,db)

def autoApprove (pending : PendingVersion) (at' : Nat) : Op Unit := do
  (stellar (.releaseMilestonePayment pending.milestone.engagementId pending.milestone.milestoneIndex) fun _ => ()).handle
    fun error => do
      let _ ← ProofVersionsService.updateVersion pending.milestone.id pending.version.id fun row =>
        { row with slaExpiredAt := none }
      .raise error
  let _ ← MilestonesService.markConfirmed pending.milestone.engagementId pending.milestone.milestoneIndex
    (pending.milestone.amount.getD 0)
  let _ ← ProofVersionsService.updateVersion pending.milestone.id pending.version.id fun row =>
    { row with status := .approved, reviewedAt := some at', reviewedById := none }
  notify
  notify

def escalate : Op Unit := do
  let admins ← find .user fun db => db.users.findMany fun row => row.role = .admin && row.deactivatedAt.isNone
  .forEach (fun _ => notify) admins
  notify

def expire (pending : PendingVersion) (action : ProofSlaAction) (at' : Nat) (summary : ProofSlaRunSummary) :
    Op ProofSlaRunSummary := do
  let claimed ← claim pending.version.id (fun row => row.slaExpiredAt.isNone) fun row => { row with slaExpiredAt := some at' }
  if !claimed then return summary
  else match action with
    | .autoApprove => do
        autoApprove pending at'
        return { summary with autoApproved := summary.autoApproved + 1 }
    | .escalateToAdmin => do
        escalate
        return { summary with escalated := summary.escalated + 1 }

def remind90 (pending : PendingVersion) (at' : Nat) (summary : ProofSlaRunSummary) : Op ProofSlaRunSummary := do
  let claimed ← claim pending.version.id (fun row => row.reminder90SentAt.isNone) fun row =>
    { row with reminder90SentAt := some at', reminder50SentAt := pending.version.reminder50SentAt.or (some at') }
  if !claimed then return summary
  else do
    notify
    return { summary with reminders90 := summary.reminders90 + 1 }

def remind50 (pending : PendingVersion) (at' : Nat) (summary : ProofSlaRunSummary) : Op ProofSlaRunSummary := do
  let claimed ← claim pending.version.id (fun row => row.reminder50SentAt.isNone) fun row =>
    { row with reminder50SentAt := some at' }
  if !claimed then return summary
  else do
    notify
    return { summary with reminders50 := summary.reminders50 + 1 }

def slaDays : Option User → Nat
  | some company => if company.proofSlaDays = 0 then DEFAULT_PROOF_SLA_DAYS else company.proofSlaDays
  | none => DEFAULT_PROOF_SLA_DAYS

def slaAction : Option User → ProofSlaAction
  | some company => company.proofSlaAction
  | none => .escalateToAdmin

def evaluate (at' : Nat) (summary : ProofSlaRunSummary) (pending : PendingVersion) : Op ProofSlaRunSummary :=
  if elapsed 10 pending.version.submittedAt (slaDays pending.company) at' then
    expire pending (slaAction pending.company) at' summary
  else if elapsed 9 pending.version.submittedAt (slaDays pending.company) at' && pending.version.reminder90SentAt.isNone then
    remind90 pending at' summary
  else if elapsed 5 pending.version.submittedAt (slaDays pending.company) at' && pending.version.reminder50SentAt.isNone then
    remind50 pending at' summary
  else return summary

-- the loop goes on when one version fails
def check (at' : Nat) (summary : ProofSlaRunSummary) (pending : PendingVersion) : Op ProofSlaRunSummary :=
  (evaluate at' summary pending).handle fun _ => return summary

def runProofSlaChecks : Op ProofSlaRunSummary := do
  let at' ← now
  let locked ← DistributedLockService.tryAcquireLock
  if !locked then return {}
  else do
    let summary ← (do
      let pending ← find .proofVersion Db.pendingVersions
      .foldEach (check at') {} pending : Op ProofSlaRunSummary).handle fun error => do
        DistributedLockService.releaseLock
        .raise error
    DistributedLockService.releaseLock
    return summary

end MilestoneProofSlaService

end HireSettle.Escrow
