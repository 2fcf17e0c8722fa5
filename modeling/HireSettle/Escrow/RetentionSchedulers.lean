import HireSettle.Escrow.ChainEvents
import HireSettle.Escrow.Engagements

/-! The two schedulers of retention milestones. One asks the contract about each
schedule whose estimated time has come and marks its milestone; the other compares
the ledger with what the milestones store, and sends the unlock to the contract. -/
namespace HireSettle.Escrow
open Workflow

namespace StellarService

-- a failed simulation counts as `false`
def isMilestoneUnlockable (engagementId : String) (milestoneIndex : Nat) : Op Bool :=
  .query (.isMilestoneUnlockable engagementId milestoneIndex) fun answer _ => .ok (!answer.fails && answer.number ≠ 0)

end StellarService

namespace EventsRetentionScheduler

def dueForUnlock (at' : Nat) (db : Db) : List RetentionSchedule :=
  db.schedules.findMany fun row => row.unlockAt ≤ at' && !row.unlocked

def unlockable (schedule : RetentionSchedule) (m : Milestone) : Bool :=
  m.engagementId = schedule.engagementId && m.milestoneIndex = schedule.milestoneIndex && m.status = .locked

def markUnlockable (schedule : RetentionSchedule) : Op Unit :=
  write (.markUnlockable schedule.engagementId schedule.milestoneIndex) fun _ db => .ok ((),{ db with
    milestones := db.milestones.updateMany (unlockable schedule) fun row => { row with status := .pending } })

def unlockSchedule (schedule : RetentionSchedule) : Op Unit :=
  write .unlockSchedule fun _ db => do
    let (_,schedules) ← required (db.schedules.modify (schedule.engagementId,schedule.milestoneIndex)
      (fun row => { row with unlocked := true }) (RetentionSchedule.unlockedKey true))
    return ((),{ db with schedules := schedules })

def unlockEach (schedule : RetentionSchedule) : Op Unit := do
  let isUnlockable ← StellarService.isMilestoneUnlockable schedule.engagementId schedule.milestoneIndex
  if !isUnlockable then return
  else do
    markUnlockable schedule
    unlockSchedule schedule
    EventsService.announce schedule.engagementId 1

def checkAndMarkUnlockable : Op Unit := do
  let at' ← now
  let dueForUnlock ← find .schedule (dueForUnlock at')
  .forEach (fun schedule => (unlockEach schedule).handle fun _ => return) dueForUnlock

end EventsRetentionScheduler

namespace MilestonesService

def findActiveRetentionMilestones : Op (List Milestone) :=
  .query .findActiveRetention fun answer db =>
    if answer.fails then .error .database
    else .ok (db.milestones.findMany fun row => row.kind = .retention && row.status = .locked)

def sendRetentionWarningNotification (milestoneId : String) : Op Unit := do
  let found ← find .milestone fun db => db.milestones.get? milestoneId
  match found with
  | none => return
  | some milestone => do
      let _ ← write (.warnRetention milestoneId) fun _ db =>
        db.updateMilestone milestoneId fun row => { row with approachingNotificationSent := true }
      write .notifySchedule fun _ db => .ok ((),{ db with
        schedules := db.schedules.updateMany
          (fun row => row.engagementId = milestone.engagementId && row.milestoneIndex = milestone.milestoneIndex)
          fun row => { row with notified := true } })

end MilestonesService

namespace MilestonesRetentionScheduler

def THREE_DAYS_IN_LEDGERS : Int := 51840

def matured (currentLedger : Int) (milestone : Milestone) : Bool := milestone.validAfterLedger.any fun ledger => ledger ≤ currentLedger

def approaching (currentLedger : Int) (milestone : Milestone) : Bool :=
  (milestone.validAfterLedger.any fun ledger => ledger - currentLedger ≤ THREE_DAYS_IN_LEDGERS) &&
    !milestone.approachingNotificationSent

def handleEach (currentLedger : Int) (milestone : Milestone) : Op Unit :=
  if matured currentLedger milestone then MilestonesService.unlockRetentionOnChain milestone.id
  else if approaching currentLedger milestone then MilestonesService.sendRetentionWarningNotification milestone.id
  else return

-- whether a check was running already
def startRunning : Op Bool :=
  .transact .startRetention fun _ db => .ok (db.retentionRunning,{ db with retentionRunning := true })

def stopRunning : Op Unit :=
  .transact .stopRetention fun _ db => .ok ((),{ db with retentionRunning := false })

def check : Op Unit := do
  let currentLedger ← stellar .getLatestLedger Answer.number
  let milestones ← MilestonesService.findActiveRetentionMilestones
  .forEach (handleEach currentLedger) milestones

def handleRetentionMilestones : Op Unit := do
  let token ← DistributedLockService.tryAcquireLock
  if !token then return
  else do
    let isRunning ← startRunning
    if isRunning then DistributedLockService.releaseLock
    else do
      check.handle fun _ => return
      stopRunning
      DistributedLockService.releaseLock

end MilestonesRetentionScheduler

end HireSettle.Escrow
