import HireSettle.Escrow.RetentionSchedulers
import HireSettle.Workflow.Embedding

/-! The hourly job that tells both parties that a retention window is about to close, next
to the other jobs that write the same schedules. A party whose local time is outside the
day is passed over, and a notification that cannot be stored is only logged. -/
namespace HireSettle.Escrow.ApproachingNotices
open Workflow

structure RetentionNotice where
  title : String
  message : String
  engagementId : String
  milestoneIndex : Nat
  unlockAt : Int
  deriving DecidableEq, Repr

structure Notification where
  userId : String
  notice : RetentionNotice
  deriving DecidableEq, Repr

structure World where
  db : Db
  notifications : List Notification := []

inductive NoticeSite where
  | escrow (site : Site)
  | now
  | findDueSoon
  | findEngagement (schedule : RetentionSchedule)
  | findParties (schedule : RetentionSchedule)
  | localHour (schedule : RetentionSchedule) (user : User)
  | findUser (notice : RetentionNotice)
  | createNotification (notice : RetentionNotice)
  | markNotified (schedule : RetentionSchedule)
  deriving DecidableEq, Repr

abbrev NoticeOp := Process NoticeSite Answer World Exception

structure Config where
  -- the `timezone` column of a user
  timezone : (userId : String) → Option String
  -- the hour that `toLocaleString` gives, none for a zone that it does not know
  localHour : (timeZone : String) → (now : Nat) → Option Int

variable (config : Config)

namespace NotificationsService

def read (site : NoticeSite) (f : Db → α) : NoticeOp α :=
  .query site fun answer w => if answer.fails then .error .database else .ok (f w.db)

def createNotification (userId : String) (notice : RetentionNotice) : NoticeOp Unit :=
  .transact (.createNotification notice) fun answer w =>
    if answer.fails then .error .database
    else .ok ((),{ w with notifications := w.notifications ++ [{ userId := userId, notice := notice }] })

-- the pushes and the email that follow are caught as well
def notifyUserById (userId : String) (notice : RetentionNotice) : NoticeOp Unit :=
  (do
    let user ← read (.findUser notice) fun db => db.users.get? userId
    match user with
    | none => return
    | some user => createNotification user.id notice : NoticeOp Unit).handle fun _ => return

def notifyUser (stellarAddress : String) (notice : RetentionNotice) : NoticeOp Unit :=
  (do
    let user ← read (.findUser notice) fun db => db.users.findFirst fun row => row.stellarAddress = some stellarAddress
    match user with
    | none => return
    | some user => notifyUserById user.id notice : NoticeOp Unit).handle fun _ => return

end NotificationsService

open NotificationsService (read notifyUser)

def isWithinLocalHours (user : User) (now : Nat) : Option Bool :=
  let timeZone := (present (config.timezone user.id)).getD "UTC"
  (config.localHour timeZone now).map fun hour => 9 ≤ hour && hour ≤ 18

def dueSoon (now : Nat) (db : Db) : List RetentionSchedule :=
  db.schedules.findMany fun row => row.notifyAt ≤ now && !row.notified && !row.unlocked

def daysLabel (milestone : Option Milestone) : String :=
  match milestone.bind fun m => nonzero m.retentionDays with
  | some days => s!"{days}-day"
  | none => "retention"

def noticeFor (schedule : RetentionSchedule) (engagement : Engagement) (milestone : Option Milestone) : RetentionNotice where
  title := s!"{daysLabel milestone} retention window closing soon"
  message := s!"The {daysLabel milestone} retention window for engagement {engagement.id} ({engagement.jobTitle}) closes in approximately 3 days. Be ready to confirm when the milestone unlocks."
  engagementId := engagement.id
  milestoneIndex := schedule.milestoneIndex
  unlockAt := schedule.unlockAt

def isParty (engagement : Engagement) (user : User) : Bool :=
  user.stellarAddress = some engagement.companyAddress || user.stellarAddress = some engagement.recruiterAddress

def notifyEach (schedule : RetentionSchedule) (notice : RetentionNotice) (user : User) : NoticeOp Unit := do
  let within ← .query (.localHour schedule user) fun _ w =>
    match isWithinLocalHours config user w.db.clock with
    | some within => .ok within
    | none => .error .typeError
  if !within then return
  else match present user.stellarAddress with
    | none => return
    | some stellarAddress => notifyUser stellarAddress notice

def markNotified (schedule : RetentionSchedule) : NoticeOp Unit :=
  .transact (.markNotified schedule) fun answer w =>
    if answer.fails then .error .database
    else match w.db.schedules.modify (schedule.engagementId,schedule.milestoneIndex)
        (fun row => { row with notified := true }) (RetentionSchedule.notifiedKey true) with
      | none => .error .recordNotFound
      | some (_,schedules) => .ok ((),{ w with db := { w.db with schedules := schedules } })

def announceEach (schedule : RetentionSchedule) : NoticeOp Unit := do
  let found ← read (.findEngagement schedule) fun db => (db.engagements.get? schedule.engagementId).map fun engagement =>
    (engagement,db.milestones.findFirst fun m => m.engagementId = engagement.id && m.milestoneIndex = schedule.milestoneIndex)
  match found with
  | none => return
  | some (engagement,milestone) => do
      let users ← read (.findParties schedule) fun db => db.users.findMany (isParty engagement)
      .forEach (notifyEach config schedule (noticeFor schedule engagement milestone)) users
      markNotified schedule

def sendApproachingNotifications : NoticeOp Unit := do
  let now ← .query .now fun _ w => .ok w.db.clock
  let schedules ← read .findDueSoon (dueSoon now)
  .forEach (fun schedule => (announceEach config schedule).handle fun _ => return) schedules

def inDb (p : Op α) : NoticeOp α := p.embed .escrow World.db fun db w => { w with db := db }

inductive Request where
  | sendApproachingNotifications
  | handleRetentionMilestones
  | sendRetentionWarningNotification (milestoneId : String)
  | resetForReplacement (engagementId : String) (currentLedger : Int)
  | checkAndMarkUnlockable
  | unlockRetentionOnChain (milestoneId : String)
  deriving DecidableEq, Repr

def handler : Request → NoticeOp Unit
  | .sendApproachingNotifications => sendApproachingNotifications config
  | .handleRetentionMilestones => inDb MilestonesRetentionScheduler.handleRetentionMilestones
  | .sendRetentionWarningNotification milestoneId => inDb (MilestonesService.sendRetentionWarningNotification milestoneId)
  | .resetForReplacement engagementId currentLedger => inDb (MilestonesService.resetForReplacement engagementId currentLedger)
  | .checkAndMarkUnlockable => inDb EventsRetentionScheduler.checkAndMarkUnlockable
  | .unlockRetentionOnChain milestoneId => inDb (MilestonesService.unlockRetentionOnChain milestoneId)

def service : System Request Nat NoticeSite Answer World Exception Unit where
  handler := handler config
  environment elapsed w := { w with db := { w.db with clock := w.db.clock + elapsed } }

abbrev NoticeEvent := Event NoticeSite Answer World

abbrev NoticePool := Pool Request NoticeSite Answer World Exception Unit

abbrev NoticeMove := Move Request Nat Answer

end HireSettle.Escrow.ApproachingNotices
