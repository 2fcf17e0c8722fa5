import HireSettle.Escrow.ApproachingNotices
import HireSettle.Workflow.Guards

/-! Who has been told when a schedule counts as notified. The job of the events module
marks a schedule after it has gone through the parties, whether or not one was passed over
or a notification was lost; the job of the milestones module marks it and tells nobody. -/
namespace HireSettle.Escrow.ApproachingNotices
open Workflow

variable (config : Config)

/-- A notification of the user names the window of the schedule. -/
def Names (schedule : RetentionSchedule) (userId : String) (n : Notification) : Prop :=
  n.userId = userId ∧ n.notice.engagementId = schedule.engagementId ∧ n.notice.milestoneIndex = schedule.milestoneIndex ∧
    n.notice.unlockAt = schedule.unlockAt

def account (stellarAddress : String) (db : Db) : Option User := db.users.findFirst fun row => row.stellarAddress = some stellarAddress

/-- Each party with an account has been told of the window that the schedule now has. -/
def PartiesTold (w : World) (row : RetentionSchedule) : Prop :=
  ∀ engagement, w.db.engagements.get? row.engagementId = some engagement →
    ∀ stellarAddress ∈ [engagement.companyAddress,engagement.recruiterAddress], ∀ user, account stellarAddress w.db = some user →
      ∃ n ∈ w.notifications, Names row user.id n

def Told (w : World) : Prop := ∀ row ∈ w.db.schedules.rows, row.notified = true → PartiesTold w row

/-- The job does not pass the user over. -/
def reachable (user : User) (now : Nat) : Bool := isWithinLocalHours config user now = some true && (present user.stellarAddress).isSome

def inSlot (schedule : RetentionSchedule) (notice : RetentionNotice) : Bool :=
  notice.engagementId = schedule.engagementId && notice.milestoneIndex = schedule.milestoneIndex

def slot (schedule : RetentionSchedule) : String × Nat := (schedule.engagementId,schedule.milestoneIndex)

/-- On the way to the mark no party was passed over, and no call of a notification failed. -/
def Smooth (schedule : RetentionSchedule) (d : NoticeEvent) : Prop :=
  match d.site with
  | .localHour schedule' user => schedule' = schedule → reachable config user d.before.db.clock = true
  | .findUser notice | .createNotification notice => inSlot schedule notice = true → d.answer.fails = false
  | _ => True

instance (schedule : RetentionSchedule) (d : NoticeEvent) : Decidable (Smooth config schedule d) := by
  unfold Smooth
  split <;> infer_instance

/-- Who marks a schedule that was not notified has listed the window that it has, and told everybody. -/
def Faithful (_ : Request) (earlier : List NoticeEvent) (e : NoticeEvent) : Prop :=
  match e.site with
  | .markNotified schedule => ∀ row ∈ e.before.db.schedules.get? (slot schedule), row.notified = false → e.answer.fails = false →
      row.unlockAt = schedule.unlockAt ∧ ∀ d ∈ earlier, d.thread = e.thread → Smooth config schedule d
  | .escrow .notifySchedule => ∀ row ∈ e.before.db.schedules.rows, row.notified = false →
      ∀ row' ∈ e.after.db.schedules.get? (slot row), row'.notified = false
  | _ => True

instance (request : Request) (earlier : List NoticeEvent) (e : NoticeEvent) : Decidable (Faithful config request earlier e) := by
  unfold Faithful
  split <;> infer_instance

section Calls

variable {own own' : List NoticeEvent} {schedule : RetentionSchedule} {user : User} {stellarAddress : String} {α : Type}

/-- What a call of a notification has come to. -/
def Sent (schedule : RetentionSchedule) (stellarAddress : String) (own : List NoticeEvent) : Prop :=
  (∃ d ∈ own, ∃ notice, (d.site = .findUser notice ∨ d.site = .createNotification notice) ∧ inSlot schedule notice = true ∧
    d.answer.fails = true) ∨
  ∃ d ∈ own, account stellarAddress d.before.db = none ∨ ∃ found, account stellarAddress d.before.db = some found ∧
    ((∃ d' ∈ own, d'.before.db.users.get? found.id = none) ∨ ∃ d' ∈ own, ∃ n ∈ d'.after.notifications, Names schedule found.id n)

def Served (schedule : RetentionSchedule) (user : User) (own : List NoticeEvent) : Prop :=
  (∃ d ∈ own, d.site = .localHour schedule user ∧ reachable config user d.before.db.clock = false) ∨
  ∃ stellarAddress, user.stellarAddress = some stellarAddress ∧ Sent schedule stellarAddress own

def Announced (schedule : RetentionSchedule) (own : List NoticeEvent) : Prop :=
  ∃ d ∈ own, ∃ engagement, d.before.db.engagements.get? schedule.engagementId = some engagement ∧
    ∃ d' ∈ own, ∀ user ∈ d'.before.db.users.findMany (isParty engagement), Served config schedule user own

theorem sentGrows (more : own ⊆ own') (sent : Sent schedule stellarAddress own) : Sent schedule stellarAddress own' := by
  rcases sent with ⟨d,inside,its⟩ | ⟨d,inside,none | ⟨found,there,⟨d',inside',gone⟩ | ⟨d',inside',told⟩⟩⟩
  · exact Or.inl ⟨d,more inside,its⟩
  · exact Or.inr ⟨d,more inside,Or.inl none⟩
  · exact Or.inr ⟨d,more inside,Or.inr ⟨found,there,Or.inl ⟨d',more inside',gone⟩⟩⟩
  · exact Or.inr ⟨d,more inside,Or.inr ⟨found,there,Or.inr ⟨d',more inside',told⟩⟩⟩

theorem servedGrows (more : own ⊆ own') (served : Served config schedule user own) : Served config schedule user own' := by
  rcases served with ⟨d,inside,its⟩ | ⟨address,same,sent⟩
  · exact Or.inl ⟨d,more inside,its⟩
  · exact Or.inr ⟨address,same,sentGrows more sent⟩

/-- The two ways in which a call can mark a schedule that was not notified. -/
def Marks (own : List NoticeEvent) (e : NoticeEvent) (row : RetentionSchedule) : Prop :=
  (e.site = .escrow .notifySchedule) ∨
  ∃ schedule, e.site = .markNotified schedule ∧ e.answer.fails = false ∧ slot row = slot schedule ∧ Announced config schedule own

/-- What is known of each call. -/
structure Calls (own : List NoticeEvent) (e : NoticeEvent) : Prop where
  users : e.after.db.users = e.before.db.users
  engagements : e.after.db.engagements = e.before.db.engagements
  notifications : e.before.notifications ⊆ e.after.notifications
  marks : ∀ key row', e.after.db.schedules.get? key = some row' → row'.notified = true →
    ∃ row, e.before.db.schedules.get? key = some row ∧ row.unlockAt = row'.unlockAt ∧ (row.notified = false → Marks config own e row)

theorem callsStay {thread : Nat} {site : NoticeSite} {i : Answer} {w : World} : Calls config own ⟨thread,site,i,w,w⟩ :=
  ⟨rfl,rfl,fun _ inside => inside,fun _ row' found notified => ⟨row',found,rfl,fun unnotified => by cases notified.symm.trans unnotified⟩⟩

theorem guardedRead {site : NoticeSite} {f : Db → α} {done : List NoticeEvent → Except Exception α → Prop}
    (ends : ∀ thread i w, done (⟨thread,site,i,w,w⟩ :: own) (if i.fails then .error .database else .ok (f w.db))) :
    Guarded (Calls config) done (NotificationsService.read site f) own :=
  guardedQuery fun thread i w => ⟨callsStay config,ends thread i w⟩

theorem guardedCreate {notice : RetentionNotice} {userId : String} (here : inSlot schedule notice = true) (window : notice.unlockAt = schedule.unlockAt)
    {d : NoticeEvent} (before : d ∈ own) {found : User} (there : account stellarAddress d.before.db = some found) (same : userId = found.id) :
    Guarded (Calls config) (fun own' _ => Sent schedule stellarAddress own') (NotificationsService.createNotification userId notice) own := by
  refine guardedTransact (fun thread i w value w' committed => ?_) fun thread i w error thrown => ⟨callsStay config,?_⟩
  · split at committed
    · cases committed
    · cases committed
      refine ⟨⟨rfl,rfl,fun _ inside => List.mem_append_left _ inside,?_⟩,?_⟩
      · exact fun _ row' found notified => ⟨row',found,rfl,fun unnotified => by cases notified.symm.trans unnotified⟩
      · refine Or.inr ⟨d,List.mem_cons_of_mem _ before,Or.inr ⟨found,there,Or.inr ⟨_,List.mem_cons_self,_,List.mem_append_right _ (List.mem_singleton_self _),?_⟩⟩⟩
        simp only [inSlot,Bool.and_eq_true,decide_eq_true_eq] at here
        exact ⟨same,here.1,here.2,window⟩
  · split at thrown
    · rename_i fails
      exact Or.inl ⟨_,List.mem_cons_self,notice,Or.inr rfl,here,fails⟩
    · cases thrown

theorem guardedUserById {notice : RetentionNotice} (here : inSlot schedule notice = true) (window : notice.unlockAt = schedule.unlockAt)
    {d : NoticeEvent} (before : d ∈ own) {found : User} (there : account stellarAddress d.before.db = some found) :
    Guarded (Calls config) (fun own' _ => Sent schedule stellarAddress own') (NotificationsService.notifyUserById found.id notice) own := by
  refine guardedHandle (guardedMono ?_ (?_ : Guarded (Calls config) (fun own' _ => Sent schedule stellarAddress own') _ own))
  · intro own' out sent
    cases out <;> exact sent
  · refine guardedBind (guardedRead config fun thread i w => ?_)
    cases fails : i.fails with
    | true => exact Or.inl ⟨_,List.mem_cons_self,notice,Or.inl rfl,here,fails⟩
    | false =>
      cases stored : w.db.users.get? found.id with
      | none =>
        simp only [Bool.false_eq_true,if_false]
        exact Or.inr ⟨d,List.mem_cons_of_mem _ before,Or.inr ⟨found,there,Or.inl ⟨_,List.mem_cons_self,stored⟩⟩⟩
      | some user =>
        simp only [Bool.false_eq_true,if_false]
        exact guardedCreate config here window (List.mem_cons_of_mem _ before) there (Table.getKey stored)

theorem guardedUser {notice : RetentionNotice} (here : inSlot schedule notice = true) (window : notice.unlockAt = schedule.unlockAt) :
    Guarded (Calls config) (fun own' _ => Sent schedule stellarAddress own') (NotificationsService.notifyUser stellarAddress notice) own := by
  refine guardedHandle (guardedMono ?_ (?_ : Guarded (Calls config) (fun own' _ => Sent schedule stellarAddress own') _ own))
  · intro own' out sent
    cases out <;> exact sent
  · refine guardedBind (guardedRead config fun thread i w => ?_)
    cases fails : i.fails with
    | true => exact Or.inl ⟨_,List.mem_cons_self,notice,Or.inl rfl,here,fails⟩
    | false =>
      cases there : account stellarAddress w.db with
      | none =>
        simp only [Bool.false_eq_true,if_false]
        unfold account at there
        rw [there]
        exact Or.inr ⟨_,List.mem_cons_self,Or.inl there⟩
      | some user =>
        have listed : w.db.users.findFirst (fun row => row.stellarAddress = some stellarAddress) = some user := there
        simp only [Bool.false_eq_true,if_false,listed]
        exact guardedUserById config here window List.mem_cons_self there

theorem guardedNotifyEach {notice : RetentionNotice} (here : inSlot schedule notice = true) (window : notice.unlockAt = schedule.unlockAt) :
    Guarded (Calls config) (fun own' out => out = .ok () → Served config schedule user own') (notifyEach config schedule notice user) own := by
  refine guardedBind (guardedQuery fun thread i w => ⟨callsStay config,?_⟩)
  have skips : reachable config user w.db.clock = false → Served config schedule user (⟨thread,.localHour schedule user,i,w,w⟩ :: own) :=
    fun away => Or.inl ⟨_,List.mem_cons_self,rfl,away⟩
  cases hours : isWithinLocalHours config user w.db.clock with
  | none => exact nofun
  | some within =>
    cases within with
    | false => exact fun _ => skips (by simp [reachable,hours])
    | true =>
      simp only [Bool.not_true,Bool.false_eq_true,if_false]
      cases address : present user.stellarAddress with
      | none => exact fun _ => skips (by simp [reachable,address])
      | some stellarAddress =>
        have its : user.stellarAddress = some stellarAddress := (Option.filter_eq_some_iff.mp address).1
        exact guardedMono (fun _ _ sent _ => Or.inr ⟨stellarAddress,its,sent⟩) (guardedUser config here window)

theorem guardedMark (announced : Announced config schedule own) : Guarded (Calls config) anyOutcome (markNotified schedule) own := by
  refine guardedTransact (fun thread i w value w' committed => ⟨?_,trivial⟩) fun thread i w error _ => ⟨callsStay config,trivial⟩
  split at committed
  · cases committed
  · rename_i works
    split at committed
    · cases committed
    · rename_i modified
      cases committed
      obtain ⟨old,found,_,rfl⟩ := Table.modifyGet modified
      refine ⟨rfl,rfl,fun _ inside => inside,fun key row' there notified => ?_⟩
      by_cases same : key = (schedule.engagementId,schedule.milestoneIndex)
      · subst same
        cases (Table.getUpdateSelf found (fun row => { row with notified := true }) fun _ => rfl).symm.trans there
        exact ⟨old,found,rfl,fun _ => Or.inr ⟨schedule,rfl,by simpa using works,Table.getKey found,announced⟩⟩
      · refine ⟨row',?_,rfl,fun unnotified => by cases notified.symm.trans unnotified⟩
        exact (Table.getUpdateOther w.db.schedules same (fun row => { row with notified := true }) fun _ => rfl).symm.trans there

theorem noticeInSlot {engagement : Engagement} (same : engagement.id = schedule.engagementId) (milestone : Option Milestone) :
    inSlot schedule (noticeFor schedule engagement milestone) = true := by
  simp [inSlot,noticeFor,same]

theorem guardedAnnounceEach (schedule : RetentionSchedule) (own : List NoticeEvent) :
    Guarded (Calls config) anyOutcome (announceEach config schedule) own := by
  refine guardedBind (guardedRead config fun thread i w => ?_)
  cases i.fails with
  | true => trivial
  | false =>
    cases stored : w.db.engagements.get? schedule.engagementId with
    | none => trivial
    | some engagement =>
      simp only [Bool.false_eq_true,if_false,Option.map_some]
      refine guardedBind (guardedRead config fun thread' i' w' => ?_)
      cases i'.fails with
      | true => trivial
      | false =>
        simp only [Bool.false_eq_true,if_false]
        have same : engagement.id = schedule.engagementId := Table.getKey stored
        refine guardedBind (guardedMono ?_ (guardedGrows (guardedForAll (R := Served config schedule)
          (fun user own own' more served => servedGrows config more served)
          (fun user _ own => guardedNotifyEach config (noticeInSlot same _) rfl) _)))
        intro own' out ⟨served,more⟩
        cases out with
        | error error => trivial
        | ok value =>
          exact guardedMark config ⟨_,more (List.mem_cons_of_mem _ List.mem_cons_self),engagement,stored,_,more List.mem_cons_self,served rfl⟩

theorem guardedSend : Guarded (Calls config) anyOutcome (sendApproachingNotifications config) [] := by
  refine guardedBind (guardedQuery fun thread i w => ⟨callsStay config,?_⟩)
  refine guardedBind (guardedRead config fun thread i w => ?_)
  cases i.fails with
  | true => trivial
  | false =>
    refine guardedForEach (fun schedule own => ?_) _ _
    exact guardedElse (guardedAnnounceEach config schedule own) fun _ _ => trivial

end Calls

section Jobs

variable {db db' : Db} {α : Type}

/-- What the calls of the other jobs leave of the parties and the schedules. -/
structure Leaves (site : Site) (db db' : Db) : Prop where
  users : db'.users = db.users
  engagements : db'.engagements = db.engagements
  marks : ∀ key row', db'.schedules.get? key = some row' → row'.notified = true →
    ∃ row, db.schedules.get? key = some row ∧ row.unlockAt = row'.unlockAt ∧ (row.notified = false → site = .notifySchedule)

theorem leavesSame {site : Site} (users : db'.users = db.users) (engagements : db'.engagements = db.engagements)
    (schedules : db'.schedules = db.schedules) : Leaves site db db' :=
  ⟨users,engagements,fun _ row' found notified => ⟨row',schedules ▸ found,rfl,fun unnotified => by cases notified.symm.trans unnotified⟩⟩

theorem leavesStay (site : Site) (db : Db) : Leaves site db db := leavesSame rfl rfl rfl

/-- Some schedules change, but not their window, and only one job notifies them. -/
theorem leavesUpdated {site : Site} {p : RetentionSchedule → Bool} {f : RetentionSchedule → RetentionSchedule}
    {keeps : ∀ row, Keyed.key (f row) = Keyed.key row} (window : ∀ row, (f row).unlockAt = row.unlockAt)
    (marks : ∀ row, (f row).notified = true → row.notified = true ∨ site = .notifySchedule) :
    Leaves site db { db with schedules := db.schedules.updateMany p f keeps } := by
  refine ⟨rfl,rfl,fun key row' found notified => ?_⟩
  obtain ⟨row,there,rfl⟩ := Option.map_eq_some_iff.mp ((Table.getUpdateMany db.schedules p f keeps key).symm.trans found)
  refine ⟨row,there,?_,fun unnotified => ?_⟩
  · split
    · exact (window row).symm
    · rfl
  · split at notified
    · rcases marks row notified with before | only
      · cases before.symm.trans unnotified
      · exact only
    · cases notified.symm.trans unnotified

theorem leavesQuery {site : Site} (f : Answer → Db → Except Exception α) : Acts Leaves (Process.query site f) := actsQuery (leavesStay site) f

theorem leavesWrite {site : Site} {f : Answer → Db → Except Exception (α × Db)}
    (commits : ∀ i db value db', f i db = .ok (value,db') → Leaves site db db') : Acts Leaves (write site f) := by
  refine actsTransact (leavesStay site) fun i db value db' ok => ?_
  split at ok
  · cases ok
  · exact commits i db value db' ok

theorem leavesMilestone {site : Site} {id : String} {f : Milestone → Milestone} {keeps : ∀ m, (f m).id = m.id} :
    Acts Leaves (write site fun _ db => db.updateMilestone id f keeps) := by
  refine leavesWrite fun i db value db' ok => ?_
  obtain ⟨_,_,_,_,_,rfl⟩ := Db.updateMilestoneCases ok
  exact leavesSame rfl rfl rfl

theorem leavesUnlock (milestoneId : String) : Acts Leaves (MilestonesService.unlockRetentionOnChain milestoneId) := by
  refine actsBind (leavesQuery _) fun found => ?_
  cases found with
  | none => trivial
  | some milestone =>
    refine actsBind (leavesQuery _) fun _ => actsBind leavesMilestone fun _ => leavesWrite fun i db value db' ok => ?_
    cases ok
    exact leavesUpdated (fun _ => rfl) fun _ before => Or.inl before

theorem leavesWarn (milestoneId : String) : Acts Leaves (MilestonesService.sendRetentionWarningNotification milestoneId) := by
  refine actsBind (leavesQuery _) fun found => ?_
  cases found with
  | none => trivial
  | some milestone =>
    refine actsBind leavesMilestone fun _ => leavesWrite fun i db value db' ok => ?_
    cases ok
    exact leavesUpdated (fun _ => rfl) fun _ _ => Or.inr rfl

theorem leavesHandle : Acts Leaves MilestonesRetentionScheduler.handleRetentionMilestones := by
  have each : ∀ ledger milestone, Acts Leaves (MilestonesRetentionScheduler.handleEach ledger milestone) := fun ledger milestone => by
    unfold MilestonesRetentionScheduler.handleEach
    split
    · exact leavesUnlock _
    · split
      · exact leavesWarn _
      · trivial
  have checks : Acts Leaves MilestonesRetentionScheduler.check :=
    actsBind (leavesQuery _) fun ledger => actsBind (leavesQuery _) fun milestones => actsForEach (each ledger) milestones
  have flag : ∀ {site : Site} {α : Type} {f : Answer → Db → Except Exception (α × Db)},
      (∀ i db value db', f i db = .ok (value,db') → ∃ running, db' = { db with retentionRunning := running }) →
      Acts Leaves (Process.transact site f) := fun sets =>
    actsTransact (leavesStay _) fun i db value db' ok => by
      obtain ⟨_,rfl⟩ := sets i db value db' ok
      exact leavesSame rfl rfl rfl
  refine actsBind (leavesQuery _) fun token => ?_
  cases token with
  | false => trivial
  | true =>
    refine actsBind (flag fun i db value db' ok => ?_) fun running => ?_
    · cases ok
      exact ⟨_,rfl⟩
    · cases running with
      | true => exact leavesQuery _
      | false =>
        refine actsBind (actsHandle checks fun _ => trivial) fun _ => actsBind (flag fun i db value db' ok => ?_) fun _ => leavesQuery _
        cases ok
        exact ⟨_,rfl⟩

theorem leavesCheckUnlockable : Acts Leaves EventsRetentionScheduler.checkAndMarkUnlockable := by
  refine actsBind (leavesQuery _) fun at' => actsBind (leavesQuery _) fun due => actsForEach (fun schedule => ?_) due
  refine actsHandle (actsBind (leavesQuery _) fun unlockable => ?_) fun _ => trivial
  cases unlockable with
  | false => trivial
  | true =>
    refine actsBind (leavesWrite fun i db value db' ok => ?_) fun _ => actsBind (leavesWrite fun i db value db' ok => ?_) fun _ => ?_
    · cases ok
      exact leavesSame rfl rfl rfl
    · obtain ⟨⟨row,schedules⟩,modified,done⟩ := exceptBind.mp ok
      cases done
      obtain ⟨old,_,_,rfl⟩ := Table.modifyGet (requiredSome modified)
      exact leavesUpdated (fun _ => rfl) fun _ before => Or.inl before
    · refine actsBind (leavesQuery _) fun engagement => ?_
      cases engagement with
      | none => trivial
      | some _ => exact actsForEach (fun _ => leavesQuery _) _

theorem leavesUpsert {site : Site} {schedule : RetentionSchedule} {f : RetentionSchedule → RetentionSchedule}
    {keeps : ∀ row, Keyed.key (f row) = Keyed.key row} (fresh : schedule.notified = false) (clears : ∀ row, (f row).notified = false) :
    Leaves site db { db with schedules := db.schedules.upsert schedule f keeps } := by
  refine ⟨rfl,rfl,fun key row' found notified => ?_⟩
  have found := (Table.upsertGet db.schedules schedule f keeps key).symm.trans found
  split at found
  · exfalso
    rw [← Option.some.inj found] at notified
    cases stored : db.schedules.get? key with
    | none =>
      rw [stored] at notified
      cases fresh.symm.trans notified
    | some old =>
      rw [stored] at notified
      cases (clears old).symm.trans notified
  · exact ⟨row',found,rfl,fun unnotified => by cases notified.symm.trans unnotified⟩

theorem leavesReset (engagementId : String) (currentLedger : Int) :
    Acts Leaves (MilestonesService.resetForReplacement engagementId currentLedger) := by
  have approvals : ∀ id, Acts Leaves (MilestonesService.deleteApprovals id) := fun id => leavesWrite fun i db value db' ok => by
    cases ok
    exact leavesSame rfl rfl rfl
  refine actsBind (leavesQuery _) fun milestones => actsForEach (fun m => ?_) milestones
  split
  · exact actsBind leavesMilestone fun _ => approvals m.id
  · split
    · trivial
    · refine actsBind (leavesQuery _) fun at' => actsBind leavesMilestone fun _ => actsBind (approvals m.id) fun _ => ?_
      split
      · trivial
      · trivial
      · refine leavesWrite fun i db value db' ok => ?_
        cases ok
        exact leavesUpsert rfl fun _ => rfl

end Jobs

section Runs

theorem callsLeaves {own : List NoticeEvent} {thread : Nat} {site : Site} {i : Answer} {w : World} {db : Db} (leaves : Leaves site w.db db) :
    Calls config own ⟨thread,.escrow site,i,w,{ w with db := db }⟩ := by
  refine ⟨leaves.users,leaves.engagements,fun _ inside => inside,fun key row' found notified => ?_⟩
  obtain ⟨row,there,window,marks⟩ := leaves.marks key row' found notified
  exact ⟨row,there,window,fun unnotified => Or.inl (congrArg NoticeSite.escrow (marks unnotified))⟩

def Lifts (site : NoticeSite) (w w' : World) : Prop := ∃ site' db, site = .escrow site' ∧ Leaves site' w.db db ∧ w' = { w with db := db }

theorem guardedJob {p : Op Unit} (acts : Acts Leaves p) : Guarded (Calls config) anyOutcome (inDb p) [] := by
  have lifted : Acts Lifts (inDb p) := actsEmbed (fun site w db leaves => ⟨site,db,rfl,leaves,rfl⟩) acts
  refine guardedAny (guardedActs (fun later e _ lifts => ?_) lifted)
  obtain ⟨thread,site,i,w,w'⟩ := e
  obtain ⟨site',db,labelled,leaves,changed⟩ := lifts
  dsimp only at labelled leaves changed
  subst labelled changed
  exact callsLeaves config leaves

theorem guardedHandler (request : Request) : Guarded (Calls config) anyOutcome (handler config request) [] := by
  cases request with
  | sendApproachingNotifications => exact guardedSend config
  | handleRetentionMilestones => exact guardedJob config leavesHandle
  | sendRetentionWarningNotification milestoneId => exact guardedJob config (leavesWarn milestoneId)
  | resetForReplacement engagementId currentLedger => exact guardedJob config (leavesReset engagementId currentLedger)
  | checkAndMarkUnlockable => exact guardedJob config leavesCheckUnlockable
  | unlockRetentionOnChain milestoneId => exact guardedJob config (leavesUnlock milestoneId)

/-- The parties of a run stay who they are, and what was told stays told. -/
structure Standing (w₀ : World) (c : Snapshot NoticeSite Answer World) : Prop where
  users : c.world.db.users = w₀.db.users
  engagements : c.world.db.engagements = w₀.db.engagements
  past : ∀ e ∈ c.history, e.before.db.users = w₀.db.users ∧ e.before.db.engagements = w₀.db.engagements ∧
    e.after.notifications ⊆ c.world.notifications
  told : Told c.world

variable {w₀ w' : World} {c : Snapshot NoticeSite Answer World} {thread : Nat} {site : NoticeSite} {i : Answer}
  {row row' schedule : RetentionSchedule} {config}

theorem toldStill (users : w'.db.users = c.world.db.users) (engagements : w'.db.engagements = c.world.db.engagements)
    (notifications : c.world.notifications ⊆ w'.notifications) (same : slot row' = slot row) (window : row'.unlockAt = row.unlockAt)
    (told : PartiesTold c.world row) : PartiesTold w' row' := by
  obtain ⟨engagementId,milestoneIndex⟩ := Prod.mk.inj same
  intro engagement found stellarAddress inside user there
  unfold account at there
  rw [engagements,engagementId] at found
  rw [users] at there
  obtain ⟨n,stored,named,its,index,until'⟩ := told engagement found stellarAddress inside user there
  exact ⟨n,notifications stored,named,its.trans engagementId.symm,index.trans milestoneIndex.symm,until'.trans window.symm⟩

/-- Whom the job has gone through without passing anybody over, it has told. -/
theorem toldNow (standing : Standing w₀ c) (announced : Announced config schedule (c.history.filter fun e => e.thread = thread))
    (smooth : ∀ d ∈ c.history, d.thread = thread → Smooth config schedule d) : PartiesTold c.world schedule := by
  obtain ⟨d,inside,engagement,found,d',inside',served⟩ := announced
  have own : ∀ {e : NoticeEvent}, e ∈ c.history.filter (fun e => e.thread = thread) → e ∈ c.history ∧ e.thread = thread := fun there =>
    ⟨(List.mem_filter.mp there).1,of_decide_eq_true (List.mem_filter.mp there).2⟩
  intro engagement' found' stellarAddress among user there
  rw [standing.engagements] at found'
  rw [(standing.past d (own inside).1).2.1] at found
  cases found.symm.trans found'
  have its : user.stellarAddress = some stellarAddress := by simpa using List.find?_some there
  have stored : user ∈ w₀.db.users.rows := standing.users ▸ List.mem_of_find?_eq_some there
  have party : user ∈ d'.before.db.users.findMany (isParty engagement) := by
    rw [(standing.past d' (own inside').1).1]
    refine List.mem_filter.mpr ⟨stored,?_⟩
    rcases List.mem_cons.mp among with rfl | last
    · simp [isParty,its]
    · rw [List.mem_singleton.mp last] at its
      simp [isParty,its]
  rcases served user party with ⟨e,mine,asked,away⟩ | ⟨other,address,sent⟩
  · have near := smooth e (own mine).1 (own mine).2
    simp only [Smooth,asked] at near
    cases away.symm.trans (near trivial)
  cases its.symm.trans address
  rcases sent with ⟨e,mine,notice,asked,here,fails⟩ | ⟨e,mine,absent⟩
  · have works := smooth e (own mine).1 (own mine).2
    rcases asked with asked | asked
    · simp only [Smooth,asked] at works
      cases fails.symm.trans (works here)
    · simp only [Smooth,asked] at works
      cases fails.symm.trans (works here)
  have accounts : account stellarAddress e.before.db = some user := by
    rw [account,(standing.past e (own mine).1).1,← standing.users]
    exact there
  rcases absent with none | ⟨user',found',gone⟩
  · cases accounts.symm.trans none
  cases accounts.symm.trans found'
  rcases gone with ⟨e',mine',missing⟩ | ⟨e',mine',n,notified,names⟩
  · rw [(standing.past e' (own mine').1).1] at missing
    cases (Table.memGet stored).symm.trans missing
  · exact ⟨n,(standing.past e' (own mine').1).2.2 notified,names⟩

theorem toldRecord (standing : Standing w₀ c) (calls : Calls config (c.history.filter fun e => e.thread = thread) (c.event thread site i w'))
    {request : Request} (faithful : Faithful config request c.history (c.event thread site i w')) : Told w' := by
  intro row' inside notified
  obtain ⟨row,found,window,marks⟩ := calls.marks (slot row') row' (Table.memGet inside) notified
  have same : slot row' = slot row := (Table.getKey found).symm
  refine toldStill calls.users calls.engagements calls.notifications same window.symm ?_
  cases before : row.notified with
  | true => exact standing.told row (Table.getMem found) before
  | false =>
    rcases marks before with silent | ⟨schedule,marked,works,here,announced⟩
    · simp only [Faithful,silent] at faithful
      have still := faithful row (Table.getMem found) before row' (by rw [← same]; exact Table.memGet inside)
      cases still.symm.trans notified
    · simp only [Faithful,marked] at faithful
      obtain ⟨listed,smooth⟩ := faithful row (by rw [← here,← same]; exact found) before works
      refine toldStill rfl rfl (fun _ there => there) here listed (toldNow standing announced smooth)

end Runs

theorem partiesToldOnce (w : World) (moves : List NoticeMove) (told : Told w)
    (faithful : Meets (Faithful config) ((service config).run (Pool.initial w) moves)) :
    Told ((service config).run (Pool.initial w) moves).world := by
  refine (guardedRun (Q := fun _ => Calls config) (D := fun _ => anyOutcome) (J := Standing w) (P := Faithful config)
    (fun request c thread site i w' standing calls faithful => ?_) (fun elapsed c standing => ?_) (guardedHandler config)
    (guardedInitial ⟨rfl,rfl,fun _ inside => absurd inside List.not_mem_nil,told⟩) moves faithful).holds.told
  · refine ⟨calls.users.trans standing.users,calls.engagements.trans standing.engagements,fun e inside => ?_,toldRecord standing calls faithful⟩
    rcases List.mem_cons.mp inside with rfl | earlier
    · exact ⟨standing.users,standing.engagements,fun _ there => there⟩
    · obtain ⟨users,engagements,notifications⟩ := standing.past e earlier
      exact ⟨users,engagements,fun _ there => calls.notifications (notifications there)⟩
  · exact ⟨standing.users,standing.engagements,standing.past,standing.told⟩

section Inputs

-- every zone has the hour of UTC
def utc : Config where
  timezone _ := none
  localHour _ now := some (now / 3600000 % 24)

def hired (clock : Nat) : World where
  db :=
    { clock := clock
      users := ⟨[{ id := "c", stellarAddress := some "C" },{ id := "r", role := .recruiter, stellarAddress := some "R" }],by simp [Keyed.key]⟩
      engagements := .single { id := "e", companyAddress := "C", recruiterAddress := "R", arbiterAddress := "A", totalAmount := 100 }
      milestones := .single { id := "m", engagementId := "e", milestoneIndex := 0, name := "n", kind := .retention, paymentPercent := 100, status := .locked }
      schedules := .single { engagementId := "e", milestoneIndex := 0, validAfterLedger := 100, unlockAt := 300000000, notifyAt := 0 } }

def sending : List NoticeMove := .start .sendApproachingNotifications :: (List.replicate 13 {}).map (.answer 0)

def warning : List NoticeMove := .start (.sendRetentionWarningNotification "m") :: (List.replicate 3 {}).map (.answer 0)

theorem noonTold : Told ((service utc).run (Pool.initial (hired 43200000)) sending).world :=
  partiesToldOnce utc (hired 43200000) sending (fun row inside notified => by
    rw [List.mem_singleton.mp inside] at notified
    cases notified) (by decide +kernel)

/-- Warned of by the one job, or passed over at night by the other, nobody has been told. -/
theorem notifiedUntold : ¬ Told ((service utc).run (Pool.initial (hired 43200000)) warning).world ∧
    ¬ Told ((service utc).run (Pool.initial (hired 0)) sending).world := by
  have untold : ∀ {w : World} {row : RetentionSchedule}, w.db.schedules.rows = [row] → row.notified = true → row.engagementId = "e" →
      w.db.engagements = (hired 0).db.engagements → w.db.users = (hired 0).db.users → w.notifications = [] → ¬ Told w := by
    intro w row rows notified its engagements users silent told
    obtain ⟨n,inside,_⟩ := told row (rows ▸ List.mem_singleton_self row) notified _ (by rw [engagements,its]; rfl) "C" List.mem_cons_self
      { id := "c", stellarAddress := some "C" } (by rw [account,users]; rfl)
    exact absurd (silent ▸ inside) List.not_mem_nil
  exact ⟨untold rfl rfl rfl rfl rfl rfl,untold rfl rfl rfl rfl rfl rfl⟩

end Inputs

end HireSettle.Escrow.ApproachingNotices
