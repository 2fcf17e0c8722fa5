import HireSettle.Escrow.RetentionSchedulers
import HireSettle.Escrow.ServedCalls

/-! One run of the hourly check, when the contract refuses some of the milestones. The
check goes through the milestones in the order in which the database lists them and ends
with the first whose unlock throws. -/
namespace HireSettle.Escrow.MilestonesRetentionScheduler
open Workflow MilestonesService

variable (ledger : Int) (refuses : String → Nat → Bool)

-- the contract refuses to unlock some milestones, every other call works
def answers : Site → Answer
  | .getLatestLedger => { number := ledger }
  | .unlockRetentionMilestone engagementId milestoneIndex => { fails := refuses engagementId milestoneIndex }
  | _ => {}

def refused (m : Milestone) : Bool := matured ledger m && refuses m.engagementId m.milestoneIndex

/-- It can be unlocked, or it is to be warned of. -/
def owed (m : Milestone) : Bool :=
  if matured ledger m then !refuses m.engagementId m.milestoneIndex else approaching ledger m

def stored (m : Milestone) (p : Milestone → Bool) (db : Db) : Prop := ∃ row, db.milestones.get? m.id = some row ∧ p row = true

def scheduled (m : Milestone) (p : RetentionSchedule → Bool) (db : Db) : Prop :=
  ∀ row, db.schedules.get? (m.engagementId,m.milestoneIndex) = some row → p row = true

def Handled (m : Milestone) (db : Db) : Prop :=
  if matured ledger m then stored m (fun row => row.status = .pending) db ∧ scheduled m (fun row => row.unlocked) db
  else stored m (fun row => row.approachingNotificationSent) db ∧ scheduled m (fun row => row.notified) db

def listed (db : Db) : List Milestone := db.milestones.findMany fun row => row.kind = .retention && row.status = .locked

def idle (db : Db) : Db := { db with retentionRunning := false }

/-- The check handles every milestone that it can. -/
def HandlesAll (db : Db) : Prop := ∀ m ∈ listed db, owed ledger refuses m = true →
  Handled ledger m (handleRetentionMilestones.interpret (answers ledger refuses) (idle db)).2

section Steps

variable {ledger refuses} {db db' : Db} {m : Milestone}

structure Spares (m : Milestone) (db db' : Db) : Prop where
  others : ∀ id, id ≠ m.id → db'.milestones.get? id = db.milestones.get? id
  flags : ∀ other : Milestone, (scheduled other (fun row => row.unlocked) db → scheduled other (fun row => row.unlocked) db') ∧
    (scheduled other (fun row => row.notified) db → scheduled other (fun row => row.notified) db')

theorem flagged {schedules : Table RetentionSchedule} {p : RetentionSchedule → Bool} (f : RetentionSchedule → RetentionSchedule)
    (keeps : ∀ row, Keyed.key (f row) = Keyed.key row) {q : RetentionSchedule → Bool} (raises : ∀ row, q row = true → q (f row) = true)
    {key : String × Nat} (known : (∀ row, schedules.get? key = some row → q row = true) ∨
      (∀ row, q (f row) = true) ∧ ∀ row, Keyed.key row = key → p row = true) :
    ∀ row, (schedules.updateMany p f keeps).get? key = some row → q row = true := by
  intro row found
  rw [Table.getUpdateMany] at found
  obtain ⟨old,there,rfl⟩ := Option.map_eq_some_iff.mp found
  rcases known with all | ⟨sets,hits⟩
  · split
    · exact raises old (all old there)
    · exact all old there
  · rw [if_pos (hits old (Table.getKey there))]
    exact sets old

def inSlot (m : Milestone) (row : RetentionSchedule) : Bool := row.engagementId = m.engagementId && row.milestoneIndex = m.milestoneIndex

theorem slotKey {row : RetentionSchedule} (key : Keyed.key row = (m.engagementId,m.milestoneIndex)) : inSlot m row = true := by
  obtain ⟨engagement,index⟩ := Prod.mk.inj key
  exact Bool.and_eq_true_iff.mpr ⟨decide_eq_true engagement,decide_eq_true index⟩

def unlocks (m : Milestone) (db : Db) : Db := { db with
  milestones := db.milestones.update m.id (fun row => { row with status := .pending }) (Milestone.statusKey .pending)
  schedules := db.schedules.updateMany (inSlot m) (fun row => { row with unlocked := true }) (RetentionSchedule.unlockedKey true) }

def warns (m : Milestone) (db : Db) : Db := { db with
  milestones := db.milestones.update m.id fun row => { row with approachingNotificationSent := true }
  schedules := db.schedules.updateMany (inSlot m) (fun row => { row with notified := true }) (RetentionSchedule.notifiedKey true) }

theorem updatedFound {f : Milestone → Milestone} {keeps : ∀ row, (f row).id = row.id} (found : db.milestones.get? m.id = some m) :
    db.updateMilestone m.id f keeps = .ok (f m,{ db with milestones := db.milestones.update m.id f keeps }) := by
  simp only [Db.updateMilestone,Table.modify,found,Option.map_some,required]
  rfl

theorem unlockRuns (found : db.milestones.get? m.id = some m) : (unlockRetentionOnChain m.id).interpret (answers ledger refuses) db =
    if refuses m.engagementId m.milestoneIndex then (.error .stellar,db) else (.ok (),unlocks m db) := by
  unfold unlockRetentionOnChain
  rw [interpretFind]
  simp only [answers,found,Bool.false_eq_true,if_false]
  rw [interpretStellar]
  cases refuse : refuses m.engagementId m.milestoneIndex with
  | true =>
    simp only [answers,refuse,if_true]
  | false =>
    simp only [answers,refuse,Bool.false_eq_true,if_false]
    rw [interpretWrite]
    simp only [answers,updatedFound found,Bool.false_eq_true,if_false]
    rfl

theorem warnRuns (found : db.milestones.get? m.id = some m) :
    (sendRetentionWarningNotification m.id).interpret (answers ledger refuses) db = (.ok (),warns m db) := by
  unfold sendRetentionWarningNotification
  rw [interpretFind]
  simp only [answers,found,Bool.false_eq_true,if_false]
  rw [interpretWrite]
  simp only [answers,updatedFound found,Bool.false_eq_true,if_false]
  rfl

theorem unlocksSpares : Spares m db (unlocks m db) where
  others _ differs := Table.getUpdateOther db.milestones differs (fun row => { row with status := .pending }) fun _ => rfl
  flags _ :=
    ⟨fun all => flagged (fun row => { row with unlocked := true }) (fun _ => rfl) (fun _ _ => rfl) (Or.inl all),
      fun all => flagged (q := fun row => row.notified) (fun row => { row with unlocked := true }) (fun _ => rfl) (fun _ set => set) (Or.inl all)⟩

theorem warnsSpares : Spares m db (warns m db) where
  others _ differs := Table.getUpdateOther db.milestones differs (fun row => { row with approachingNotificationSent := true }) fun _ => rfl
  flags _ :=
    ⟨fun all => flagged (q := fun row => row.unlocked) (fun row => { row with notified := true }) (fun _ => rfl) (fun _ set => set) (Or.inl all),
      fun all => flagged (fun row => { row with notified := true }) (fun _ => rfl) (fun _ _ => rfl) (Or.inl all)⟩

theorem unlocksStored (found : db.milestones.get? m.id = some m) :
    stored m (fun row => row.status = .pending) (unlocks m db) ∧ scheduled m (fun row => row.unlocked) (unlocks m db) :=
  ⟨⟨_,Table.getUpdateSelf found (fun row => { row with status := .pending }) fun _ => rfl,by simp⟩,
    flagged (fun row => { row with unlocked := true }) (fun _ => rfl) (fun _ _ => rfl) (Or.inr ⟨fun _ => rfl,fun _ => slotKey⟩)⟩

theorem warnsStored (found : db.milestones.get? m.id = some m) :
    stored m (fun row => row.approachingNotificationSent) (warns m db) ∧ scheduled m (fun row => row.notified) (warns m db) :=
  ⟨⟨_,Table.getUpdateSelf found (fun row => { row with approachingNotificationSent := true }) fun _ => rfl,rfl⟩,
    flagged (fun row => { row with notified := true }) (fun _ => rfl) (fun _ _ => rfl) (Or.inr ⟨fun _ => rfl,fun _ => slotKey⟩)⟩

theorem sparesRefl : Spares m db db := ⟨fun _ _ => rfl,fun _ => ⟨fun all => all,fun all => all⟩⟩

/-- What one pass of the loop does to its own milestone, and what it leaves alone. -/
theorem eachRuns (found : db.milestones.get? m.id = some m) (fair : refused ledger refuses m = false) :
    ∃ db', (handleEach ledger m).interpret (answers ledger refuses) db = (.ok (),db') ∧ Spares m db db' ∧
      (owed ledger refuses m = true → Handled ledger m db') := by
  unfold handleEach owed Handled
  cases mature : matured ledger m with
  | true =>
    have works : refuses m.engagementId m.milestoneIndex = false := by simpa [refused,mature] using fair
    refine ⟨unlocks m db,?_,unlocksSpares,fun _ => unlocksStored found⟩
    rw [if_pos rfl,unlockRuns found,works]
    rfl
  | false =>
    cases near : approaching ledger m with
    | true => exact ⟨warns m db,warnRuns found,warnsSpares,fun _ => warnsStored found⟩
    | false => exact ⟨db,rfl,sparesRefl,nofun⟩

theorem eachThrows (found : db.milestones.get? m.id = some m) (blocks : refused ledger refuses m = true) :
    (handleEach ledger m).interpret (answers ledger refuses) db = (.error .stellar,db) := by
  obtain ⟨mature,refuse⟩ := Bool.and_eq_true_iff.mp blocks
  rw [handleEach,if_pos mature,unlockRuns found,if_pos refuse]

/-- The milestones before the first that is refused. -/
abbrev served (ledger : Int) (refuses : String → Nat → Bool) (milestones : List Milestone) : List Milestone :=
  milestones.takeWhile fun m => !refused ledger refuses m

theorem sparesHandled {other : Milestone} (spares : Spares m db db') (differs : other.id ≠ m.id) (handled : Handled ledger other db) :
    Handled ledger other db' := by
  unfold Handled stored at handled ⊢
  rw [spares.others _ differs]
  split at handled
  · rw [if_pos ‹_›]
    exact ⟨handled.1,(spares.flags other).1 handled.2⟩
  · rw [if_neg ‹_›]
    exact ⟨handled.1,(spares.flags other).2 handled.2⟩

theorem listRuns (milestones : List Milestone) (db : Db) (ids : (milestones.map Milestone.id).Nodup)
    (found : ∀ m ∈ milestones, db.milestones.get? m.id = some m) :
    ∃ out db', (Process.forEach (handleEach ledger) milestones).interpret (answers ledger refuses) db = (out,db') ∧
      (∀ m ∈ served ledger refuses milestones, owed ledger refuses m = true → Handled ledger m db') ∧
      (∀ id, id ∉ (served ledger refuses milestones).map Milestone.id → db'.milestones.get? id = db.milestones.get? id) ∧
      ∀ m, Handled ledger m db → m.id ∉ (served ledger refuses milestones).map Milestone.id → Handled ledger m db' := by
  induction milestones generalizing db with
  | nil => exact ⟨.ok (),db,rfl,fun _ inside => absurd inside List.not_mem_nil,fun _ _ => rfl,fun _ handled _ => handled⟩
  | cons head rest ih =>
    obtain ⟨fresh,ids⟩ := List.nodup_cons.mp ids
    cases blocks : refused ledger refuses head with
    | true =>
      refine ⟨.error .stellar,db,?_,?_,fun _ _ => rfl,fun _ handled _ => handled⟩
      · rw [Process.forEach,interpretBind,eachThrows (found head List.mem_cons_self) blocks]
      · simp [served,blocks]
    | false =>
      obtain ⟨db₁,runs,spares,handles⟩ := eachRuns (found head List.mem_cons_self) blocks
      have apart : ∀ m ∈ rest, m.id ≠ head.id := fun m inside same => fresh (same ▸ List.mem_map_of_mem inside)
      obtain ⟨out,db',later,handled,others,keeps⟩ := ih db₁ ids fun m inside => by
        rw [spares.others _ (apart m inside)]
        exact found m (List.mem_cons_of_mem _ inside)
      have taken : served ledger refuses (head :: rest) = head :: served ledger refuses rest := by simp [served,blocks]
      have unserved : head.id ∉ (served ledger refuses rest).map Milestone.id := fun inside =>
        fresh (((List.takeWhile_sublist _).map Milestone.id).subset inside)
      refine ⟨out,db',?_,?_,?_,?_⟩
      · rw [Process.forEach,interpretBind,runs]
        exact later
      · intro m inside its
        rw [taken] at inside
        rcases List.mem_cons.mp inside with rfl | there
        · exact keeps m (handles its) unserved
        · exact handled m there its
      · intro id outside
        rw [taken,List.map_cons,List.mem_cons,not_or] at outside
        exact (others id outside.2).trans (spares.others id outside.1)
      · intro m its outside
        rw [taken,List.map_cons,List.mem_cons,not_or] at outside
        exact keeps m (sparesHandled spares outside.1 its) outside.2

end Steps

theorem checkRuns (db : Db) : ∃ out db', (Process.forEach (handleEach ledger) (listed db)).interpret (answers ledger refuses)
      { db with retentionRunning := true } = (out,db') ∧
    (handleRetentionMilestones.interpret (answers ledger refuses) (idle db)).2 = { db' with retentionRunning := false } := by
  obtain ⟨out,db',runs⟩ : ∃ out db', (Process.forEach (handleEach ledger) (listed db)).interpret (answers ledger refuses)
      { db with retentionRunning := true } = (out,db') := ⟨_,_,rfl⟩
  have checks : check.interpret (answers ledger refuses) { db with retentionRunning := true } = (out,db') := by
    unfold check
    rw [interpretStellar]
    simp only [answers,Bool.false_eq_true,if_false]
    exact runs
  have caught : ∃ out, (check.handle fun _ => pure ()).interpret (answers ledger refuses) { db with retentionRunning := true } = (.ok out,db') := by
    rw [interpretHandle,checks]
    cases out with
    | ok value => exact ⟨value,rfl⟩
    | error error => exact ⟨(),rfl⟩
  obtain ⟨value,caught⟩ := caught
  refine ⟨out,db',runs,?_⟩
  unfold handleRetentionMilestones DistributedLockService.tryAcquireLock startRunning
  rw [interpretBind,interpretQuery]
  simp only [answers,Bool.not_false,Bool.not_true,Bool.false_eq_true,if_false]
  rw [interpretBind,interpretTransact]
  simp only [Process.applied,Except.map,idle,Bool.false_eq_true,if_false]
  rw [interpretBind,caught]
  rfl

theorem handlesUnlessRefused (db : Db) : HandlesAll ledger refuses db ↔
    ∀ m ∈ listed db, owed ledger refuses m = true → m ∈ served ledger refuses (listed db) := by
  obtain ⟨out,db',runs,ends⟩ := checkRuns ledger refuses db
  have found : ∀ m ∈ listed db, db.milestones.get? m.id = some m := fun m inside => (Table.findManyGet inside).1
  obtain ⟨out',db'',runs',handled,others,_⟩ := @listRuns ledger refuses (listed db)
    { db with retentionRunning := true } (db.milestones.unique.sublist (List.filter_sublist.map _)) found
  cases runs.symm.trans runs'
  unfold HandlesAll
  rw [ends]
  constructor
  · intro all m inside its
    by_contra outside
    have differs : m.id ∉ (served ledger refuses (listed db)).map Milestone.id := by
      intro there
      obtain ⟨other,before,same⟩ := List.mem_map.mp there
      have equal := (found other ((List.takeWhile_sublist _).subset before)).symm.trans (same ▸ found m inside)
      exact outside (Option.some.inj equal ▸ before)
    have row : db'.milestones.get? m.id = some m := (others m.id differs).trans (found m inside)
    have locked : m.status = .locked := by
      have kind := (Table.findManyGet inside).2
      simp only [Bool.and_eq_true,decide_eq_true_eq] at kind
      exact kind.2
    have done := all m inside its
    unfold Handled stored at done
    unfold owed at its
    split at done
    · obtain ⟨⟨_,there,marked⟩,_⟩ := done
      cases row.symm.trans there
      simp [locked] at marked
    · rename_i young
      obtain ⟨⟨_,there,marked⟩,_⟩ := done
      cases row.symm.trans there
      rw [if_neg young,approaching] at its
      simp [marked] at its
  · intro all m inside its
    exact handled m (all m inside its) its

def due (id : String) (milestoneIndex : Nat) : Milestone :=
  { id := id, engagementId := "e", milestoneIndex := milestoneIndex, name := id, kind := .retention, paymentPercent := 50,
    validAfterLedger := some 100, status := .locked }

-- two milestones of one engagement
def bothDue : Db where
  milestones := ⟨[due "a" 0,due "b" 1],by decide⟩

/-- The second milestone is due, and the refusal of the first leaves it locked. -/
theorem refusalEndsCheck : owed 100 (fun _ index => index = 0) (due "b" 1) = true ∧ ¬ HandlesAll 100 (fun _ index => index = 0) bothDue := by
  refine ⟨rfl,fun all => ?_⟩
  have locked : (handleRetentionMilestones.interpret (answers 100 fun _ index => index = 0) (idle bothDue)).2.milestones.get? "b" =
      some (due "b" 1) := rfl
  obtain ⟨⟨row,found,pending⟩,_⟩ : stored (due "b" 1) (fun row => row.status = .pending) _ ∧ _ :=
    all (due "b" 1) (List.mem_cons_of_mem _ List.mem_cons_self) rfl
  cases locked.symm.trans found
  cases pending

end HireSettle.Escrow.MilestonesRetentionScheduler
