import HireSettle.Escrow.Engagements
import HireSettle.Escrow.ServedCalls

/-! The reset of an engagement whose placement is replaced, served alone. It stops in the
middle at an open retention milestone that has never had an unlock. -/
namespace HireSettle.Escrow.ReplacementResets
open Workflow MilestonesService

section Outcome

variable (engagementId : String) (currentLedger : Int) (db : Db) (m : Milestone)

def newValidAfterLedger : Option Int :=
  match nonzero m.retentionDays with
  | some days => some (currentLedger + days * LEDGERS_PER_DAY)
  | none => m.validAfterLedger

def newUnlockAt (at' : Nat) : Option Int :=
  match nonzero (newValidAfterLedger currentLedger m) with
  | some ledger => some (ledgerToDateTime ledger currentLedger at')
  | none => m.unlockEstimatedAt

/-- A retention window of its own, or an unlock from before. -/
def Windowed : Prop :=
  (newValidAfterLedger currentLedger m).isSome = true ∧
    ((nonzero (newValidAfterLedger currentLedger m)).isSome = true ∨ m.unlockEstimatedAt.isSome = true)

instance : Decidable (Windowed currentLedger m) := inferInstanceAs (Decidable (_ ∧ _))

@[reducible] def Open : Prop := m.kind = .retention ∧ m.status ≠ .confirmed ∧ m.status ≠ .resolved

def Unapproved : Prop := ∀ approval ∈ db.approvals.rows, approval.milestoneId ≠ m.id

def Fresh (schedule : RetentionSchedule) : Prop :=
  schedule.unlocked = false ∧ schedule.notified = false ∧ schedule.notifyAt = schedule.unlockAt - 3 * DAY_MS

structure Replaced : Prop where
  placement : m.kind = .placement → Unapproved db m ∧ ∃ row, db.milestones.get? m.id = some row ∧
    row.status = .pending ∧ row.proofHash = none ∧ row.paymentReleased = none
  retention : Open m → Unapproved db m ∧ (∃ row, db.milestones.get? m.id = some row ∧ row.status = .locked) ∧
    ∃ schedule, db.schedules.get? (engagementId,m.milestoneIndex) = some schedule ∧ Fresh schedule

end Outcome

/-- What the reset of a milestone leaves of the others. -/
structure Touches (m : Milestone) (db db' : Db) : Prop where
  others : ∀ id, id ≠ m.id → db'.milestones.get? id = db.milestones.get? id
  stored : ∀ id, (db.milestones.get? id).isSome = true → (db'.milestones.get? id).isSome = true
  approvals : ∀ approval ∈ db'.approvals.rows, approval ∈ db.approvals.rows
  schedules : ∀ key schedule, db.schedules.get? key = some schedule → Fresh schedule →
    ∃ schedule', db'.schedules.get? key = some schedule' ∧ Fresh schedule'

variable {engagementId : String} {currentLedger : Int} {db db' : Db} {m other : Milestone} {respond : Site → Answer}

theorem replacedTouches (touches : Touches m db db') (differs : other.id ≠ m.id) (replaced : Replaced engagementId db other) :
    Replaced engagementId db' other := by
  constructor
  · intro placement
    obtain ⟨unapproved,row,found,reset⟩ := replaced.placement placement
    exact ⟨fun approval there => unapproved approval (touches.approvals approval there),row,
      (touches.others other.id differs).trans found,reset⟩
  · intro stands
    obtain ⟨unapproved,⟨row,found,locked⟩,schedule,scheduled,fresh⟩ := replaced.retention stands
    exact ⟨fun approval there => unapproved approval (touches.approvals approval there),
      ⟨row,(touches.others other.id differs).trans found,locked⟩,touches.schedules _ schedule scheduled fresh⟩

theorem rescheduledKey (schedule row : RetentionSchedule) :
    Keyed.key { row with
      validAfterLedger := schedule.validAfterLedger
      unlockAt := schedule.unlockAt
      notifyAt := schedule.notifyAt
      unlocked := false
      notified := false } = Keyed.key row := rfl

-- the last call of the reset of a retention milestone
def reschedule (engagementId : String) (m : Milestone) : Option Int → Option Int → Op Unit
  | none, _ => .raise .typeError
  | some _, none => .raise .database
  | some unlockAt, some validAfterLedger =>
      let schedule := scheduleFor { m with engagementId := engagementId } validAfterLedger unlockAt
      write (.upsertSchedule engagementId m.milestoneIndex) fun _ db => .ok ((),{ db with
        schedules := db.schedules.upsert schedule (fun row =>
          { row with
            validAfterLedger := schedule.validAfterLedger
            unlockAt := schedule.unlockAt
            notifyAt := schedule.notifyAt
            unlocked := false
            notified := false }) (rescheduledKey schedule) })

theorem resetRetentionEq : resetRetention engagementId currentLedger m = (do
    let at' ← now
    let _ ← write (.resetMilestone m.id) fun _ db => db.updateMilestone m.id fun row =>
      { row with
        status := .locked
        proofHash := none
        validAfterLedger := newValidAfterLedger currentLedger m
        unlockEstimatedAt := newUnlockAt currentLedger m at' }
    deleteApprovals m.id
    reschedule engagementId m (newUnlockAt currentLedger m at') (newValidAfterLedger currentLedger m)) := rfl

def resetOne (engagementId : String) (currentLedger : Int) (m : Milestone) : Op Unit :=
  match m.kind with
  | .placement => resetPlacement m
  | .retention =>
      if m.status = .confirmed ∨ m.status = .resolved then .ret ()
      else resetRetention engagementId currentLedger m

theorem touchesTrans {db'' : Db} (first : Touches m db db') (second : Touches m db' db'') : Touches m db db'' where
  others id differs := (second.others id differs).trans (first.others id differs)
  stored id there := second.stored id (first.stored id there)
  approvals approval there := first.approvals approval (second.approvals approval there)
  schedules key schedule found fresh :=
    have ⟨schedule',found',fresh'⟩ := first.schedules key schedule found fresh
    second.schedules key schedule' found' fresh'

theorem freshUpsert {schedules : Table RetentionSchedule} {schedule : RetentionSchedule} (fresh : Fresh schedule)
    {f : RetentionSchedule → RetentionSchedule} {keeps : ∀ r, Keyed.key (f r) = Keyed.key r} (renews : ∀ r, Fresh (f r))
    (key : String × Nat) (known : key = Keyed.key schedule ∨ ∃ old, schedules.get? key = some old ∧ Fresh old) :
    ∃ schedule', (schedules.upsert schedule f keeps).get? key = some schedule' ∧ Fresh schedule' := by
  rw [Table.upsertGet]
  split
  · refine ⟨_,rfl,?_⟩
    cases schedules.get? key with
    | none => exact fresh
    | some old => exact renews old
  · rename_i differs
    obtain ⟨old,found,fresh⟩ := known.resolve_left differs
    exact ⟨old,found,fresh⟩

section Steps

variable (answered : ∀ site, (respond site).fails = false)

include answered

theorem resetRuns (stored : (db.milestones.get? m.id).isSome = true) (f : Milestone → Milestone) (keeps : ∀ r, (f r).id = r.id) :
    ∃ row db', (write (.resetMilestone m.id) (fun _ db => db.updateMilestone m.id f keeps) >>= fun _ =>
        deleteApprovals m.id).interpret respond db = (.ok (),db') ∧
      db'.milestones.get? m.id = some (f row) ∧ db'.schedules = db.schedules ∧ Touches m db db' ∧ Unapproved db' m := by
  obtain ⟨row,found⟩ := Option.isSome_iff_exists.mp stored
  refine ⟨row,{ db with
    milestones := db.milestones.update m.id f keeps
    approvals := db.approvals.deleteMany fun row => row.milestoneId = m.id },?_,Table.getUpdateSelf found f keeps,rfl,?_,?_⟩
  · rw [interpretWrite,deleteApprovals,write]
    simp only [answered,Bool.false_eq_true,if_false,Db.updateMilestone,Table.modify,found,Option.map_some,required,bind,Except.bind,
      interpretTransact,Process.applied,Except.map,pure,Except.pure]
  · refine ⟨fun id differs => Table.getUpdateOther _ differs f keeps,fun id there => ?_,fun approval there => ?_,
      fun key schedule found fresh => ⟨schedule,found,fresh⟩⟩
    · rw [Table.getUpdate]
      split
      · simpa using there
      · exact there
    · exact (List.mem_filter.mp there).1
  · intro approval there
    simpa using (List.mem_filter.mp there).2

theorem resetPlacementRuns (placement : m.kind = .placement) (stored : (db.milestones.get? m.id).isSome = true) :
    ∃ db', (resetPlacement m).interpret respond db = (.ok (),db') ∧ Touches m db db' ∧ Replaced engagementId db' m := by
  obtain ⟨row,db',runs,found,_,touches,unapproved⟩ := resetRuns answered stored
    (fun row => { row with status := .pending, proofHash := none, confirmedAt := none, paymentReleased := none }) fun _ => rfl
  refine ⟨db',runs,touches,fun _ => ⟨unapproved,_,found,rfl,rfl,rfl⟩,fun stands => ?_⟩
  cases placement.symm.trans stands.1

theorem rescheduleRuns (engagementId : String) (m : Milestone) (unlockAt validAfterLedger : Int) (db : Db) :
    ∃ db', (reschedule engagementId m (some unlockAt) (some validAfterLedger)).interpret respond db = (.ok (),db') ∧
      Touches m db db' ∧ db'.milestones = db.milestones ∧ db'.approvals = db.approvals ∧
      ∃ schedule, db'.schedules.get? (engagementId,m.milestoneIndex) = some schedule ∧ Fresh schedule := by
  rw [reschedule,write,interpretTransact]
  simp only [answered,Bool.false_eq_true,if_false,Process.applied,Except.map]
  have renewed : Fresh (scheduleFor { m with engagementId := engagementId } validAfterLedger unlockAt) := ⟨rfl,rfl,rfl⟩
  have renews : ∀ r : RetentionSchedule, Fresh { r with
      validAfterLedger := validAfterLedger, unlockAt := unlockAt, notifyAt := unlockAt - 3 * DAY_MS
      unlocked := false, notified := false } := fun r => ⟨rfl,rfl,rfl⟩
  refine ⟨_,rfl,⟨fun _ _ => rfl,fun _ there => there,fun _ there => there,fun key schedule found fresh => ?_⟩,rfl,rfl,?_⟩
  · exact freshUpsert renewed renews key (.inr ⟨schedule,found,fresh⟩)
  · exact freshUpsert renewed renews _ (.inl rfl)

omit answered in
theorem windowedIff (at' : Nat) : Windowed currentLedger m ↔
    (newValidAfterLedger currentLedger m).isSome = true ∧ (newUnlockAt currentLedger m at').isSome = true := by
  unfold Windowed newUnlockAt
  cases nonzero (newValidAfterLedger currentLedger m) <;> simp

/-- An open retention milestone is reset if it has a window, and stops the reset if it has none. -/
theorem resetRetentionRuns (engagementId : String) (currentLedger : Int) (stands : Open m)
    (stored : (db.milestones.get? m.id).isSome = true) :
    (Windowed currentLedger m → ∃ db', (resetRetention engagementId currentLedger m).interpret respond db = (.ok (),db') ∧
      Touches m db db' ∧ Replaced engagementId db' m) ∧
    (¬ Windowed currentLedger m → ((resetRetention engagementId currentLedger m).interpret respond db).1 ≠ .ok ()) := by
  rw [resetRetentionEq,interpretNow,windowedIff db.clock]
  obtain ⟨row,reset,runs,found,_,touches,unapproved⟩ := resetRuns answered stored (fun row => { row with
    status := .locked
    proofHash := none
    validAfterLedger := newValidAfterLedger currentLedger m
    unlockEstimatedAt := newUnlockAt currentLedger m db.clock }) fun _ => rfl
  rw [← Process.bindAssoc,interpretBind,runs]
  dsimp only
  cases newUnlockAt currentLedger m db.clock with
  | none => exact ⟨fun windowed => (nomatch windowed.2),fun _ => nofun⟩
  | some unlockAt =>
    cases newValidAfterLedger currentLedger m with
    | none => exact ⟨fun windowed => (nomatch windowed.1),fun _ => nofun⟩
    | some validAfterLedger =>
      refine ⟨fun _ => ?_,fun without => absurd ⟨rfl,rfl⟩ without⟩
      obtain ⟨db',scheduled,later,milestones,approvals,schedule⟩ :=
        rescheduleRuns answered engagementId m unlockAt validAfterLedger reset
      refine ⟨db',scheduled,touchesTrans touches later,fun placement => ?_,fun _ => ⟨?_,⟨_,milestones ▸ found,rfl⟩,schedule⟩⟩
      · cases placement.symm.trans stands.1
      · exact fun approval there => unapproved approval (approvals ▸ there)

omit answered in
theorem touchesRefl : Touches m db db :=
  ⟨fun _ _ => rfl,fun _ there => there,fun _ there => there,fun _ schedule found fresh => ⟨schedule,found,fresh⟩⟩

theorem resetOneRuns (engagementId : String) (currentLedger : Int) (stored : (db.milestones.get? m.id).isSome = true) :
    ((Open m → Windowed currentLedger m) → ∃ db', (resetOne engagementId currentLedger m).interpret respond db = (.ok (),db') ∧
      Touches m db db' ∧ Replaced engagementId db' m) ∧
    (Open m → ¬ Windowed currentLedger m → ((resetOne engagementId currentLedger m).interpret respond db).1 ≠ .ok ()) := by
  unfold resetOne
  cases kind : m.kind with
  | placement =>
      exact ⟨fun _ => resetPlacementRuns answered kind stored,fun stands => nomatch kind.symm.trans stands.1⟩
  | retention =>
      dsimp only
      split
      · rename_i settled
        have shut : ¬ Open m := fun stands => settled.elim stands.2.1 stands.2.2
        exact ⟨fun _ => ⟨db,rfl,touchesRefl,⟨fun placement => (nomatch kind.symm.trans placement),fun stands => absurd stands shut⟩⟩,
          fun stands => absurd stands shut⟩
      · rename_i unsettled
        have stands : Open m := ⟨kind,not_or.mp unsettled⟩
        obtain ⟨resets,stops⟩ := resetRetentionRuns answered engagementId currentLedger stands stored
        exact ⟨fun windowed => resets (windowed stands),fun _ => stops⟩

theorem resetEachRuns (engagementId : String) (currentLedger : Int) (milestones : List Milestone)
    (unique : (milestones.map Milestone.id).Nodup) (stored : ∀ m ∈ milestones, (db.milestones.get? m.id).isSome = true)
    (windowed : ∀ m ∈ milestones, Open m → Windowed currentLedger m) :
    ∃ db', (Process.forEach (resetOne engagementId currentLedger) milestones).interpret respond db = (.ok (),db') ∧
      (∀ m ∈ milestones, Replaced engagementId db' m) ∧
      ∀ other, other.id ∉ milestones.map Milestone.id → Replaced engagementId db other → Replaced engagementId db' other := by
  induction milestones generalizing db with
  | nil => exact ⟨db,rfl,List.forall_mem_nil _,fun _ _ replaced => replaced⟩
  | cons m rest ih =>
    obtain ⟨fresh,unique⟩ := List.nodup_cons.mp unique
    obtain ⟨here,later⟩ := List.forall_mem_cons.mp stored
    obtain ⟨first,others⟩ := List.forall_mem_cons.mp windowed
    obtain ⟨middle,runs,touches,replaced⟩ := (resetOneRuns answered engagementId currentLedger here).1 first
    obtain ⟨db',rest',all,kept⟩ := ih unique (fun m there => touches.stored m.id (later m there)) others
    refine ⟨db',?_,List.forall_mem_cons.mpr ⟨kept m fresh replaced,all⟩,fun other apart before => ?_⟩
    · rw [Process.forEach,interpretBind,runs]
      exact rest'
    · obtain ⟨differs,apart⟩ := not_or.mp (List.mem_cons.not.mp apart)
      exact kept other apart (replacedTouches touches differs before)

theorem resetEachStops (engagementId : String) (currentLedger : Int) (milestones : List Milestone)
    (stored : ∀ m ∈ milestones, (db.milestones.get? m.id).isSome = true) (there : m ∈ milestones) (stands : Open m)
    (without : ¬ Windowed currentLedger m) :
    ((Process.forEach (resetOne engagementId currentLedger) milestones).interpret respond db).1 ≠ .ok () := by
  induction milestones generalizing db with
  | nil => cases there
  | cons head rest ih =>
    obtain ⟨here,later⟩ := List.forall_mem_cons.mp stored
    obtain ⟨resets,stops⟩ := resetOneRuns answered engagementId currentLedger here
    rw [Process.forEach,interpretBind]
    by_cases windowed : Open head → Windowed currentLedger head
    · obtain ⟨middle,runs,touches,_⟩ := resets windowed
      have inside : m ∈ rest := (List.mem_cons.mp there).resolve_left fun same => without (same ▸ windowed (same ▸ stands))
      rw [runs]
      exact ih (fun m there => touches.stored m.id (later m there)) inside
    · obtain ⟨open',unwindowed⟩ := Classical.not_imp.mp windowed
      have stopped := stops open' unwindowed
      generalize (resetOne engagementId currentLedger head).interpret respond db = out at stopped
      obtain ⟨error | value,db'⟩ := out
      · nofun
      · exact absurd rfl stopped

end Steps

/-- The reset of the engagement completes, and every milestone is as a replacement asks. -/
def Resets (engagementId : String) (currentLedger : Int) (respond : Site → Answer) (db : Db) : Prop :=
  ∃ db', (resetForReplacement engagementId currentLedger).interpret respond db = (.ok (),db') ∧
    ∀ m ∈ db.milestonesOf engagementId, Replaced engagementId db' m

/-- Whatever the state of the database, the reset completes exactly when every open retention milestone
has a window of its own or an unlock from before. -/
theorem resetsWindowed (engagementId : String) (currentLedger : Int) (respond : Site → Answer)
    (answered : ∀ site, (respond site).fails = false) (db : Db) :
    Resets engagementId currentLedger respond db ↔
      ∀ m ∈ db.milestonesOf engagementId, Open m → Windowed currentLedger m := by
  have runs : (resetForReplacement engagementId currentLedger).interpret respond db =
      (Process.forEach (resetOne engagementId currentLedger) (db.milestonesOf engagementId)).interpret respond db := by
    rw [show resetForReplacement engagementId currentLedger = (find .milestone fun db => db.milestonesOf engagementId) >>=
      Process.forEach (resetOne engagementId currentLedger) from rfl,interpretFind,answered]
    rfl
  have stored : ∀ m ∈ db.milestonesOf engagementId, (db.milestones.get? m.id).isSome = true := by
    intro m there
    have inside := (List.mem_filter.mp ((List.mem_insertionSort byIndex).mp there)).1
    exact Option.isSome_iff_exists.mpr ⟨m,Table.memGet inside⟩
  have unique : ((db.milestonesOf engagementId).map Milestone.id).Nodup :=
    ((List.perm_insertionSort byIndex _).map _).nodup_iff.mpr (db.milestones.unique.sublist (List.filter_sublist.map _))
  constructor
  · intro ⟨db',completes,_⟩ m there stands
    by_contra without
    refine resetEachStops answered engagementId currentLedger _ stored there stands without ?_
    rw [← runs,completes]
  · intro windowed
    obtain ⟨db',completes,all,_⟩ := resetEachRuns answered engagementId currentLedger _ unique stored windowed
    exact ⟨db',runs.trans completes,all⟩

def hire (retentionDays : Option (List (Option Int))) : CreateEngagementDto where
  engagementId := "e"
  companyAddress := "GC"
  recruiterAddress := "GR"
  arbiterAddress := "GA"
  tokenAddress := "USDC"
  totalAmount := some 1000
  jobTitle := some "Engineer"
  milestones := some [
    { name := "placed", kind := .placement, paymentPercent := 60 },
    { name := "retained", kind := .retention, paymentPercent := 40 }]
  retentionDays := retentionDays

/-- Every call is answered. -/
def answers (_ : Site) : Answer := { number := 1000, text := "m" }

-- the engagement is created and its invite accepted
def hired (retentionDays : Option (List (Option Int))) : Db :=
  let created := ((EngagementsService.create {} "c" (hire retentionDays)).interpret answers {}).2
  ((EngagementsService.acceptInvite "e" (some "GR")).interpret answers created).2

theorem resetsRetained :
    ((hired (some [some 30])).milestonesOf "e").map Milestone.status = [.pending,.locked] ∧
      Resets "e" 2000 answers (hired (some [some 30])) :=
  ⟨by decide +kernel,(resetsWindowed "e" 2000 answers (fun _ => rfl) _).mpr (by decide +kernel)⟩

theorem resetStopped :
    ((hired none).milestonesOf "e").map Milestone.status = [.pending,.locked] ∧ ¬ Resets "e" 2000 answers (hired none) := by
  refine ⟨by decide +kernel,fun ⟨db',completes,_⟩ => ?_⟩
  have stopped : ((resetForReplacement "e" 2000).interpret answers (hired none)).1 = .error .typeError := by decide +kernel
  rw [completes] at stopped
  cases stopped

end HireSettle.Escrow.ReplacementResets
