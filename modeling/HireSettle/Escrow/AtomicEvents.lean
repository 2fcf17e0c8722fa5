import HireSettle.Escrow.EventDelivery
import HireSettle.Escrow.LatestVersions
import HireSettle.Escrow.ReplacementResets
import HireSettle.Workflow.Outcomes

/-! What a handling that fails leaves behind. The transaction of an event takes back only
what its handler has written through it; what the services have written through their
own clients stays. -/
namespace HireSettle.Escrow.AtomicEvents
open Workflow EventsService EventDelivery LatestVersions
open ProofApprovals (latestVersion)
open ReplacementResets (newValidAfterLedger newUnlockAt reschedule resetRetentionEq resetOne Unapproved)

variable (self : Config)

/-- The tables that the handlers of the events write. -/
structure Tables where
  engagements : Table Engagement
  milestones : Table Milestone
  proofVersions : Table MilestoneProofVersion
  approvals : Table MilestoneApproval
  disputes : Table Dispute
  schedules : Table RetentionSchedule

def tables (db : Db) : Tables where
  engagements := db.engagements
  milestones := db.milestones
  proofVersions := db.proofVersions
  approvals := db.approvals
  disputes := db.disputes
  schedules := db.schedules

/-- However its calls are answered, a handling that throws leaves the tables as it found them. -/
def Atomic (event : ContractEvent) (db : Db) : Prop :=
  ∀ answers error, ((service self).serveTimed (Pool.initial db) event answers).threads[0]? = some ⟨event,.raise error⟩ →
    tables ((service self).serveTimed (Pool.initial db) event answers).world = tables db

abbrev passes (elapsed : Nat) (db : Db) : Db := { db with clock := db.clock + elapsed }

section Rules

variable {α β : Type} {db s : Db} {C : Prop}

abbrev Keeps (db : Db) (_ : Except Exception α) (s : Db) : Prop := tables s = tables db

def Quiet (_ : Site) (s s' : Db) : Prop := tables s' = tables s

theorem quietReads {p : Op α} (reads : Reads Site.reads p) : Acts Quiet p :=
  actsMono (fun _ _ _ act => act.2 ▸ rfl) (actsSteps reads)

theorem keepsQuiet {p : Op α} (quiet : Acts Quiet p) : Concludes passes (Keeps db) p s ↔ tables s = tables db := by
  refine ⟨fun concludes => ?_,concludesActs passes (I := fun s => tables s = tables db) (fun _ _ same => same) (fun _ _ _ quiet same => quiet.trans same) quiet⟩
  induction p generalizing s with
  | ret value => exact concludes
  | raise error => exact concludes
  | call site update next ih => exact (quiet {} s).1.symm.trans (ih {} s (quiet {} s).2 (concludes 0 {}))

theorem keepsThen {p : Op α} {k : α → Op β} (quiet : ∀ value, Acts Quiet (k value)) :
    Concludes passes (Keeps db) (p >>= k) s ↔ Concludes passes (Keeps db) p s := by
  refine concludesBind.trans (concludesCongr fun out s => ?_)
  cases out with
  | ok value => exact keepsQuiet (quiet value)
  | error error => exact Iff.rfl

theorem keepsCatch {p : Op α} {h : Exception → Op α} (quiet : ∀ error, Acts Quiet (h error)) :
    Concludes passes (Keeps db) (p.handle h) s ↔ Concludes passes (Keeps db) p s := by
  refine concludesHandle.trans (concludesCongr fun out s => ?_)
  cases out with
  | ok value => exact Iff.rfl
  | error error => exact keepsQuiet (quiet error)

theorem keepsExcept {out : Except Exception α} {k : α → Op β} (same : tables s = tables db) :
    Concludes passes (Keeps db) (Process.ofExcept out >>= k) s ↔ ∀ value, out = .ok value → Concludes passes (Keeps db) (k value) s := by
  refine concludesBind.trans (concludesExcept.trans ?_)
  cases out with
  | ok value => exact ⟨fun rest _ its => by cases its; exact rest,fun every => every value rfl⟩
  | error error => exact ⟨fun _ => nofun,fun _ => same⟩

theorem keepsFind {model : Model} {f : Db → α} {k : α → Op β} (same : tables s = tables db)
    (rest : ∀ s, tables s = tables db → (Concludes passes (Keeps db) (k (f s)) s ↔ C)) :
    Concludes passes (Keeps db) (find model f >>= k) s ↔ C := by
  refine concludesBind.trans (concludesQuery.trans ⟨fun every => (rest s same).mp (every 0 {}),fun holds change i => ?_⟩)
  cases i.fails with
  | true => exact same
  | false => exact (rest (passes change s) same).mpr holds

theorem keepsWrite {site : Site} {f : Answer → Db → Except Exception (α × Db)} {k : α → Op β} (same : tables s = tables db)
    (rest : ∀ s, tables s = tables db →
      ((∀ i value s', i.fails = false → f i s = .ok (value,s') → Concludes passes (Keeps db) (k value) s') ↔ C)) :
    Concludes passes (Keeps db) (write site f >>= k) s ↔ C := by
  refine concludesBind.trans (concludesTransact.trans ⟨fun every => (rest s same).mp fun i value s' works committed => ?_,fun holds change i => ?_⟩)
  · have next := every 0 i
    simp only [outcome,works,Bool.false_eq_true,if_false] at next
    rw [show f i (passes 0 s) = _ from committed] at next
    exact next
  · cases fails : i.fails with
    | true =>
      simp only [outcome,fails,if_true]
      exact same
    | false =>
      simp only [outcome,fails,Bool.false_eq_true,if_false]
      cases called : f i (passes change s) with
      | ok out => exact (rest (passes change s) same).mpr holds i out.1 out.2 fails called
      | error error => exact same

theorem keepsNow {k : Nat → Op α} : Concludes passes (Keeps db) (now >>= k) s ↔
    ∀ elapsed, Concludes passes (Keeps db) (k (s.clock + elapsed)) (passes elapsed s) :=
  concludesBind.trans (concludesQuery.trans ⟨fun every elapsed => every elapsed {},fun every elapsed _ => every elapsed⟩)

theorem milestonesSame (same : tables s = tables db) : s.milestones = db.milestones := congrArg Tables.milestones same

theorem updatedMilestone {id : String} {f : Milestone → Milestone} {keeps : ∀ m, (f m).id = m.id} {m : Milestone}
    (found : s.milestones.get? id = some m) :
    s.updateMilestone id f keeps = .ok (f m,{ s with milestones := s.milestones.update id f keeps }) :=
  exceptBind.mpr ⟨_,congrArg (fun found => required (Option.map _ found)) found,rfl⟩

theorem updatedAt {engagementId : String} {milestoneIndex : Nat} {f : Milestone → Milestone} {keeps : ∀ m, (f m).id = m.id} {m : Milestone}
    (found : s.milestoneAt engagementId milestoneIndex = some m) :
    s.updateMilestoneAt engagementId milestoneIndex f keeps = .ok (f m,{ s with milestones := s.milestones.update m.id f keeps }) :=
  exceptBind.mpr ⟨m,by rw [found]; rfl,updatedMilestone (Table.memGet (List.mem_of_find?_eq_some found))⟩

theorem keepsUpdateAt {site : Site} {engagementId : String} {milestoneIndex : Nat} {f : Milestone → Milestone} {keeps : ∀ m, (f m).id = m.id}
    {k : Milestone → Op β} {C : Milestone → Prop} (same : tables s = tables db)
    (settles : ∀ value s, Concludes passes (Keeps db) (k value) s → tables s = tables db)
    (rest : ∀ m, db.milestoneAt engagementId milestoneIndex = some m → ∀ s, tables s = tables db →
      (Concludes passes (Keeps db) (k m) s ↔ C m)) :
    Concludes passes (Keeps db) (write site (fun _ s => s.updateMilestoneAt engagementId milestoneIndex f keeps) >>= k) s ↔
      ∀ m, db.milestoneAt engagementId milestoneIndex = some m → f m = m ∧ C m := by
  refine keepsWrite same fun s same => ⟨fun every m found => ?_,fun holds i value s' _ updated => ?_⟩
  · have here : s.milestoneAt engagementId milestoneIndex = some m := by
      rw [Db.milestoneAt,milestonesSame same]
      exact found
    have next := every {} (f m) _ rfl (updatedAt here)
    have kept := settles _ _ next
    have rows : s.milestones.update m.id f keeps = s.milestones := (milestonesSame kept).trans (milestonesSame same).symm
    have still : f m = m := (Table.updateSame (Table.memGet (List.mem_of_find?_eq_some here)) keeps).mp rows
    rw [still] at next
    exact ⟨still,(rest m found _ kept).mp next⟩
  · cases here : s.milestoneAt engagementId milestoneIndex with
    | none =>
      rw [Db.updateMilestoneAt,here] at updated
      cases updated
    | some m =>
      cases (updatedAt here).symm.trans updated
      have found : db.milestoneAt engagementId milestoneIndex = some m := by
        rw [Db.milestoneAt,← milestonesSame same]
        exact here
      obtain ⟨still,holds⟩ := holds m found
      have rows : s.milestones.update m.id f keeps = s.milestones :=
        (Table.updateSame (Table.memGet (List.mem_of_find?_eq_some here)) keeps).mpr still
      rw [still]
      refine (rest m found _ ?_).mpr holds
      simpa only [rows] using same

end Rules

section Handlers

variable {α : Type} {db s : Db} {payload : Json}

/-- The indexed milestone of the payload is one of these. -/
def Indexed (db : Db) (payload : Json) (P : Milestone → Prop) : Prop :=
  ∀ milestoneIndex, indexAt self (destructurePayload payload) 1 = .ok milestoneIndex →
    ∀ m, db.milestoneAt (textAt (destructurePayload payload) 0) milestoneIndex = some m → P m

-- the hash that the event brings is empty
def Recorded (db : Db) (m : Milestone) : Prop :=
  (m.status = .proofSubmitted ∧ m.proofHash = some "") ∧
    (self.proofVersions = true → ∃ v, latestVersion db m.id = some v ∧ v.status = .submitted)

def Contested (db : Db) (m : Milestone) : Prop :=
  m.status = .disputed ∧ (db.disputes.findFirst fun row => row.milestoneId = m.id && row.status ≠ .closed).isSome

def Settled (db : Db) (payload : Json) (m : Milestone) : Prop :=
  m.status = (if flagAt (destructurePayload payload) 2 then .resolved else .pending) ∧
    (∀ d ∈ db.disputes.rows, d.milestoneId = m.id → d.fundsReleasedAt ≠ none) ∧
    db.engagements.get? (textAt (destructurePayload payload) 0) = none

theorem quietAnnounce {engagementId : String} {notices : Nat} {value : α} :
    Acts Quiet (do announce engagementId notices; return value : Op α) :=
  actsBind (quietReads (readsAnnounce _ _)) fun _ => trivial

theorem keepsUnlocked (same : tables s = tables db) :
    Concludes passes (Keeps db) (handleMilestoneUnlocked self payload) s ↔ Indexed self db payload fun m => m.status = .pending := by
  refine (keepsExcept same).trans (forall_congr' fun milestoneIndex => forall_congr' fun _ => ?_)
  have rest : ∀ writes : TxWrites, Acts Quiet (do announce (textAt (destructurePayload payload) 0) 1; return writes : Op TxWrites) :=
    fun _ => quietAnnounce
  have quiet : Acts Quiet (do
      let writes ← unlockSchedules (textAt (destructurePayload payload) 0) milestoneIndex
      announce (textAt (destructurePayload payload) 0) 1
      return writes : Op TxWrites) := actsBind (quietReads (readsFind _ _)) rest
  refine (keepsUpdateAt (C := fun _ => True) same (fun _ _ => (keepsQuiet quiet).mp) fun m _ s same => ?_).trans ?_
  · exact iff_of_true ((keepsQuiet quiet).mpr same) trivial
  · refine forall_congr' fun m => forall_congr' fun _ => ⟨fun still => ?_,fun status => ⟨?_,trivial⟩⟩
    · exact (congrArg Milestone.status still.1).symm
    · rw [← status]

theorem engagementsSame (same : tables s = tables db) : s.engagements = db.engagements := congrArg Tables.engagements same

theorem updatedEngagement {engagementId : String} {f : Engagement → Engagement} {keeps : ∀ e, (f e).id = e.id} {engagement : Engagement}
    (found : s.engagements.get? engagementId = some engagement) :
    s.updateEngagement engagementId f keeps = .ok (f engagement,{ s with engagements := s.engagements.update engagementId f keeps }) :=
  exceptBind.mpr ⟨_,congrArg (fun found => required (Option.map _ found)) found,rfl⟩

/-- The chain can always report another amount than the stored one. -/
theorem keepsSync {engagementId : String} (same : tables s = tables db) :
    Concludes passes (Keeps db) (EngagementsService.sync engagementId) s ↔ db.engagements.get? engagementId = none := by
  have here : ∀ {s : Db}, tables s = tables db → s.engagements.get? engagementId = db.engagements.get? engagementId := fun same => by
    rw [engagementsSame same]
  constructor
  · intro every
    cases found : db.engagements.get? engagementId with
    | none => rfl
    | some engagement =>
      exfalso
      have reported := concludesAsk every 0 { text := "Active", number := engagement.releasedAmount + 1 } rfl
      have stored := (here same).trans found
      have loaded := concludesAsk reported 0 {} (congrArg Except.ok stored)
      have balanced := concludesAsk loaded 0 {} rfl
      have written := (keepsThen fun _ => quietReads (by split; exact readsBind readsNotify fun _ => readsNotify; trivial)).mp balanced
      have kept := concludesCommit written 0 {} (updatedEngagement stored)
      have rows := (engagementsSame kept).trans (engagementsSame same).symm
      have still := (Table.updateSame (f := fun row => { EngagementsService.synced "Active" (engagement.releasedAmount + 1) 0 row with
        fundingShortfall := (0 : Int) ≠ engagement.totalAmount - (engagement.releasedAmount + 1) }) stored fun _ => rfl).mp rows
      have more : engagement.releasedAmount + 1 = engagement.releasedAmount := congrArg Engagement.releasedAmount still
      omega
  · intro missing
    refine concludesBind.mpr (concludesQuery.mpr fun change i => ?_)
    cases i.fails with
    | true => exact same
    | false =>
      simp only [Bool.false_eq_true,if_false]
      cases present (some i.text) with
      | none => exact same
      | some status =>
        dsimp only [Option.map_some,Leads]
        refine (keepsFind (s := passes change s) (C := True) same fun s same => ?_).mpr trivial
        rw [here same,missing]
        exact iff_of_true same trivial

theorem keepsSynced {engagementId : String} {k : Unit → Op α} (quiet : ∀ value, Acts Quiet (k value)) (same : tables s = tables db) :
    Concludes passes (Keeps db) (EngagementsService.syncFromChain engagementId >>= k) s ↔ db.engagements.get? engagementId = none :=
  (keepsThen quiet).trans ((keepsCatch (by intro _; trivial)).trans (keepsSync same))

theorem settlesSynced {engagementId : String} {notices : Nat} {writes : TxWrites}
    (every : Concludes passes (Keeps db) (do
      EngagementsService.syncFromChain engagementId
      announce engagementId notices
      return writes : Op TxWrites) s) : tables s = tables db := every 0 { fails := true } 0 { fails := true }

theorem keepsCreated (same : tables s = tables db) :
    Concludes passes (Keeps db) (handleEngagementCreated payload) s ↔ db.engagements.get? payload.toText = none :=
  keepsSynced (fun _ => quietAnnounce) same

/-- Time passes, so an existing milestone is confirmed at another moment than before. -/
theorem keepsConfirmed (same : tables s = tables db) :
    Concludes passes (Keeps db) (handleMilestoneConfirmed self payload) s ↔
      ∀ amount, amountAt self (destructurePayload payload) 2 = .ok amount → Indexed self db payload fun _ => False := by
  refine (keepsExcept same).trans (forall_congr' fun amount => forall_congr' fun _ => ?_)
  refine (keepsExcept same).trans (forall_congr' fun milestoneIndex => forall_congr' fun _ => ?_)
  unfold MilestonesService.markConfirmed
  rw [Process.bindAssoc,keepsNow]
  refine (forall_congr' fun elapsed => keepsUpdateAt (s := passes elapsed s)
    (C := fun _ => db.engagements.get? (textAt (destructurePayload payload) 0) = none) same (fun _ _ => settlesSynced) fun m _ s same => keepsSynced (fun _ => quietAnnounce) same).trans ?_
  refine ⟨fun every m found => ?_,fun none elapsed m found => (none m found).elim⟩
  have now := congrArg Milestone.confirmedAt (every 0 m found).1
  have later := congrArg Milestone.confirmedAt (every 1 m found).1
  have same := Option.some.inj (now.trans later.symm)
  omega

theorem versionsSame (same : tables s = tables db) : s.proofVersions = db.proofVersions := congrArg Tables.proofVersions same

theorem latestSame (same : tables s = tables db) (id : String) : latestVersion s id = latestVersion db id := by
  rw [latestVersion,latestVersion,versionsSame same]

/-- A version can always be added, since an identifier is always free. -/
theorem losesCreated {milestoneId : String} {versionNumber : Nat} {input : ProofInput} {lost : Exception → Op MilestoneProofVersion}
    (same : tables s = tables db) (unused : ∀ v ∈ db.proofVersions.rows, v.milestoneId = milestoneId → v.versionNumber ≠ versionNumber) :
    ¬ Concludes passes (Keeps db) ((ProofVersionsService.createVersion milestoneId versionNumber input).handle lost) s := by
  intro every
  obtain ⟨id,free⟩ := s.proofVersions.keyLeft
  have none : s.proofVersions.findFirst (fun v => v.milestoneId = milestoneId && v.versionNumber = versionNumber) = none := by
    refine List.find?_eq_none.mpr fun v inside matched => ?_
    simp only [Bool.and_eq_true,decide_eq_true_eq] at matched
    exact unused v (versionsSame same ▸ inside) matched.1 matched.2
  have next := concludesTransact.mp (concludesHandle.mp every) 0 { text := id }
  unfold outcome at next
  simp only [Bool.false_eq_true,if_false] at next
  rw [show (passes 0 s).proofVersions.findFirst _ = _ from none] at next
  simp only [Option.isSome_none,Bool.false_eq_true,if_false] at next
  split at next
  · rename_i value s' called
    split at called
    · cases called
    · rename_i versions made
      cases called
      exact Table.createDiffers made ((versionsSame next).trans (versionsSame same).symm)
  · rename_i error called
    split at called
    · rename_i refused
      have taken : (s.proofVersions.get? id).isSome = true := Table.createTaken refused
      rw [free] at taken
      cases taken
    · cases called

/-- A version that awaits review is left as it is, for the hash that the event brings is empty. -/
theorem keepsRecorded (milestoneId : String) (same : tables s = tables db) :
    Concludes passes (Keeps db) (MilestonesService.recordVersion self milestoneId { proofHash := some "" }) s ↔
      (self.proofVersions = true → ∃ v, latestVersion db milestoneId = some v ∧ v.status = .submitted) := by
  unfold MilestonesService.recordVersion
  cases self.proofVersions with
  | false => exact iff_of_true same (by simp)
  | true =>
    simp only [if_true,true_implies]
    refine keepsFind same fun s same => ?_
    rw [show List.head? _ = _ from latestSame same milestoneId]
    cases found : latestVersion db milestoneId with
    | none =>
      refine iff_of_false (losesCreated same fun v inside its => absurd its (latestNone found v inside)) ?_
      rintro ⟨v,its,_⟩
      cases its
    | some version =>
      dsimp only
      split
      · rename_i submitted
        exact iff_of_true same ⟨version,rfl,submitted⟩
      · rename_i reviewed
        refine iff_of_false (losesCreated same fun v inside its number => ?_) ?_
        · have most := (latestMost found).2.2 v inside its
          omega
        · rintro ⟨v,its,status⟩
          cases its
          exact reviewed status

theorem keepsSubmitted (same : tables s = tables db) :
    Concludes passes (Keeps db) (handleProofSubmitted self payload) s ↔ Indexed self db payload (Recorded self db) := by
  refine (keepsExcept same).trans (forall_congr' fun milestoneIndex => forall_congr' fun _ => ?_)
  refine (keepsThen fun _ => quietAnnounce).trans ?_
  unfold MilestonesService.markProofSubmitted
  refine (keepsUpdateAt same (fun m s every => ?_) fun m _ s same => (keepsThen (by intro _; trivial)).trans (keepsRecorded self m.id same)).trans ?_
  · have recorded := (keepsThen (by intro _; trivial)).mp every
    unfold MilestonesService.recordVersion at recorded
    split at recorded
    · exact recorded 0 { fails := true }
    · exact recorded
  · refine forall_congr' fun m => forall_congr' fun _ => and_congr_left fun _ => ⟨fun still => ?_,fun ⟨status,hash⟩ => ?_⟩
    · exact ⟨(congrArg Milestone.status still).symm,(congrArg Milestone.proofHash still).symm⟩
    · rw [← status,← hash]

theorem disputesSame (same : tables s = tables db) : s.disputes = db.disputes := congrArg Tables.disputes same

/-- A dispute can always be opened, since an identifier is always free. -/
theorem losesOpened {milestoneId : String} (same : tables s = tables db) {m : Milestone} (found : db.milestones.get? milestoneId = some m)
    (none : db.disputes.findFirst (fun row => row.milestoneId = milestoneId && row.status ≠ .closed) = none) :
    ¬ Concludes passes (Keeps db) (DisputesService.openForMilestone self milestoneId) s := by
  intro every
  rw [← disputesSame same] at none
  rw [← milestonesSame same] at found
  have searched := concludesAsk every 0 {} (congrArg Except.ok none)
  have loaded := concludesAsk searched 0 {} (congrArg Except.ok found)
  have timed := concludesAsk loaded 0 {} rfl
  obtain ⟨id,free⟩ := s.disputes.keyLeft
  have next := concludesTransact.mp (concludesBind.mp timed) 0 { text := id }
  unfold outcome at next
  simp only [Bool.false_eq_true,if_false] at next
  split at next
  · rename_i value s' called
    split at called
    · cases called
    · rename_i disputes made
      cases called
      have kept := next 0 { fails := true }
      exact Table.createDiffers made ((disputesSame kept).trans (disputesSame same).symm)
  · rename_i error called
    split at called
    · rename_i refused
      have taken : (s.disputes.get? id).isSome = true := Table.createTaken refused
      rw [free] at taken
      cases taken
    · cases called

/-- Closing a dispute puts the moment of its release where there was none. -/
theorem keepsSettled {milestoneId engagementId : String} {notices : Nat} {writes : TxWrites} (same : tables s = tables db) :
    Concludes passes (Keeps db) (do
      let _ ← DisputesService.markSettledOnChain milestoneId
      EngagementsService.syncFromChain engagementId
      announce engagementId notices
      return writes : Op TxWrites) s ↔
      (∀ d ∈ db.disputes.rows, d.milestoneId = milestoneId → d.fundsReleasedAt ≠ none) ∧ db.engagements.get? engagementId = none := by
  unfold DisputesService.markSettledOnChain
  rw [Process.bindAssoc,keepsNow]
  refine (forall_congr' fun elapsed => keepsWrite (s := passes elapsed s) same fun s same => ?_).trans ⟨fun every => every 0,fun all _ => all⟩
  constructor
  · intro every
    have next := every {} _ _ rfl rfl
    have kept := settlesSynced next
    refine ⟨fun d inside its unreleased => ?_,(keepsSynced (fun _ => quietAnnounce) kept).mp next⟩
    have rows := congrArg Table.rows ((disputesSame kept).trans (disputesSame same).symm)
    have still := Table.mapSame.mp rows d (disputesSame same ▸ inside) (by simp [its,unreleased])
    cases unreleased.symm.trans (congrArg Dispute.fundsReleasedAt still).symm
  · intro ⟨released,missing⟩ i value s' _ closed
    cases closed
    refine (keepsSynced (fun _ => quietAnnounce) ?_).mpr missing
    have unmatched : ∀ d ∈ s.disputes.rows, (d.milestoneId = milestoneId && d.fundsReleasedAt.isNone) ≠ true := fun d inside matched => by
      simp only [Bool.and_eq_true,decide_eq_true_eq,Option.isNone_iff_eq_none] at matched
      exact released d (disputesSame same ▸ inside) matched.1 matched.2
    refine Eq.trans ?_ same
    exact congrArg (fun disputes => tables { s with disputes := disputes })
      (Table.updateManySame.mpr fun d inside matched => absurd matched (unmatched d inside))

theorem keepsResolved (same : tables s = tables db) :
    Concludes passes (Keeps db) (handleDisputeResolved self payload) s ↔ Indexed self db payload (Settled db payload) := by
  refine (keepsExcept same).trans (forall_congr' fun milestoneIndex => forall_congr' fun _ => ?_)
  have unpaid : (if flagAt (destructurePayload payload) 2 = true then nonzero none else none) = none := by split <;> rfl
  unfold MilestonesService.markResolved
  simp only [unpaid,Option.none_or,Option.isSome_none,Bool.false_eq_true,if_false,Process.bindAssoc,Process.pureRet,Process.retBind]
  rw [keepsNow]
  refine (forall_congr' fun elapsed => keepsUpdateAt (s := passes elapsed s) (C := fun m =>
    (∀ d ∈ db.disputes.rows, d.milestoneId = m.id → d.fundsReleasedAt ≠ none) ∧
      db.engagements.get? (textAt (destructurePayload payload) 0) = none) same (fun m s every => ?_) fun m there s same => ?_).trans ?_
  · exact every 0 {} 0 { fails := true }
  · exact keepsSettled same
  · refine ⟨fun every m found => ?_,fun all _ m found => ?_⟩
    · obtain ⟨still,rest⟩ := every 0 m found
      exact ⟨(congrArg Milestone.status still).symm,rest⟩
    · obtain ⟨status,rest⟩ := all m found
      exact ⟨by rw [← status],rest⟩

theorem keepsRaised (same : tables s = tables db) :
    Concludes passes (Keeps db) (handleDisputeRaised self payload) s ↔ Indexed self db payload (Contested db) := by
  refine (keepsExcept same).trans (forall_congr' fun milestoneIndex => forall_congr' fun _ => ?_)
  refine (keepsThen fun _ => quietAnnounce).trans ?_
  unfold MilestonesService.markDisputed
  refine (keepsUpdateAt (C := fun m => (db.disputes.findFirst fun row => row.milestoneId = m.id && row.status ≠ .closed).isSome) same
    (fun m s every => ?_) fun m there s same => (keepsThen (by intro _; trivial)).trans ?_).trans ?_
  · exact (keepsThen (by intro _; trivial)).mp every 0 { fails := true }
  · cases found : db.disputes.findFirst fun row => row.milestoneId = m.id && row.status ≠ .closed with
    | none => exact iff_of_false (losesOpened self same (Table.memGet (List.mem_of_find?_eq_some there)) found) nofun
    | some dispute =>
      refine keepsFind same fun s same => ?_
      rw [disputesSame same,found]
      exact iff_of_true same rfl
  · refine forall_congr' fun m => forall_congr' fun _ => and_congr_left fun _ => ⟨fun still => (congrArg Milestone.status still).symm,fun status => ?_⟩
    rw [← status]

end Handlers

section Resets

variable {α : Type} {db s : Db} {engagementId : String} {currentLedger : Int} {m : Milestone} {k : Unit → Op α}

def Blank (m : Milestone) : Prop := m.status = .pending ∧ m.proofHash = none ∧ m.confirmedAt = none ∧ m.paymentReleased = none

-- a ledger would give the row another moment at each reset
def BlankRetention (m : Milestone) : Prop :=
  m.status = .locked ∧ m.proofHash = none ∧ nonzero m.retentionDays = none ∧ nonzero m.validAfterLedger = none

def Scheduled (db : Db) (engagementId : String) (m : Milestone) (unlockAt : Int) : Prop :=
  ∃ row, db.schedules.get? (engagementId,m.milestoneIndex) = some row ∧ row.validAfterLedger = 0 ∧ row.unlockAt = unlockAt ∧
    row.notifyAt = unlockAt - 3 * DAY_MS ∧ row.unlocked = false ∧ row.notified = false

/-- The reset finds each milestone as it would leave it, up to one after which it throws. -/
def KeepsReset (db : Db) (engagementId : String) : List Milestone → Prop
  | [] => True
  | m :: rest =>
      match m.kind with
      | .placement => Blank m ∧ Unapproved db m ∧ KeepsReset db engagementId rest
      | .retention =>
          if m.status = .confirmed ∨ m.status = .resolved then KeepsReset db engagementId rest
          else BlankRetention m ∧ Unapproved db m ∧
            match m.unlockEstimatedAt,m.validAfterLedger with
            | some unlockAt, some _ => Scheduled db engagementId m unlockAt ∧ KeepsReset db engagementId rest
            | _, _ => True

theorem settlesResets (ms : List Milestone) {s : Db} (every : Concludes passes (Keeps db) (Process.forEach (resetOne engagementId currentLedger) ms) s) :
    tables s = tables db := by
  induction ms with
  | nil => exact every
  | cons m ms ih =>
    have every := concludesForEach.mp every
    unfold resetOne at every
    split at every
    · exact every 0 { fails := true }
    · split at every
      · exact ih every
      · exact every 0 {} 0 { fails := true }

theorem updateForward {site : Site} {f : Milestone → Milestone} {keeps : ∀ m, (f m).id = m.id} {k : Milestone → Op α} (same : tables s = tables db)
    (stored : m ∈ db.milestones.rows) (settles : ∀ value s, Concludes passes (Keeps db) (k value) s → tables s = tables db)
    (every : Concludes passes (Keeps db) (write site (fun _ s => s.updateMilestone m.id f keeps) >>= k) s) :
    f m = m ∧ ∃ s', tables s' = tables db ∧ Concludes passes (Keeps db) (k m) s' := by
  have found : s.milestones.get? m.id = some m := Table.memGet (milestonesSame same ▸ stored)
  have next : Concludes passes (Keeps db) (k (f m)) _ := concludesCommit (concludesBind.mp every) 0 {} (updatedMilestone found)
  have kept := settles _ _ next
  have rows : s.milestones.update m.id f keeps = s.milestones := (milestonesSame kept).trans (milestonesSame same).symm
  have still : f m = m := (Table.updateSame found keeps).mp rows
  rw [still] at next
  exact ⟨still,_,kept,next⟩

theorem updateBackward {site : Site} {f : Milestone → Milestone} {keeps : ∀ m, (f m).id = m.id} {k : Milestone → Op α} (same : tables s = tables db)
    (stored : m ∈ db.milestones.rows) (still : f m = m) (rest : ∀ s, tables s = tables db → Concludes passes (Keeps db) (k m) s) :
    Concludes passes (Keeps db) (write site (fun _ s => s.updateMilestone m.id f keeps) >>= k) s := by
  refine (keepsWrite (C := True) same fun s same => iff_of_true (fun i value s' _ updated => ?_) trivial).mpr trivial
  have found : s.milestones.get? m.id = some m := Table.memGet (milestonesSame same ▸ stored)
  cases (updatedMilestone found).symm.trans updated
  rw [still]
  refine rest _ (Eq.trans ?_ same)
  exact congrArg (fun milestones => tables { s with milestones := milestones }) ((Table.updateSame found keeps).mpr still)

theorem approvalsSame (same : tables s = tables db) : s.approvals = db.approvals := congrArg Tables.approvals same

theorem settlesDelete {id : String} (every : Concludes passes (Keeps db) (MilestonesService.deleteApprovals id >>= k) s) :
    tables s = tables db := every 0 { fails := true }

theorem deleteForward (same : tables s = tables db) (settles : ∀ s, Concludes passes (Keeps db) (k ()) s → tables s = tables db)
    (every : Concludes passes (Keeps db) (MilestonesService.deleteApprovals m.id >>= k) s) :
    Unapproved db m ∧ ∃ s', tables s' = tables db ∧ Concludes passes (Keeps db) (k ()) s' := by
  have next := concludesCommit (concludesBind.mp every) 0 {} rfl
  have kept := settles _ next
  have rows := (approvalsSame kept).trans (approvalsSame same).symm
  refine ⟨fun approval inside => ?_,_,kept,next⟩
  exact of_decide_eq_false (Table.deleteManySame.mp rows approval (approvalsSame same ▸ inside))

theorem deleteBackward (same : tables s = tables db) (unapproved : Unapproved db m)
    (rest : ∀ s, tables s = tables db → Concludes passes (Keeps db) (k ()) s) :
    Concludes passes (Keeps db) (MilestonesService.deleteApprovals m.id >>= k) s := by
  refine (keepsWrite (C := True) same fun s same => iff_of_true (fun i value s' _ deleted => ?_) trivial).mpr trivial
  cases deleted
  refine rest _ (Eq.trans ?_ same)
  exact congrArg (fun approvals => tables { s with approvals := approvals })
    (Table.deleteManySame.mpr fun approval inside => decide_eq_false (unapproved approval (approvalsSame same ▸ inside)))

theorem placementForward (same : tables s = tables db) (stored : m ∈ db.milestones.rows)
    (settles : ∀ s, Concludes passes (Keeps db) (k ()) s → tables s = tables db)
    (every : Concludes passes (Keeps db) (MilestonesService.resetPlacement m >>= k) s) :
    Blank m ∧ Unapproved db m ∧ ∃ s', tables s' = tables db ∧ Concludes passes (Keeps db) (k ()) s' := by
  unfold MilestonesService.resetPlacement at every
  rw [Process.bindAssoc] at every
  obtain ⟨still,s',same',next⟩ := updateForward same stored (fun _ _ => settlesDelete) every
  obtain ⟨unapproved,s'',same'',rest⟩ := deleteForward same' settles next
  refine ⟨⟨?_,?_,?_,?_⟩,unapproved,s'',same'',rest⟩
  · exact (congrArg Milestone.status still).symm
  · exact (congrArg Milestone.proofHash still).symm
  · exact (congrArg Milestone.confirmedAt still).symm
  · exact (congrArg Milestone.paymentReleased still).symm

theorem placementBackward (same : tables s = tables db) (stored : m ∈ db.milestones.rows) (blank : Blank m) (unapproved : Unapproved db m)
    (rest : ∀ s, tables s = tables db → Concludes passes (Keeps db) (k ()) s) :
    Concludes passes (Keeps db) (MilestonesService.resetPlacement m >>= k) s := by
  unfold MilestonesService.resetPlacement
  rw [Process.bindAssoc]
  obtain ⟨status,hash,confirmed,paid⟩ := blank
  refine updateBackward same stored ?_ fun s same => deleteBackward same unapproved rest
  rw [← status,← hash,← confirmed,← paid]

theorem schedulesSame (same : tables s = tables db) : s.schedules = db.schedules := congrArg Tables.schedules same

theorem settlesReschedule {unlockAt validAfterLedger : Option Int}
    (every : Concludes passes (Keeps db) (reschedule engagementId m unlockAt validAfterLedger >>= k) s) : tables s = tables db := by
  cases unlockAt with
  | none => exact every
  | some _ =>
    cases validAfterLedger with
    | none => exact every
    | some _ => exact every 0 { fails := true }

/-- The last call of a reset finds the schedule that it would write. -/
theorem rescheduleForward (same : tables s = tables db)
    (settles : ∀ s, Concludes passes (Keeps db) (k ()) s → tables s = tables db) {unlockAt : Int}
    (every : Concludes passes (Keeps db) (reschedule engagementId m (some unlockAt) (some 0) >>= k) s) :
    Scheduled db engagementId m unlockAt ∧ ∃ s', tables s' = tables db ∧ Concludes passes (Keeps db) (k ()) s' := by
  have next := concludesCommit (concludesBind.mp every) 0 {} rfl
  have kept := settles _ next
  have rows := (schedulesSame kept).trans (schedulesSame same).symm
  obtain ⟨old,found,still⟩ := Table.upsertSame.mp rows
  rw [schedulesSame same] at found
  refine ⟨⟨old,found,?_,?_,?_,?_,?_⟩,_,kept,next⟩
  · exact (congrArg RetentionSchedule.validAfterLedger still).symm
  · exact (congrArg RetentionSchedule.unlockAt still).symm
  · exact (congrArg RetentionSchedule.notifyAt still).symm
  · exact (congrArg RetentionSchedule.unlocked still).symm
  · exact (congrArg RetentionSchedule.notified still).symm

/-- Of a retention milestone the reset of this ledger and moment changes nothing. -/
theorem retentionForward (same : tables s = tables db) (stored : m ∈ db.milestones.rows)
    (every : Concludes passes (Keeps db) (MilestonesService.resetRetention engagementId currentLedger m >>= k) s) :
    (m.status = .locked ∧ m.proofHash = none ∧ newValidAfterLedger currentLedger m = m.validAfterLedger ∧
      newUnlockAt currentLedger m s.clock = m.unlockEstimatedAt) ∧ Unapproved db m ∧
    ∃ s', tables s' = tables db ∧ Concludes passes (Keeps db) (reschedule engagementId m m.unlockEstimatedAt m.validAfterLedger >>= k) s' := by
  rw [resetRetentionEq,Process.bindAssoc] at every
  have timed := concludesAsk every 0 {} rfl
  simp only [Process.bindAssoc] at timed
  obtain ⟨still,s',same',next⟩ := updateForward same stored (fun _ _ => settlesDelete) timed
  obtain ⟨unapproved,s'',same'',rest⟩ := deleteForward same' (fun _ => settlesReschedule) next
  have ledger : newValidAfterLedger currentLedger m = m.validAfterLedger := congrArg Milestone.validAfterLedger still
  have moment : newUnlockAt currentLedger m s.clock = m.unlockEstimatedAt := congrArg Milestone.unlockEstimatedAt still
  refine ⟨⟨(congrArg Milestone.status still).symm,(congrArg Milestone.proofHash still).symm,ledger,moment⟩,unapproved,s'',same'',?_⟩
  rw [← ledger,← moment]
  exact rest

theorem rescheduleBackward (same : tables s = tables db) {unlockAt : Int} (scheduled : Scheduled db engagementId m unlockAt)
    (rest : ∀ s, tables s = tables db → Concludes passes (Keeps db) (k ()) s) :
    Concludes passes (Keeps db) (reschedule engagementId m (some unlockAt) (some 0) >>= k) s := by
  refine (keepsWrite (C := True) same fun s same => iff_of_true (fun i value s' _ written => ?_) trivial).mpr trivial
  cases written
  obtain ⟨row,found,ledger,unlocks,notifies,unlocked,notified⟩ := scheduled
  refine rest _ (Eq.trans ?_ same)
  refine congrArg (fun schedules => tables { s with schedules := schedules }) (Table.upsertSame.mpr ⟨row,?_,?_⟩)
  · rw [schedulesSame same]
    exact found
  · cases row
    dsimp only at unlocks notifies ledger unlocked notified
    subst unlocks notifies ledger unlocked notified
    rfl

theorem retentionBackward (same : tables s = tables db) (stored : m ∈ db.milestones.rows) (blank : BlankRetention m)
    (unapproved : Unapproved db m)
    (rest : ∀ s, tables s = tables db → Concludes passes (Keeps db) (reschedule engagementId m m.unlockEstimatedAt m.validAfterLedger >>= k) s) :
    Concludes passes (Keeps db) (MilestonesService.resetRetention engagementId currentLedger m >>= k) s := by
  obtain ⟨status,hash,days,ledger⟩ := blank
  have validAfterLedger : newValidAfterLedger currentLedger m = m.validAfterLedger := by rw [newValidAfterLedger,days]
  have unlockAt : ∀ at', newUnlockAt currentLedger m at' = m.unlockEstimatedAt := fun at' => by rw [newUnlockAt,validAfterLedger,ledger]
  rw [resetRetentionEq,Process.bindAssoc]
  refine keepsNow.mpr fun elapsed => ?_
  simp only [Process.bindAssoc,validAfterLedger,unlockAt]
  refine updateBackward same stored ?_ fun s same => deleteBackward same unapproved rest
  rw [← status,← hash]

/-- No row suits the reset of every ledger, unless the reset leaves its ledger alone. -/
theorem blankLedger (each : ∀ currentLedger, ∃ at' : Nat, newValidAfterLedger currentLedger m = m.validAfterLedger ∧
    newUnlockAt currentLedger m at' = m.unlockEstimatedAt) : nonzero m.retentionDays = none ∧ nonzero m.validAfterLedger = none := by
  have days : nonzero m.retentionDays = none := by
    cases days : nonzero m.retentionDays with
    | none => rfl
    | some n =>
      obtain ⟨_,first,_⟩ := each 0
      obtain ⟨_,second,_⟩ := each 1
      simp only [newValidAfterLedger,days] at first second
      have same := Option.some.inj (first.trans second.symm)
      omega
  refine ⟨days,?_⟩
  cases ledger : nonzero m.validAfterLedger with
  | none => rfl
  | some n =>
    obtain ⟨at',_,first⟩ := each 0
    -- so far ahead of the chain that the same moment lies before the epoch
    obtain ⟨earlier,_,second⟩ := each (-(at' + 1))
    simp only [newUnlockAt,newValidAfterLedger,days,ledger,ledgerToDateTime] at first second
    have same := Option.some.inj (first.trans second.symm)
    omega

theorem resetsForward (ms : List Milestone) (stored : ∀ m ∈ ms, m ∈ db.milestones.rows)
    (every : ∀ currentLedger, ∃ s, tables s = tables db ∧
      Concludes passes (Keeps db) (Process.forEach (resetOne engagementId currentLedger) ms) s) : KeepsReset db engagementId ms := by
  induction ms with
  | nil => trivial
  | cons m ms ih =>
    have here : m ∈ db.milestones.rows := stored m List.mem_cons_self
    have ih := ih fun m inside => stored m (List.mem_cons_of_mem _ inside)
    have each : ∀ currentLedger, ∃ s, tables s = tables db ∧ Concludes passes (Keeps db)
        (resetOne engagementId currentLedger m >>= fun _ => Process.forEach (resetOne engagementId currentLedger) ms) s := every
    unfold KeepsReset
    cases kind : m.kind with
    | placement =>
      have one : ∀ currentLedger, resetOne engagementId currentLedger m = MilestonesService.resetPlacement m := fun _ => by rw [resetOne,kind]
      simp only [one] at each
      choose s same every using each
      have steps := fun currentLedger => placementForward (same currentLedger) here (fun _ => settlesResets ms) (every currentLedger)
      exact ⟨(steps 0).1,(steps 0).2.1,ih fun currentLedger => (steps currentLedger).2.2⟩
    | retention =>
      dsimp only
      split
      · rename_i final
        have one : ∀ currentLedger, resetOne engagementId currentLedger m = .ret () := fun _ => by simp only [resetOne,kind,final,if_true]
        simp only [one] at each
        exact ih each
      · rename_i open'
        have one : ∀ currentLedger, resetOne engagementId currentLedger m = MilestonesService.resetRetention engagementId currentLedger m :=
          fun _ => by simp only [resetOne,kind,open',if_false]
        simp only [one] at each
        choose s same every using each
        have steps := fun currentLedger => retentionForward (same currentLedger) here (every currentLedger)
        obtain ⟨⟨status,hash,_⟩,unapproved,_⟩ := steps 0
        have blank : BlankRetention m := ⟨status,hash,blankLedger fun currentLedger => ⟨_,(steps currentLedger).1.2.2⟩⟩
        refine ⟨blank,unapproved,?_⟩
        have zero := blank.2.2.2
        cases unlockAt : m.unlockEstimatedAt with
        | none => trivial
        | some unlockAt =>
          cases ledger : m.validAfterLedger with
          | none => trivial
          | some n =>
            have none : n = 0 := by simpa [ledger,nonzero] using zero
            subst none
            simp only [unlockAt,ledger] at steps
            have later := fun currentLedger => rescheduleForward (steps currentLedger).2.2.choose_spec.1 (fun _ => settlesResets ms)
              (steps currentLedger).2.2.choose_spec.2
            exact ⟨(later 0).1,ih fun currentLedger => (later currentLedger).2⟩

theorem resetsBackward (ms : List Milestone) (stored : ∀ m ∈ ms, m ∈ db.milestones.rows) (keeps : KeepsReset db engagementId ms)
    {s : Db} (same : tables s = tables db) : Concludes passes (Keeps db) (Process.forEach (resetOne engagementId currentLedger) ms) s := by
  induction ms generalizing s with
  | nil => exact same
  | cons m ms ih =>
    have here : m ∈ db.milestones.rows := stored m List.mem_cons_self
    have ih := fun keeps s (same : tables s = tables db) => ih (fun m inside => stored m (List.mem_cons_of_mem _ inside)) keeps same
    show Concludes passes (Keeps db) (resetOne engagementId currentLedger m >>= fun _ => Process.forEach (resetOne engagementId currentLedger) ms) s
    unfold KeepsReset at keeps
    cases kind : m.kind with
    | placement =>
      rw [show resetOne engagementId currentLedger m = MilestonesService.resetPlacement m by rw [resetOne,kind]]
      simp only [kind] at keeps
      exact placementBackward same here keeps.1 keeps.2.1 (ih keeps.2.2)
    | retention =>
      simp only [kind] at keeps
      split at keeps
      · rename_i final
        rw [show resetOne engagementId currentLedger m = .ret () by simp only [resetOne,kind,final,if_true]]
        exact ih keeps s same
      · rename_i open'
        rw [show resetOne engagementId currentLedger m = MilestonesService.resetRetention engagementId currentLedger m by
          simp only [resetOne,kind,open',if_false]]
        obtain ⟨blank,unapproved,rest⟩ := keeps
        refine retentionBackward same here blank unapproved fun s same => ?_
        have zero := blank.2.2.2
        cases unlockAt : m.unlockEstimatedAt with
        | none => exact same
        | some unlockAt =>
          cases ledger : m.validAfterLedger with
          | none => exact same
          | some n =>
            have none : n = 0 := by simpa [ledger,nonzero] using zero
            subst none
            simp only [unlockAt,ledger] at rest
            exact rescheduleBackward same rest.1 (ih rest.2)

theorem keepsReplacement {payload : Json} (same : tables s = tables db) :
    Concludes passes (Keeps db) (handleReplacementRequested payload) s ↔
      KeepsReset db (textAt (destructurePayload payload) 0) (db.milestonesOf (textAt (destructurePayload payload) 0)) := by
  have listed : ∀ {s : Db} (engagementId : String), tables s = tables db → s.milestonesOf engagementId = db.milestonesOf engagementId :=
    fun engagementId same => by rw [Db.milestonesOf,Db.milestonesOf,milestonesSame same]
  have stored : ∀ engagementId, ∀ m ∈ db.milestonesOf engagementId, m ∈ db.milestones.rows := fun engagementId m inside =>
    List.mem_of_mem_filter ((List.mem_insertionSort byIndex).mp inside)
  have quiet : ∀ value : Unit, Acts Quiet (do
      let writes ← setStatus (textAt (destructurePayload payload) 0) .replacementRequested
      announce (textAt (destructurePayload payload) 0) 2
      return writes : Op TxWrites) := fun _ => actsBind (quietReads (readsFindOr _ _)) fun _ => quietAnnounce
  constructor
  · intro every
    refine resetsForward _ (stored _) fun currentLedger => ?_
    have reported := concludesAsk every 0 { number := currentLedger } rfl
    have reset := (keepsThen quiet).mp reported
    exact ⟨_,same,concludesAsk reset 0 {} (congrArg Except.ok (listed _ same))⟩
  · intro keeps
    refine concludesBind.mpr (concludesQuery.mpr fun change i => ?_)
    cases i.fails with
    | true => exact same
    | false =>
      refine (keepsThen (s := passes change s) quiet).mpr ((keepsFind (C := True) (s := passes change s) same fun s same => ?_).mpr trivial)
      rw [listed _ same]
      exact iff_of_true (resetsBackward _ (stored _) keeps same) trivial

end Resets

section Events

variable {db s : Db} {event : ContractEvent}

/-- The handler of the event would write what is there already, or nothing. -/
def Inert (db : Db) (eventName : String) (payload : Json) : Prop :=
  match eventName with
  | "engagement_created" => db.engagements.get? payload.toText = none
  | "milestone_unlocked" => Indexed self db payload fun m => m.status = .pending
  | "proof_submitted" => Indexed self db payload (Recorded self db)
  | "milestone_confirmed" => ∀ amount, amountAt self (destructurePayload payload) 2 = .ok amount → Indexed self db payload fun _ => False
  | "dispute_raised" => Indexed self db payload (Contested db)
  | "dispute_resolved" => Indexed self db payload (Settled db payload)
  | "replacement_requested" =>
      KeepsReset db (textAt (destructurePayload payload) 0) (db.milestonesOf (textAt (destructurePayload payload) 0))
  | _ => True

theorem keepsEvent (eventName : String) (payload : Json) (same : tables s = tables db) :
    Concludes passes (Keeps db) (handleEvent self eventName payload) s ↔ Inert self db eventName payload := by
  unfold handleEvent
  split
  · exact keepsCreated same
  · exact keepsUnlocked self same
  · exact keepsSubmitted self same
  · exact keepsConfirmed self same
  · exact keepsRaised self same
  · exact keepsResolved self same
  · exact keepsReplacement same
  · exact iff_of_true ((keepsQuiet (actsBind (quietReads (readsFindOr _ _)) fun _ => quietAnnounce)).mpr same) trivial
  · unfold Inert
    split <;> first | contradiction | exact iff_of_true same trivial

/-- The event is not handled at all: its transaction has a processed row, or it has no row and can have none. -/
def Skipped (event : ContractEvent) (db : Db) : Prop :=
  (db.chainEvents.findFirst fun row => row.txHash = event.txHash && row.processed).isSome ∨
  (db.chainEvents.findFirst fun row => row.txHash = event.txHash && row.eventName = extractEventName event) = none ∧
    ∃ engagementId, (rawEvent event "" 0).engagementId = some engagementId ∧ db.engagements.get? engagementId = none

/-- A failure leaves the tables alone. -/
def Undone (db : Db) : Except Exception Unit → Db → Prop
  | .ok _, _ => True
  | .error _, s => tables s = tables db

theorem undoneHandled {chainEvent : ChainEvent} :
    Concludes passes (Undone db) (do
      let writes ← handleEvent self (extractEventName event) (extractPayload event)
      markProcessed event chainEvent writes) s ↔
      Concludes passes (Keeps db) (handleEvent self (extractEventName event) (extractPayload event)) s := by
  refine concludesBind.trans (concludesCongr fun out s => ?_)
  cases out with
  | error error => exact Iff.rfl
  | ok writes =>
    show Concludes passes (Undone db) (markProcessed event chainEvent writes) s ↔ tables s = tables db
    refine ⟨fun every => every 0 { fails := true },fun same => concludesTransact.mpr fun change i => ?_⟩
    unfold outcome
    split
    · trivial
    · exact same

theorem undoneStays (out : Except Exception Unit) (elapsed : Nat) (s : Db) (undone : Undone db out s) : Undone db out (passes elapsed s) := by
  cases out <;> exact undone

theorem atomicConcludes : Atomic self event db ↔ Concludes passes (Undone db) (processEvent self event) db := by
  refine Iff.trans ?_ (concludesServed (service self) undoneStays (Pool.initial db) event).symm
  refine forall_congr' fun answers => ⟨fun atomic out ended => ?_,fun undone error ended => undone (.error error) ended⟩
  cases out with
  | ok value => trivial
  | error error => exact atomic error ended

/-- What an event is handled for that has a row, or that is given one. -/
theorem undoneSaved {chainEvent : ChainEvent} (same : tables s = tables db) (unprocessed : chainEvent.processed = false) :
    Concludes passes (Undone db) (if chainEvent.processed then return else do
      let writes ← handleEvent self (extractEventName event) (extractPayload event)
      markProcessed event chainEvent writes : Op Unit) s ↔ Inert self db (extractEventName event) (extractPayload event) := by
  rw [unprocessed]
  simp only [Bool.false_eq_true,if_false]
  exact (undoneHandled self).trans (keepsEvent self _ _ same)

theorem inertUnlessSkipped (every : Concludes passes (Undone db) (processEvent self event) db) (handled : ¬ Skipped event db) :
    Inert self db (extractEventName event) (extractPayload event) := by
  obtain ⟨unprocessed,storable⟩ := not_or.mp handled
  have none : db.chainEvents.findFirst (fun row => row.txHash = event.txHash && row.processed) = none :=
    Option.not_isSome_iff_eq_none.mp unprocessed
  have next := concludesAsk every 0 {} (congrArg Except.ok none)
  dsimp only [Option.isSome_none] at next
  unfold savedEvent at next
  simp only [Bool.false_eq_true,if_false,Process.bindAssoc] at next
  cases saved : db.chainEvents.findFirst fun row => row.txHash = event.txHash && row.eventName = extractEventName event with
  | some row =>
    have its := List.find?_some saved
    have other := List.find?_eq_none.mp none row (List.mem_of_find?_eq_some saved)
    simp only [Bool.and_eq_true,decide_eq_true_eq] at its other
    exact (undoneSaved self (s := passes 0 (passes 0 db)) rfl (Bool.not_eq_true _ ▸ fun processed => other ⟨its.1,processed⟩)).mp
      (concludesAsk next 0 {} (congrArg Except.ok saved))
  | none =>
    obtain ⟨id,free⟩ := db.chainEvents.keyLeft
    have next := concludesTransact.mp (concludesBind.mp (concludesAsk next 0 {} (congrArg Except.ok saved))) 0 { text := id }
    unfold outcome at next
    simp only [Bool.false_eq_true,if_false] at next
    split at next
    · rename_i value s' called
      split at called
      · cases called
      · split at called
        · cases called
        · cases called
          dsimp only [Leads] at next
          refine (undoneSaved self ?_ ?_).mp next
          · rfl
          · rfl
    · rename_i error called
      exfalso
      split at called
      · rename_i missing
        obtain ⟨engagementId,its,absent⟩ := (Option.any_eq_true _ _).mp missing
        exact storable ⟨saved,engagementId,its,Option.isNone_iff_eq_none.mp absent⟩
      · split at called
        · rename_i refused
          have taken : (db.chainEvents.get? id).isSome = true := Table.createTaken refused
          rw [free] at taken
          cases taken
        · cases called

theorem undoneUnless (holds : Skipped event db ∨ Inert self db (extractEventName event) (extractPayload event)) :
    Concludes passes (Undone db) (processEvent self event) db := by
  refine concludesBind.mpr (concludesQuery.mpr fun change i => ?_)
  cases i.fails with
  | true => exact rfl
  | false =>
    simp only [Bool.false_eq_true,if_false,Leads]
    split
    · trivial
    · rename_i unprocessed
      unfold savedEvent
      simp only [Process.bindAssoc]
      refine concludesBind.mpr (concludesQuery.mpr fun change' i' => ?_)
      cases i'.fails with
      | true => exact rfl
      | false =>
        simp only [Bool.false_eq_true,if_false,Leads]
        cases saved : db.chainEvents.findFirst fun row => row.txHash = event.txHash && row.eventName = extractEventName event with
        | some row =>
          cases processed : row.processed with
          | true =>
            simp only [Process.pureRet,Process.retBind,processed,if_true]
            trivial
          | false =>
            have same : tables (passes change' (passes change db)) = tables db := rfl
            refine (undoneSaved self same processed).mpr (holds.resolve_left ?_)
            rintro (done | ⟨none,_⟩)
            · exact unprocessed done
            · cases saved.symm.trans none
        | none =>
          refine concludesBind.mpr (concludesTransact.mpr fun change'' i'' => ?_)
          unfold outcome
          split
          · rename_i value s' called
            dsimp only [Leads]
            dsimp only at called
            split at called
            · cases called
            · split at called
              · cases called
              · rename_i stored
                split at called
                · cases called
                · cases called
                  refine (undoneSaved self ?_ ?_).mpr (holds.resolve_left ?_)
                  · rfl
                  · rfl
                  · rintro (done | ⟨_,engagementId,its,absent⟩)
                    · exact unprocessed done
                    · exact stored ((Option.any_eq_true _ _).mpr ⟨engagementId,its,Option.isNone_iff_eq_none.mpr absent⟩)
          · exact rfl

def unlocking : ContractEvent where
  ledger := 1
  txHash := "t"
  topic := ["milestone_unlocked"]
  value := .array [.text "e",.number 0]

def locked : Db where
  engagements := .single { id := "e", companyAddress := "C", recruiterAddress := "R", arbiterAddress := "A", totalAmount := 100 }
  milestones := .single { id := "m", engagementId := "e", milestoneIndex := 0, name := "n", kind := .retention, paymentPercent := 100, status := .locked }

end Events

end HireSettle.Escrow.AtomicEvents
