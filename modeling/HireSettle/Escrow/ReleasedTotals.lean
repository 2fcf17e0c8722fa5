import HireSettle.Escrow.KeptTerms
import HireSettle.Escrow.MilestonePercents
import HireSettle.Escrow.ServedCalls

/-! The released amount of an engagement and what its milestones have been paid. Only
the partial releases write both; the approvals, the hourly job and the settlements
write the milestone and leave the total as it is. -/
namespace HireSettle.Escrow.ReleasedTotals
open Workflow
open MilestonePercents (slot)

inductive Request where
  | submitProof (engagementId : String) (milestoneIndex : Nat) (user : PartyUser) (input : ProofInput)
  | rejectProof (engagementId : String) (milestoneIndex : Nat) (user : PartyUser) (reason : String) (versionNumber : Option Nat)
  | approveMilestone (engagementId : String) (milestoneIndex : Nat) (userId : String) (proofVersion : Option Nat)
  | confirmFlow (engagementId : String) (milestoneIndex : Nat) (userId : Option String)
  | runProofSlaChecks
  | propose (engagementId : String) (milestoneIndex : Nat) (user : PartyUser) (terms : PartialReleaseService.PartialReleaseTerms)
  | approve (engagementId : String) (milestoneIndex : Nat) (releaseId : String) (user : PartyUser)
  | reject (engagementId : String) (milestoneIndex : Nat) (releaseId : String) (user : PartyUser)
  | settle (disputeId : String)

variable (self : Config)

def handler : Request → Op Unit
  | .submitProof engagementId milestoneIndex user input => do
      let _ ← ProofVersionsService.submitProof engagementId milestoneIndex user input
  | .rejectProof engagementId milestoneIndex user reason versionNumber => do
      let _ ← ProofVersionsService.rejectProof engagementId milestoneIndex user reason versionNumber
  | .approveMilestone engagementId milestoneIndex userId proofVersion => do
      let _ ← MilestonesService.approveMilestone self engagementId milestoneIndex userId proofVersion
  | .confirmFlow engagementId milestoneIndex userId => do
      let _ ← MilestonesService.confirmFlow self engagementId milestoneIndex userId
  | .runProofSlaChecks => do
      let _ ← MilestoneProofSlaService.runProofSlaChecks
  | .propose engagementId milestoneIndex user terms => do
      let _ ← PartialReleaseService.propose engagementId milestoneIndex user terms
  | .approve engagementId milestoneIndex releaseId user => do
      let _ ← PartialReleaseService.approve engagementId milestoneIndex releaseId user
  | .reject engagementId milestoneIndex releaseId user => do
      let _ ← PartialReleaseService.reject engagementId milestoneIndex releaseId user
  | .settle disputeId => do
      let _ ← DisputesService.settle self disputeId

def service : System Request Nat Site Answer Db Exception Unit where
  handler := handler self
  environment elapsed db := { db with clock := db.clock + elapsed }

abbrev PaymentTurn := Turn Request Nat Answer

def paidOut (m : Milestone) : Int := m.paymentReleased.getD 0

def released (engagementId : String) (db : Db) : Int :=
  ((db.milestones.findMany fun m => m.engagementId = engagementId).map paidOut).sum

structure Totals (engagementId : String) (db : Db) : Prop where
  -- the unique index
  unique : (db.milestones.rows.map slot).Nodup
  total : ∀ row ∈ db.engagements.get? engagementId, row.releasedAmount = released engagementId db

instance (engagementId : String) (db : Db) : Decidable (Totals engagementId db) :=
  decidable_of_iff ((db.milestones.rows.map slot).Nodup ∧ ∀ row ∈ db.engagements.get? engagementId,
    row.releasedAmount = released engagementId db) ⟨fun both => ⟨both.1,both.2⟩,fun totals => ⟨totals.unique,totals.total⟩⟩

/-- A payment in full finds the milestone paid already, and the total follows a
partial release. -/
def Recorded (engagementId : String) (e : EscrowEvent) : Prop :=
  match e.site with
  | .markConfirmed own index => own = engagementId → e.answer.fails = false →
      ∀ m ∈ e.before.milestoneAt own index, paidOut m = m.amount.getD 0
  | .settleMilestone disputeId => e.answer.fails = false →
      ∀ dispute ∈ e.before.disputes.get? disputeId, dispute.outcome = some .release →
      ∀ m ∈ e.before.milestones.get? dispute.milestoneId, m.engagementId = engagementId → m.amount.getD 0 = 0 ∨ paidOut m = m.amount.getD 0
  | .addReleasedAmount own => own = engagementId → e.answer.fails = false
  | _ => True

instance (engagementId : String) (e : EscrowEvent) : Decidable (Recorded engagementId e) := by
  unfold Recorded
  generalize e.site = site
  induction site using Site.casesOn <;> infer_instance

section Rows

variable {engagementId : String} {db db' db'' : Db}

structure SameMoney (db db' : Db) : Prop where
  milestones : ∃ f, (∀ m, SameTerms m (f m)) ∧ db'.milestones.rows = db.milestones.rows.map f
  engagements : db'.engagements = db.engagements

theorem sameKept (kept : KeepsTerms db db') : SameMoney db db' := ⟨kept.milestones,kept.engagements⟩

theorem sameElsewhere (milestones : db'.milestones = db.milestones) (engagements : db'.engagements = db.engagements) : SameMoney db db' := by
  obtain ⟨f,same,rows⟩ := (keepsAll db).milestones
  exact ⟨⟨f,same,milestones ▸ rows⟩,engagements⟩

theorem sameMoneyRefl (db : Db) : SameMoney db db := sameElsewhere rfl rfl

theorem sameMoneyTrans (first : SameMoney db db') (second : SameMoney db' db'') : SameMoney db db'' := by
  obtain ⟨f,same,rows⟩ := first.milestones
  obtain ⟨g,same',rows'⟩ := second.milestones
  refine ⟨⟨g ∘ f,fun m => ?_,by rw [rows',rows,List.map_map]⟩,second.engagements.trans first.engagements⟩
  have here := same m
  have there := same' (f m)
  exact ⟨there.id.trans here.id,there.engagementId.trans here.engagementId,there.milestoneIndex.trans here.milestoneIndex,
    there.name.trans here.name,there.kind.trans here.kind,there.paymentPercent.trans here.paymentPercent,
    there.amount.trans here.amount,there.paymentReleased.trans here.paymentReleased⟩

/-- The slots and amounts of the milestones, which no payment changes. -/
def prices (db : Db) (id : String) : Option ((String × Nat) × Option Int) :=
  (db.milestones.get? id).map fun m => (slot m,m.amount)

theorem sameGet (same : SameMoney db db') : ∃ f, (∀ m, SameTerms m (f m)) ∧
    ∀ id, db'.milestones.get? id = (db.milestones.get? id).map f := by
  obtain ⟨f,terms,rows⟩ := same.milestones
  refine ⟨f,terms,fun id => ?_⟩
  have ids : ∀ m, Keyed.key (f m) = Keyed.key m := fun m => (terms m).id
  simp only [Table.get?,rows,List.find?_map,Function.comp_def,ids]

theorem samePrices (same : SameMoney db db') : prices db' = prices db := by
  obtain ⟨f,terms,get⟩ := sameGet same
  funext id
  simp only [prices,get,Option.map_map,Function.comp_def,slot,(terms _).engagementId,(terms _).milestoneIndex,(terms _).amount]

theorem sameTotals (same : SameMoney db db') (totals : Totals engagementId db) : Totals engagementId db' := by
  obtain ⟨f,terms,rows⟩ := same.milestones
  refine ⟨?_,fun row found => ?_⟩
  · have slots : ∀ m, slot (f m) = slot m := fun m => Prod.ext (terms m).engagementId (terms m).milestoneIndex
    simpa only [rows,List.map_map,Function.comp_def,slots] using totals.unique
  · have payments : ∀ m, paidOut (f m) = paidOut m := fun m => congrArg (Option.getD · 0) (terms m).paymentReleased
    have kept : released engagementId db' = released engagementId db := by
      simp only [released,Table.findMany,rows,List.filter_map,List.map_map,Function.comp_def,payments,(terms _).engagementId]
    rw [kept]
    exact totals.total row (same.engagements ▸ found)

theorem releasedUpdate (engagementId : String) {id : String} {m m' : Milestone} {f : Milestone → Milestone} {keeps : ∀ m, (f m).id = m.id}
    (updated : db.updateMilestone id f keeps = .ok (m',db')) (found : db.milestones.get? id = some m)
    (own : ∀ m, (f m).engagementId = m.engagementId) :
    released engagementId db' = released engagementId db + if m.engagementId = engagementId then paidOut (f m) - paidOut m else 0 := by
  obtain ⟨_,_,_,_,_,rfl⟩ := Db.updateMilestoneCases updated
  have sum := Table.sumUpdate db.milestones found keeps (q := fun m => m.engagementId = engagementId) (fun m => by rw [own]) paidOut
  simp only [decide_eq_true_eq] at sum
  exact sum

theorem uniqueUpdate {id : String} {m' : Milestone} {f : Milestone → Milestone} {keeps : ∀ m, (f m).id = m.id}
    (updated : db.updateMilestone id f keeps = .ok (m',db')) (here : ∀ m, slot (f m) = slot m) :
    db'.milestones.rows.map slot = db.milestones.rows.map slot ∧ db'.engagements = db.engagements := by
  obtain ⟨_,_,_,_,_,rfl⟩ := Db.updateMilestoneCases updated
  refine ⟨?_,rfl⟩
  simp only [Table.update,Table.updateMany,List.map_map]
  refine List.map_congr_left fun m _ => ?_
  simp only [Function.comp_apply]
  split
  · exact here m
  · rfl

theorem pricesUpdate {id : String} {m' : Milestone} {f : Milestone → Milestone} {keeps : ∀ m, (f m).id = m.id}
    (updated : db.updateMilestone id f keeps = .ok (m',db')) (here : ∀ m, slot (f m) = slot m)
    (amount : ∀ m, (f m).amount = m.amount) : prices db' = prices db := by
  obtain ⟨_,_,_,_,_,rfl⟩ := Db.updateMilestoneCases updated
  funext other
  exact Table.getUpdateManyMap db.milestones keeps (fun m => Prod.ext (here m) (amount m)) other

theorem slotUnique (unique : (db.milestones.rows.map slot).Nodup) {id own : String} {index : Nat} {m row : Milestone}
    (found : db.milestones.get? id = some m) (mine : slot m = (own,index)) (there : db.milestoneAt own index = some row) : row = m := by
  have stored := List.mem_of_find?_eq_some there
  have here := List.find?_some there
  simp only [Bool.and_eq_true,decide_eq_true_eq] at here
  exact List.inj_on_of_nodup_map unique stored (Table.getMem found) ((Prod.ext here.1 here.2).trans mine.symm)

end Rows

section Turns

variable {self} {engagementId own : String} {index : Nat} {start db : Db} {c : EscrowSnapshot} {α β : Type}

structure Kept (engagementId : String) (start : Db) (c : EscrowSnapshot) : Prop where
  totals : Totals engagementId c.world
  same : prices c.world = prices start

abbrev Serves (engagementId : String) (start : Db) (p : Op α) (c : EscrowSnapshot) : Prop :=
  Ensures (fun _ => Recorded engagementId) (fun _ => True) (fun _ => Kept engagementId start) p c

abbrev Unmoved (p : Op α) : Prop := Steps anySite SameMoney p

theorem keptSame (kept : Kept engagementId start c) {c' : EscrowSnapshot} (same : SameMoney c.world c'.world) : Kept engagementId start c' :=
  ⟨sameTotals same kept.totals,(samePrices same).trans kept.same⟩

theorem keptHere (kept : Kept engagementId start c) {c' : EscrowSnapshot} (here : c'.world = c.world) : Kept engagementId start c' :=
  keptSame kept (here ▸ sameMoneyRefl _)

theorem unmovedRoutine {p : Op α} (routine : Routine p) : Unmoved p := stepsMono (fun _ _ => rfl) (fun _ _ => sameKept) routine

theorem unmovedReads {p : Op α} (reads : Reads Site.reads p) : Unmoved p := unmovedRoutine (routineReads reads)

theorem unmovedQuery {site : Site} (f : Answer → Db → Except Exception α) : Unmoved (Process.query site f) :=
  stepsQuery rfl sameMoneyRefl f

theorem unmovedWrite {site : Site} {f : Answer → Db → Except Exception (α × Db)}
    (commits : ∀ i db value db', f i db = .ok (value,db') → db'.milestones = db.milestones ∧ db'.engagements = db.engagements) :
    Unmoved (write site f) :=
  stepsWrite rfl sameMoneyRefl fun i db value db' ok => sameElsewhere (commits i db value db' ok).1 (commits i db value db' ok).2

theorem servesUnmoved {p : Op α} (unmoved : Unmoved p) (kept : Kept engagementId start c) : Serves engagementId start p c := by
  exact ensuresActs (fun site s' c thread i same _ kept => keptSame kept same.2) (fun _ _ => trivial) (actsSteps unmoved) kept

theorem servesBind {p : Op α} {k : α → Op β} (first : Serves engagementId start p c)
    (rest : ∀ value c, Kept engagementId start c → Serves engagementId start (k value) c) : Serves engagementId start (p >>= k) c := by
  refine ensuresBind (ensuresMono ?_ first)
  intro out c kept
  cases out with
  | ok value => exact rest value c kept
  | error error => exact kept

theorem servesHandle {p : Op α} {h : Exception → Op α} (first : Serves engagementId start p c)
    (rest : ∀ error c, Kept engagementId start c → Serves engagementId start (h error) c) : Serves engagementId start (p.handle h) c := by
  refine ensuresHandle (ensuresMono ?_ first)
  intro out c kept
  cases out with
  | ok value => exact kept
  | error error => exact rest error c kept

theorem servesFoldEach {δ : Type} {body : α → δ → Op α} {xs : List δ}
    (each : ∀ acc, ∀ x ∈ xs, ∀ c, Kept engagementId start c → Serves engagementId start (body acc x) c) (acc : α)
    (kept : Kept engagementId start c) : Serves engagementId start (Process.foldEach body acc xs) c := by
  induction xs generalizing acc c with
  | nil => exact kept
  | cons x xs ih =>
    exact servesBind (each acc x List.mem_cons_self c kept) fun acc c kept =>
      ih (fun acc y inside => each acc y (List.mem_cons_of_mem _ inside)) acc kept

/-- The milestone stood in its slot with its amount when the operation began. -/
def Priced (start : Db) (m : Milestone) : Prop := prices start m.id = some (slot m,m.amount)

theorem pricedFound (kept : Kept engagementId start c) {id : String} {m : Milestone} (found : c.world.milestones.get? id = some m) :
    Priced start m := by
  have its : m.id = id := Table.getKey found
  rw [Priced,← kept.same,its,prices,found]
  rfl

theorem keptUpdate {id : String} {m' : Milestone} {f : Milestone → Milestone} {keeps : ∀ m, (f m).id = m.id} {db' : Db}
    (updated : c.world.updateMilestone id f keeps = .ok (m',db')) (kept : Kept engagementId start c) (here : ∀ m, slot (f m) = slot m)
    (amount : ∀ m, (f m).amount = m.amount)
    (level : ∀ m, c.world.milestones.get? id = some m → m.engagementId = engagementId → paidOut (f m) = paidOut m) (thread : Nat)
    (site : Site) (i : Answer) : Kept engagementId start (c.record thread site i db') := by
  obtain ⟨m,found,_⟩ := Db.updateMilestoneCases updated
  obtain ⟨slots,engagements⟩ := uniqueUpdate updated here
  have sum : released engagementId db' = released engagementId c.world := by
    rw [releasedUpdate engagementId updated found fun m => congrArg Prod.fst (here m)]
    split
    · rename_i mine
      rw [level m found mine,sub_self,add_zero]
    · exact add_zero _
  refine ⟨⟨slots ▸ kept.totals.unique,fun row there => ?_⟩,(pricesUpdate updated here amount).trans kept.same⟩
  rw [Snapshot.recordWorld,sum]
  exact kept.totals.total row (engagements ▸ there)

/-- The payment is written as the amount of the milestone that was read. -/
theorem servesMarkConfirmed {m : Milestone} (priced : Priced start m) (mine : slot m = (own,index)) (kept : Kept engagementId start c) :
    Serves engagementId start (MilestonesService.markConfirmed own index (m.amount.getD 0)) c := by
  refine servesBind (servesUnmoved (unmovedReads readsNow) kept) fun at' c kept => ?_
  refine ensuresWrite (fun _ _ => trivial) (fun _ _ here => keptHere kept here) rfl fun thread i row' db' answered ok recorded => ⟨trivial,?_⟩
  obtain ⟨row,there,updated⟩ := exceptBind.mp ok
  have there : c.world.milestoneAt own index = some row := requiredSome there
  obtain ⟨m₀,found,same⟩ := Option.map_eq_some_iff.mp ((congrFun kept.same m.id).trans priced)
  obtain ⟨slotted,amount⟩ := Prod.mk.inj same
  have here := slotUnique kept.totals.unique found (slotted.trans mine) there
  subst here
  refine keptUpdate updated kept (fun _ => rfl) (fun _ => rfl) (fun m' found' belongs => ?_) thread _ i
  have its : row.id = m.id := Table.getKey found
  rw [its,found] at found'
  cases found'
  have slotted : slot row = (own,index) := slotted.trans mine
  exact (congrArg (Option.getD · 0) amount).symm.trans (recorded ((congrArg Prod.fst slotted).symm.trans belongs) answered row there).symm

theorem servesPayOut {m : Milestone} {reviewedById : Option String} (priced : Priced start m) (mine : slot m = (own,index))
    (kept : Kept engagementId start c) : Serves engagementId start (MilestonesService.payOut self m own index reviewedById) c := by
  refine servesBind (servesUnmoved (unmovedQuery _) kept) fun _ c kept => ?_
  refine servesBind (servesMarkConfirmed priced mine kept) fun updated c kept => ?_
  exact servesBind (servesUnmoved (unmovedRoutine (routineApproved self _ _)) kept) fun _ c kept => kept

theorem servesFindOne {k : Milestone → Op β} (kept : Kept engagementId start c)
    (rest : ∀ m c, Priced start m → slot m = (own,index) → Kept engagementId start c → Serves engagementId start (k m) c) :
    Serves engagementId start (MilestonesService.findOne own index >>= k) c := by
  refine ensuresFindOr (fun _ _ => trivial) (fun _ _ here => keptHere kept here) rfl fun m c' found here => ?_
  split at found
  · contradiction
  · rename_i there
    cases found
    obtain ⟨stored,slotted⟩ := Table.findFirstGet there
    simp only [Bool.and_eq_true,decide_eq_true_eq] at slotted
    exact rest m c' (pricedFound kept stored) (Prod.ext slotted.1 slotted.2) (keptHere kept here)

theorem servesApproveMilestone (userId : String) (proofVersion : Option Nat) (kept : Kept engagementId start c) :
    Serves engagementId start (MilestonesService.approveMilestone self own index userId proofVersion) c := by
  refine servesFindOne kept fun m c priced mine kept => ?_
  split
  · exact kept
  · refine servesBind (servesUnmoved (unmovedRoutine (routineReviewable self _ _)) kept) fun _ c kept => ?_
    refine servesBind (servesUnmoved (unmovedQuery _) kept) fun engagement c kept => ?_
    refine servesBind (servesUnmoved (unmovedQuery _) kept) fun existing c kept => ?_
    split
    · exact kept
    · refine servesBind (servesUnmoved (unmovedRoutine (routineCreateApproval _ _)) kept) fun _ c kept => ?_
      refine servesBind (servesUnmoved (unmovedQuery _) kept) fun approvalCount c kept => ?_
      split
      · exact kept
      · refine servesBind (servesPayOut priced mine kept) fun updated c kept => ?_
        split
        · exact kept
        · exact servesBind (servesUnmoved (unmovedReads readsCreateNotification) kept) fun _ c kept => kept

theorem servesConfirmFlow (userId : Option String) (kept : Kept engagementId start c) :
    Serves engagementId start (MilestonesService.confirmFlow self own index userId) c := by
  refine servesFindOne kept fun m c priced mine kept => ?_
  split
  · exact kept
  · refine servesBind (servesUnmoved (unmovedRoutine (routineReviewable self _ _)) kept) fun _ c kept => ?_
    refine servesBind (servesUnmoved (unmovedQuery _) kept) fun engagement c kept => ?_
    refine servesBind (servesUnmoved (unmovedRoutine (routineApproveOnce _ _)) kept) fun _ c kept => ?_
    refine servesBind (servesUnmoved (unmovedQuery _) kept) fun approvalCount c kept => ?_
    split
    · exact kept
    · refine servesBind (servesPayOut priced mine kept) fun updated c kept => ?_
      exact servesBind (servesUnmoved (unmovedReads readsCreateNotification) kept) fun _ c kept => kept

section HourlyJob

open MilestoneProofSlaService

theorem servesAutoApprove {pending : PendingVersion} (at' : Nat) (priced : Priced start pending.milestone)
    (kept : Kept engagementId start c) : Serves engagementId start (autoApprove pending at') c := by
  have versions : ∀ f keeps, Unmoved (ProofVersionsService.updateVersion pending.milestone.id pending.version.id f keeps) :=
    fun f keeps => unmovedRoutine (routineUpdateVersion _ _ f keeps)
  refine servesBind (servesHandle (servesUnmoved (unmovedQuery _) kept) fun error c kept => ?_) fun _ c kept => ?_
  · exact servesBind (servesUnmoved (versions _ _) kept) fun _ c kept => kept
  · refine servesBind (servesMarkConfirmed priced rfl kept) fun updated c kept => ?_
    refine servesBind (servesUnmoved (versions _ _) kept) fun _ c kept => ?_
    refine servesUnmoved (unmovedReads ?_) kept
    exact readsBind readsNotify fun _ => readsNotify

theorem servesCheck {pending : PendingVersion} (at' : Nat) (summary : ProofSlaRunSummary) (priced : Priced start pending.milestone)
    (kept : Kept engagementId start c) : Serves engagementId start (check at' summary pending) c := by
  refine servesHandle ?_ fun error c kept => kept
  unfold evaluate
  split
  · refine servesBind (servesUnmoved (unmovedRoutine (routineClaim _ _ _ _)) kept) fun claimed c kept => ?_
    split
    · exact kept
    · split
      · exact servesBind (servesAutoApprove at' priced kept) fun _ c kept => kept
      · exact servesBind (servesUnmoved (unmovedRoutine routineEscalate) kept) fun _ c kept => kept
  · split
    · exact servesUnmoved (unmovedRoutine (routineRemind90 _ _ _)) kept
    · split
      · exact servesUnmoved (unmovedRoutine (routineRemind50 _ _ _)) kept
      · exact kept

theorem pendingPriced (kept : Kept engagementId start c) {pending : PendingVersion} (inside : pending ∈ c.world.pendingVersions) :
    Priced start pending.milestone := by
  obtain ⟨version,_,listed⟩ := List.mem_filterMap.mp inside
  obtain ⟨milestone,found,listed⟩ := Option.bind_eq_some_iff.mp listed
  obtain ⟨engagement,_,listed⟩ := Option.bind_eq_some_iff.mp listed
  split at listed
  · cases listed
    exact pricedFound kept found
  · cases listed

theorem servesRunProofSlaChecks (kept : Kept engagementId start c) : Serves engagementId start runProofSlaChecks c := by
  refine servesBind (servesUnmoved (unmovedReads readsNow) kept) fun at' c kept => ?_
  refine servesBind (servesUnmoved (unmovedQuery _) kept) fun locked c kept => ?_
  split
  · exact kept
  · refine servesBind (servesHandle ?_ fun error c kept => ?_) fun summary c kept => ?_
    · refine ensuresFind (fun _ _ => trivial) (fun _ _ here => keptHere kept here) rfl fun c' here => ?_
      exact servesFoldEach (fun summary pending inside c kept' => servesCheck at' summary (pendingPriced kept inside) kept') _ (keptHere kept here)
    · exact servesBind (servesUnmoved (unmovedQuery _) kept) fun _ c kept => kept
    · exact servesBind (servesUnmoved (unmovedQuery _) kept) fun _ c kept => kept

end HourlyJob

section PartialReleases

open PartialReleaseService

theorem unmovedRelease {site : Site} {f : Answer → Db → Except Exception (α × Db)}
    (commits : ∀ i db value db', f i db = .ok (value,db') → ∃ partialReleases, db' = { db with partialReleases := partialReleases }) :
    Unmoved (write site f) := by
  refine unmovedWrite fun i db value db' ok => ?_
  obtain ⟨_,rfl⟩ := commits i db value db' ok
  exact ⟨rfl,rfl⟩

theorem unmovedUpdate {site : Site} {id : String} {g : Answer → MilestonePartialRelease → MilestonePartialRelease}
    {keeps : ∀ i r, (g i r).id = r.id} : Unmoved (write site fun i db => db.updateRelease id (g i) (keeps i)) := by
  refine unmovedRelease fun i db value db' ok => ?_
  obtain ⟨_,_,_,_,_,rfl⟩ := Db.updateReleaseCases ok
  exact ⟨_,rfl⟩

theorem unmovedWhere {site : Site} {p : MilestonePartialRelease → Bool} {f : MilestonePartialRelease → MilestonePartialRelease}
    {keeps : ∀ r, (f r).id = r.id} : Unmoved (write site fun _ db => .ok (db.updateReleasesWhere p f keeps)) := by
  refine unmovedRelease fun i db value db' ok => ?_
  cases ok
  exact ⟨_,rfl⟩

theorem unmovedPropose (user : PartyUser) (terms : PartialReleaseTerms) : Unmoved (propose own index user terms) := by
  refine stepsBind (unmovedQuery _) fun found => stepsBind (unmovedRoutine (routineRequirePartyRole _ _ _ _)) fun role => ?_
  dsimp only
  split
  · trivial
  · split
    · trivial
    · refine stepsBind (unmovedQuery _) fun existing => ?_
      split
      · trivial
      · refine stepsBind (stepsOfExcept _) fun split => stepsBind (unmovedReads readsNow) fun at' => ?_
        refine stepsBind (stepsHandle (unmovedRelease fun i db value db' ok => ?_) fun error => ?_) fun release =>
          stepsBind (unmovedReads readsAudit) fun _ => stepsBind (unmovedReads readsNotify) fun _ => trivial
        · split at ok
          · contradiction
          · split at ok
            · contradiction
            · cases ok
              exact ⟨_,rfl⟩
        · split <;> trivial

theorem unmovedFindOpen (milestoneId releaseId : String) : Unmoved (findOpen milestoneId releaseId) := by
  refine stepsBind (unmovedQuery _) fun found => ?_
  split
  · trivial
  · split
    · trivial
    · split <;> trivial

theorem unmovedReject (releaseId : String) (user : PartyUser) : Unmoved (reject own index releaseId user) := by
  refine stepsBind (unmovedQuery _) fun found => stepsBind (unmovedRoutine (routineRequirePartyRole _ _ _ _)) fun role => ?_
  refine stepsBind (unmovedFindOpen _ _) fun release => stepsBind unmovedWhere fun count => ?_
  split
  · trivial
  · exact stepsBind (unmovedReads readsAudit) fun _ => trivial

theorem unmovedFailed (releaseId : String) (error : Exception) : Unmoved (failed releaseId error) :=
  stepsBind unmovedUpdate fun _ => stepsBind (unmovedReads readsAudit) fun _ => trivial

/-- The money is as the operation has read it. -/
structure Steady (engagementId : String) (start db : Db) (c : EscrowSnapshot) : Prop where
  kept : Kept engagementId start c
  since : SameMoney db c.world

theorem servesSteady {p : Op α} {k : α → Op β} (unmoved : Unmoved p) (steady : Steady engagementId start db c)
    (rest : ∀ value c, Steady engagementId start db c → Serves engagementId start (k value) c) : Serves engagementId start (p >>= k) c := by
  have first : Ensures (fun _ => Recorded engagementId) (fun _ => True) (fun _ => Steady engagementId start db) p c :=
    ensuresActs (fun site s' c thread i same _ steady => ⟨keptSame steady.kept same.2,sameMoneyTrans steady.since same.2⟩)
      (fun _ _ => trivial) (actsSteps unmoved) steady
  refine ensuresBind (ensuresMono ?_ first)
  intro out c steady
  cases out with
  | ok value => exact rest value c steady
  | error error => exact steady.kept

/-- The milestone has been paid and the total is still to follow. -/
structure Owed (engagementId : String) (start : Db) (own : String) (amount : Int) (c : EscrowSnapshot) : Prop where
  unique : (c.world.milestones.rows.map slot).Nodup
  same : prices c.world = prices start
  there : (c.world.engagements.get? own).isSome = true
  total : ∀ row ∈ c.world.engagements.get? engagementId,
    row.releasedAmount + (if own = engagementId then amount else 0) = released engagementId c.world

theorem servesAddReleased {amount : Int} (owed : Owed engagementId start own amount c) :
    Serves engagementId start (write (.addReleasedAmount own) fun _ db => db.updateEngagement own fun e =>
      { e with releasedAmount := e.releasedAmount + amount }) c := by
  have level : ∀ c' : EscrowSnapshot, own ≠ engagementId → c'.world = c.world → Kept engagementId start c' := by
    intro c' other here
    refine ⟨⟨here ▸ owed.unique,fun row found => ?_⟩,here ▸ owed.same⟩
    have total := owed.total row (here ▸ found)
    rw [if_neg other,add_zero] at total
    rw [here]
    exact total
  obtain ⟨row,there⟩ := Option.isSome_iff_exists.mp owed.there
  refine ensuresAttempt (fun thread i row' db' ok recorded => ⟨trivial,?_⟩) fun thread i error failed recorded => ⟨trivial,?_⟩
  · split at ok
    · contradiction
    · obtain ⟨_,there',_,mine,elsewhere,rfl⟩ := Db.updateEngagementCases ok
      refine ⟨⟨owed.unique,fun row found => ?_⟩,owed.same⟩
      by_cases here : engagementId = own
      · subst here
        cases found.symm.trans mine
        have total := owed.total _ there'
        rwa [if_pos rfl] at total
      · have total := owed.total row ((elsewhere _ here).symm.trans found)
        rw [if_neg fun same => here same.symm,add_zero] at total
        exact total
  · by_cases mine : own = engagementId
    · rw [if_neg (by simp [show i.fails = false from recorded mine])] at failed
      obtain ⟨out,modified⟩ : ∃ out, c.world.updateEngagement own (fun e => { e with releasedAmount := e.releasedAmount + amount }) = .ok out :=
        ⟨_,exceptBind.mpr ⟨_,congrArg (fun found => required (Option.map _ found)) there,rfl⟩⟩
      cases failed.symm.trans modified
    · exact level _ mine rfl

theorem servesPay {release : MilestonePartialRelease} {m : Milestone} {engagement : Engagement} (at' : Nat)
    (there : db.milestones.get? m.id = some m) (engaged : db.engagements.get? m.engagementId = some engagement)
    (steady : Steady engagementId start db c) : Serves engagementId start (pay release m engagement at') c := by
  obtain ⟨f,terms,get⟩ := sameGet steady.since
  have stored : c.world.milestones.get? m.id = some (f m) := by rw [get,there]; rfl
  have its : engagement.id = m.engagementId := Table.getKey engaged
  refine ensuresBind (ensuresWrite (fun _ _ => trivial) (fun _ _ here => keptHere steady.kept here) rfl
    fun thread i m' db' answered ok _ => ⟨trivial,?_⟩)
  obtain ⟨slots,engagements⟩ := uniqueUpdate ok fun _ => rfl
  have sum := releasedUpdate engagementId ok stored fun _ => rfl
  refine servesBind (servesAddReleased ⟨slots ▸ steady.kept.totals.unique,(pricesUpdate ok (fun _ => rfl) fun _ => rfl).trans steady.kept.same,
    ?_,fun row found => ?_⟩) fun _ c kept => kept
  · rw [Snapshot.recordWorld,engagements,steady.since.engagements,its,engaged]
    rfl
  · have total := steady.kept.totals.total row (engagements ▸ found)
    rw [Snapshot.recordWorld,sum,total,(terms m).engagementId,its]
    have paid : paidOut (f m) = m.paymentReleased.getD 0 := congrArg (Option.getD · 0) (terms m).paymentReleased
    split
    · rw [paid]
      simp only [paidOut,Option.getD_some]
      omega
    · rfl

theorem servesExecute {release : MilestonePartialRelease} {m : Milestone} {engagement : Engagement}
    (there : db.milestones.get? m.id = some m) (engaged : db.engagements.get? m.engagementId = some engagement)
    (steady : Steady engagementId start db c) : Serves engagementId start (execute release m engagement) c := by
  unfold execute
  split
  · exact steady.kept
  · refine servesSteady (unmovedReads readsNow) steady fun at' c steady => ?_
    refine servesSteady unmovedWhere steady fun count c steady => ?_
    split
    · exact servesUnmoved (unmovedQuery _) steady.kept
    · refine servesSteady (stepsHandle (unmovedQuery _) fun error => unmovedFailed _ error) steady fun txHash c steady => ?_
      refine servesBind (servesPay at' there engaged steady) fun _ c kept => ?_
      have finishes : ∀ c, Kept engagementId start c → Serves engagementId start (do
          let executed ← write (.executeRelease release.id) fun _ db => db.updateRelease release.id fun r =>
            { r with status := .executed, txHash := some txHash }
          audit
          notify
          notify
          return executed) c := by
        intro c kept
        refine servesBind (servesUnmoved unmovedUpdate kept) fun executed c kept => servesUnmoved (unmovedReads ?_) kept
        exact readsBind readsAudit fun _ => readsBind readsNotify fun _ => readsBind readsNotify fun _ => trivial
      dsimp only
      split
      · refine servesBind (servesUnmoved (unmovedWrite fun i db value db' ok => ?_) kept) fun _ c kept => finishes c kept
        cases ok
        exact ⟨rfl,rfl⟩
      · exact finishes c kept

theorem servesApprove (releaseId : String) (user : PartyUser) (kept : Kept engagementId start c) :
    Serves engagementId start (approve own index releaseId user) c := by
  refine ensuresFindOr (fun _ _ => trivial) (fun _ _ here => keptHere kept here) rfl fun found c' ok here => ?_
  split at ok
  · contradiction
  · rename_i m slotted
    split at ok
    · contradiction
    · rename_i engagement engaged
      cases ok
      obtain ⟨stored,_⟩ := Table.findFirstGet slotted
      have steady : Steady engagementId start c.world c' := ⟨keptHere kept here,here ▸ sameMoneyRefl _⟩
      refine servesSteady (unmovedRoutine (routineRequirePartyRole _ _ _ _)) steady fun role c' steady => ?_
      refine servesSteady (unmovedFindOpen _ _) steady fun release c' steady => ?_
      refine servesSteady (unmovedReads readsNow) steady fun at' c' steady => ?_
      refine servesSteady unmovedWhere steady fun count c' steady => ?_
      split
      · exact steady.kept
      · refine servesSteady (unmovedQuery _) steady fun updated c' steady => ?_
        split
        · exact steady.kept
        · exact servesExecute stored engaged steady

end PartialReleases

section Settlements

open DisputesService

theorem servesRecordSettlement {dispute : Dispute} {m : Milestone} (approved : Bool) (kept : Kept engagementId start c)
    (release : approved = true → dispute.outcome = some .release ∧ c.world.disputes.get? dispute.id = some dispute ∧
      c.world.milestones.get? dispute.milestoneId = some m) :
    Serves engagementId start (recordSettlement self dispute m approved (m.amount.getD 0)) c := by
  refine ensuresNow (fun _ _ => trivial) (fun _ _ here => keptHere kept here) rfl fun c' here => ?_
  refine servesBind ?_ fun updated c kept => ?_
  · refine ensuresWrite (fun _ _ => trivial) (fun _ _ here => keptHere kept here) here fun thread i m' db' answered ok recorded => ⟨trivial,?_⟩
    rw [← here] at ok
    refine keptUpdate ok (keptHere kept here) (fun _ => rfl) (fun _ => rfl) (fun row found mine => ?_) thread _ i
    by_cases pays : approved = true ∧ m.amount.getD 0 ≠ 0
    · obtain ⟨outcome,disputed,stored⟩ := release pays.1
      have its : m.id = dispute.milestoneId := Table.getKey stored
      rw [here,its,stored] at found
      cases found
      simp only [paidOut,if_pos pays]
      exact ((recorded answered dispute disputed outcome m stored mine).resolve_left pays.2).symm
    · simp only [paidOut,if_neg pays]
  · refine servesBind (servesUnmoved (unmovedRoutine (routineUpdateDispute rfl)) kept) fun settled c kept => ?_
    refine servesBind (servesUnmoved (unmovedRoutine (routineRecordArbiterPayout self _ _)) kept) fun _ c kept => ?_
    exact servesBind (servesUnmoved (unmovedReads (readsNotifyParties _ _)) kept) fun _ c kept => kept

theorem unmovedPayOut (dispute : Dispute) (m : Milestone) (approved : Bool) (amount : Int) : Unmoved (payOut dispute m approved amount) := by
  unfold payOut
  dsimp only
  split
  · refine stepsBind (unmovedWrite fun i db value db' ok => ?_) fun _ => unmovedQuery _
    cases ok
    exact ⟨rfl,rfl⟩
  · exact unmovedQuery _

theorem readsPayOut (dispute : Dispute) (m : Milestone) (amount : Int) : Reads anySite (payOut dispute m true amount) :=
  readsQuery rfl _

theorem servesSettle (disputeId : String) (kept : Kept engagementId start c) : Serves engagementId start (settle self disputeId) c := by
  refine servesBind (servesUnmoved (unmovedRoutine (routineClaimSettlement _)) kept) fun count c kept => ?_
  refine ensuresFindOr (fun _ _ => trivial) (fun _ _ here => keptHere kept here) rfl fun found c' ok here => ?_
  split at ok
  · contradiction
  · rename_i dispute disputed
    split at ok
    · contradiction
    · rename_i m stored
      cases ok
      have kept := keptHere kept here
      have same : dispute.id = disputeId := Table.getKey disputed
      subst same
      dsimp only
      split
      · exact kept
      · have unclaims : ∀ error, Unmoved (unclaim dispute.id error) := fun error => unmovedRoutine (routineUnclaim _ error)
        generalize release : decide (dispute.outcome = some .release) = approved
        cases approved with
        | true =>
          have stays : Ensures (fun _ => Recorded engagementId) (fun _ => True) (fun _ c'' => c''.world = c'.world)
              (payOut dispute m true (m.amount.getD 0)) c' := ensuresReads (readsPayOut _ _ _) fun _ _ => trivial
          refine ensuresBind (ensuresHandle (ensuresMono ?_ stays))
          intro out c'' same
          cases out with
          | ok _ =>
            refine servesRecordSettlement true (keptHere kept same) fun _ => ⟨of_decide_eq_true release,?_⟩
            rw [same,here]
            exact ⟨disputed,stored⟩
          | error error =>
            -- the unclaimed settlement throws the error again
            refine ensuresBind (ensuresMono ?_ (servesUnmoved (unmovedRoutine (routineUpdateDispute rfl)) (keptHere kept same)))
            intro out c kept
            cases out <;> exact kept
        | false =>
          refine servesBind (servesHandle (servesUnmoved (unmovedPayOut _ _ _ _) kept) fun error c kept =>
            servesUnmoved (unclaims error) kept) fun _ c kept => ?_
          exact servesRecordSettlement false kept nofun

end Settlements

theorem servesHandler (request : Request) (kept : Kept engagementId start c) : Serves engagementId start (handler self request) c := by
  have unit : ∀ {α : Type} {p : Op α}, Serves engagementId start p c → Serves engagementId start (p >>= fun _ => pure ()) c :=
    fun serves => servesBind serves fun _ _ kept => kept
  cases request with
  | submitProof => exact unit (servesUnmoved (unmovedRoutine (routineSubmitProof _ _ _ _)) kept)
  | rejectProof => exact unit (servesUnmoved (unmovedRoutine (routineRejectProof _ _ _ _ _)) kept)
  | approveMilestone => exact unit (servesApproveMilestone _ _ kept)
  | confirmFlow => exact unit (servesConfirmFlow _ kept)
  | runProofSlaChecks => exact unit (servesRunProofSlaChecks kept)
  | propose => exact unit (servesUnmoved (unmovedPropose _ _) kept)
  | approve => exact unit (servesApprove _ _ kept)
  | reject => exact unit (servesUnmoved (unmovedReject _ _) kept)
  | settle => exact unit (servesSettle _ kept)

def awaiting : Db where
  engagements := .single { id := "e", companyAddress := "GC", recruiterAddress := "GR", arbiterAddress := "GA", totalAmount := 1000 }
  milestones := .single { id := "m", engagementId := "e", milestoneIndex := 0, name := "placed", kind := .placement
                          paymentPercent := 100, amount := some 1000, status := .proofSubmitted }

def retained : PartialReleaseService.PartialReleaseTerms := { releaseAmount := some 250, remainderAction := .retain }

def released250 : List PaymentTurn :=
  [.serve (.propose "e" 0 { stellarAddress := some "GC" } retained) (.replicate 6 { text := "r" }),
    .serve (.approve "e" 0 "r" { stellarAddress := some "GR" }) (.replicate 14 { text := "tx" })]

def approvedInFull : List PaymentTurn := [.serve (.approveMilestone "e" 0 "u" none) (.replicate 12 {})]

end Turns

end HireSettle.Escrow.ReleasedTotals
