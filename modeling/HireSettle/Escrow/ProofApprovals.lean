import HireSettle.Escrow.CallEffects
import HireSettle.Workflow.Turns

/-! Whose approvals a payment counts. An approval is a row of its milestone, not of
the proof version that was approved. A rejection deletes the rows; the refund that
returns a milestone to PENDING leaves them to the next version. -/
namespace HireSettle.Escrow.ProofApprovals
open Workflow

inductive Request where
  | submitProof (engagementId : String) (milestoneIndex : Nat) (user : PartyUser) (input : ProofInput)
  | rejectProof (engagementId : String) (milestoneIndex : Nat) (user : PartyUser) (reason : String) (versionNumber : Option Nat)
  | approveMilestone (engagementId : String) (milestoneIndex : Nat) (userId : String) (proofVersion : Option Nat)
  | confirmFlow (engagementId : String) (milestoneIndex : Nat) (userId : Option String)
  | disputeFlow (engagementId : String) (milestoneIndex : Nat) (reason : String)
  | resolveDisputeFlow (engagementId : String) (milestoneIndex : Nat) (resolution : DisputeOutcome) (actor : Option DisputeActor)
  | decide (id : String) (outcome : DisputeOutcome) (user : DisputeActor)
  | settle (disputeId : String)
  | openAppeal (disputeId : String) (user : DisputeActor) (reason : String)
  | decideAppeal (disputeId : String) (user : DisputeActor) (outcome : DisputeOutcome)
  | finalizeExpiredAppealWindows

/-- The users whose approval of the milestone an event records. -/
def approvedBy (milestoneId : String) (e : EscrowEvent) : List String :=
  (e.after.approvals.rows.filter fun row => row.milestoneId = milestoneId ∧ row ∉ e.before.approvals.rows).map MilestoneApproval.userId

def createsVersion (id : String) (e : EscrowEvent) : Bool :=
  (e.before.proofVersions.get? id).isNone && (e.after.proofVersions.get? id).isSome

def latestVersion (db : Db) (milestoneId : String) : Option MilestoneProofVersion :=
  ((db.proofVersions.findMany fun row => row.milestoneId = milestoneId).insertionSort latestFirst).head?

/-- What has happened since the creation of a version. -/
def since (version : Option String) (history : List EscrowEvent) : List EscrowEvent :=
  match version with
  | none => history
  | some id => history.takeWhile fun e => !createsVersion id e

def approvers (milestoneId : String) (version : Option String) (history : List EscrowEvent) : List String :=
  ((since version history).flatMap (approvedBy milestoneId)).dedup

/-- A payment is called for when enough users have approved the milestone since its
latest version was created. -/
def Reviewed (earlier : List EscrowEvent) (e : EscrowEvent) : Prop :=
  match e.site with
  | .releaseMilestonePayment engagementId milestoneIndex =>
      ∀ m ∈ e.before.milestoneAt engagementId milestoneIndex, ∀ engagement ∈ e.before.engagements.get? engagementId,
        engagement.requiredApprovals ≤
          (approvers m.id ((latestVersion e.before m.id).map MilestoneProofVersion.id) earlier).length
  | _ => True

instance (earlier : List EscrowEvent) (e : EscrowEvent) : Decidable (Reviewed earlier e) := by
  unfold Reviewed
  generalize e.site = site
  induction site using Site.casesOn <;> infer_instance

/-- A version is created when the milestone has no approvals. -/
def Unapproved (e : EscrowEvent) : Prop :=
  match e.site with
  | .writeProofVersion milestoneId => e.after.proofVersions.rows.length ≠ e.before.proofVersions.rows.length →
      ∀ row ∈ e.before.approvals.rows, row.milestoneId ≠ milestoneId
  | _ => True

instance (e : EscrowEvent) : Decidable (Unapproved e) := by
  unfold Unapproved
  generalize e.site = site
  induction site using Site.casesOn <;> infer_instance

section Rows

variable {c : EscrowSnapshot} {db db' : Db} {milestoneId : String} {version : Option String}

def Belongs (db : Db) (milestoneId : String) (version : Option String) : Prop :=
  ∀ id, version = some id → ∃ v, db.proofVersions.get? id = some v ∧ v.milestoneId = milestoneId

/-- Every stored approval was given since each version of its milestone. -/
def Counted (c : EscrowSnapshot) : Prop :=
  ∀ row ∈ c.world.approvals.rows, ∀ version, Belongs c.world row.milestoneId version →
    row.userId ∈ approvers row.milestoneId version c.history

theorem memApprovers {history : List EscrowEvent} {userId : String} :
    userId ∈ approvers milestoneId version history ↔ ∃ e ∈ since version history, userId ∈ approvedBy milestoneId e := by
  simp only [approvers,List.mem_dedup,List.mem_flatMap]

theorem sinceLater {e : EscrowEvent} {history : List EscrowEvent} (belongs : Belongs e.before milestoneId version) :
    since version (e :: history) = e :: since version history := by
  cases version with
  | none => rfl
  | some id =>
    obtain ⟨v,found,_⟩ := belongs id rfl
    simp [since,createsVersion,found]

theorem countedRecord {thread : Nat} {site : Site} {i : Answer} (counted : Counted c)
    (versions : ∀ row ∈ db'.approvals.rows, ∀ version, Belongs db' row.milestoneId version → Belongs c.world row.milestoneId version) :
    Counted (c.record thread site i db') := by
  intro row stored version belongs
  have before := versions row stored version belongs
  rw [memApprovers,Snapshot.recordHistory,sinceLater before]
  by_cases old : row ∈ c.world.approvals.rows
  · obtain ⟨e,inside,approved⟩ := memApprovers.mp (counted row old version before)
    exact ⟨e,List.mem_cons_of_mem _ inside,approved⟩
  · refine ⟨_,List.mem_cons_self,List.mem_map.mpr ⟨row,?_,rfl⟩⟩
    exact List.mem_filter.mpr ⟨stored,decide_eq_true ⟨rfl,old⟩⟩

theorem versionsStay {site : Site} (effect : Effect site db db') (elsewhere : ∀ id, site ≠ .writeProofVersion id)
    (unclaimed : ∀ id, site ≠ .claimProofSla id) : db'.proofVersions = db.proofVersions := by
  obtain rfl | effect := effect
  · rfl
  · cases site <;> first
      | exact absurd rfl (elsewhere _)
      | exact absurd rfl (unclaimed _)
      | exact effect.elim
      | grind [Restates,RestatesAt,MovesDisputes,MovesAppeals]

theorem belongsUpdated (updates : UpdatesVersions db db') (belongs : Belongs db' milestoneId version) :
    Belongs db milestoneId version := by
  obtain ⟨q,f,keeps,kept,rfl⟩ := updates
  intro id same
  obtain ⟨v,found,its⟩ := belongs id same
  rw [show Table.get? _ id = _ from Table.getUpdateMany _ q f keeps id] at found
  obtain ⟨v₀,found₀,rfl⟩ := Option.map_eq_some_iff.mp found
  refine ⟨v₀,found₀,?_⟩
  rw [← its]
  split
  · exact (kept v₀).1.symm
  · rfl

theorem countedEffect {thread : Nat} {site : Site} {i : Answer} (counted : Counted c)
    (effect : Effect site c.world db') (proper : Unapproved (c.event thread site i db')) :
    Counted (c.record thread site i db') := by
  refine countedRecord counted fun row stored version belongs => ?_
  by_cases writes : ∃ milestoneId, site = .writeProofVersion milestoneId
  · obtain ⟨milestoneId,rfl⟩ := writes
    obtain rfl | updates | ⟨created,proofVersions,mine,made,rfl⟩ := effect
    · exact belongs
    · exact belongsUpdated updates belongs
    · intro id same
      obtain ⟨v,found,its⟩ := belongs id same
      obtain ⟨_,rows,found'⟩ := Table.createGet made
      rw [show proofVersions.get? id = _ from found' id] at found
      split at found
      · cases found
        -- the approvals of its milestone are gone when a version is created
        refine absurd (its.symm.trans mine) (proper ?_ row stored)
        show proofVersions.rows.length ≠ c.world.proofVersions.rows.length
        simp [rows]
      · exact ⟨v,found,its⟩
  · by_cases claims : ∃ versionId, site = .claimProofSla versionId
    · obtain ⟨versionId,rfl⟩ := claims
      obtain rfl | updates := effect
      · exact belongs
      · exact belongsUpdated updates belongs
    · intro id same
      obtain ⟨v,found,its⟩ := belongs id same
      rw [versionsStay effect (fun id same => writes ⟨id,same⟩) fun id same => claims ⟨id,same⟩] at found
      exact ⟨v,found,its⟩

/-- The rows that are counted are of different users. -/
theorem countApprovers (counted : Counted c) (belongs : Belongs c.world milestoneId version) :
    (c.world.approvals.count fun row => row.milestoneId = milestoneId) ≤ (approvers milestoneId version c.history).length := by
  have distinct : ((c.world.approvals.rows.filter fun row => row.milestoneId = milestoneId).map MilestoneApproval.userId).Nodup := by
    refine List.Nodup.map_on ?_ ((List.Nodup.of_map _ c.world.approvals.unique).filter _)
    intro row inside other inside' same
    have its := of_decide_eq_true (List.mem_filter.mp inside).2
    have its' := of_decide_eq_true (List.mem_filter.mp inside').2
    cases row
    cases other
    cases its
    cases its'
    cases same
    rfl
  have known : ((c.world.approvals.rows.filter fun row => row.milestoneId = milestoneId).map MilestoneApproval.userId) ⊆
      approvers milestoneId version c.history := by
    intro userId inside
    obtain ⟨row,stored,rfl⟩ := List.mem_map.mp inside
    have its := of_decide_eq_true (List.mem_filter.mp stored).2
    subst its
    exact counted row (List.mem_filter.mp stored).1 version belongs
  have bound := (List.subperm_of_subset distinct known).length_le
  rw [List.length_map] at bound
  rw [Table.count,List.countP_eq_length_filter]
  exact bound

end Rows

section Runs

variable (self : Config)

def handler : Request → Op Unit
  | .submitProof engagementId milestoneIndex user input => do
      let _ ← ProofVersionsService.submitProof engagementId milestoneIndex user input
  | .rejectProof engagementId milestoneIndex user reason versionNumber => do
      let _ ← ProofVersionsService.rejectProof engagementId milestoneIndex user reason versionNumber
  | .approveMilestone engagementId milestoneIndex userId proofVersion => do
      let _ ← MilestonesService.approveMilestone self engagementId milestoneIndex userId proofVersion
  | .confirmFlow engagementId milestoneIndex userId => do
      let _ ← MilestonesService.confirmFlow self engagementId milestoneIndex userId
  | .disputeFlow engagementId milestoneIndex reason => do
      let _ ← MilestonesService.disputeFlow self engagementId milestoneIndex reason
  | .resolveDisputeFlow engagementId milestoneIndex resolution actor => do
      let _ ← MilestonesService.resolveDisputeFlow self engagementId milestoneIndex resolution actor
  | .decide id outcome user => do
      let _ ← DisputesController.decide self id outcome user
  | .settle disputeId => do
      let _ ← DisputesService.settle self disputeId
  | .openAppeal disputeId user reason => do
      let _ ← AppealService.openAppeal self disputeId user reason
  | .decideAppeal disputeId user outcome => do
      let _ ← AppealService.decideAppeal self disputeId user outcome
  | .finalizeExpiredAppealWindows => do
      let _ ← AppealService.finalizeExpiredAppealWindows self

def service : System Request Nat Site Answer Db Exception Unit where
  handler := handler self
  environment elapsed db := { db with clock := db.clock + elapsed }

abbrev ProofTurn := Turn Request Nat Answer

/-- Every call but the payment. -/
def Site.unpaying : Site → Bool
  | .releaseMilestonePayment _ _ => false
  | _ => true

theorem unpayingReads (site : Site) (reads : site.reads = true) : Site.unpaying site = true := by
  cases site <;> first | rfl | cases reads

theorem unpayingDecides (site : Site) (decides : site.decides = true) : Site.unpaying site = true := by
  cases site <;> first | rfl | cases decides

structure Kept (c : EscrowSnapshot) : Prop where
  counted : Counted c
  reviewed : AllMeet Reviewed c.history

variable {self} {c : EscrowSnapshot} {db db' : Db} {α : Type}

theorem keptRecord {thread : Nat} {site : Site} {i : Answer} (within : Within Site.unpaying site c.world db')
    (proper : Unapproved (c.event thread site i db')) (kept : Kept c) : Kept (c.record thread site i db') := by
  refine ⟨countedEffect kept.counted within.2 proper,⟨?_,kept.reviewed⟩⟩
  cases site <;> first | trivial | cases within.1

theorem ensuresKept {p : Op α} (acts : Acts (Within Site.unpaying) p) (kept : Kept c) :
    Ensures (fun _ => Unapproved) Kept (fun _ => Kept) p c :=
  ensuresActs (fun _ _ _ _ _ within proper kept => keptRecord within proper kept) (fun _ kept => kept) acts kept

theorem ensuresThen {β : Type} {p : Op α} {k : α → Op β} {J : EscrowSnapshot → Prop}
    (first : Ensures (fun _ => Unapproved) Kept (fun _ => J) p c) (weak : ∀ c, J c → Kept c)
    (rest : ∀ value c, J c → Ensures (fun _ => Unapproved) Kept (fun _ => Kept) (k value) c) :
    Ensures (fun _ => Unapproved) Kept (fun _ => Kept) (p >>= k) c := by
  refine ensuresBind (ensuresMono ?_ first)
  intro out c known
  cases out with
  | ok value => exact rest value c known
  | error error => exact weak c known

structure KeptAt (db : Db) (c : EscrowSnapshot) : Prop where
  kept : Kept c
  world : c.world = db

theorem keptRead {thread : Nat} {site : Site} {i : Answer} (reads : site.reads = true) (known : KeptAt db c) :
    KeptAt db (c.record thread site i c.world) := by
  refine ⟨keptRecord ⟨unpayingReads site reads,Or.inl rfl⟩ ?_ known.kept,known.world⟩
  cases site <;> trivial

theorem ensuresReads {p : Op α} (reads : Reads Site.reads p) (known : KeptAt db c) :
    Ensures (fun _ => Unapproved) Kept (fun _ => KeptAt db) p c := by
  refine ensuresActs (fun site s' c thread i here _ known => ?_) (fun _ known => known.kept) (actsSteps reads) known
  obtain ⟨reads,rfl⟩ := here
  exact keptRead reads known

theorem ensuresFinds {β : Type} {model : Model} {f : Db → Except Exception α} {k : α → Op β} (known : KeptAt db c)
    (rest : ∀ value c, f db = .ok value → KeptAt db c → Ensures (fun _ => Unapproved) Kept (fun _ => Kept) (k value) c) :
    Ensures (fun _ => Unapproved) Kept (fun _ => Kept) (findOr model f >>= k) c := by
  refine ensuresBind (ensuresQuery fun thread i _ => ?_)
  have read : KeptAt db (c.record thread (.find model) i c.world) := keptRead rfl known
  refine ⟨read.kept,?_⟩
  split
  · rename_i value out
    split at out
    · contradiction
    · exact rest value _ (known.world ▸ out) read
  · exact read.kept

theorem ensuresCreateApproval {milestoneId userId : String} (known : KeptAt db c) :
    Ensures (fun _ => Unapproved) Kept (fun _ c' => ∃ approvals, KeptAt { db with approvals := approvals } c')
      (MilestonesService.createApproval milestoneId userId) c := by
  have same : ∀ thread i, KeptAt db (c.record thread (.createApproval milestoneId) i c.world) :=
    fun thread i => ⟨keptRecord ⟨rfl,Or.inl rfl⟩ trivial known.kept,known.world⟩
  refine ensuresTransact (fun thread i value after ok _ => ?_) fun thread i error _ => ⟨(same thread i).kept,db.approvals,same thread i⟩
  split at ok
  · contradiction
  · dsimp only at ok
    split at ok
    · contradiction
    · rename_i approvals made
      cases ok
      have kept : Kept (c.record thread (.createApproval milestoneId) i { c.world with approvals := approvals }) :=
        keptRecord ⟨rfl,Or.inr ⟨userId,approvals,made,rfl⟩⟩ trivial known.kept
      exact ⟨kept,approvals,kept,by rw [← known.world]; rfl⟩

theorem latestBelongs (db : Db) (milestoneId : String) :
    Belongs db milestoneId ((latestVersion db milestoneId).map MilestoneProofVersion.id) := by
  intro id same
  obtain ⟨v,latest,rfl⟩ := Option.map_eq_some_iff.mp same
  have stored := (List.mem_insertionSort latestFirst).mp (List.mem_of_head? latest)
  obtain ⟨inside,its⟩ := List.mem_filter.mp stored
  exact ⟨v,Table.memGet inside,of_decide_eq_true its⟩

theorem ensuresPayOut {m : Milestone} {engagementId : String} {milestoneIndex : Nat} {reviewedById : Option String} (known : KeptAt db c)
    (slot : db.milestoneAt engagementId milestoneIndex = some m)
    (complete : ∀ engagement, db.engagements.get? engagementId = some engagement →
      engagement.requiredApprovals ≤ db.approvals.count fun row => row.milestoneId = m.id) :
    Ensures (fun _ => Unapproved) Kept (fun _ => Kept) (MilestonesService.payOut self m engagementId milestoneIndex reviewedById) c := by
  refine ensuresBind (ensuresQuery fun thread i _ => ?_)
  have paid : Kept (c.record thread (.releaseMilestonePayment engagementId milestoneIndex) i c.world) := by
    refine ⟨countedEffect known.kept.counted (Or.inl rfl) trivial,⟨?_,known.kept.reviewed⟩⟩
    intro m' found engagement engaged
    have world : (c.event thread (.releaseMilestonePayment engagementId milestoneIndex) i c.world).before = db := known.world
    rw [world] at found engaged ⊢
    cases slot.symm.trans found
    refine (complete engagement engaged).trans ?_
    rw [← known.world]
    exact countApprovers known.kept.counted (latestBelongs _ _)
  refine ⟨paid,?_⟩
  split
  · refine ensuresKept (actsBind ?_ fun updated => actsBind ?_ fun _ => trivial) paid
    · exact actsMarkConfirmed unpayingReads rfl _
    · unfold MilestonesService.markApproved
      split
      · exact actsMarkApproved unpayingReads rfl _
      · trivial
  · exact paid

theorem ensuresCounts {m : Milestone} {engagementId : String} {engagement : Engagement} {next : Nat → Op α}
    (known : KeptAt db c) (engaged : db.engagements.get? engagementId = some engagement)
    (rest : ∀ count c, KeptAt db c → (MilestonesService.requiredApprovals engagement ≤ count → ∀ found,
        db.engagements.get? engagementId = some found → found.requiredApprovals ≤ db.approvals.count fun row => row.milestoneId = m.id) →
      Ensures (fun _ => Unapproved) Kept (fun _ => Kept) (next count) c) :
    Ensures (fun _ => Unapproved) Kept (fun _ => Kept) (MilestonesService.getApprovalCount m.id >>= next) c := by
  refine ensuresFinds known fun count c counted known => rest count c known fun enough found there => ?_
  cases counted
  cases engaged.symm.trans there
  refine le_trans ?_ enough
  unfold MilestonesService.requiredApprovals
  split <;> omega

theorem ensuresFindOne {engagementId : String} {milestoneIndex : Nat} {k : Milestone → Op α} (kept : Kept c)
    (rest : ∀ m c', c.world.milestoneAt engagementId milestoneIndex = some m → KeptAt c.world c' →
      Ensures (fun _ => Unapproved) Kept (fun _ => Kept) (k m) c') :
    Ensures (fun _ => Unapproved) Kept (fun _ => Kept) (MilestonesService.findOne engagementId milestoneIndex >>= k) c := by
  refine ensuresFinds ⟨kept,rfl⟩ fun m c' found known => rest m c' ?_ known
  split at found
  · contradiction
  · rename_i slot
    cases found
    exact slot

theorem ensuresFindEngagement {engagementId : String} {k : Engagement → Op α} (known : KeptAt db c)
    (rest : ∀ engagement c, db.engagements.get? engagementId = some engagement → KeptAt db c →
      Ensures (fun _ => Unapproved) Kept (fun _ => Kept) (k engagement) c) :
    Ensures (fun _ => Unapproved) Kept (fun _ => Kept) (MilestonesService.findEngagement engagementId >>= k) c := by
  refine ensuresFinds known fun engagement c found known => rest engagement c ?_ known
  split at found
  · contradiction
  · rename_i engaged
    cases found
    exact engaged

theorem ensuresApproveMilestone (engagementId : String) (milestoneIndex : Nat) (userId : String) (proofVersion : Option Nat) (kept : Kept c) :
    Ensures (fun _ => Unapproved) Kept (fun _ => Kept)
      (MilestonesService.approveMilestone self engagementId milestoneIndex userId proofVersion) c := by
  refine ensuresFindOne kept fun m c' slot known => ?_
  split
  · exact known.kept
  · refine ensuresThen (ensuresReads (readsReviewable self _ _) known) (fun _ known => known.kept) fun _ c known => ?_
    refine ensuresFindEngagement known fun engagement c engaged known => ?_
    refine ensuresThen (ensuresReads (readsFind _ _) known) (fun _ known => known.kept) fun existing c known => ?_
    split
    · exact known.kept
    · refine ensuresThen (ensuresCreateApproval known) (fun _ ⟨_,known⟩ => known.kept) fun _ c ⟨approvals,known⟩ => ?_
      refine ensuresCounts (m := m) known engaged fun count c known complete => ?_
      split
      · exact known.kept
      · rename_i enough
        refine ensuresThen (ensuresPayOut known slot (complete (not_lt.mp enough))) (fun _ kept => kept) fun updated c kept => ?_
        split
        · exact kept
        · exact ensuresKept (actsBind (actsReads unpayingReads readsCreateNotification) fun _ => trivial) kept

theorem ensuresApproveOnce {milestoneId : String} {userId : Option String} (known : KeptAt db c) :
    Ensures (fun _ => Unapproved) Kept (fun _ c' => ∃ approvals, KeptAt { db with approvals := approvals } c')
      (MilestonesService.approveOnce milestoneId userId) c := by
  unfold MilestonesService.approveOnce
  split
  · exact ⟨db.approvals,known⟩
  · refine ensuresBind (ensuresMono ?_ (ensuresReads (readsFind _ _) known))
    intro out c known
    cases out with
    | error error => exact ⟨db.approvals,known⟩
    | ok existing =>
      dsimp only
      split
      · exact ⟨db.approvals,known⟩
      · exact ensuresCreateApproval known

theorem ensuresConfirmFlow (engagementId : String) (milestoneIndex : Nat) (userId : Option String) (kept : Kept c) :
    Ensures (fun _ => Unapproved) Kept (fun _ => Kept) (MilestonesService.confirmFlow self engagementId milestoneIndex userId) c := by
  refine ensuresFindOne kept fun m c' slot known => ?_
  split
  · exact known.kept
  · refine ensuresThen (ensuresReads (readsReviewable self _ _) known) (fun _ known => known.kept) fun _ c known => ?_
    refine ensuresFindEngagement known fun engagement c engaged known => ?_
    refine ensuresThen (ensuresApproveOnce known) (fun _ ⟨_,known⟩ => known.kept) fun _ c ⟨approvals,known⟩ => ?_
    refine ensuresCounts (m := m) known engaged fun count c known complete => ?_
    split
    · exact known.kept
    · rename_i enough
      refine ensuresThen (ensuresPayOut known slot (complete (not_lt.mp enough))) (fun _ kept => kept) fun updated c kept => ?_
      exact ensuresKept (actsBind (actsReads unpayingReads readsCreateNotification) fun _ => trivial) kept

theorem ensuresHandler (request : Request) (kept : Kept c) :
    Ensures (fun _ => Unapproved) Kept (fun _ => Kept) (handler self request) c := by
  cases request with
  | approveMilestone => exact ensuresThen (ensuresApproveMilestone _ _ _ _ kept) (fun _ kept => kept) fun _ _ kept => kept
  | confirmFlow => exact ensuresThen (ensuresConfirmFlow _ _ _ kept) (fun _ kept => kept) fun _ _ kept => kept
  | submitProof => exact ensuresKept (actsBind (actsSubmitProof unpayingReads (fun _ => rfl) (fun _ => rfl) _ _ _ _) fun _ => trivial) kept
  | rejectProof =>
    refine ensuresKept (actsBind ?_ fun _ => trivial) kept
    exact actsRejectProof unpayingReads (fun _ => rfl) (fun _ => rfl) (fun _ => rfl) _ _ _ _ _
  | disputeFlow =>
    refine ensuresKept (actsBind ?_ fun _ => trivial) kept
    exact actsDisputeFlow self unpayingReads (fun _ _ => rfl) (fun _ => rfl) (fun _ => rfl) _ _ _
  | resolveDisputeFlow =>
    exact ensuresKept (actsBind (actsResolveDisputeFlow self unpayingDecides _ _ _ _) fun _ => trivial) kept
  | decide => exact ensuresKept (actsBind (actsControllerDecide self unpayingDecides (fun _ => rfl) _ _ _) fun _ => trivial) kept
  | settle =>
    refine ensuresKept (actsBind (actsSettle self (fun site settles => ?_) _) fun _ => trivial) kept
    exact unpayingDecides site (decidesSettles site settles)
  | openAppeal => exact ensuresKept (actsBind (actsOpenAppeal unpayingReads self rfl _ _) fun _ => trivial) kept
  | decideAppeal => exact ensuresKept (actsBind (actsDecideAppeal self unpayingDecides (fun _ => rfl) _ _ _) fun _ => trivial) kept
  | finalizeExpiredAppealWindows =>
    exact ensuresKept (actsBind (actsFinalizeExpired self unpayingDecides fun _ => rfl) fun _ => trivial) kept

def twoApprovals : Db where
  engagements := ⟨[{ id := "e", companyAddress := "GC", recruiterAddress := "GR", arbiterAddress := "GA", totalAmount := 1000
                     requiredApprovals := 2 }],by decide⟩
  milestones := ⟨[{ id := "m", engagementId := "e", milestoneIndex := 0, name := "placed", kind := .placement
                    paymentPercent := 100, amount := some 1000 }],by decide⟩

def submit (version : String) : ProofTurn :=
  .serve (.submitProof "e" 0 { stellarAddress := some "GR" } { proofUrl := some version }) (.replicate 7 { text := version })

def approve (userId : String) : ProofTurn := .serve (.approveMilestone "e" 0 userId none) (.replicate 12 {})

def rejectedOnce : List ProofTurn :=
  [submit "1",approve "u",.serve (.rejectProof "e" 0 { stellarAddress := some "GC" } "unsigned" none) (.replicate 7 {}),
    submit "2",approve "u",approve "w"]

/-- The approval of the first version is still counted after the refund. -/
def refundedOnce : List ProofTurn :=
  [submit "1",approve "u",.serve (.disputeFlow "e" 0 "unsigned") (.replicate 10 { text := "d" }),
    .serve (.decide "d" .refund { id := "a", role := .admin }) (.replicate 11 {}),submit "2",approve "w"]

end Runs

end HireSettle.Escrow.ProofApprovals
