import HireSettle.Escrow.Appeals
import HireSettle.Escrow.ProofSla

/-! What most calls leave alone. Reviewing proofs and deciding disputes moves the
status of a milestone; its terms and the money on its record change in the calls
that create, adjust, pay or settle. -/
namespace HireSettle.Escrow
open Workflow

structure SameTerms (m m' : Milestone) : Prop where
  id : m'.id = m.id
  engagementId : m'.engagementId = m.engagementId
  milestoneIndex : m'.milestoneIndex = m.milestoneIndex
  name : m'.name = m.name
  kind : m'.kind = m.kind
  paymentPercent : m'.paymentPercent = m.paymentPercent
  amount : m'.amount = m.amount
  paymentReleased : m'.paymentReleased = m.paymentReleased

structure KeepsTerms (db db' : Db) : Prop where
  milestones : ∃ f, (∀ m, SameTerms m (f m)) ∧ db'.milestones.rows = db.milestones.rows.map f
  engagements : db'.engagements = db.engagements
  partialReleases : db'.partialReleases = db.partialReleases
  refunds : db'.refunds = db.refunds

def Site.setsTerms : Site → Bool
  | .markConfirmed _ _ | .markResolved _ _ | .settleMilestone _ | .refundMilestone _
  | .createRelease _ | .approveRelease _ _ | .rejectRelease _ | .claimRelease _ | .failRelease _ | .payRelease _
  | .addReleasedAmount _ | .refundRemainder _ | .executeRelease _
  | .createEngagement _ | .activateEngagement _ | .bulkCreate _ | .adjustPercents _
  | .releaseMilestonePayment _ _ | .releasePartialMilestonePayment _ _ _ _ _ | .resolveMilestoneDispute _ _ _ _
  | .submitCreateEngagement _ _ => true
  | _ => false

def Site.routine (site : Site) : Bool := !site.setsTerms

abbrev Routine {α : Type} (p : Op α) : Prop := Steps Site.routine KeepsTerms p

section Kept

variable {db db' : Db}

theorem keepsAll (db : Db) : KeepsTerms db db :=
  ⟨⟨fun m => m,fun _ => ⟨rfl,rfl,rfl,rfl,rfl,rfl,rfl,rfl⟩,(List.map_id' _).symm⟩,rfl,rfl,rfl⟩

theorem keepsElsewhere (milestones : db'.milestones = db.milestones) (engagements : db'.engagements = db.engagements)
    (partialReleases : db'.partialReleases = db.partialReleases) (refunds : db'.refunds = db.refunds) : KeepsTerms db db' := by
  obtain ⟨f,same,rows⟩ := (keepsAll db).milestones
  exact ⟨⟨f,same,milestones ▸ rows⟩,engagements,partialReleases,refunds⟩

theorem keepsUpdateMany {p : Milestone → Bool} {f : Milestone → Milestone} {keeps : ∀ m, (f m).id = m.id}
    (same : ∀ m, SameTerms m (f m)) : KeepsTerms db { db with milestones := db.milestones.updateMany p f keeps } := by
  refine ⟨⟨_,fun m => ?_,rfl⟩,rfl,rfl,rfl⟩
  split
  · exact same m
  · exact ⟨rfl,rfl,rfl,rfl,rfl,rfl,rfl,rfl⟩

theorem keepsMilestone {id : String} {f : Milestone → Milestone} {keeps : ∀ m, (f m).id = m.id} {m' : Milestone}
    (same : ∀ m, SameTerms m (f m)) (updated : db.updateMilestone id f keeps = .ok (m',db')) : KeepsTerms db db' := by
  obtain ⟨_,_,_,_,_,rfl⟩ := Db.updateMilestoneCases updated
  exact keepsUpdateMany same

theorem keepsMilestoneAt {engagementId : String} {milestoneIndex : Nat} {f : Milestone → Milestone}
    {keeps : ∀ m, (f m).id = m.id} {m' : Milestone} (same : ∀ m, SameTerms m (f m))
    (updated : db.updateMilestoneAt engagementId milestoneIndex f keeps = .ok (m',db')) : KeepsTerms db db' := by
  obtain ⟨_,_,updated⟩ := exceptBind.mp updated
  exact keepsMilestone same updated

theorem keptGet (kept : KeepsTerms db db') :
    ∃ f, (∀ m, SameTerms m (f m)) ∧ (∀ id, db'.milestones.get? id = (db.milestones.get? id).map f) ∧
      ∀ engagementId milestoneIndex, db'.milestoneAt engagementId milestoneIndex = (db.milestoneAt engagementId milestoneIndex).map f := by
  obtain ⟨f,same,rows⟩ := kept.milestones
  refine ⟨f,same,fun id => ?_,fun engagementId milestoneIndex => ?_⟩
  · have ids : ∀ m, Keyed.key (f m) = Keyed.key m := fun m => (same m).id
    simp only [Table.get?,rows,List.find?_map,Function.comp_def,ids]
  · simp only [Db.milestoneAt,Table.findFirst,rows,List.find?_map,Function.comp_def,(same _).engagementId,(same _).milestoneIndex]

variable {α : Type} {site : Site} {f : Answer → Db → Except Exception (α × Db)}

theorem routineReads {p : Op α} (reads : Reads Site.reads p) : Routine p :=
  stepsMono (by intro site here; cases site <;> first | rfl | cases here) (by rintro db _ rfl; exact keepsAll db) reads

theorem routineWrite (here : site.routine = true) (commits : ∀ i db value db', f i db = .ok (value,db') → KeepsTerms db db') :
    Routine (write site f) := stepsWrite here keepsAll commits

theorem routineUpdate {id : String} {g : Milestone → Milestone} {keeps : ∀ m, (g m).id = m.id} (here : site.routine = true)
    (same : ∀ m, SameTerms m (g m)) : Routine (write site fun _ db => db.updateMilestone id g keeps) :=
  routineWrite here fun _ _ _ _ ok => keepsMilestone same ok

theorem routineUpdateAt {engagementId : String} {milestoneIndex : Nat} {g : Milestone → Milestone}
    {keeps : ∀ m, (g m).id = m.id} (here : site.routine = true) (same : ∀ m, SameTerms m (g m)) :
    Routine (write site fun _ db => db.updateMilestoneAt engagementId milestoneIndex g keeps) :=
  routineWrite here fun _ _ _ _ ok => keepsMilestoneAt same ok

theorem routineElsewhere (here : site.routine = true)
    (commits : ∀ i db value db', f i db = .ok (value,db') → db'.milestones = db.milestones ∧
      db'.engagements = db.engagements ∧ db'.partialReleases = db.partialReleases ∧ db'.refunds = db.refunds) :
    Routine (write site f) := by
  refine routineWrite here fun i db value db' ok => ?_
  obtain ⟨milestones,engagements,partialReleases,refunds⟩ := commits i db value db' ok
  exact keepsElsewhere milestones engagements partialReleases refunds

end Kept

section Reviews

open ProofVersionsService

theorem routineLoad (engagementId : String) (milestoneIndex : Nat) : Routine (load engagementId milestoneIndex) :=
  routineReads (readsFindOr _ _)

theorem routineRequirePartyRole (engagement : Engagement) (user : PartyUser) (allowed : List PartyRole) (message : String) :
    Routine (requirePartyRole engagement user allowed message) := by
  unfold requirePartyRole
  split
  · split <;> trivial
  · trivial

theorem routineUpdateVersion (milestoneId id : String) (f : MilestoneProofVersion → MilestoneProofVersion)
    (keeps : ∀ v, (f v).id = v.id) : Routine (updateVersion milestoneId id f keeps) := by
  refine routineElsewhere rfl fun i db value db' ok => ?_
  obtain ⟨_,_,same⟩ := exceptBind.mp ok
  cases same
  exact ⟨rfl,rfl,rfl,rfl⟩

theorem routineCreateVersion (milestoneId : String) (versionNumber : Nat) (input : ProofInput) :
    Routine (createVersion milestoneId versionNumber input) := by
  refine routineElsewhere rfl fun i db value db' ok => ?_
  dsimp only at ok
  split at ok
  · contradiction
  · split at ok
    · contradiction
    · cases ok
      exact ⟨rfl,rfl,rfl,rfl⟩

theorem routineAttemptVersion (milestoneId : String) (input : ProofInput) {lost : Exception → Op MilestoneProofVersion}
    (again : ∀ error, Routine (lost error)) : Routine (attemptVersion milestoneId input lost) := by
  refine stepsBind (routineReads (readsFind _ _)) fun found => ?_
  split
  · exact stepsHandle (routineCreateVersion _ _ _) again
  · split
    · split
      · exact routineUpdateVersion _ _ _ _
      · trivial
    · exact stepsHandle (routineCreateVersion _ _ _) again

theorem routineRecordVersion (milestoneId : String) (input : ProofInput) : Routine (recordVersion milestoneId input) := by
  refine routineAttemptVersion milestoneId input fun error => ?_
  split
  · exact routineAttemptVersion milestoneId input fun _ => trivial
  · trivial

theorem routineAssertReviewable (milestoneId : String) (versionNumber : Option Nat) :
    Routine (assertReviewable milestoneId versionNumber) := by
  refine stepsBind (routineReads (readsFind _ _)) fun found => ?_
  split
  · trivial
  · trivial
  · split
    · trivial
    · split <;> trivial

theorem routineMarkApproved (milestoneId : String) (reviewedById : Option String) :
    Routine (markApproved milestoneId reviewedById) := by
  refine stepsBind (routineReads (readsFind _ _)) fun found => ?_
  split
  · trivial
  · split
    · trivial
    · refine stepsBind (routineReads readsNow) fun at' => ?_
      exact stepsBind (routineUpdateVersion _ _ _ _) fun _ => trivial

theorem routineSubmitProof (engagementId : String) (milestoneIndex : Nat) (user : PartyUser) (input : ProofInput) :
    Routine (submitProof engagementId milestoneIndex user input) := by
  refine stepsBind (routineLoad _ _) fun found => stepsBind (routineRequirePartyRole _ _ _ _) fun _ => ?_
  split
  · trivial
  · split
    · trivial
    · refine stepsBind (routineReads readsNow) fun at' => stepsBind ?_ fun _ => ?_
      · refine routineElsewhere rfl fun i db value db' ok => ?_
        cases ok
        exact ⟨rfl,rfl,rfl,rfl⟩
      · refine stepsBind (routineRecordVersion _ _) fun version => stepsBind ?_ fun updated => ?_
        · exact routineUpdate rfl fun m => ⟨rfl,rfl,rfl,rfl,rfl,rfl,rfl,rfl⟩
        · exact stepsBind (routineReads readsNotify) fun _ => trivial

theorem routineRejectProof (engagementId : String) (milestoneIndex : Nat) (user : PartyUser) (reason : String)
    (versionNumber : Option Nat) : Routine (rejectProof engagementId milestoneIndex user reason versionNumber) := by
  refine stepsBind (routineLoad _ _) fun found => stepsBind (routineRequirePartyRole _ _ _ _) fun _ => ?_
  split
  · trivial
  · refine stepsBind (routineAssertReviewable _ _) fun latest => ?_
    split
    · trivial
    · refine stepsBind (routineReads readsNow) fun at' => stepsBind ?_ fun count => ?_
      · refine routineElsewhere rfl fun i db value db' ok => ?_
        cases ok
        exact ⟨rfl,rfl,rfl,rfl⟩
      · split
        · trivial
        · refine stepsBind ?_ fun updated => stepsBind ?_ fun _ => ?_
          · exact routineUpdate rfl fun m => ⟨rfl,rfl,rfl,rfl,rfl,rfl,rfl,rfl⟩
          · refine routineElsewhere rfl fun i db value db' ok => ?_
            cases ok
            exact ⟨rfl,rfl,rfl,rfl⟩
          · exact stepsBind (routineReads readsNotify) fun _ => trivial

end Reviews

variable (self : Config)

section Disputed

theorem routineRecordArbiterPayout (dispute : Dispute) (amount : Int) :
    Routine (DisputesService.recordArbiterPayout self dispute amount) :=
  DisputesService.stepsRecordArbiterPayout self (fun site here => by cases site <;> first | rfl | cases here) (fun _ => rfl)
    keepsAll (fun db _ => keepsElsewhere rfl rfl rfl rfl) dispute amount

theorem routineClaimSettlement (disputeId : String) : Routine (DisputesService.claimSettlement disputeId) := by
  refine routineElsewhere rfl fun i db value db' ok => ?_
  cases ok
  exact ⟨rfl,rfl,rfl,rfl⟩

theorem routineUpdateDispute {id : String} {site : Site} {f : Dispute → Dispute} {keeps : ∀ d, (f d).id = d.id}
    (here : site.routine = true) : Routine (write site fun _ db => db.updateDispute id f keeps) := by
  refine routineElsewhere here fun i db value db' ok => ?_
  obtain ⟨_,_,_,_,_,rfl⟩ := Db.updateDisputeCases ok
  exact ⟨rfl,rfl,rfl,rfl⟩

theorem routineUnclaim (disputeId : String) (error : Exception) : Routine (DisputesService.unclaim disputeId error) :=
  stepsBind (routineUpdateDispute rfl) fun _ => trivial

end Disputed

section Approved

open MilestonesService

theorem routineReviewable (milestoneId : String) (versionNumber : Option Nat) :
    Routine (assertReviewable self milestoneId versionNumber) := by
  unfold assertReviewable
  split
  · exact routineAssertReviewable _ _
  · trivial

theorem routineApproved (milestoneId : String) (reviewedById : Option String) :
    Routine (markApproved self milestoneId reviewedById) := by
  unfold markApproved
  split
  · exact routineMarkApproved _ _
  · trivial

theorem routineVersion (milestoneId : String) (input : ProofInput) : Routine (recordVersion self milestoneId input) := by
  unfold recordVersion
  split
  · exact routineRecordVersion _ _
  · trivial

theorem routineCreateApproval (milestoneId userId : String) : Routine (createApproval milestoneId userId) := by
  refine routineElsewhere rfl fun i db value db' ok => ?_
  split at ok
  · contradiction
  · cases ok
    exact ⟨rfl,rfl,rfl,rfl⟩

theorem routineApproveOnce (milestoneId : String) (userId : Option String) : Routine (approveOnce milestoneId userId) := by
  unfold approveOnce
  split
  · trivial
  · refine stepsBind (routineReads (readsFind _ _)) fun existing => ?_
    split
    · trivial
    · exact routineCreateApproval _ _

theorem routineSubmitProofFlow (engagementId : String) (milestoneIndex : Nat) (proofHash : String) :
    Routine (submitProofFlow self engagementId milestoneIndex proofHash) := by
  refine stepsBind (routineReads (readsFindOr _ _)) fun milestone => ?_
  split
  · trivial
  · refine stepsBind (stepsBind ?_ fun updated => ?_) fun updated => ?_
    · exact routineUpdateAt rfl fun m => ⟨rfl,rfl,rfl,rfl,rfl,rfl,rfl,rfl⟩
    · exact stepsBind (routineVersion self _ _) fun _ => trivial
    · refine stepsBind (routineReads (readsFind _ _)) fun engagement => ?_
      split
      · trivial
      · exact stepsBind (routineReads readsCreateNotification) fun _ => trivial

theorem routineUnlockRetention (milestoneId : String) : Routine (unlockRetentionOnChain milestoneId) := by
  refine stepsBind (routineReads (readsFind _ _)) fun found => ?_
  split
  · trivial
  · refine stepsBind (stepsQuery rfl keepsAll _) fun _ => stepsBind ?_ fun _ => ?_
    · exact routineUpdate rfl fun m => ⟨rfl,rfl,rfl,rfl,rfl,rfl,rfl,rfl⟩
    · refine routineElsewhere rfl fun i db value db' ok => ?_
      cases ok
      exact ⟨rfl,rfl,rfl,rfl⟩

end Approved

section Overdue

open MilestoneProofSlaService

theorem routineClaim (id : String) (free : MilestoneProofVersion → Bool) (data : MilestoneProofVersion → MilestoneProofVersion)
    (keeps : ∀ v, (data v).id = v.id) : Routine (claim id free data keeps) := by
  refine routineElsewhere rfl fun i db value db' ok => ?_
  cases ok
  exact ⟨rfl,rfl,rfl,rfl⟩

theorem routineEscalate : Routine escalate := by
  refine stepsBind (routineReads (readsFind _ _)) fun admins => ?_
  exact stepsBind (stepsForEach (fun _ => routineReads readsNotify) _) fun _ => routineReads readsNotify

theorem routineRemind90 (pending : PendingVersion) (at' : Nat) (summary : ProofSlaRunSummary) :
    Routine (remind90 pending at' summary) := by
  refine stepsBind (routineClaim _ _ _ _) fun claimed => ?_
  split
  · trivial
  · exact stepsBind (routineReads readsNotify) fun _ => trivial

theorem routineRemind50 (pending : PendingVersion) (at' : Nat) (summary : ProofSlaRunSummary) :
    Routine (remind50 pending at' summary) := by
  refine stepsBind (routineClaim _ _ _ _) fun claimed => ?_
  split
  · trivial
  · exact stepsBind (routineReads readsNotify) fun _ => trivial

end Overdue

/-! A contract that every routine call keeps needs a proof for the paying calls alone. -/
section Kept

variable {γ : Type} [AddCommMonoid γ] {K : Contract Site Answer Db γ} {self}
variable (routine : ∀ {α : Type} {p : Op α}, Routine p → Harmless K p)

section Approving

variable (pays : ∀ milestone engagementId milestoneIndex reviewedById,
  Harmless K (MilestonesService.payOut self milestone engagementId milestoneIndex reviewedById))

include routine pays

theorem harmlessApproveMilestone (engagementId : String) (milestoneIndex : Nat) (userId : String) (proofVersion : Option Nat) :
    Harmless K (MilestonesService.approveMilestone self engagementId milestoneIndex userId proofVersion) := by
  refine harmlessBind (routine (routineReads (readsFindOr _ _))) fun milestone => ?_
  split
  · exact fun _ => trivial
  · refine harmlessBind (routine (routineReviewable self _ _)) fun _ => ?_
    refine harmlessBind (routine (routineReads (readsFindOr _ _))) fun engagement => ?_
    refine harmlessBind (routine (routineReads (readsFind _ _))) fun existing => ?_
    split
    · exact fun _ => trivial
    · refine harmlessBind (routine (routineCreateApproval _ _)) fun _ => ?_
      refine harmlessBind (routine (routineReads (readsFind _ _))) fun approvalCount => ?_
      split
      · exact fun _ => trivial
      · refine harmlessBind (pays _ _ _ _) fun updated => ?_
        split
        · exact fun _ => trivial
        · exact routine (routineReads (readsBind readsCreateNotification fun _ => trivial))

theorem harmlessConfirmFlow (engagementId : String) (milestoneIndex : Nat) (userId : Option String) :
    Harmless K (MilestonesService.confirmFlow self engagementId milestoneIndex userId) := by
  refine harmlessBind (routine (routineReads (readsFindOr _ _))) fun milestone => ?_
  split
  · exact fun _ => trivial
  · refine harmlessBind (routine (routineReviewable self _ _)) fun _ => ?_
    refine harmlessBind (routine (routineReads (readsFindOr _ _))) fun engagement => ?_
    refine harmlessBind (routine (routineApproveOnce _ _)) fun _ => ?_
    refine harmlessBind (routine (routineReads (readsFind _ _))) fun approvalCount => ?_
    split
    · exact fun _ => trivial
    · refine harmlessBind (pays _ _ _ _) fun updated => ?_
      exact routine (routineReads (readsBind readsCreateNotification fun _ => trivial))

end Approving

section Expiring

variable (pays : ∀ pending at', Harmless K (MilestoneProofSlaService.autoApprove pending at'))

include routine pays

theorem harmlessEvaluate (at' : Nat) (summary : ProofSlaRunSummary) (pending : PendingVersion) :
    Harmless K (MilestoneProofSlaService.evaluate at' summary pending) := by
  unfold MilestoneProofSlaService.evaluate
  split
  · refine harmlessBind (routine (routineClaim _ _ _ _)) fun claimed => ?_
    split
    · exact fun _ => trivial
    · split
      · exact harmlessBind (pays pending at') fun _ _ => trivial
      · exact harmlessBind (routine routineEscalate) fun _ _ => trivial
  · split
    · exact routine (routineRemind90 _ _ _)
    · split
      · exact routine (routineRemind50 _ _ _)
      · exact fun _ => trivial

theorem harmlessRunProofSlaChecks : Harmless K MilestoneProofSlaService.runProofSlaChecks := by
  have unlocks : Harmless K DistributedLockService.releaseLock := routine (routineReads (readsQuery rfl _))
  refine harmlessBind (routine (routineReads readsNow)) fun at' => ?_
  refine harmlessBind (routine (routineReads (readsQuery rfl _))) fun locked => ?_
  split
  · exact fun _ => trivial
  · refine harmlessBind (harmlessHandle ?_ fun error => ?_) fun summary => ?_
    · refine harmlessBind (routine (routineReads (readsFind _ _))) fun pending => harmlessFoldEach (fun acc x => ?_) _ pending
      exact harmlessHandle (harmlessEvaluate routine pays at' acc x) fun _ _ => trivial
    · exact harmlessBind unlocks fun _ _ => trivial
    · exact harmlessBind unlocks fun _ _ => trivial

end Expiring

section Settling

variable (settles : ∀ disputeId, Harmless K (DisputesService.settle self disputeId))

include routine settles

end Settling

end Kept

end HireSettle.Escrow
