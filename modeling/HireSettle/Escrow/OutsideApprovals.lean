import HireSettle.Escrow.CallEffects
import HireSettle.Workflow.Sequential

/-! Approvals by a user who is not on the company side of the engagement. The
approval of a milestone asks who approves only for the key of the row, so what
keeps an outsider out is the state of the milestone alone. -/
namespace HireSettle.Escrow.OutsideApprovals
open Workflow

structure Request where
  engagementId : String
  milestoneIndex : Nat
  proofVersion : Option Nat := none

def DisputeActor.party (user : DisputeActor) : PartyUser :=
  { id := some user.id, stellarAddress := user.stellarAddress, role := some user.role }

/-- Neither an admin nor on the company side. -/
def Outsider (db : Db) (engagementId : String) (user : DisputeActor) : Prop :=
  user.role ≠ .admin ∧
  ∀ engagement ∈ db.engagements.get? engagementId, engagementPartyRole engagement (DisputeActor.party user) ≠ some .company

instance (db : Db) (engagementId : String) (user : DisputeActor) : Decidable (Outsider db engagementId user) := by
  unfold Outsider
  infer_instance

def versionsOf (db : Db) (milestoneId : String) : List MilestoneProofVersion :=
  db.proofVersions.findMany fun row => row.milestoneId = milestoneId

def approvalsOf (db : Db) (milestoneId : String) : List MilestoneApproval :=
  db.approvals.findMany fun row => row.milestoneId = milestoneId

def latestOf (db : Db) (milestoneId : String) : Option MilestoneProofVersion :=
  ((versionsOf db milestoneId).insertionSort latestFirst).head?

/-- The milestone awaits a review, and the user has not approved it yet. -/
def Approvable (self : Config) (db : Db) (engagementId : String) (milestoneIndex : Nat) (userId : String) : Prop :=
  self.proofVersions = true ∧ (db.engagements.get? engagementId).isSome = true ∧
  ∃ m ∈ db.milestoneAt engagementId milestoneIndex, m.status = .proofSubmitted ∧
    (∀ version ∈ latestOf db m.id, version.status = .submitted) ∧ db.approvals.get? (m.id,userId) = none

/-- A call that does not pay the milestone and adds no approval to it. -/
def Refused (engagementId : String) (milestoneIndex : Nat) (e : EscrowEvent) : Prop :=
  e.site ≠ .releaseMilestonePayment engagementId milestoneIndex ∧
  ∀ m ∈ e.before.milestoneAt engagementId milestoneIndex, approvalsOf e.after m.id = approvalsOf e.before m.id

def Milestone.slot (m : Milestone) : String × Nat := (m.engagementId,m.milestoneIndex)

/-- What a review of the milestone sees is as it was. -/
structure Same (engagementId : String) (milestoneIndex : Nat) (db db' : Db) : Prop where
  engagements : db'.engagements = db.engagements
  slots : ∀ id, (db'.milestones.get? id).map Milestone.slot = (db.milestones.get? id).map Milestone.slot
  milestone : db'.milestoneAt engagementId milestoneIndex = db.milestoneAt engagementId milestoneIndex
  owners : ∀ id, (db'.proofVersions.get? id).map MilestoneProofVersion.milestoneId =
    (db.proofVersions.get? id).map MilestoneProofVersion.milestoneId
  versions : ∀ m ∈ db.milestoneAt engagementId milestoneIndex, versionsOf db' m.id = versionsOf db m.id
  approvals : ∀ m ∈ db.milestoneAt engagementId milestoneIndex, approvalsOf db' m.id = approvalsOf db m.id

section Frames

variable {engagementId own : String} {milestoneIndex index : Nat} {db db₁ db₂ : Db} {userId : String}

theorem sameRefl (db : Db) : Same engagementId milestoneIndex db db :=
  ⟨rfl,fun _ => rfl,rfl,fun _ => rfl,fun _ _ => rfl,fun _ _ => rfl⟩

theorem sameTrans (first : Same engagementId milestoneIndex db db₁) (second : Same engagementId milestoneIndex db₁ db₂) :
    Same engagementId milestoneIndex db db₂ where
  engagements := second.engagements.trans first.engagements
  slots id := (second.slots id).trans (first.slots id)
  milestone := second.milestone.trans first.milestone
  owners id := (second.owners id).trans (first.owners id)
  versions m there := (second.versions m (first.milestone ▸ there)).trans (first.versions m there)
  approvals m there := (second.approvals m (first.milestone ▸ there)).trans (first.approvals m there)

theorem foundSlot {m : Milestone} (there : db.milestoneAt own index = some m) :
    db.milestones.get? m.id = some m ∧ Milestone.slot m = (own,index) := by
  obtain ⟨stored,here⟩ := Table.findFirstGet there
  simp only [Bool.and_eq_true,decide_eq_true_eq] at here
  exact ⟨stored,Prod.ext here.1 here.2⟩

/-- A milestone that stands in another slot. -/
def Foreign (engagementId : String) (milestoneIndex : Nat) (db : Db) (milestoneId : String) : Prop :=
  ∀ m ∈ db.milestoneAt engagementId milestoneIndex, m.id ≠ milestoneId

theorem foreignFound {m : Milestone} (apart : (own,index) ≠ (engagementId,milestoneIndex)) (there : db.milestoneAt own index = some m) :
    Foreign engagementId milestoneIndex db m.id := by
  intro m' there' same
  obtain ⟨stored,slot⟩ := foundSlot there
  obtain ⟨stored',slot'⟩ := foundSlot there'
  rw [same,stored] at stored'
  cases stored'
  exact apart (slot.symm.trans slot')

theorem foreignSame (same : Same engagementId milestoneIndex db db₁) {milestoneId : String}
    (foreign : Foreign engagementId milestoneIndex db₁ milestoneId) : Foreign engagementId milestoneIndex db milestoneId :=
  fun m there => foreign m (same.milestone.symm ▸ there)

theorem sameCreate {milestoneId : String} {approvals : Table MilestoneApproval}
    (foreign : Foreign engagementId milestoneIndex db milestoneId)
    (made : db.approvals.create ⟨milestoneId,userId⟩ = some approvals) :
    Same engagementId milestoneIndex db { db with approvals := approvals } := by
  refine ⟨rfl,fun _ => rfl,rfl,fun _ => rfl,fun _ _ => rfl,fun m there => ?_⟩
  have other : milestoneId ≠ m.id := fun same => foreign m there same.symm
  simp only [approvalsOf,Table.findMany,(Table.createGet made).2.1,List.filter_append]
  simp [other]

theorem sameUpdate {f : Milestone → Milestone} {keeps : ∀ m, (f m).id = m.id}
    (here : ∀ m, (f m).engagementId = m.engagementId ∧ (f m).milestoneIndex = m.milestoneIndex)
    (apart : (own,index) ≠ (engagementId,milestoneIndex)) {m' : Milestone}
    (updated : db.updateMilestoneAt own index f keeps = .ok (m',db₁)) : Same engagementId milestoneIndex db db₁ := by
  obtain ⟨m,there,_,_,moved⟩ := Db.updateMilestoneAtCases here updated
  obtain ⟨_,_,_,_,_,rfl⟩ := Db.updateMilestoneCases moved
  have foreign := foreignFound apart there
  refine ⟨rfl,fun id => ?_,?_,fun _ => rfl,fun _ _ => rfl,fun _ _ => rfl⟩
  · exact Table.getUpdateManyMap db.milestones keeps (fun m => Prod.ext (here m).1 (here m).2) id
  · refine (Table.findFirstUpdateMany db.milestones (p := fun r => Keyed.key r = m.id) keeps fun r => by simp only [here]).trans ?_
    show (db.milestoneAt engagementId milestoneIndex).map _ = _
    cases found : db.milestoneAt engagementId milestoneIndex with
    | none => rfl
    | some row =>
      have other : Keyed.key row ≠ m.id := foreign row found
      simp [other]

theorem sameVersion {milestoneId id : String} {f : MilestoneProofVersion → MilestoneProofVersion} {keeps : ∀ v, (f v).id = v.id}
    (owner : ∀ v, (f v).milestoneId = v.milestoneId) (foreign : Foreign engagementId milestoneIndex db milestoneId)
    (its : (db.proofVersions.get? id).map MilestoneProofVersion.milestoneId = some milestoneId) :
    Same engagementId milestoneIndex db { db with proofVersions := db.proofVersions.update id f keeps } := by
  refine ⟨rfl,fun _ => rfl,rfl,fun other => ?_,fun m there => ?_,fun _ _ => rfl⟩
  · exact Table.getUpdateManyMap db.proofVersions keeps owner other
  · refine Table.findManyUpdateOther db.proofVersions keeps (fun v => by rw [owner]) fun v inside matched => ?_
    have mine : v.id = id := of_decide_eq_true matched
    have stored : db.proofVersions.get? id = some v := mine ▸ Table.memGet inside
    rw [stored] at its
    cases its
    exact decide_eq_false fun same => foreign m there same.symm

theorem approvalSame {m : Milestone} (same : approvalsOf db₁ m.id = approvalsOf db m.id) :
    db₁.approvals.get? (m.id,userId) = db.approvals.get? (m.id,userId) := by
  have within : ∀ db : Db, db.approvals.get? (m.id,userId) =
      (approvalsOf db m.id).find? fun row => Keyed.key row = (m.id,userId) := by
    intro db
    simp only [Table.get?,approvalsOf,Table.findMany,List.find?_filter]
    congr 1
    funext row
    by_cases mine : row.milestoneId = m.id <;> simp [Keyed.key,mine]
  rw [within,within,same]

end Frames

section Runs

variable (self : Config) (user : DisputeActor)

def service : System Request Nat Site Answer Db Exception ApprovalResult where
  handler request := MilestonesService.approveMilestone self request.engagementId request.milestoneIndex user.id request.proofVersion
  environment elapsed db := { db with clock := db.clock + elapsed }

abbrev ApprovalMove := Move Request Nat Answer

def keptOut (engagementId : String) (milestoneIndex : Nat) (db : Db) : Contract Site Answer Db Unit where
  inv c _ := Same engagementId milestoneIndex db c.world ∧ ∀ e ∈ c.history, Refused engagementId milestoneIndex e
  admits _ _ := True

variable {self user} {engagementId own : String} {milestoneIndex index : Nat} {db : Db} {c : EscrowSnapshot} {g : Unit}

theorem keptRecord {thread : Nat} {site : Site} {i : Answer} {db' : Db} (elsewhere : site ≠ .releaseMilestonePayment engagementId milestoneIndex)
    (same : Same engagementId milestoneIndex c.world db') (kept : (keptOut engagementId milestoneIndex db).inv c g) :
    (keptOut engagementId milestoneIndex db).inv (c.record thread site i db') g := by
  refine ⟨sameTrans kept.1 same,fun e inside => ?_⟩
  rcases List.mem_cons.mp inside with rfl | earlier
  · exact ⟨elsewhere,same.approvals⟩
  · exact kept.2 e earlier

theorem keptIgnores {site : Site} (elsewhere : site ≠ .releaseMilestonePayment engagementId milestoneIndex) :
    (keptOut engagementId milestoneIndex db).Ignores site :=
  fun _ _ _ _ kept => keptRecord elsewhere (sameRefl _) kept

theorem keptReads (site : Site) (reads : site.reads = true) : (keptOut engagementId milestoneIndex db).Ignores site := by
  refine keptIgnores ?_
  rintro rfl
  cases reads

variable {α β : Type} {k : α → Op β}

theorem safeFinds {model : Model} {f : Db → Except Exception α}
    (rest : ∀ db' value, Same engagementId milestoneIndex db db' → f db' = .ok value →
      Safe (keptOut engagementId milestoneIndex db) anyEnd (k value) g) :
    Safe (keptOut engagementId milestoneIndex db) anyEnd (findOr model f >>= k) g := by
  refine safeAsk (keptReads _ rfl) (fun c frame i value kept found => ?_) fun _ => trivial
  split at found
  · contradiction
  · exact rest c.world value kept.1 found

theorem safeWrites {site : Site} {f : Answer → Db → Except Exception (α × Db)}
    (elsewhere : site ≠ .releaseMilestonePayment engagementId milestoneIndex)
    (commits : ∀ i db' value after, Same engagementId milestoneIndex db db' → f i db' = .ok (value,after) →
      Same engagementId milestoneIndex db' after) : Safe (keptOut engagementId milestoneIndex db) anyEnd (write site f) g := by
  refine safeTransact (fun c frame thread i value after kept ok _ => ?_) fun c frame thread i error kept _ =>
    ⟨keptRecord elsewhere (sameRefl _) kept,trivial⟩
  split at ok
  · contradiction
  · exact ⟨g,keptRecord elsewhere (commits i c.world value after kept.1 ok) kept,trivial⟩

/-- The latest version that a passed review has found. -/
theorem safeReviewable {milestoneId : String} {versionNumber : Option Nat} {k : Option MilestoneProofVersion → Op β}
    (rest : ∀ db' version, Same engagementId milestoneIndex db db' → self.proofVersions = true →
      (∀ version ∈ latestOf db' milestoneId, version.status = .submitted) →
      Safe (keptOut engagementId milestoneIndex db) anyEnd (k version) g) :
    Safe (keptOut engagementId milestoneIndex db) anyEnd (MilestonesService.assertReviewable self milestoneId versionNumber >>= k) g := by
  unfold MilestonesService.assertReviewable
  split
  · rename_i versions
    unfold ProofVersionsService.assertReviewable ProofVersionsService.latest
    rw [Process.bindAssoc]
    refine safeAsk (keptReads _ rfl) (fun c frame i found kept same => ?_) fun _ => trivial
    split at same
    · contradiction
    · have latest : latestOf c.world milestoneId = found := Except.ok.inj same
      cases found with
      | none =>
        cases versionNumber with
        | some number => trivial
        | none => exact rest c.world none kept.1 versions fun version there => by rw [latest] at there; cases there
      | some version =>
        dsimp only
        split
        · trivial
        · split
          · rename_i submitted
            refine rest c.world (some version) kept.1 versions fun version' there => ?_
            rw [latest] at there
            cases there
            exact submitted
          · trivial
          · trivial
  · trivial

theorem approvableSame {m : Milestone} {db₁ db₂ db₃ : Db} (first : Same engagementId milestoneIndex db db₁)
    (second : Same engagementId milestoneIndex db db₂) (third : Same engagementId milestoneIndex db db₃)
    (versions : self.proofVersions = true) (there : db.milestoneAt engagementId milestoneIndex = some m) (status : m.status = .proofSubmitted)
    (latest : ∀ version ∈ latestOf db₁ m.id, version.status = .submitted) (engagement : (db₂.engagements.get? engagementId).isSome = true)
    (fresh : db₃.approvals.get? (m.id,user.id) = none) : Approvable self db engagementId milestoneIndex user.id := by
  refine ⟨versions,second.engagements ▸ engagement,m,there,status,?_,?_⟩
  · rwa [latestOf,first.versions m there] at latest
  · rwa [approvalSame (third.approvals m there)] at fresh

theorem safePayOut {m : Milestone} {reviewedById : Option String} (apart : (own,index) ≠ (engagementId,milestoneIndex))
    (foreign : Foreign engagementId milestoneIndex db m.id) :
    Safe (keptOut engagementId milestoneIndex db) anyEnd (MilestonesService.payOut self m own index reviewedById) g := by
  refine safeAsk (keptIgnores fun same => ?_) (fun _ _ _ _ _ _ => ?_) fun _ => trivial
  · cases same
    exact apart rfl
  · refine safeThen ?_ fun updated g => safeThen ?_ fun _ g => trivial
    · refine safeThen (safeReads keptReads readsNow fun _ => trivial) fun at' g => ?_
      refine safeWrites (by simp) fun i db' value after same ok => ?_
      refine sameUpdate ?_ apart ok
      exact fun _ => ⟨rfl,rfl⟩
    · unfold MilestonesService.markApproved
      split
      · refine safeAsk (keptReads _ rfl) (fun c frame i found kept same => ?_) fun _ => trivial
        split at same
        · contradiction
        · cases found with
          | none => trivial
          | some version =>
            have latest : latestOf c.world m.id = some version := Except.ok.inj same
            dsimp only
            split
            · trivial
            · refine safeThen (safeReads keptReads readsNow fun _ => trivial) fun at' g => safeThen ?_ fun _ _ => trivial
              refine safeWrites (by simp) fun i db' value after same' ok => ?_
              obtain ⟨_,moved,rest⟩ := exceptBind.mp ok
              obtain ⟨_,_,rfl⟩ := Db.requiredModify moved
              cases rest
              have inside := List.mem_filter.mp ((List.mem_insertionSort latestFirst).mp (List.mem_of_head? latest))
              have stored : c.world.proofVersions.get? version.id = some version := Table.memGet inside.1
              have its : (c.world.proofVersions.get? version.id).map MilestoneProofVersion.milestoneId = some m.id :=
                stored ▸ congrArg some (of_decide_eq_true inside.2)
              refine sameVersion (fun _ => rfl) (fun m' there => foreign m' (same'.milestone ▸ there)) ?_
              exact (same'.owners version.id).trans ((kept.1.owners version.id).symm.trans its)
      · trivial

theorem safeHandler (unapprovable : ¬ Approvable self db engagementId milestoneIndex user.id) (request : Request) :
    Safe (keptOut engagementId milestoneIndex db) anyEnd ((service self user).handler request) 0 := by
  refine safeFinds fun db₀ m same found => ?_
  have there : db₀.milestoneAt request.engagementId request.milestoneIndex = some m := by
    split at found
    · contradiction
    · cases found
      assumption
  split
  · trivial
  · rename_i submitted
    refine safeReviewable fun db₁ version same₁ versions latest => ?_
    refine safeFinds fun db₂ engagement same₂ found => ?_
    have exists' : (db₂.engagements.get? request.engagementId).isSome = true := by
      split at found
      · contradiction
      · rename_i stored
        rw [stored]
        rfl
    refine safeAsk (keptReads _ rfl) (fun c frame i existing kept found => ?_) fun _ => trivial
    split at found
    · contradiction
    · have stored : c.world.approvals.get? (m.id,user.id) = existing := Except.ok.inj found
      split
      · trivial
      · rename_i fresh
        have apart : (request.engagementId,request.milestoneIndex) ≠ (engagementId,milestoneIndex) := by
          intro here
          obtain ⟨rfl,rfl⟩ := Prod.mk.inj here
          refine unapprovable (approvableSame same₁ same₂ kept.1 versions (same.milestone ▸ there) (not_not.mp submitted) latest exists' ?_)
          rw [stored]
          exact Option.not_isSome_iff_eq_none.mp fresh
        have foreign : Foreign engagementId milestoneIndex db m.id := foreignSame same (foreignFound apart there)
        refine safeThen ?_ fun _ g => safeThen (safeReads keptReads (readsFind _ _) fun _ => trivial) fun approvalCount g => ?_
        · refine safeWrites (by simp) fun i db' value after same' ok => ?_
          split at ok
          · contradiction
          · rename_i approvals made
            cases ok
            exact sameCreate (fun m' there => foreign m' (same'.milestone ▸ there)) made
        · split
          · trivial
          · refine safeThen (safePayOut apart foreign) fun updated g => ?_
            split
            · trivial
            · exact safeThen (safeReads keptReads readsCreateNotification fun _ => trivial) fun _ _ => trivial

theorem attainsReviewable {P : EscrowEvent → Prop} {thread : Nat} {milestoneId : String} {k : Option MilestoneProofVersion → Op β}
    (versions : self.proofVersions = true) (latest : ∀ version ∈ latestOf db milestoneId, version.status = .submitted)
    (rest : ∀ version, Attains P thread (k version) db) :
    Attains P thread (MilestonesService.assertReviewable self milestoneId none >>= k) db := by
  unfold MilestonesService.assertReviewable
  rw [if_pos versions]
  unfold ProofVersionsService.assertReviewable ProofVersionsService.latest
  rw [Process.bindAssoc]
  refine attainsAsk {} (latestOf db milestoneId) rfl ?_
  cases found : latestOf db milestoneId with
  | none => exact rest none
  | some version =>
    have submitted := latest version found
    simpa [submitted] using rest (some version)

/-- One approval of an approvable milestone adds a row to it. -/
theorem approvableAdds (approvable : Approvable self db engagementId milestoneIndex user.id) (thread : Nat) :
    Attains (fun e => ¬ Refused engagementId milestoneIndex e) thread
      ((service self user).handler { engagementId := engagementId, milestoneIndex := milestoneIndex }) db := by
  obtain ⟨versions,exists',m,there,status,latest,fresh⟩ := approvable
  obtain ⟨engagement,stored⟩ := Option.isSome_iff_exists.mp exists'
  obtain ⟨approvals,made⟩ : ∃ approvals, db.approvals.create ⟨m.id,user.id⟩ = some approvals := by
    simp [Table.create,Keyed.key,fresh]
  refine attainsAsk {} m (by simp [show db.milestoneAt engagementId milestoneIndex = some m from there]) ?_
  rw [if_neg (not_not.mpr status)]
  refine attainsReviewable versions latest fun version => ?_
  refine attainsAsk {} engagement (by simp [stored]) ?_
  refine attainsAsk {} none (by simp [fresh]) ?_
  refine attainsBind (attainsTransact {} () { db with approvals := approvals } (by simp [made]) fun refused => ?_)
  have kept : approvalsOf { db with approvals := approvals } m.id = approvalsOf db m.id := refused.2 m there
  simp [approvalsOf,Table.findMany,(Table.createGet made).2.1] at kept

/-- A placement whose proof awaits one approval. -/
def submitted : Db where
  engagements := .single { id := "e", companyAddress := "GC", recruiterAddress := "GR", arbiterAddress := "GA", totalAmount := 1000 }
  milestones := .single { id := "m", engagementId := "e", milestoneIndex := 0, name := "placed", kind := .placement
                          paymentPercent := 100, amount := some 1000, status := .proofSubmitted }

def stranger : DisputeActor := { id := "x", role := .recruiter, stellarAddress := some "GX" }

end Runs

end HireSettle.Escrow.OutsideApprovals
