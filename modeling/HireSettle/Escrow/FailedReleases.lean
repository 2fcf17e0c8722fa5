import HireSettle.Escrow.OutsideApprovals
import HireSettle.Escrow.ServedCalls

/-! Approvals whose payment call throws. The row of the approval is written before the
call, and nothing takes it back, so that the same user is told to have approved already. -/
namespace HireSettle.Escrow.FailedReleases
open Workflow MilestonesService OutsideApprovals

/-- The latest proof version of a milestone may be reviewed under this number. -/
def Reviewable (version : Option MilestoneProofVersion) (number : Option Nat) : Prop :=
  match version with
  | none => number = none
  | some version => (∀ n, number = some n → n = version.versionNumber) ∧ version.status = .submitted

/-- The approval completes the milestone, and every call of it is answered but the payment. -/
structure Throws (config : Config) (respond : Site → Answer) (db : Db) (engagementId : String) (milestoneIndex : Nat)
    (userId : String) (proofVersion : Option Nat) (milestone : Milestone) (engagement : Engagement) : Prop where
  answered : ∀ model ∈ [Model.milestone,.proofVersion,.engagement,.approval], (respond (.find model)).fails = false
  versions : config.proofVersions = true
  found : db.milestoneAt engagementId milestoneIndex = some milestone
  submitted : milestone.status = .proofSubmitted
  reviewable : Reviewable (latestOf db milestone.id) proofVersion
  engaged : db.engagements.get? engagementId = some engagement
  fresh : db.approvals.get? (milestone.id,userId) = none
  recorded : (respond (.createApproval milestone.id)).fails = false
  complete : requiredApprovals engagement ≤ (approvalsOf db milestone.id).length + 1
  fails : (respond (.releaseMilestonePayment engagementId milestoneIndex)).fails = true

section Calls

variable {self : Config} {respond : Site → Answer} {db : Db} {α β : Type}

/-- Whatever it throws, it is not what a call to the chain throws. -/
def Quiet (respond : Site → Answer) (p : Op α) : Prop := ∀ db, (p.interpret respond db).1 ≠ .error .stellar

theorem quietBind {p : Op α} {k : α → Op β} (first : Quiet respond p) (rest : ∀ value, Quiet respond (k value)) :
    Quiet respond (p >>= k) := by
  intro db
  rw [interpretBind]
  have quiet := first db
  generalize p.interpret respond db = out at quiet
  obtain ⟨error | value,db'⟩ := out
  · exact fun same => quiet (congrArg Except.error (Except.error.inj same))
  · exact rest _ _

theorem quietRet (value : α) : Quiet respond (.ret value : Op α) := fun _ => nofun

theorem quietNow : Quiet respond now := fun _ => nofun

theorem quietFind {model : Model} {f : Db → α} : Quiet respond (find model f) := by
  intro db
  rw [find,interpretQuery]
  cases (respond (.find model)).fails <;> rintro ⟨⟩

theorem quietWrite {site : Site} {f : Answer → Db → Except Exception (α × Db)}
    (throws : ∀ i db error, f i db = .error error → error ≠ .stellar) : Quiet respond (write site f) := by
  intro db
  rw [write,interpretTransact]
  split
  · rintro ⟨⟩
  · cases committed : f (respond site) db with
    | ok out => rintro ⟨⟩
    | error error => exact fun same => throws _ _ _ committed (Except.error.inj same)

theorem requiredThen {γ : Type} {found : Option γ} {f : γ → Except Exception α} {error : Exception}
    (rest : ∀ value, f value = .error error → error ≠ .stellar) (failed : (required found >>= f) = .error error) :
    error ≠ .stellar := by
  cases found with
  | none => cases failed; nofun
  | some value => exact rest value failed

theorem updateMilestoneThrows {id : String} {f : Milestone → Milestone} {keeps : ∀ m, (f m).id = m.id} {error : Exception}
    (failed : db.updateMilestone id f keeps = .error error) : error ≠ .stellar :=
  requiredThen (fun _ same => by cases same) failed

theorem quietConfirm (engagementId : String) (milestoneIndex : Nat) (amount : Int) :
    Quiet respond (markConfirmed engagementId milestoneIndex amount) := by
  refine quietBind quietNow fun at' => quietWrite fun i db error failed => ?_
  exact requiredThen (fun m => updateMilestoneThrows) failed

theorem quietApproved (milestoneId : String) (reviewedById : Option String) :
    Quiet respond (markApproved self milestoneId reviewedById) := by
  unfold markApproved
  split
  · refine quietBind quietFind fun found => ?_
    split
    · exact quietRet _
    · split
      · exact quietRet _
      · refine quietBind quietNow fun at' => quietBind (quietWrite fun i db error failed => ?_) fun _ => quietRet _
        exact requiredThen (fun _ same => by cases same) failed
  · rintro _ ⟨⟩

/-- Paying throws what the chain throws only when the payment does, before anything is written. -/
theorem payOutThrows {milestone : Milestone} {engagementId : String} {milestoneIndex : Nat} {reviewedById : Option String}
    {k : Milestone → Op β} (rest : ∀ updated, Quiet respond (k updated)) (db : Db) :
    ((payOut self milestone engagementId milestoneIndex reviewedById >>= k).interpret respond db).1 = .error .stellar ↔
      (respond (.releaseMilestonePayment engagementId milestoneIndex)).fails = true := by
  unfold payOut
  rw [Process.bindAssoc,interpretStellar]
  split
  · exact ⟨fun _ => ‹_›,fun _ => rfl⟩
  · refine ⟨fun same => absurd same ?_,fun failed => absurd failed ‹_›⟩
    refine quietBind (quietBind (quietConfirm _ _ _) fun updated => ?_) rest db
    exact quietBind (quietApproved _ _) fun _ => quietRet _

theorem refusedReview {p : Prop} {error : Exception} (other : error ≠ .stellar) (without : ¬ p) :
    (.error error : Except Exception α) ≠ .error .stellar ∧ ((∃ value : α, Except.error error = .ok value) ↔ p) :=
  ⟨fun same => other (Except.error.inj same),nofun,fun holds => absurd holds without⟩

variable (self respond) in
theorem reviewed (milestoneId : String) (number : Option Nat) (db : Db) :
    ∃ out, (assertReviewable self milestoneId number).interpret respond db = (out,db) ∧ out ≠ .error .stellar ∧
      ((∃ version, out = .ok version) ↔ (respond (.find .proofVersion)).fails = false ∧ self.proofVersions = true ∧
        Reviewable (latestOf db milestoneId) number) := by
  unfold assertReviewable
  split
  · rename_i versions
    unfold ProofVersionsService.assertReviewable ProofVersionsService.latest
    rw [interpretFind]
    split
    · rename_i failed
      exact ⟨_,rfl,refusedReview (by nofun) fun answered => absurd failed (by simp [answered.1])⟩
    · rename_i answered
      have answered : (respond (.find .proofVersion)).fails = false := by simpa using answered
      unfold latestOf versionsOf
      generalize (List.insertionSort latestFirst _).head? = found
      cases found with
      | none =>
          cases number with
          | none => exact ⟨_,rfl,nofun,fun _ => ⟨answered,versions,rfl⟩,fun _ => ⟨_,rfl⟩⟩
          | some n => exact ⟨_,rfl,refusedReview (by nofun) fun answered => nomatch answered.2.2⟩
      | some version =>
          have current : number.any (· ≠ version.versionNumber) = true ↔ ¬ ∀ n, number = some n → n = version.versionNumber := by
            cases number <;> simp
          by_cases outdated : number.any (· ≠ version.versionNumber) = true
          · simp only [if_pos outdated]
            exact ⟨_,rfl,refusedReview (by nofun) fun answered => current.mp outdated answered.2.2.1⟩
          · simp only [if_neg outdated]
            have same := not_not.mp (current.not.mp outdated)
            cases status : version.status with
            | submitted => exact ⟨_,rfl,nofun,fun _ => ⟨answered,versions,same,status⟩,fun _ => ⟨_,rfl⟩⟩
            | approved => exact ⟨_,rfl,refusedReview (by nofun) fun answered => nomatch status.symm.trans answered.2.2.2⟩
            | rejected => exact ⟨_,rfl,refusedReview (by nofun) fun answered => nomatch status.symm.trans answered.2.2.2⟩
  · rename_i without
    exact ⟨_,rfl,refusedReview (by nofun) fun answered => without answered.2.1⟩

theorem createdFresh {milestoneId userId : String} (fresh : db.approvals.get? (milestoneId,userId) = none) :
    ∃ approvals, db.approvals.create ⟨milestoneId,userId⟩ = some approvals := by
  cases made : db.approvals.create ⟨milestoneId,userId⟩ with
  | some approvals => exact ⟨approvals,rfl⟩
  | none => exact absurd fresh (Option.isSome_iff_ne_none.mp (Table.createTaken made))

theorem createdCount {milestoneId userId : String} {approvals : Table MilestoneApproval}
    (made : db.approvals.create ⟨milestoneId,userId⟩ = some approvals) :
    approvals.count (fun row => row.milestoneId = milestoneId) = (approvalsOf db milestoneId).length + 1 := by
  simp only [Table.count,(Table.createGet made).2.1,List.countP_append,approvalsOf,Table.findMany,← List.countP_eq_length_filter]
  simp

variable {engagementId userId : String} {milestoneIndex : Nat} {proofVersion : Option Nat} {milestone : Milestone} {engagement : Engagement}

theorem approveThrows (throws : Throws self respond db engagementId milestoneIndex userId proofVersion milestone engagement) :
    ∃ approvals, db.approvals.create ⟨milestone.id,userId⟩ = some approvals ∧
      (approveMilestone self engagementId milestoneIndex userId proofVersion).interpret respond db =
        (.error .stellar,{ db with approvals := approvals }) := by
  obtain ⟨approvals,made⟩ := createdFresh throws.fresh
  refine ⟨approvals,made,?_⟩
  obtain ⟨out,reviews,_,reviewable⟩ := reviewed self respond milestone.id proofVersion db
  obtain ⟨version,rfl⟩ := reviewable.mpr ⟨throws.answered _ (by decide),throws.versions,throws.reviewable⟩
  have milestones := throws.answered .milestone (by decide)
  have engagements := throws.answered .engagement (by decide)
  have counted := throws.answered .approval (by decide)
  unfold approveMilestone findOne
  rw [interpretFindOr]
  simp only [milestones,throws.found,throws.submitted,ne_eq,not_true_eq_false,if_false,Bool.false_eq_true]
  rw [interpretBind,reviews]
  dsimp only
  unfold findEngagement
  rw [interpretFindOr]
  simp only [engagements,throws.engaged,Bool.false_eq_true,if_false]
  unfold findApproval createApproval getApprovalCount
  rw [interpretFind]
  simp only [counted,throws.fresh,Option.isSome_none,Bool.false_eq_true,if_false]
  rw [interpretWrite]
  simp only [throws.recorded,made,Bool.false_eq_true,if_false]
  rw [interpretFind]
  simp only [counted,createdCount made,not_lt.mpr throws.complete,Bool.false_eq_true,if_false]
  rw [payOut,Process.bindAssoc,interpretStellar]
  simp only [throws.fails,if_true]

section Thrown

variable {γ : Type} {k : γ → Op α} {model : Model} {site : Site}

theorem thrownFind {f : Db → γ} (thrown : ((find model f >>= k).interpret respond db).1 = .error .stellar) :
    (respond (.find model)).fails = false ∧ ((k (f db)).interpret respond db).1 = .error .stellar := by
  rw [interpretFind] at thrown
  split at thrown
  · cases thrown
  · rename_i answered
    exact ⟨by simpa using answered,thrown⟩

theorem thrownFindOr {f : Db → Except Exception γ} (quiet : f db ≠ .error .stellar)
    (thrown : ((findOr model f >>= k).interpret respond db).1 = .error .stellar) :
    (respond (.find model)).fails = false ∧ ∃ value, f db = .ok value ∧ ((k value).interpret respond db).1 = .error .stellar := by
  rw [interpretFindOr] at thrown
  split at thrown
  · cases thrown
  · rename_i answered
    cases found : f db with
    | error error =>
        rw [found] at thrown quiet
        exact absurd (congrArg Except.error (Except.error.inj thrown)) quiet
    | ok value =>
        rw [found] at thrown
        exact ⟨by simpa using answered,value,rfl,thrown⟩

theorem thrownWrite {f : Answer → Db → Except Exception (γ × Db)} (quiet : f (respond site) db ≠ .error .stellar)
    (thrown : ((write site f >>= k).interpret respond db).1 = .error .stellar) :
    (respond site).fails = false ∧ ∃ value db', f (respond site) db = .ok (value,db') ∧
      ((k value).interpret respond db').1 = .error .stellar := by
  rw [interpretWrite] at thrown
  split at thrown
  · cases thrown
  · rename_i answered
    cases made : f (respond site) db with
    | error error =>
        rw [made] at thrown quiet
        exact absurd (congrArg Except.error (Except.error.inj thrown)) quiet
    | ok out =>
        rw [made] at thrown
        exact ⟨by simpa using answered,out.1,out.2,rfl,thrown⟩

theorem thrownElse {c : Prop} [Decidable c] {p q : Op α} (quiet : Quiet respond p)
    (thrown : ((if c then p else q).interpret respond db).1 = .error .stellar) :
    ¬ c ∧ (q.interpret respond db).1 = .error .stellar := by
  split at thrown
  · exact absurd thrown (quiet db)
  · exact ⟨‹_›,thrown⟩

theorem quietRaise {error : Exception} (other : error ≠ .stellar) : Quiet respond (.raise error : Op α) :=
  fun _ same => other (Except.error.inj same)

end Thrown

theorem thrownApproval
    (thrown : ((approveMilestone self engagementId milestoneIndex userId proofVersion).interpret respond db).1 = .error .stellar) :
    ∃ milestone engagement, Throws self respond db engagementId milestoneIndex userId proofVersion milestone engagement := by
  unfold approveMilestone findOne at thrown
  obtain ⟨milestones,milestone,found,thrown⟩ := thrownFindOr (by split <;> rintro ⟨⟩) thrown
  have found : db.milestoneAt engagementId milestoneIndex = some milestone := by
    split at found
    · cases found
    · rename_i there
      exact there.trans (congrArg some (Except.ok.inj found))
  obtain ⟨submitted,thrown⟩ := thrownElse (quietRaise (by rintro ⟨⟩)) thrown
  obtain ⟨out,reviews,quiet,reviewable⟩ := reviewed self respond milestone.id proofVersion db
  rw [interpretBind,reviews] at thrown
  cases out with
  | error error => exact absurd (congrArg Except.error (Except.error.inj thrown)) quiet
  | ok version =>
    obtain ⟨versions,service,current⟩ := reviewable.mp ⟨version,rfl⟩
    dsimp only at thrown
    unfold findEngagement at thrown
    obtain ⟨engagements,engagement,engaged,thrown⟩ := thrownFindOr (by split <;> rintro ⟨⟩) thrown
    have engaged : db.engagements.get? engagementId = some engagement := by
      split at engaged
      · cases engaged
      · rename_i there
        exact there.trans (congrArg some (Except.ok.inj engaged))
    obtain ⟨counted,thrown⟩ := thrownFind thrown
    obtain ⟨fresh,thrown⟩ := thrownElse (quietRaise (by rintro ⟨⟩)) thrown
    have fresh : db.approvals.get? (milestone.id,userId) = none := by simpa using fresh
    obtain ⟨approvals,made⟩ := createdFresh fresh
    unfold createApproval at thrown
    obtain ⟨recorded,_,_,created,thrown⟩ := thrownWrite (by simp only [made]; rintro ⟨⟩) thrown
    simp only [made,Except.ok.injEq,Prod.mk.injEq] at created
    obtain ⟨_,rfl⟩ := created
    obtain ⟨_,thrown⟩ := thrownFind thrown
    obtain ⟨complete,thrown⟩ := thrownElse (quietRet _) thrown
    have fails := (payOutThrows (fun updated => ?_) _).mp thrown
    · refine ⟨milestone,engagement,?_,service,found,not_not.mp submitted,current,engaged,fresh,recorded,?_,fails⟩
      · simp [milestones,versions,engagements,counted]
      · exact not_lt.mp (createdCount made ▸ complete)
    · split
      · exact quietRet _
      · exact quietBind (by intro db; rw [createNotification,interpretQuery]; split <;> rintro ⟨⟩) fun _ => quietRet _

/-- Who has approved the milestone approves it no more. -/
theorem approvedRefused (found : db.milestoneAt engagementId milestoneIndex = some milestone)
    (approved : db.approvals.get? (milestone.id,userId) ≠ none) (result : ApprovalResult) :
    ((approveMilestone self engagementId milestoneIndex userId proofVersion).interpret respond db).1 ≠ .ok result := by
  unfold approveMilestone findOne
  rw [interpretFindOr]
  split
  · rintro ⟨⟩
  · simp only [found]
    split
    · rintro ⟨⟩
    · obtain ⟨out,reviews,_⟩ := reviewed self respond milestone.id proofVersion db
      rw [interpretBind,reviews]
      cases out with
      | error error => rintro ⟨⟩
      | ok version =>
        dsimp only
        unfold findEngagement
        rw [interpretFindOr]
        split
        · rintro ⟨⟩
        · split
          · unfold findApproval
            rw [interpretFind]
            split
            · rintro ⟨⟩
            · rw [if_pos (Option.isSome_iff_ne_none.mpr approved)]
              rintro ⟨⟩
          · rintro ⟨⟩

end Calls

/-- Where the payment throws, the approval leaves what it found, and the user can try again. -/
def Recovers (self : Config) (respond : Site → Answer) (db : Db) (engagementId : String) (milestoneIndex : Nat) (userId : String)
    (proofVersion : Option Nat) : Prop :=
  let after := (approveMilestone self engagementId milestoneIndex userId proofVersion).interpret respond db
  after.1 = .error .stellar →
    after.2.milestones = db.milestones ∧ after.2.approvals = db.approvals ∧ after.2.proofVersions = db.proofVersions ∧
    ∃ respond' result, ((approveMilestone self engagementId milestoneIndex userId proofVersion).interpret respond' after.2).1 = .ok result

def reviewing : Db where
  engagements := .single { id := "e", companyAddress := "GC", recruiterAddress := "GR", arbiterAddress := "GA", totalAmount := 100 }
  milestones := .single {
    id := "m", engagementId := "e", milestoneIndex := 0, name := "placed", kind := .placement, paymentPercent := 100
    status := .proofSubmitted }

def withoutPayment (site : Site) : Answer := { fails := decide (site = .releaseMilestonePayment "e" 0) }

end HireSettle.Escrow.FailedReleases
