import HireSettle.Escrow.KeptTerms

/-! The payments of one milestone. A caller that has paid owes the confirmation it is
about to write, so the confirmations written and owed never exceed the payments;
when every payment is confirmed, nothing has been paid since the proof under
review was submitted. -/
namespace HireSettle.Escrow.Release
open Workflow

variable (engagementId : String) (milestoneIndex : Nat)

def underReview (db : Db) : Bool := (db.milestoneAt engagementId milestoneIndex).any (·.status = .proofSubmitted)

def pays (e : EscrowEvent) : Bool := e.site = .releaseMilestonePayment engagementId milestoneIndex && !e.answer.fails

def confirms (e : EscrowEvent) : Bool := e.site = .markConfirmed engagementId milestoneIndex && !e.answer.fails

def submits (e : EscrowEvent) : Bool := underReview engagementId milestoneIndex e.after && !underReview engagementId milestoneIndex e.before

/-- The payments since the milestone last came under review, newest event first. -/
def paidSince : List EscrowEvent → Nat
  | [] => 0
  | e :: earlier =>
      if submits engagementId milestoneIndex e then 0
      else paidSince earlier + if pays engagementId milestoneIndex e then 1 else 0

/-- A payment is made for a proof still under review, when each earlier one is confirmed. -/
def PaysReviewed (earlier : List EscrowEvent) (e : EscrowEvent) : Prop :=
  pays engagementId milestoneIndex e = true → underReview engagementId milestoneIndex e.before = true ∧
    earlier.countP (pays engagementId milestoneIndex) ≤ earlier.countP (confirms engagementId milestoneIndex)

instance (earlier : List EscrowEvent) (e : EscrowEvent) : Decidable (PaysReviewed engagementId milestoneIndex earlier e) :=
  inferInstanceAs (Decidable (_ → _))

structure Balanced (c : EscrowSnapshot) (owed : Nat) : Prop where
  single : ∀ earlier, earlier <:+ c.history → paidSince engagementId milestoneIndex earlier ≤ 1
  confirmed : c.history.countP (confirms engagementId milestoneIndex) + owed ≤ c.history.countP (pays engagementId milestoneIndex)
  settled : c.history.countP (pays engagementId milestoneIndex) ≤ c.history.countP (confirms engagementId milestoneIndex) →
    underReview engagementId milestoneIndex c.world = true → paidSince engagementId milestoneIndex c.history = 0

def payments : Contract Site Answer Db Nat where
  inv := Balanced engagementId milestoneIndex
  admits := PaysReviewed engagementId milestoneIndex

def owes (engagementId' : String) (milestoneIndex' : Nat) : Nat :=
  if engagementId' = engagementId ∧ milestoneIndex' = milestoneIndex then 1 else 0

def elsewhere (site : Site) : Bool :=
  site ≠ .releaseMilestonePayment engagementId milestoneIndex && site ≠ .markConfirmed engagementId milestoneIndex

section Calls

variable {engagementId milestoneIndex} {c : EscrowSnapshot} {db' : Db} {thread : Nat} {site : Site} {i : Answer} {owed : Nat}

theorem paidEarlier {e : EscrowEvent} {earlier : List EscrowEvent} (quiet : pays engagementId milestoneIndex e = false) :
    paidSince engagementId milestoneIndex (e :: earlier) ≤ paidSince engagementId milestoneIndex earlier := by
  simp only [paidSince,quiet]
  split <;> simp

theorem singleNext (balanced : Balanced engagementId milestoneIndex c owed)
    (next : paidSince engagementId milestoneIndex (c.event thread site i db' :: c.history) ≤ 1) :
    ∀ earlier, earlier <:+ (c.record thread site i db').history → paidSince engagementId milestoneIndex earlier ≤ 1 := by
  intro earlier suffix
  rcases List.suffix_cons_iff.mp suffix with rfl | suffix
  · exact next
  · exact balanced.single earlier suffix

/-- An event that is no payment leaves at most what was paid before it. -/
theorem settledNext (quiet : pays engagementId milestoneIndex (c.event thread site i db') = false)
    (settled : underReview engagementId milestoneIndex c.world = true → paidSince engagementId milestoneIndex c.history = 0)
    (reviewed : underReview engagementId milestoneIndex db' = true) :
    paidSince engagementId milestoneIndex (c.event thread site i db' :: c.history) = 0 := by
  cases before : underReview engagementId milestoneIndex c.world with
  | true => exact Nat.eq_zero_of_le_zero (le_trans (paidEarlier quiet) (settled before).le)
  | false => simp [paidSince,submits,Snapshot.event,reviewed,before]

theorem balancedElsewhere (balanced : Balanced engagementId milestoneIndex c owed)
    (pay : pays engagementId milestoneIndex (c.event thread site i db') = false)
    (confirm : confirms engagementId milestoneIndex (c.event thread site i db') = false) :
    Balanced engagementId milestoneIndex (c.record thread site i db') owed where
  single := singleNext balanced (le_trans (paidEarlier pay) (balanced.single c.history List.suffix_rfl))
  confirmed := by simpa [pay,confirm] using balanced.confirmed
  settled := by
    intro counts reviewed
    simp only [Snapshot.recordHistory,List.countP_cons,pay,confirm,Bool.false_eq_true,if_false,add_zero] at counts
    exact settledNext pay (balanced.settled counts) reviewed

theorem sparesElsewhere : (payments engagementId milestoneIndex).Spares (elsewhere engagementId milestoneIndex) fun _ _ => True := by
  intro site db' quiet c owed thread i _ balanced
  simp only [elsewhere,Bool.and_eq_true,decide_eq_true_eq,ne_eq] at quiet
  exact balancedElsewhere balanced (by simp [pays,Snapshot.event,quiet.1]) (by simp [confirms,Snapshot.event,quiet.2])

theorem stepsElsewhere {α : Type} {p : Op α} (routine : Routine p) :
    Steps (elsewhere engagementId milestoneIndex) (fun _ _ => True) p := by
  refine stepsMono (fun site here => ?_) (fun _ _ _ => trivial) routine
  simp only [elsewhere,Bool.and_eq_true,decide_eq_true_eq,ne_eq]
  constructor <;> rintro rfl <;> cases here

theorem harmlessRoutine {α : Type} {p : Op α} (routine : Routine p) : Harmless (payments engagementId milestoneIndex) p :=
  harmlessSteps sparesElsewhere (stepsElsewhere routine)

theorem balancedPaid (balanced : Balanced engagementId milestoneIndex c owed)
    (meets : PaysReviewed engagementId milestoneIndex c.history (c.event thread site i c.world))
    (pay : pays engagementId milestoneIndex (c.event thread site i c.world) = true)
    (confirm : confirms engagementId milestoneIndex (c.event thread site i c.world) = false) :
    Balanced engagementId milestoneIndex (c.record thread site i c.world) (1 + owed) := by
  obtain ⟨reviewed,counts⟩ := meets pay
  have fresh := balanced.settled counts reviewed
  have confirmed := balanced.confirmed
  refine ⟨singleNext balanced ?_,?_,?_⟩
  · simp only [paidSince,fresh]
    split
    · exact Nat.zero_le 1
    · exact le_refl 1
  · simp only [Snapshot.recordHistory,List.countP_cons,pay,confirm,Bool.false_eq_true,if_false,if_true]
    omega
  · simp only [Snapshot.recordHistory,List.countP_cons,pay,confirm,Bool.false_eq_true,if_false,if_true]
    omega

theorem balancedLess {more : Nat} (balanced : Balanced engagementId milestoneIndex c (more + owed)) :
    Balanced engagementId milestoneIndex c owed :=
  ⟨balanced.single,by have := balanced.confirmed; omega,balanced.settled⟩

theorem balancedConfirmed (balanced : Balanced engagementId milestoneIndex c (1 + owed))
    (pay : pays engagementId milestoneIndex (c.event thread site i db') = false)
    (reviewed : underReview engagementId milestoneIndex db' = false) :
    Balanced engagementId milestoneIndex (c.record thread site i db') owed := by
  have confirmed := balanced.confirmed
  refine ⟨singleNext balanced (le_trans (paidEarlier pay) (balanced.single c.history List.suffix_rfl)),?_,?_⟩
  · simp only [Snapshot.recordHistory,List.countP_cons,pay,Bool.false_eq_true,if_false]
    split <;> omega
  · intro _ reviewed'
    cases reviewed.symm.trans reviewed'

theorem underReviewUpdated {engagementId' : String} {milestoneIndex' : Nat} {f : Milestone → Milestone}
    {keeps : ∀ m, (f m).id = m.id} {db : Db} {m' : Milestone} (here : ∀ m, (f m).engagementId = m.engagementId ∧
      (f m).milestoneIndex = m.milestoneIndex) (status : ∀ m, (f m).status ≠ .proofSubmitted)
    (updated : db.updateMilestoneAt engagementId' milestoneIndex' f keeps = .ok (m',db')) :
    underReview engagementId' milestoneIndex' db' = false := by
  obtain ⟨m,_,_,found,_⟩ := Db.updateMilestoneAtCases here updated
  simp [underReview,found,status m]

variable {engagementId' : String} {milestoneIndex' : Nat}

theorem safePay {done : Except Exception Unit → Nat → Prop} {held : Nat} (failed : ∀ error, done (.error error) held)
    (paid : done (.ok ()) (owes engagementId milestoneIndex engagementId' milestoneIndex' + held)) :
    Safe (payments engagementId milestoneIndex) done
      (stellar (.releaseMilestonePayment engagementId' milestoneIndex') fun _ => ()) held := by
  intro c frame thread i balanced meets
  have confirm : confirms engagementId milestoneIndex
      (c.event thread (.releaseMilestonePayment engagementId' milestoneIndex') i c.world) = false := by
    simp [confirms,Snapshot.event]
  cases fails : i.fails with
  | true =>
    have pay : pays engagementId milestoneIndex
        (c.event thread (.releaseMilestonePayment engagementId' milestoneIndex') i c.world) = false := by
      simp [pays,Snapshot.event,fails]
    exact ⟨held,balancedElsewhere balanced pay confirm,safeOfExcept (by simpa only [fails,if_true] using failed _)⟩
  | false =>
    refine ⟨owes engagementId milestoneIndex engagementId' milestoneIndex' + held,?_,safeOfExcept ?_⟩
    swap
    · simpa only [fails,Bool.false_eq_true,if_false] using paid
    unfold owes
    split
    · rename_i here
      rw [here.1,here.2] at meets confirm ⊢
      rw [add_assoc]
      exact balancedPaid balanced meets (by simp [pays,Snapshot.event,fails]) confirm
    · rename_i other
      rw [zero_add]
      exact balancedElsewhere balanced (by simpa [pays,Snapshot.event,fails] using other) confirm

theorem safeMarkConfirmed (engagementId' : String) (milestoneIndex' : Nat) (amount : Int) : Safe (payments engagementId milestoneIndex) anyEnd
    (MilestonesService.markConfirmed engagementId' milestoneIndex' amount)
      (owes engagementId milestoneIndex engagementId' milestoneIndex') := by
  refine safeStepsThen sparesElsewhere (stepsElsewhere (routineReads readsNow)) (fun at' => ?_) fun _ => trivial
  intro c frame thread i balanced _
  refine ⟨0,?_,safeOfExcept trivial⟩
  rw [zero_add]
  have pay : ∀ db', pays engagementId milestoneIndex
      (c.event thread (.markConfirmed engagementId' milestoneIndex') i db') = false := fun _ => by simp [pays,Snapshot.event]
  by_cases here : engagementId' = engagementId ∧ milestoneIndex' = milestoneIndex
  · obtain ⟨rfl,rfl⟩ := here
    rw [show owes engagementId' milestoneIndex' engagementId' milestoneIndex' = 1 from if_pos ⟨rfl,rfl⟩] at balanced
    unfold Process.applied
    split
    · rename_i out ok
      dsimp only at ok
      split at ok
      · contradiction
      · refine balancedConfirmed balanced (pay _) (underReviewUpdated ?_ ?_ ok)
        · exact fun _ => ⟨rfl,rfl⟩
        · exact fun _ => (by simp)
    · rename_i error failed
      dsimp only at failed
      split at failed
      · rename_i fails
        exact balancedElsewhere (balancedLess balanced) (pay _) (by simp [confirms,Snapshot.event,fails])
      · exact balancedConfirmed balanced (pay _) (by simp [underReview,Db.updateMilestoneAtMissing failed])
  · refine balancedElsewhere (balancedLess balanced) (pay _) ?_
    simpa [confirms,Snapshot.event] using fun first second => absurd ⟨first,second⟩ here

end Calls

section Methods

variable {engagementId : String} {milestoneIndex : Nat} (self : Config)

theorem harmlessPayOut (milestone : Milestone) (engagementId' : String) (milestoneIndex' : Nat) (reviewedById : Option String) :
    Harmless (payments engagementId milestoneIndex)
      (MilestonesService.payOut self milestone engagementId' milestoneIndex' reviewedById) := by
  intro held
  refine safeBind (safePay (fun _ => trivial) ?_)
  refine safeThen (safeAnyEnd (safeFrame held (safeMarkConfirmed engagementId' milestoneIndex' _))) fun updated held => ?_
  refine harmlessBind (harmlessRoutine (routineApproved self _ _)) (fun _ => ?_) held
  exact fun _ => trivial

theorem harmlessAutoApprove (pending : PendingVersion) (at' : Nat) :
    Harmless (payments engagementId milestoneIndex) (MilestoneProofSlaService.autoApprove pending at') := by
  intro held
  refine safeBind (safeHandle (safePay (fun error => ?_) ?_))
  · exact safeStepsThen sparesElsewhere (stepsElsewhere (routineUpdateVersion _ _ _ _)) (fun _ => trivial) fun _ => trivial
  · refine safeThen (safeAnyEnd (safeFrame held (safeMarkConfirmed _ _ _))) fun updated held => ?_
    refine safeThen (harmlessRoutine (routineUpdateVersion _ _ _ _) held) fun _ held => ?_
    exact harmlessRoutine (routineReads (readsBind readsNotify fun _ => readsNotify)) held

end Methods

inductive Request where
  | approveMilestone (engagementId : String) (milestoneIndex : Nat) (userId : String) (proofVersion : Option Nat)
  | confirmFlow (engagementId : String) (milestoneIndex : Nat) (userId : Option String)
  | runProofSlaChecks
  | submitProof (engagementId : String) (milestoneIndex : Nat) (user : PartyUser) (input : ProofInput)
  | submitProofFlow (engagementId : String) (milestoneIndex : Nat) (proofHash : String)
  | rejectProof (engagementId : String) (milestoneIndex : Nat) (user : PartyUser) (reason : String) (versionNumber : Option Nat)

inductive Reply where
  | approval (result : ApprovalResult)
  | confirmation (result : ApprovalResult ⊕ Milestone)
  | summary (result : ProofSlaRunSummary)
  | milestone (row : Milestone)
  | proof (row : Milestone × MilestoneProofVersion)

variable (self : Config)

def handler : Request → Op Reply
  | .approveMilestone engagementId milestoneIndex userId proofVersion =>
      return .approval (← MilestonesService.approveMilestone self engagementId milestoneIndex userId proofVersion)
  | .confirmFlow engagementId milestoneIndex userId =>
      return .confirmation (← MilestonesService.confirmFlow self engagementId milestoneIndex userId)
  | .runProofSlaChecks => return .summary (← MilestoneProofSlaService.runProofSlaChecks)
  | .submitProof engagementId milestoneIndex user input =>
      return .proof (← ProofVersionsService.submitProof engagementId milestoneIndex user input)
  | .submitProofFlow engagementId milestoneIndex proofHash =>
      return .milestone (← MilestonesService.submitProofFlow self engagementId milestoneIndex proofHash)
  | .rejectProof engagementId milestoneIndex user reason versionNumber =>
      return .proof (← ProofVersionsService.rejectProof engagementId milestoneIndex user reason versionNumber)

def service : System Request Nat Site Answer Db Exception Reply where
  handler := handler self
  environment elapsed db := { db with clock := db.clock + elapsed }

section Runs

variable (engagementId : String) (milestoneIndex : Nat)

abbrev ReleaseMove := Move Request Nat Answer

theorem harmlessHandler (request : Request) : Harmless (payments engagementId milestoneIndex) (handler self request) := by
  cases request with
  | approveMilestone =>
    exact harmlessBind (harmlessApproveMilestone harmlessRoutine (harmlessPayOut self) _ _ _ _) fun _ _ => trivial
  | confirmFlow => exact harmlessBind (harmlessConfirmFlow harmlessRoutine (harmlessPayOut self) _ _ _) fun _ _ => trivial
  | runProofSlaChecks =>
    exact harmlessBind (harmlessRunProofSlaChecks harmlessRoutine harmlessAutoApprove) fun _ _ => trivial
  | submitProof => exact harmlessBind (harmlessRoutine (routineSubmitProof _ _ _ _)) fun _ _ => trivial
  | submitProofFlow => exact harmlessBind (harmlessRoutine (routineSubmitProofFlow self _ _ _)) fun _ _ => trivial
  | rejectProof => exact harmlessBind (harmlessRoutine (routineRejectProof _ _ _ _ _)) fun _ _ => trivial

/-- In every run in which each payment is made under review and after the earlier
ones were confirmed, at most one payment falls between two submissions. -/
theorem paidOncePerProof (db : Db) (moves : List ReleaseMove)
    (reviewed : AllMeet (PaysReviewed engagementId milestoneIndex) ((service self).run (Pool.initial db) moves).history) :
    ∀ earlier, earlier <:+ ((service self).run (Pool.initial db) moves).history →
      paidSince engagementId milestoneIndex earlier ≤ 1 := by
  have begin : Secured (payments engagementId milestoneIndex) (fun _ => anyEnd)
      (Pool.initial db : Pool Request Site Answer Db Exception Reply) := by
    refine securedInitial (K := payments engagementId milestoneIndex) ⟨?_,by simp,fun _ _ => rfl⟩
    intro earlier suffix
    rw [List.suffix_nil.mp suffix]
    exact Nat.zero_le 1
  have ticks : ∀ elapsed c owed, (payments engagementId milestoneIndex).inv c owed →
      (payments engagementId milestoneIndex).inv { c with world := (service self).environment elapsed c.world } owed :=
    fun _ _ _ balanced => ⟨balanced.single,balanced.confirmed,balanced.settled⟩
  obtain ⟨_,_,balanced⟩ := securedRun (fun request => harmlessHandler self engagementId milestoneIndex request 0) ticks begin
    moves reviewed
  exact balanced.single

def reviewed : Db where
  users := .single { id := "c", proofSlaDays := 1, proofSlaAction := .autoApprove }
  engagements := .single { id := "e", companyAddress := "GC", recruiterAddress := "GR", arbiterAddress := "GA", totalAmount := 1000
                           companyId := some "c", recruiterId := some "r" }
  milestones := .single { id := "m", engagementId := "e", milestoneIndex := 0, name := "placed", kind := .placement
                          paymentPercent := 100, amount := some 1000, status := .proofSubmitted }
  proofVersions := .single { id := "v1", milestoneId := "m", versionNumber := 1, proofHash := some "h1" }
  clock := DAY_MS

def oneApproval : List ReleaseMove := [.start (.approveMilestone "e" 0 "u1" none)] ++ answered 0 (.replicate 16 {})

theorem paidByOneApproval :
    paidSince "e" 0 ((service {}).run (Pool.initial reviewed) oneApproval).history = 1 ∧
    ∀ earlier, earlier <:+ ((service {}).run (Pool.initial reviewed) oneApproval).history → paidSince "e" 0 earlier ≤ 1 :=
  ⟨by decide +kernel,paidOncePerProof {} "e" 0 reviewed oneApproval (by decide +kernel)⟩

/-- Two users approve at once and both find the milestone submitted. -/
def twoApprovals : List ReleaseMove :=
  [.start (.approveMilestone "e" 0 "u1" none),.start (.approveMilestone "e" 0 "u2" none)] ++
  answered 0 (.replicate 5 {}) ++ answered 1 (.replicate 7 {}) ++ answered 0 (.replicate 2 {})

/-- The job claims the first version and stops; the proof is rejected and submitted
again; the job pays, and a day later its next round pays for the second version. -/
def lateJob : List ReleaseMove :=
  [.start .runProofSlaChecks] ++ answered 0 (.replicate 4 {}) ++
  [.start (.rejectProof "e" 0 { id := some "c" } "unreadable" none)] ++ answered 1 (.replicate 7 {}) ++
  [.start (.submitProof "e" 0 { id := some "r" } { proofHash := some "h2" })] ++
  answered 2 [{},{},{},{},{ text := "v2" },{},{}] ++ answered 0 [{}] ++
  [.environment DAY_MS,.start .runProofSlaChecks] ++ answered 3 (.replicate 5 {})

theorem paidTwice :
    paidSince "e" 0 ((service {}).run (Pool.initial reviewed) twoApprovals).history = 2 ∧
    paidSince "e" 0 ((service { proofVersions := false }).run (Pool.initial reviewed) lateJob).history = 2 :=
  ⟨by decide +kernel,by decide +kernel⟩

end Runs

end HireSettle.Escrow.Release
