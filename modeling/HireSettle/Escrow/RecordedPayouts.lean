import HireSettle.Escrow.Engagements
import HireSettle.Escrow.MilestonePercents
import HireSettle.Escrow.ReleasedTotals

/-! What the payouts of an engagement record. The amount of a milestone is left out when
its engagement is created, and no review fills it in, so a payout records nothing. -/
namespace HireSettle.Escrow.RecordedPayouts
open Workflow EngagementsService MilestonesService ReleasedTotals

inductive Request where
  | create (userId : String) (dto : CreateEngagementDto)
  | acceptInvite (engagementId : String) (stellarAddress : Option String)
  | submitProof (engagementId : String) (milestoneIndex : Nat) (user : PartyUser) (input : ProofInput)
  | approveMilestone (engagementId : String) (milestoneIndex : Nat) (userId : String) (proofVersion : Option Nat)
  | confirmFlow (engagementId : String) (milestoneIndex : Nat) (userId : Option String)
  | unlockRetentionOnChain (milestoneId : String)

inductive Change where
  | elapse (elapsed : Nat)
  | requireApprovals (engagementId : String) (count : Nat)

variable (self : Config)

def handler : Request → Op Unit
  | .create userId dto => do let _ ← create self userId dto
  | .acceptInvite engagementId stellarAddress => do let _ ← acceptInvite engagementId stellarAddress
  | .submitProof engagementId milestoneIndex user input => do
      let _ ← ProofVersionsService.submitProof engagementId milestoneIndex user input
  | .approveMilestone engagementId milestoneIndex userId proofVersion => do
      let _ ← approveMilestone self engagementId milestoneIndex userId proofVersion
  | .confirmFlow engagementId milestoneIndex userId => do let _ ← confirmFlow self engagementId milestoneIndex userId
  | .unlockRetentionOnChain milestoneId => unlockRetentionOnChain milestoneId

def service : System Request Change Site Answer Db Exception Unit where
  handler := handler self
  environment
    | .elapse elapsed, db => { db with clock := db.clock + elapsed }
    | .requireApprovals engagementId count, db =>
        { db with engagements := db.engagements.update engagementId fun row => { row with requiredApprovals := count } }

abbrev PayoutMove := Move Request Change Answer

/-- The milestones of the engagement with their shares of its price. -/
def shares (engagement : Engagement) (db : Db) : List (Milestone × Int) :=
  let milestones := db.milestonesOf engagement.id
  milestones.zip (splitByPercent engagement.totalAmount (milestones.map Milestone.paymentPercent))

structure Recorded (engagement : Engagement) (db : Db) : Prop where
  positive : ∀ entry ∈ shares engagement db, 0 < entry.2 → 0 < paidOut entry.1
  total : released engagement.id db = engagement.totalAmount

/-- The milestones of the engagement have no amount, and nothing was recorded as paid. -/
def Unfilled (engagementId : String) (db : Db) : Prop :=
  ∀ m ∈ db.milestones.rows, m.engagementId = engagementId → m.amount = none ∧ paidOut m = 0

section Steps

variable {engagementId : String} {db db' : Db}

theorem unfilledTerms (kept : KeepsTerms db db') (unfilled : Unfilled engagementId db) : Unfilled engagementId db' := by
  obtain ⟨f,same,rows⟩ := kept.milestones
  intro m inside mine
  rw [rows] at inside
  obtain ⟨old,there,rfl⟩ := List.mem_map.mp inside
  obtain ⟨amount,unpaid⟩ := unfilled old there ((same old).engagementId.symm.trans mine)
  exact ⟨(same old).amount.trans amount,by rw [paidOut,(same old).paymentReleased]; exact unpaid⟩

theorem unfilledCreated {milestones : List Milestone} (fresh : ∀ m ∈ milestones, m.amount = none ∧ paidOut m = 0)
    (rows : db'.milestones.rows = db.milestones.rows ++ milestones) (unfilled : Unfilled engagementId db) : Unfilled engagementId db' := by
  intro m inside mine
  rw [rows] at inside
  rcases List.mem_append.mp inside with old | new
  · exact unfilled m old mine
  · exact fresh m new

theorem unfilledPaid {own : String} {milestoneIndex : Nat} {f : Milestone → Milestone} {keeps : ∀ m, (f m).id = m.id} {m' : Milestone}
    (same : ∀ m, (f m).engagementId = m.engagementId ∧ (f m).amount = m.amount) (unpaid : own = engagementId → ∀ m, paidOut (f m) = 0)
    (updated : db.updateMilestoneAt own milestoneIndex f keeps = .ok (m',db')) (unfilled : Unfilled engagementId db) :
    Unfilled engagementId db' := by
  obtain ⟨m,found,updated⟩ := exceptBind.mp updated
  have slot := requiredSome found
  obtain ⟨_,_,_,_,_,rfl⟩ := Db.updateMilestoneCases updated
  intro row inside mine
  obtain ⟨old,there,rfl⟩ := (Table.memUpdateMany keeps).mp inside
  by_cases here : Keyed.key old = m.id
  · rw [if_pos (decide_eq_true here)] at mine ⊢
    have stored : db.milestones.get? m.id = some m := Table.memGet (List.mem_of_find?_eq_some slot)
    have single : old = m := by
      rw [← here] at stored
      exact Option.some.inj ((Table.memGet there).symm.trans stored)
    have its : m.engagementId = own := by
      have matched := List.find?_some slot
      simp only [Bool.and_eq_true,decide_eq_true_eq] at matched
      exact matched.1
    have owned : m.engagementId = engagementId := single ▸ (same old).1.symm.trans mine
    obtain ⟨amount,_⟩ := unfilled old there (single ▸ owned)
    exact ⟨(same old).2.trans amount,unpaid (its.symm.trans owned) old⟩
  · rw [if_neg (by simpa using here)] at mine ⊢
    exact unfilled old there mine

theorem unfilledScheduled {estimates : List (Milestone × Int × Int)} (scheduled : estimates.foldlM scheduleUnlock db = .ok db')
    (unfilled : Unfilled engagementId db) : Unfilled engagementId db' := by
  induction estimates generalizing db with
  | nil =>
    cases scheduled
    exact unfilled
  | cons estimate estimates ih =>
    obtain ⟨mid,first,rest⟩ := exceptBind.mp scheduled
    obtain ⟨⟨m',db''⟩,updated,made⟩ := exceptBind.mp first
    have kept : KeepsTerms db db'' := by
      refine keepsMilestone ?_ updated
      exact fun m => ⟨rfl,rfl,rfl,rfl,rfl,rfl,rfl,rfl⟩
    have moved : Unfilled engagementId db'' := unfilledTerms kept unfilled
    refine ih rest ?_
    dsimp only [Db.createSchedule] at made
    split at made
    · contradiction
    · cases made
      exact moved

theorem freshData (own id : String) (index : Nat) (days : List (Option Int)) (inputs : List MilestoneInput) :
    ∀ m ∈ milestoneData own id index days inputs, m.amount = none ∧ paidOut m = 0 := by
  induction inputs generalizing index days with
  | nil => exact fun m inside => absurd inside List.not_mem_nil
  | cons input inputs ih =>
    intro m inside
    rcases List.mem_cons.mp inside with rfl | later
    · exact ⟨rfl,rfl⟩
    · exact ih _ _ m later

end Steps

section Calls

variable {engagementId : String} {α : Type}

def recording (engagementId : String) : Contract Site Answer Db Unit where
  inv c _ := Unfilled engagementId c.world
  admits _ _ := True

theorem recordingRoutine {p : Op α} (routine : Routine p) : Harmless (recording engagementId) p :=
  harmlessSteps (fun _ _ _ _ _ _ _ kept unfilled => unfilledTerms kept unfilled) routine

theorem recordingReads {p : Op α} (reads : Reads Site.reads p) : Harmless (recording engagementId) p := recordingRoutine (routineReads reads)

theorem recordingStellar (site : Site) (f : Answer → α) : Harmless (recording engagementId) (stellar site f) :=
  fun _ => safeQuery (fun _ _ _ _ inv => inv) fun _ _ _ inv => ⟨(),inv,trivial⟩

theorem recordingWrite {site : Site} {f : Answer → Db → Except Exception (α × Db)}
    (commits : ∀ i db value db', f i db = .ok (value,db') → Unfilled engagementId db → Unfilled engagementId db') :
    Harmless (recording engagementId) (write site f) := by
  refine fun _ => safeTransact (fun c _ thread i value db' inv ok _ => ⟨(),?_,trivial⟩) fun c _ thread i error inv _ => ⟨inv,trivial⟩
  split at ok
  · contradiction
  · exact commits i c.world value db' ok inv

theorem recordingCreate (userId : String) (dto : CreateEngagementDto) : Harmless (recording engagementId) (create self userId dto) := by
  have persists : ∀ version, Harmless (recording engagementId) (persist dto version) := by
    intro version
    unfold persist
    dsimp only
    split
    · exact fun _ => trivial
    · exact fun _ => trivial
    · split
      · exact fun _ => trivial
      · split
        · exact fun _ => trivial
        · refine harmlessBind (recordingWrite fun i db value db' ok unfilled => ?_) fun _ => recordingReads (readsBind readsNotify fun _ => trivial)
          dsimp only at ok
          split at ok
          · contradiction
          · obtain ⟨_,⟨⟩,ok⟩ := exceptBind.mp ok
            obtain ⟨last,added,same⟩ := exceptBind.mp ok
            cases same
            exact unfilledCreated (freshData _ _ _ _ _) (MilestonePercents.createdRows added).1 unfilled
  refine harmlessBind (harmlessBind (recordingReads (readsFind _ _)) fun existing => ?_) fun _ => harmlessBind ?_ fun _ _ => trivial
  · split
    · exact fun _ => trivial
    · split
      · exact fun _ => trivial
      · split
        · exact persists none
        · refine harmlessBind (recordingReads (readsBind (readsFind _ _) fun found => ?_)) persists
          split
          · trivial
          · split
            · trivial
            · exact readsFind _ _
  · refine recordingRoutine (stepsCountTemplateUse rfl (fun _ => rfl) keepsAll (fun _ _ => ?_) dto.templateId)
    exact keepsElsewhere rfl rfl rfl rfl

theorem recordingAcceptInvite (own : String) (stellarAddress : Option String) :
    Harmless (recording engagementId) (acceptInvite own stellarAddress) := by
  refine harmlessBind (recordingReads (readsFind _ _)) fun found => ?_
  split
  · exact fun _ => trivial
  · split
    · exact fun _ => trivial
    · split
      · exact fun _ => trivial
      · refine harmlessBind (recordingStellar _ _) fun balance => ?_
        split
        · exact fun _ => trivial
        · refine harmlessBind (recordingStellar _ _) fun sent => harmlessBind (recordingStellar _ _) fun currentLedger => ?_
          refine harmlessBind (recordingReads readsNow) fun at' => harmlessBind (recordingWrite fun i db value db' ok unfilled => ?_) fun accepted =>
            recordingReads (readsBind readsNotify fun _ => trivial)
          obtain ⟨⟨row,mid⟩,updated,rest⟩ := exceptBind.mp ok
          obtain ⟨last,scheduled,same⟩ := exceptBind.mp rest
          cases same
          obtain ⟨_,_,_,_,_,rfl⟩ := Db.updateEngagementCases updated
          exact unfilledScheduled scheduled unfilled

theorem recordingFindOne {own : String} {milestoneIndex : Nat} {k : Milestone → Op α}
    (rest : ∀ m, (own = engagementId → m.amount = none) → Harmless (recording engagementId) (k m)) :
    Harmless (recording engagementId) (findOne own milestoneIndex >>= k) := by
  refine fun _ => safeAsk (fun _ _ _ _ inv => inv) (fun c _ i m inv found => rest m (fun mine => ?_) ()) fun _ => trivial
  split at found
  · contradiction
  · dsimp only at found
    split at found
    · contradiction
    · rename_i m' slot
      cases found
      have matched := List.find?_some slot
      simp only [Bool.and_eq_true,decide_eq_true_eq] at matched
      exact (inv m (List.mem_of_find?_eq_some slot) (matched.1.trans mine)).1

theorem recordingPayOut {m : Milestone} {own : String} (milestoneIndex : Nat) (reviewedById : Option String)
    (unfilled : own = engagementId → m.amount = none) : Harmless (recording engagementId) (payOut self m own milestoneIndex reviewedById) := by
  refine harmlessBind (recordingStellar _ _) fun _ => harmlessBind ?_ fun updated =>
    harmlessBind (recordingRoutine (routineApproved self _ _)) fun _ _ => trivial
  refine harmlessBind (recordingReads readsNow) fun at' => recordingWrite fun i db value db' ok => unfilledPaid ?_ (fun mine row => ?_) ok
  · exact fun _ => ⟨rfl,rfl⟩
  · rw [unfilled mine]
    rfl

theorem recordingApproveMilestone (own : String) (milestoneIndex : Nat) (userId : String) (proofVersion : Option Nat) :
    Harmless (recording engagementId) (approveMilestone self own milestoneIndex userId proofVersion) := by
  refine recordingFindOne fun m unfilled => ?_
  split
  · exact fun _ => trivial
  · refine harmlessBind (recordingRoutine (routineReviewable self _ _)) fun _ => ?_
    refine harmlessBind (recordingReads (readsFindOr _ _)) fun engagement => harmlessBind (recordingReads (readsFind _ _)) fun existing => ?_
    split
    · exact fun _ => trivial
    · refine harmlessBind (recordingRoutine (routineCreateApproval _ _)) fun _ => harmlessBind (recordingReads (readsFind _ _)) fun count => ?_
      split
      · exact fun _ => trivial
      · refine harmlessBind (recordingPayOut self _ _ unfilled) fun updated => ?_
        split
        · exact fun _ => trivial
        · exact recordingReads (readsBind readsCreateNotification fun _ => trivial)

theorem recordingConfirmFlow (own : String) (milestoneIndex : Nat) (userId : Option String) :
    Harmless (recording engagementId) (confirmFlow self own milestoneIndex userId) := by
  refine recordingFindOne fun m unfilled => ?_
  split
  · exact fun _ => trivial
  · refine harmlessBind (recordingRoutine (routineReviewable self _ _)) fun _ => harmlessBind (recordingReads (readsFindOr _ _)) fun engagement => ?_
    refine harmlessBind (recordingRoutine (routineApproveOnce _ _)) fun _ => harmlessBind (recordingReads (readsFind _ _)) fun count => ?_
    split
    · exact fun _ => trivial
    · refine harmlessBind (recordingPayOut self _ _ unfilled) fun updated => ?_
      exact recordingReads (readsBind readsCreateNotification fun _ => trivial)

theorem recordingHandler (request : Request) : Harmless (recording engagementId) (handler self request) := by
  cases request with
  | create => exact harmlessBind (recordingCreate self _ _) fun _ _ => trivial
  | acceptInvite => exact harmlessBind (recordingAcceptInvite _ _) fun _ _ => trivial
  | submitProof => exact harmlessBind (recordingRoutine (routineSubmitProof _ _ _ _)) fun _ _ => trivial
  | approveMilestone => exact harmlessBind (recordingApproveMilestone self _ _ _ _) fun _ _ => trivial
  | confirmFlow => exact harmlessBind (recordingConfirmFlow self _ _ _) fun _ _ => trivial
  | unlockRetentionOnChain => exact recordingRoutine (routineUnlockRetention _)

end Calls

section Runs

theorem splitNothing (percents : List Int) : ∀ share ∈ splitByPercent 0 percents, share = 0 := by
  suffices shares : ∀ allocated : Int, allocated = 0 → ∀ share ∈ splitAmounts 0 allocated percents, share = 0 from shares 0 rfl
  induction percents with
  | nil => exact fun _ _ share inside => absurd inside List.not_mem_nil
  | cons percent rest ih =>
    intro allocated nothing share inside
    cases rest with
    | nil =>
      rw [List.mem_singleton.mp inside,nothing]
      rfl
    | cons next rest =>
      have first : (0 * percent : Int).tdiv 100 = 0 := by rw [Int.zero_mul,Int.zero_tdiv]
      rcases List.mem_cons.mp inside with rfl | later
      · exact first
      · exact ih _ (by rw [first,nothing]; rfl) share later

theorem releasedNothing {db : Db} {engagementId : String} (unfilled : Unfilled engagementId db) : released engagementId db = 0 := by
  refine List.sum_eq_zero fun amount inside => ?_
  obtain ⟨m,listed,rfl⟩ := List.mem_map.mp inside
  obtain ⟨there,mine⟩ := List.mem_filter.mp listed
  exact (unfilled m there (of_decide_eq_true mine)).2

def invite : CreateEngagementDto where
  engagementId := "e"
  companyAddress := "GC"
  recruiterAddress := "GR"
  arbiterAddress := "GA"
  tokenAddress := "USDC"
  totalAmount := some 1000
  jobTitle := some "Engineer"
  milestones := some [
    { name := "placed", kind := .placement, paymentPercent := 60 },
    { name := "retained", kind := .retention, paymentPercent := 40 }]

def served (thread : Nat) (text : String) (request : Request) : List PayoutMove :=
  .start request :: (List.replicate 12 { number := 1000, text := text }).map (.answer thread)

def placed (thread milestoneIndex : Nat) : List PayoutMove :=
  served thread s!"v{milestoneIndex}" (.submitProof "e" milestoneIndex { stellarAddress := some "GR" } { proofHash := some "p" }) ++
  served (thread + 1) "tx" (.approveMilestone "e" milestoneIndex "c" none)

/-- Both milestones are confirmed, the retention after its unlock. -/
def confirmedBoth : List PayoutMove :=
  served 0 "m" (.create "c" invite) ++ served 1 "tx" (.acceptInvite "e" (some "GR")) ++ placed 2 0 ++
  served 4 "tx" (.unlockRetentionOnChain "m/1") ++ placed 5 1

def accepted : Engagement where
  id := "e"
  companyAddress := "GC"
  recruiterAddress := "GR"
  arbiterAddress := "GA"
  tokenAddress := "USDC"
  totalAmount := 1000
  jobTitle := "Engineer"
  txHash := some "tx"
  createdLedger := some 1000

end Runs

end HireSettle.Escrow.RecordedPayouts
