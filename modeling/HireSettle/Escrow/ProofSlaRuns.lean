import HireSettle.Escrow.CallEffects
import HireSettle.Escrow.LiveEngagements
import HireSettle.Escrow.ProofApprovals
import HireSettle.Escrow.ProofSla
import HireSettle.Workflow.Guards

/-! Runs of the review deadlines beside reviews and disputes. Each step is taken on the
row of the version, so no two runs make it; what it is for was read before, together
with the status of the milestone. A payout that fails gives its step back. -/
namespace HireSettle.Escrow.ProofSlaRuns
open Workflow ProofApprovals MilestonesService MilestoneProofSlaService

inductive Request where
  | runProofSlaChecks
  | rejectProof (engagementId : String) (milestoneIndex : Nat) (user : PartyUser) (reason : String) (versionNumber : Option Nat)
  | approveMilestone (engagementId : String) (milestoneIndex : Nat) (userId : String) (proofVersion : Option Nat)
  | disputeFlow (engagementId : String) (milestoneIndex : Nat) (reason : String)

variable (self : Config)

def handler : Request → Op Unit
  | .runProofSlaChecks => do let _ ← runProofSlaChecks
  | .rejectProof engagementId milestoneIndex user reason versionNumber => do
      let _ ← ProofVersionsService.rejectProof engagementId milestoneIndex user reason versionNumber
  | .approveMilestone engagementId milestoneIndex userId proofVersion => do
      let _ ← approveMilestone self engagementId milestoneIndex userId proofVersion
  | .disputeFlow engagementId milestoneIndex reason => do let _ ← disputeFlow self engagementId milestoneIndex reason

def service : System Request Nat Site Answer Db Exception Unit where
  handler := handler self
  environment elapsed db := { db with clock := db.clock + elapsed }

abbrev SlaMove := Move Request Nat Answer

/-- The steps that a version has behind it. -/
structure Steps where
  half : Bool
  ninety : Bool
  expired : Bool

def steps (v : MilestoneProofVersion) : Steps := ⟨v.reminder50SentAt.isSome,v.reminder90SentAt.isSome,v.slaExpiredAt.isSome⟩

def stepsOf (db : Db) (id : String) : Option Steps := (db.proofVersions.get? id).map steps

/-- A call takes a step of the version. -/
def takes (step : Steps → Bool) (id : String) (e : EscrowEvent) : Bool :=
  e.site = .claimProofSla id && (stepsOf e.before id).any (fun steps => !step steps) && (stepsOf e.after id).any step

def takes90 (id : String) (e : EscrowEvent) : Bool := takes Steps.ninety id e

-- the 90% reminder covers the other one
def takes50 (id : String) (e : EscrowEvent) : Bool := takes Steps.half id e && !takes90 id e

def expires (id : String) (e : EscrowEvent) : Bool := takes Steps.expired id e

/-- The call after a step has been taken. -/
def Reminds (step : EscrowEvent → Bool) (earlier : List EscrowEvent) (e : EscrowEvent) : Prop := ∃ d ∈ previous earlier e, step d = true

/-- The payout, or the call to the admins, that the deadline of the version leads to. -/
def Concludes (id : String) (earlier : List EscrowEvent) (e : EscrowEvent) : Prop :=
  (∃ d ∈ previous earlier e, expires id d = true) ∧ e.answer.fails = false

/-- The auto-approval of the version makes the payout of the milestone. -/
def Pays (id engagementId : String) (milestoneIndex : Nat) (earlier : List EscrowEvent) (e : EscrowEvent) : Prop :=
  e.site = .releaseMilestonePayment engagementId milestoneIndex ∧ ∃ d ∈ previous earlier e, expires id d = true

def Submitted (engagementId : String) (milestoneIndex : Nat) (db : Db) : Prop :=
  ∃ m ∈ db.milestones.rows, m.engagementId = engagementId ∧ m.milestoneIndex = milestoneIndex ∧ m.status = .proofSubmitted

structure Fires (id : String) (history : List EscrowEvent) : Prop where
  reminder50 : AtMostOnce (Reminds (takes50 id)) history
  reminder90 : AtMostOnce (Reminds (takes90 id)) history
  ordered : AllMeet (fun earlier e => Reminds (takes50 id) earlier e → ∀ older d, d :: older <:+ earlier → ¬ Reminds (takes90 id) older d) history
  deadline : AtMostOnce (Concludes id) history
  submitted : AllMeet (fun earlier e => ∀ engagementId milestoneIndex, Pays id engagementId milestoneIndex earlier e →
    Submitted engagementId milestoneIndex e.before) history

/-- No 90% reminder goes out between the 50% step of a run and its reminder, and no call
between the read of a run and its payout takes the milestone out of PROOF_SUBMITTED. -/
structure Undisturbed (id : String) (earlier : List EscrowEvent) (e : EscrowEvent) : Prop where
  reminders : Reminds (takes50 id) earlier e →
    AllMeet (fun older d => ¬ Reminds (takes90 id) older d) (earlier.takeWhile fun d => d.thread ≠ e.thread)
  milestone : ∀ engagementId milestoneIndex, Pays id engagementId milestoneIndex earlier e →
    ∀ d ∈ earlier.takeWhile (fun d => !(d.thread = e.thread && d.site = .find .proofVersion)),
      Submitted engagementId milestoneIndex d.before → Submitted engagementId milestoneIndex d.after

section Calls

variable {own : List EscrowEvent} {e : EscrowEvent} {db db' : Db} {id : String}

def expired (db : Db) (id : String) : Bool := (stepsOf db id).any Steps.expired

/-- A reminder stays sent. -/
def Reminded (id : String) (db db' : Db) : Prop := ∀ steps, stepsOf db id = some steps →
  ∃ steps', stepsOf db' id = some steps' ∧ (steps.half = true → steps'.half = true) ∧ (steps.ninety = true → steps'.ninety = true)

/-- What a call does to the deadline: a run gives back what it took before its payout failed. -/
inductive Deadline (id : String) (own : List EscrowEvent) (e : EscrowEvent) : Prop where
  | same (same : expired e.after id = expired e.before id)
  | taken (taken : expires id e = true)
  | released (payout d : EscrowEvent) (rest : List EscrowEvent) (engagementId : String) (milestoneIndex : Nat)
      (made : own = payout :: d :: rest) (here : payout.site = .releaseMilestonePayment engagementId milestoneIndex)
      (failed : payout.answer.fails = true) (taken : expires id d = true) (site : ∀ id, e.site ≠ .claimProofSla id)

/-- What the last read of the versions has left. -/
def Reading (read : Db) (own : List EscrowEvent) : Prop :=
  (own.find? fun e => e.site = .find .proofVersion).map Event.after = some read

structure Guard (own : List EscrowEvent) (e : EscrowEvent) : Prop where
  reminded : ∀ id, Reminded id e.before e.after
  covers : ∀ id, takes90 id e = true → ∀ steps ∈ stepsOf e.after id, steps.half = true
  deadline : ∀ id, Deadline id own e
  paid : ∀ id engagementId milestoneIndex, e.site = .releaseMilestonePayment engagementId milestoneIndex →
    (∃ d ∈ own.head?, expires id d = true) → ∃ read, Reading read own ∧ Submitted engagementId milestoneIndex read
  submitted : ∀ engagementId milestoneIndex, Submitted engagementId milestoneIndex e.after → Submitted engagementId milestoneIndex e.before

/-- A call that leaves the steps of all versions alone, and submits no proof. -/
structure Passes (site : Site) (db db' : Db) : Prop where
  unclaimed : ∀ id, site ≠ .claimProofSla id
  steps : ∀ id, stepsOf db' id = stepsOf db id
  submitted : ∀ engagementId milestoneIndex, Submitted engagementId milestoneIndex db' → Submitted engagementId milestoneIndex db

theorem remindedRefl (same : stepsOf db' id = stepsOf db id) : Reminded id db db' :=
  fun steps found => ⟨steps,same.trans found,fun there => there,fun there => there⟩

theorem remindedTrans {a b c : Db} (first : Reminded id a b) (second : Reminded id b c) : Reminded id a c := by
  intro steps found
  obtain ⟨steps',found',half,ninety⟩ := first steps found
  obtain ⟨steps'',found'',half',ninety'⟩ := second steps' found'
  exact ⟨steps'',found'',fun there => half' (half there),fun there => ninety' (ninety there)⟩

theorem takesSite {step : Steps → Bool} (takes : takes step id e = true) : e.site = .claimProofSla id := by
  simp only [ProofSlaRuns.takes,Bool.and_eq_true,decide_eq_true_eq] at takes
  exact takes.1.1

theorem takesIff {step : Steps → Bool} : takes step id e = true ↔ e.site = .claimProofSla id ∧
    (∃ steps, stepsOf e.before id = some steps ∧ step steps = false) ∧ ∃ steps, stepsOf e.after id = some steps ∧ step steps = true := by
  simp only [takes,Bool.and_eq_true,decide_eq_true_eq,Option.any_eq_true,Bool.not_eq_true',and_assoc]

theorem takesElsewhere {step : Steps → Bool} (elsewhere : e.site ≠ .claimProofSla id) : takes step id e = false :=
  Bool.eq_false_of_not_eq_true fun taken => elsewhere (takesSite taken)

theorem guardPasses (passes : Passes e.site e.before e.after)
    (paid : ∀ id engagementId milestoneIndex, e.site = .releaseMilestonePayment engagementId milestoneIndex →
      (∃ d ∈ own.head?, expires id d = true) →
      ∃ read, Reading read own ∧ Submitted engagementId milestoneIndex read) : Guard own e := by
  refine ⟨fun id => remindedRefl (passes.steps id),fun id taken => ?_,fun id => .same ?_,paid,passes.submitted⟩
  · exact absurd (takesSite taken) (passes.unclaimed id)
  · rw [expired,passes.steps]
    rfl

theorem submittedSame (same : db'.milestones = db.milestones) (engagementId : String) (milestoneIndex : Nat)
    (submitted : Submitted engagementId milestoneIndex db') : Submitted engagementId milestoneIndex db := by
  rwa [Submitted,same] at submitted

theorem takesStill {step : Steps → Bool} (same : e.after = e.before) : takes step id e = false := by
  rw [takes,same]
  cases stepsOf e.before id with
  | none => simp
  | some steps => cases step steps <;> simp

theorem guardStill (same : e.after = e.before)
    (unpaid : ∀ engagementId milestoneIndex, e.site ≠ .releaseMilestonePayment engagementId milestoneIndex) : Guard own e := by
  have still : ∀ id, stepsOf e.after id = stepsOf e.before id := fun id => by rw [same]
  refine ⟨fun id => remindedRefl (still id),fun id taken => ?_,fun id => .same ?_,fun _ _ _ paid => ?_,?_⟩
  · cases (takesStill same).symm.trans taken
  · rw [expired,same]
    rfl
  · exact absurd paid (unpaid _ _)
  · exact submittedSame (congrArg Db.milestones same)

theorem stepsUpdated {p : MilestoneProofVersion → Bool} {f : MilestoneProofVersion → MilestoneProofVersion} {keys : ∀ v, (f v).id = v.id}
    (versions : db'.proofVersions = db.proofVersions.updateMany p f keys) (id : String) :
    stepsOf db' id = (db.proofVersions.get? id).map fun v => steps (if p v then f v else v) := by
  rw [stepsOf,versions,Table.getUpdateMany,Option.map_map]
  rfl

theorem stepsSame {p : MilestoneProofVersion → Bool} {f : MilestoneProofVersion → MilestoneProofVersion} {keys : ∀ v, (f v).id = v.id}
    (same : ∀ v, steps (f v) = steps v) (versions : db'.proofVersions = db.proofVersions.updateMany p f keys) (id : String) :
    stepsOf db' id = stepsOf db id := by
  rw [stepsUpdated versions]
  refine Option.map_congr fun v _ => ?_
  split
  · exact same v
  · rfl

theorem submittedRestates {milestoneId : String} {status : MilestoneStatus} (other : status ≠ .proofSubmitted)
    (restates : Restates milestoneId (fun _ => status) db db') (engagementId : String) (milestoneIndex : Nat)
    (submitted : Submitted engagementId milestoneIndex db') : Submitted engagementId milestoneIndex db := by
  obtain ⟨f,keeps,same,rfl⟩ := restates
  obtain ⟨m,inside,engagement,index,here⟩ := submitted
  obtain ⟨old,there,rfl⟩ := (Table.memUpdateMany keeps).mp inside
  split at here
  · exact absurd ((same old).2.symm.trans here) other
  · rename_i apart
    rw [if_neg apart] at engagement index
    exact ⟨old,there,engagement,index,here⟩

end Calls

section Reviews

variable {α : Type} {own : List EscrowEvent}

/-- The calls of a review or a dispute that write no version. -/
def reviews : Site → Bool
  | .proofRejected _ | .deleteApprovals _ | .createApproval _ | .releaseMilestonePayment _ _ | .markConfirmed _ _
  | .markDisputed _ _ | .openDispute _ | .assignArbiter _ => true
  | site => site.reads

theorem reviewsReads (site : Site) (reads : site.reads = true) : reviews site = true := by
  cases site <;> first | rfl | cases reads

theorem passesReviews {site : Site} {db db' : Db} (within : Within reviews site db db') : Passes site db db' := by
  obtain ⟨here,effect⟩ := within
  have unclaimed : ∀ id, site ≠ .claimProofSla id := by
    rintro id rfl
    cases here
  have unwritten : ∀ id, site ≠ .writeProofVersion id := by
    rintro id rfl
    cases here
  refine ⟨unclaimed,fun id => ?_,?_⟩
  · rw [stepsOf,versionsStay effect unwritten unclaimed]
    rfl
  · by_cases restates : site.restates = true
    · obtain rfl | effect := effect
      · exact fun _ _ submitted => submitted
      · cases site with
        | proofRejected => exact submittedRestates (by nofun) effect
        | markConfirmed | markDisputed =>
          obtain ⟨m,_,moved⟩ := effect
          exact submittedRestates (by nofun) moved
        | _ => first | (cases here; done) | cases restates
    · exact submittedSame (milestonesStay effect (Bool.eq_false_of_not_eq_true restates))

theorem passing {p : Op α} (acts : Acts (Within reviews) p) : Acts Passes p := actsMono (fun _ _ _ => passesReviews) acts

theorem passingReads {p : Op α} (reads : Reads Site.reads p) : Acts Passes p := passing (actsReads reviewsReads reads)

theorem passesWrite {milestoneId : String} {p : MilestoneProofVersion → Bool} {f : MilestoneProofVersion → MilestoneProofVersion}
    {keys : ∀ v, (f v).id = v.id} (same : ∀ v, steps (f v) = steps v) {db db' : Db}
    (made : db' = { db with proofVersions := db.proofVersions.updateMany p f keys }) : Passes (.writeProofVersion milestoneId) db db' := by
  have versions : db'.proofVersions = db.proofVersions.updateMany p f keys := congrArg Db.proofVersions made
  have milestones : db'.milestones = db.milestones := by rw [made]
  exact ⟨fun _ => nofun,stepsSame same versions,submittedSame milestones⟩

theorem passesStill (milestoneId : String) (db : Db) : Passes (.writeProofVersion milestoneId) db db :=
  ⟨fun _ => nofun,fun _ => rfl,submittedSame rfl⟩

theorem passingRejectProof (engagementId : String) (milestoneIndex : Nat) (user : PartyUser) (reason : String) (versionNumber : Option Nat) :
    Acts Passes (ProofVersionsService.rejectProof engagementId milestoneIndex user reason versionNumber) := by
  refine actsBind (passingReads (readsFindOr _ _)) fun found => actsBind (actsRequirePartyRole _ _ _ _) fun _ => ?_
  split
  · trivial
  · refine actsBind (passingReads (readsAssertReviewable _)) fun latest => ?_
    split
    · trivial
    · refine actsBind (passingReads readsNow) fun at' => actsBind (actsTransact (passesStill _) fun i db value db' ok => ?_) fun count => ?_
      · split at ok
        · contradiction
        · cases ok
          refine passesWrite ?_ rfl
          exact fun _ => rfl
      · split
        · trivial
        · refine passing (actsBind ?_ fun updated => actsBind ?_ fun _ => actsReads reviewsReads (readsBind readsNotify fun _ => trivial))
          · refine actsWrite rfl fun i db value db' ok => restates ?_ ok
            exact fun _ => ⟨⟨rfl,rfl,rfl⟩,rfl⟩
          · refine actsWrite rfl fun i db value db' ok => ?_
            cases ok
            rfl

theorem passingMarkApproved (milestoneId : String) (reviewedById : Option String) :
    Acts Passes (ProofVersionsService.markApproved milestoneId reviewedById) := by
  refine actsBind (passingReads (readsFind _ _)) fun found => ?_
  split
  · trivial
  · split
    · trivial
    · refine actsBind (passingReads readsNow) fun at' => actsBind (actsTransact (passesStill _) fun i db value db' ok => ?_) fun _ => trivial
      split at ok
      · contradiction
      · obtain ⟨_,found,rest⟩ := exceptBind.mp ok
        obtain ⟨_,_,rfl⟩ := Db.requiredModify found
        cases rest
        refine passesWrite ?_ rfl
        exact fun _ => rfl

variable (self : Config)

theorem passingApproveMilestone (engagementId : String) (milestoneIndex : Nat) (userId : String) (proofVersion : Option Nat) :
    Acts Passes (approveMilestone self engagementId milestoneIndex userId proofVersion) := by
  refine actsBind (passingReads (readsFindOr _ _)) fun m => ?_
  split
  · trivial
  · refine actsBind (passingReads (readsReviewable _ _ _)) fun _ => actsBind (passingReads (readsFindOr _ _)) fun engagement => ?_
    refine actsBind (passingReads (readsFind _ _)) fun existing => ?_
    split
    · trivial
    · refine actsBind (passing (actsCreateApproval rfl _)) fun _ => actsBind (passingReads (readsFind _ _)) fun count => ?_
      split
      · trivial
      · refine actsBind (actsBind (passing (actsStellar rfl _)) fun _ => ?_) fun updated => ?_
        · refine actsBind (passing (actsMarkConfirmed reviewsReads rfl _)) fun updated => actsBind ?_ fun _ => trivial
          unfold MilestonesService.markApproved
          split
          · exact passingMarkApproved _ _
          · trivial
        · split
          · trivial
          · exact passingReads (readsBind readsCreateNotification fun _ => trivial)

theorem guardedPassing {p : Op α} (acts : Acts Passes p) : Guarded Guard anyOutcome p [] := by
  refine guardedAny (guardedActs (fun later e before here => guardPasses here fun id _ _ _ taken => ?_) acts)
  obtain ⟨d,last,taken⟩ := taken
  rw [List.append_nil] at last
  exact absurd (takesSite taken) ((before d (List.mem_of_head? last)).unclaimed id)

end Reviews

section Checks

variable {own : List EscrowEvent} {read : Db}

/-- What a run asks of the row of a step, and what it writes there. -/
structure Marks (p : MilestoneProofVersion → Bool) (data : MilestoneProofVersion → MilestoneProofVersion) : Prop where
  half : ∀ v, (steps v).half = true → (steps (data v)).half = true
  ninety : ∀ v, (steps v).ninety = true → (steps (data v)).ninety = true
  covers : ∀ v, (steps v).ninety = false → (steps (data v)).ninety = true → (steps (data v)).half = true
  deadline : ∀ v, p v = true → (steps (data v)).expired = (steps v).expired ∨ (steps v).expired = false ∧ (steps (data v)).expired = true

theorem takesMatched {id : String} {e : EscrowEvent} {step : Steps → Bool} {p : MilestoneProofVersion → Bool}
    {data : MilestoneProofVersion → MilestoneProofVersion} {keys : ∀ v, (data v).id = v.id}
    (versions : e.after.proofVersions = e.before.proofVersions.updateMany p data keys) {row : MilestoneProofVersion}
    (found : e.before.proofVersions.get? id = some row) :
    takes step id e = (e.site = .claimProofSla id && (!step (steps row)) && step (steps (if p row then data row else row))) := by
  rw [takes,stepsUpdated versions,stepsOf,found]
  rfl

theorem guardMarks {id : String} {e : EscrowEvent} {p : MilestoneProofVersion → Bool}
    {data : MilestoneProofVersion → MilestoneProofVersion} {keys : ∀ v, (data v).id = v.id} (here : e.site = .claimProofSla id)
    (its : ∀ v, p v = true → v.id = id) (marks : Marks p data)
    (versions : e.after.proofVersions = e.before.proofVersions.updateMany p data keys)
    (milestones : e.after.milestones = e.before.milestones) : Guard own e := by
  refine ⟨fun id' steps' found => ?_,fun id' taken => ?_,fun id' => ?_,fun _ _ _ paid => ?_,submittedSame milestones⟩
  · obtain ⟨row,stored,rfl⟩ := Option.map_eq_some_iff.mp found
    refine ⟨_,by rw [stepsUpdated versions,stored]; rfl,?_⟩
    dsimp only
    split
    · exact ⟨marks.half row,marks.ninety row⟩
    · exact ⟨fun there => there,fun there => there⟩
  · intro steps' after
    rw [stepsUpdated versions] at after
    obtain ⟨row,stored,rfl⟩ := Option.map_eq_some_iff.mp after
    rw [takes90,takesMatched versions stored] at taken
    simp only [Bool.and_eq_true,Bool.not_eq_true'] at taken
    obtain ⟨⟨_,free⟩,taken⟩ := taken
    by_cases matched : p row = true
    · rw [if_pos matched] at taken ⊢
      exact marks.covers row free taken
    · rw [if_neg matched,free] at taken
      cases taken
  · cases stored : e.before.proofVersions.get? id' with
    | none =>
      refine .same ?_
      rw [expired,expired,stepsUpdated versions,stepsOf,stored]
      rfl
    | some row =>
      have after : expired e.after id' = (steps (if p row then data row else row)).expired := by
        rw [expired,stepsUpdated versions,stored]
        rfl
      have before : expired e.before id' = (steps row).expired := by
        rw [expired,stepsOf,stored]
        rfl
      by_cases matched : p row = true
      · obtain same | ⟨free,taken⟩ := marks.deadline row matched
        · exact .same (by rw [after,before,if_pos matched,same])
        · have same : id' = id := (Table.getKey stored).symm.trans (its row matched)
          exact .taken (by rw [expires,takesMatched versions stored,if_pos matched,same,here,free,taken]; simp)
      · exact .same (by rw [after,before,if_neg matched])
  · cases here.symm.trans paid

/-- The reads of a run after the one of the versions. -/
def aside (site : Site) : Bool := site.reads && site ≠ .find .proofVersion

theorem guardedReads {α : Type} {sites : Site → Bool} (included : ∀ site, sites site = true → site.reads = true) {p : Op α}
    (reads : Reads sites p) : Guarded Guard (fun own' _ => ∃ later, own' = later ++ own ∧ ∀ e ∈ later, sites e.site = true) p own := by
  refine guardedMono ?_ (guardedActs (fun later e _ here => ?_) (actsSteps reads))
  · rintro own' out ⟨later,rfl,each⟩
    exact ⟨later,rfl,fun e inside => (each e inside).1⟩
  · obtain ⟨thread,site,i,db,db'⟩ := e
    obtain ⟨here,same⟩ := here
    refine guardStill same.symm fun _ _ paid => ?_
    cases paid
    cases included _ here

theorem readingCons {e : EscrowEvent} (elsewhere : e.site ≠ .find .proofVersion) (reading : Reading read own) : Reading read (e :: own) := by
  rwa [Reading,List.find?_cons_of_neg (by simpa using elsewhere)]

theorem guardedAside {α : Type} {p : Op α} (reads : Reads aside p) (reading : Reading read own) :
    Guarded Guard (fun own' _ => Reading read own') p own := by
  refine guardedMono ?_ (guardedReads (fun site here => (Bool.and_eq_true_iff.mp here).1) reads)
  rintro own' out ⟨later,rfl,each⟩
  induction later with
  | nil => exact reading
  | cons e later ih =>
    refine readingCons ?_ (ih fun e inside => each e (List.mem_cons_of_mem _ inside))
    exact of_decide_eq_true (Bool.and_eq_true_iff.mp (each e List.mem_cons_self)).2

theorem guardedClaim {β : Type} {id : String} {free : MilestoneProofVersion → Bool} {data : MilestoneProofVersion → MilestoneProofVersion}
    {keys : ∀ v, (data v).id = v.id} {k : Bool → Op β} (marks : Marks (fun row => row.id = id && row.status = .submitted && free row) data)
    (reading : Reading read own)
    (lost : ∀ own, Reading read own → Guarded Guard (fun own' _ => Reading read own') (k false) own)
    (won : ∀ (e : EscrowEvent) row, e.site = .claimProofSla id → e.before.proofVersions.get? id = some row → free row = true →
      e.after.proofVersions.get? id = some (data row) → Reading read (e :: own) →
      Guarded Guard (fun own' _ => Reading read own') (k true) (e :: own)) :
    Guarded Guard (fun own' _ => Reading read own') (claim id free data keys >>= k) own := by
  have reading' : ∀ e : EscrowEvent, e.site = .claimProofSla id → Reading read (e :: own) :=
    fun e here => readingCons (by rw [here]; nofun) reading
  refine guardedBind (guardedTransact (fun thread i db value db' ok => ?_) fun thread i db error _ => ⟨?_,reading' _ rfl⟩)
  · split at ok
    · contradiction
    · cases ok
      refine ⟨@guardMarks own id _ _ data keys rfl (fun v matched => ?_) marks rfl rfl,?_⟩
      · simp only [Bool.and_eq_true,decide_eq_true_eq] at matched
        exact matched.1.1
      · dsimp only
        by_cases several : 0 < db.proofVersions.count fun row => row.id = id && row.status = .submitted && free row
        · simp only [several,decide_true]
          obtain ⟨key,row,stored,matched⟩ := Table.countPos.mp several
          have its := matched
          simp only [Bool.and_eq_true,decide_eq_true_eq] at its
          have stored : db.proofVersions.get? id = some row := by rw [← its.1.1]; exact Table.memGet (Table.getMem stored)
          refine won _ row rfl stored its.2 ?_ (reading' _ rfl)
          dsimp only
          rw [Table.getUpdateMany,stored,Option.map_some,if_pos matched]
        · simp only [several,decide_false]
          exact lost _ (reading' _ rfl)
  · exact guardStill rfl fun _ _ paid => by cases paid

/-- The step that is given back after the payout has failed. -/
theorem guardReleased {milestoneId id : String} {f : MilestoneProofVersion → MilestoneProofVersion} (keys : ∀ v, (f v).id = v.id)
    {e payout d : EscrowEvent} {rest : List EscrowEvent} {engagementId : String} {milestoneIndex : Nat} (here : e.site = .writeProofVersion milestoneId)
    (made : payout.site = .releaseMilestonePayment engagementId milestoneIndex) (failed : payout.answer.fails = true)
    (taken : expires id d = true) (kept : ∀ v, (steps (f v)).half = (steps v).half ∧ (steps (f v)).ninety = (steps v).ninety)
    (versions : e.after.proofVersions = e.before.proofVersions.update id f keys) (milestones : e.after.milestones = e.before.milestones) :
    Guard (payout :: d :: rest) e := by
  have unclaimed : ∀ id, e.site ≠ .claimProofSla id := fun id => by rw [here]; nofun
  refine ⟨fun id' steps' found => ?_,fun id' taken => ?_,fun id' => ?_,fun _ _ _ paid => ?_,submittedSame milestones⟩
  · obtain ⟨row,stored,rfl⟩ := Option.map_eq_some_iff.mp found
    refine ⟨_,by rw [stepsUpdated versions,stored]; rfl,?_⟩
    dsimp only
    split
    · exact ⟨fun there => (kept row).1.trans there,fun there => (kept row).2.trans there⟩
    · exact ⟨fun there => there,fun there => there⟩
  · exact absurd (takesSite taken) (unclaimed id')
  · by_cases same : id' = id
    · subst same
      exact .released payout d rest _ _ rfl made failed taken unclaimed
    · refine .same ?_
      rw [expired,expired,stepsOf,versions,Table.getUpdateOther _ same]
      rfl
  · cases here.symm.trans paid

theorem guardedWrite {α : Type} {site : Site} {f : Answer → Db → Except Exception (α × Db)} (unread : site ≠ .find .proofVersion)
    (unpaid : ∀ engagementId milestoneIndex, site ≠ .releaseMilestonePayment engagementId milestoneIndex)
    (passes : ∀ i db value db', f i db = .ok (value,db') → Passes site db db') (reading : Reading read own) :
    Guarded Guard (fun own' _ => Reading read own') (write site f) own := by
  refine guardedTransact (fun thread i db value db' ok => ⟨?_,readingCons unread reading⟩)
    fun thread i db error _ => ⟨guardStill rfl unpaid,readingCons unread reading⟩
  split at ok
  · contradiction
  · exact guardPasses (passes i db value db' ok) fun _ _ _ paid => absurd paid (unpaid _ _)

theorem guardedRelease {milestoneId id : String} {f : MilestoneProofVersion → MilestoneProofVersion} {keys : ∀ v, (f v).id = v.id}
    {payout d : EscrowEvent} {rest : List EscrowEvent} {engagementId : String} {milestoneIndex : Nat}
    (made : payout.site = .releaseMilestonePayment engagementId milestoneIndex) (failed : payout.answer.fails = true)
    (taken : expires id d = true) (kept : ∀ v, (steps (f v)).half = (steps v).half ∧ (steps (f v)).ninety = (steps v).ninety)
    (reading : Reading read (payout :: d :: rest)) :
    Guarded Guard (fun own' _ => Reading read own') (ProofVersionsService.updateVersion milestoneId id f keys) (payout :: d :: rest) := by
  refine guardedTransact (fun thread i db value db' ok => ⟨?_,readingCons nofun reading⟩)
    fun _ _ _ _ _ => ⟨guardStill rfl nofun,readingCons nofun reading⟩
  split at ok
  · contradiction
  · obtain ⟨_,found,rest⟩ := exceptBind.mp ok
    obtain ⟨_,_,rfl⟩ := Db.requiredModify found
    cases rest
    exact guardReleased keys rfl made failed taken kept rfl rfl

theorem guardedAutoApprove {pending : PendingVersion} {at' : Nat} {d : EscrowEvent} (inside : pending ∈ read.pendingVersions)
    (taken : expires pending.version.id d = true) (reading : Reading read (d :: own)) :
    Guarded Guard (fun own' _ => Reading read own') (autoApprove pending at') (d :: own) := by
  refine guardedBind (guardedHandle (guardedQuery fun thread i db => ⟨?_,?_⟩))
  · refine guardPasses ⟨nofun,fun _ => rfl,submittedSame rfl⟩ fun id engagementId milestoneIndex paid _ => ⟨read,reading,?_⟩
    cases paid
    obtain ⟨there,submitted⟩ := LiveEngagements.pendingSubmitted inside
    exact ⟨_,there,rfl,rfl,submitted⟩
  · have reading := readingCons (e := ⟨thread,.releaseMilestonePayment pending.milestone.engagementId pending.milestone.milestoneIndex,i,db,db⟩)
      nofun reading
    by_cases failed : i.fails = true
    · rw [if_pos failed]
      refine guardedBind (guardedMono ?_ (guardedRelease rfl failed taken ?_ reading))
      · intro own out reading
        cases out <;> exact reading
      · exact fun _ => ⟨rfl,rfl⟩
    · rw [if_neg failed]
      refine guardedBind (guardedBind (guardedQuery fun thread' i' db' => ⟨guardStill rfl nofun,?_⟩))
      refine guardedMono ?_ (guardedWrite nofun nofun (fun i db value db' ok => ?_) (readingCons nofun reading))
      · intro own out reading
        cases out with
        | error error => exact reading
        | ok m =>
          refine guardedBind (guardedMono ?_ (guardedWrite nofun nofun (fun i db value db' ok => ?_) reading))
          · intro own out reading
            cases out with
            | error error => exact reading
            | ok version => exact guardedAside (readsBind (readsQuery rfl _) fun _ => readsQuery rfl _) reading
          · obtain ⟨_,found,rest⟩ := exceptBind.mp ok
            obtain ⟨_,_,rfl⟩ := Db.requiredModify found
            cases rest
            refine passesWrite ?_ rfl
            exact fun _ => rfl
      · refine passesReviews ⟨rfl,Or.inr (restatesAt ?_ ok)⟩
        exact fun _ => ⟨⟨rfl,rfl,rfl⟩,rfl⟩

theorem readsEscalate : Reads aside escalate :=
  readsBind (readsQuery rfl _) fun _ => readsBind (stepsForEach (fun _ => readsQuery rfl _) _) fun _ => readsQuery rfl _

theorem guardedExpire {pending : PendingVersion} (inside : pending ∈ read.pendingVersions) (action : ProofSlaAction) (at' : Nat)
    (summary : ProofSlaRunSummary) (reading : Reading read own) :
    Guarded Guard (fun own' _ => Reading read own') (expire pending action at' summary) own := by
  refine guardedClaim ⟨fun _ here => here,fun _ here => here,fun v free taken => ?_,fun v matched => ?_⟩ reading ?_ ?_
  · cases free.symm.trans taken
  · simp only [Bool.and_eq_true,Option.isNone_iff_eq_none] at matched
    exact Or.inr ⟨by simp [steps,matched.2],rfl⟩
  · exact fun _ reading => reading
  · intro e row here stored free after reading
    have taken : expires pending.version.id e = true := by
      rw [Option.isNone_iff_eq_none] at free
      simp [expires,takes,stepsOf,here,stored,after,steps,free]
    split
    · exact reading
    · cases action with
      | autoApprove =>
        refine guardedBind (guardedMono ?_ (guardedAutoApprove inside taken reading))
        intro own out reading
        cases out <;> exact reading
      | escalateToAdmin => exact guardedAside (readsBind readsEscalate fun _ => trivial) reading

theorem guardedCheck {pending : PendingVersion} (inside : pending ∈ read.pendingVersions) (at' : Nat) (summary : ProofSlaRunSummary)
    (reading : Reading read own) : Guarded Guard (fun own' _ => Reading read own') (check at' summary pending) own := by
  have reminds : ∀ {own} (summary' : ProofSlaRunSummary), Reading read own →
      Guarded Guard (fun own' _ => Reading read own') (do
        notify
        return summary' : Op ProofSlaRunSummary) own :=
    fun _ reading => guardedAside (readsBind (readsQuery rfl _) fun _ => trivial) reading
  have evaluates : Guarded Guard (fun own' _ => Reading read own') (evaluate at' summary pending) own := by
    unfold evaluate
    split
    · exact guardedExpire inside _ at' summary reading
    · split
      · refine guardedClaim ⟨fun _ _ => ?_,fun _ _ => rfl,fun _ _ _ => ?_,fun _ _ => Or.inl rfl⟩ reading (fun _ reading => reading) ?_
        · cases pending.version.reminder50SentAt <;> rfl
        · cases pending.version.reminder50SentAt <;> rfl
        · exact fun e row _ _ _ _ reading => reminds _ reading
      · split
        · refine guardedClaim ⟨fun _ _ => rfl,fun _ here => here,fun _ free taken => ?_,fun _ _ => Or.inl rfl⟩ reading (fun _ reading => reading) ?_
          · cases free.symm.trans taken
          · exact fun e row _ _ _ _ reading => reminds _ reading
        · exact reading
  refine guardedHandle (guardedMono ?_ evaluates)
  intro own out reading
  cases out <;> exact reading

theorem guardedRunProofSlaChecks : Guarded Guard anyOutcome runProofSlaChecks [] := by
  have plain : ∀ {α : Type} {p : Op α} {own : List EscrowEvent}, Reads Site.reads p → Guarded Guard anyOutcome p own :=
    fun reads => guardedAny (guardedReads (fun _ here => here) reads)
  refine guardedThen (plain readsNow) fun at' own => guardedThen (plain (readsQuery rfl _)) fun locked own => ?_
  split
  · trivial
  · refine guardedThen (guardedElse ?_ fun error own => ?_) fun _ own => plain (readsBind (readsQuery rfl _) fun _ => trivial)
    · refine guardedBind (guardedQuery fun thread i db => ⟨guardStill rfl nofun,?_⟩)
      by_cases failed : i.fails = true
      · rw [if_pos failed]
        trivial
      · rw [if_neg failed]
        refine guardedFoldKeeps (I := Reading db) (fun acc pending inside own reading => ?_) _ rfl
        refine guardedMono ?_ (guardedCheck inside at' acc reading)
        exact fun _ _ reading _ _ => reading
    · exact plain (readsBind (readsQuery rfl _) fun _ => trivial)

theorem guardedHandler (self : Config) (request : Request) : Guarded Guard anyOutcome (handler self request) [] := by
  cases request with
  | runProofSlaChecks => exact guardedThen guardedRunProofSlaChecks fun _ _ => trivial
  | rejectProof => exact guardedThen (guardedPassing (passingRejectProof _ _ _ _ _)) fun _ _ => trivial
  | approveMilestone => exact guardedThen (guardedPassing (passingApproveMilestone self _ _ _ _)) fun _ _ => trivial
  | disputeFlow =>
    refine guardedThen (guardedPassing (passing ?_)) fun _ _ => trivial
    exact actsDisputeFlow self reviewsReads (fun _ _ => rfl) (fun _ => rfl) (fun _ => rfl) _ _ _

end Checks

section Runs

variable {id : String} {c : EscrowSnapshot}

/-- What a thread has just taken, or taken before its last call failed, it may give back. -/
def Holds (id : String) (own : List EscrowEvent) : Prop := ∃ d rest, expires id d = true ∧
  (own = d :: rest ∨ ∃ payout, payout.answer.fails = true ∧ own = payout :: d :: rest)

abbrev Held (id : String) (c : EscrowSnapshot) (k : Nat) : Prop := Holds id (c.history.filter fun e => e.thread = k)

/-- One thread at most holds the deadline, and none after it was made good. -/
structure Single (id : String) (c : EscrowSnapshot) : Prop where
  expired : ∀ k, Held id c k → expired c.world id = true
  alone : ∀ k l, Held id c k → Held id c l → k = l
  concluded : ∀ older e, e :: older <:+ c.history → Concludes id older e → ProofSlaRuns.expired c.world id = true ∧ ∀ k, ¬ Held id c k

theorem expiresFree {e : EscrowEvent} (taken : expires id e = true) : expired e.before id = false ∧ expired e.after id = true := by
  simp only [expires,takes,Bool.and_eq_true] at taken
  refine ⟨?_,taken.2⟩
  rw [expired]
  cases found : stepsOf e.before id with
  | none => rfl
  | some steps => simpa [found] using taken.1.2

section Record

variable {thread : Nat} {site : Site} {i : Answer} {db' : Db}

theorem heldRecord {k : Nat} (held : Held id (c.record thread site i db') k) :
    thread = k ∧ expires id (c.event thread site i db') = true ∨
    Held id c k ∧ (thread = k → i.fails = true ∧ ∃ d ∈ previous c.history (c.event thread site i db'), expires id d = true) := by
  obtain ⟨d,rest,taken,made⟩ := held
  rw [Snapshot.recordHistory,List.filter_cons] at made
  by_cases same : thread = k
  · subst same
    rw [if_pos (by exact decide_eq_true rfl)] at made
    obtain made | ⟨payout,failed,made⟩ := made
    · obtain ⟨rfl,_⟩ := List.cons.inj made
      exact Or.inl ⟨rfl,taken⟩
    · obtain ⟨rfl,own⟩ := List.cons.inj made
      exact Or.inr ⟨⟨d,rest,taken,Or.inl own⟩,fun _ => ⟨failed,d,by rw [previous]; exact congrArg List.head? own,taken⟩⟩
  · rw [if_neg (by exact fun here => same (of_decide_eq_true here))] at made
    exact Or.inr ⟨⟨d,rest,taken,made⟩,fun same' => absurd same' same⟩

theorem heldPrevious {d : EscrowEvent} (last : d ∈ previous c.history (c.event thread site i db')) (taken : expires id d = true) :
    Held id c thread := by
  obtain ⟨rest,own⟩ := List.head?_eq_some_iff.mp last
  exact ⟨d,rest,taken,Or.inl own⟩

theorem singleSame (single : Single id c) (same : expired db' id = expired c.world id) : Single id (c.record thread site i db') := by
  have before : ∀ k, Held id (c.record thread site i db') k →
      Held id c k ∧ (thread = k → i.fails = true ∧ ∃ d ∈ previous c.history (c.event thread site i db'), expires id d = true) := by
    intro k held
    obtain ⟨_,taken⟩ | held := heldRecord held
    · have both := expiresFree taken
      cases (both.2.symm.trans same).trans both.1
    · exact held
  refine ⟨fun k held => same.trans (single.expired k (before k held).1),?_,fun older e suffix concludes => ?_⟩
  · exact fun k l first second => single.alone k l (before k first).1 (before l second).1
  · obtain whole | inner := List.suffix_cons_iff.mp suffix
    · obtain ⟨rfl,rfl⟩ := List.cons.inj whole
      obtain ⟨⟨d,last,taken⟩,succeeds⟩ := concludes
      have holder := heldPrevious last taken
      refine ⟨same.trans (single.expired thread holder),fun k held => ?_⟩
      obtain ⟨held,mine⟩ := before k held
      cases succeeds.symm.trans (mine (single.alone thread k holder held)).1
    · obtain ⟨set,none⟩ := single.concluded older e inner concludes
      exact ⟨same.trans set,fun k held => none k (before k held).1⟩

theorem singleTaken (single : Single id c) (taken : expires id (c.event thread site i db') = true) :
    Single id (c.record thread site i db') := by
  obtain ⟨free,set⟩ := expiresFree taken
  have unheld : ∀ k, ¬ Held id c k := fun k held => by cases free.symm.trans (single.expired k held)
  have mine : ∀ k, Held id (c.record thread site i db') k → thread = k := by
    intro k held
    obtain ⟨same,_⟩ | ⟨held,_⟩ := heldRecord held
    · exact same
    · exact absurd held (unheld k)
  refine ⟨fun _ _ => set,fun k l first second => (mine k first).symm.trans (mine l second),fun older e suffix concludes => ?_⟩
  obtain whole | inner := List.suffix_cons_iff.mp suffix
  · obtain ⟨rfl,rfl⟩ := List.cons.inj whole
    obtain ⟨⟨d,last,taken⟩,_⟩ := concludes
    exact absurd (heldPrevious last taken) (unheld thread)
  · cases free.symm.trans (single.concluded older e inner concludes).1

/-- The thread that gives the deadline back held it, alone. -/
theorem singleReleased (single : Single id c) {payout d : EscrowEvent} {rest : List EscrowEvent}
    (made : (c.history.filter fun e => e.thread = thread) = payout :: d :: rest) (here : payout.site ≠ .claimProofSla id)
    (failed : payout.answer.fails = true) (taken : expires id d = true) (unclaimed : site ≠ .claimProofSla id) :
    Single id (c.record thread site i db') := by
  have holder : Held id c thread := ⟨d,rest,taken,Or.inr ⟨payout,failed,made⟩⟩
  have last : ∀ d ∈ previous c.history (c.event thread site i db'), expires id d = false := by
    intro d last
    have first : d = payout := Option.some.inj (last.symm.trans (congrArg List.head? made))
    exact takesElsewhere (first ▸ here)
  have unheld : ∀ k, ¬ Held id (c.record thread site i db') k := by
    intro k held
    obtain ⟨_,taken⟩ | ⟨held,mine⟩ := heldRecord held
    · exact unclaimed (takesSite taken)
    · obtain ⟨_,d,inside,taken⟩ := mine (single.alone thread k holder held)
      cases (last d inside).symm.trans taken
  refine ⟨fun k held => absurd held (unheld k),fun k l held => absurd held (unheld k),fun older e suffix concludes => ?_⟩
  obtain whole | inner := List.suffix_cons_iff.mp suffix
  · obtain ⟨rfl,rfl⟩ := List.cons.inj whole
    obtain ⟨⟨d,inside,taken⟩,_⟩ := concludes
    cases (last d inside).symm.trans taken
  · exact absurd holder ((single.concluded older e inner concludes).2 thread)

theorem singleRecord (single : Single id c)
    (guard : Guard (c.history.filter fun e => e.thread = thread) (c.event thread site i db')) : Single id (c.record thread site i db') := by
  obtain same | taken | ⟨payout,d,rest,_,_,made,here,failed,taken,unclaimed⟩ := guard.deadline id
  · exact singleSame single same
  · exact singleTaken single taken
  · exact singleReleased single made (by rw [here]; nofun) failed taken (unclaimed id)

/-- The deadline is made good only once. -/
theorem concludesOnce (single : Single id c) (concludes : Concludes id c.history (c.event thread site i db')) :
    ∀ older d, d :: older <:+ c.history → ¬ Concludes id older d := by
  intro older d suffix earlier
  obtain ⟨⟨d',last,taken⟩,_⟩ := concludes
  exact (single.concluded older d suffix earlier).2 thread (heldPrevious last taken)

end Record

section Reminders

theorem takesOnce {step : Steps → Bool} {c : EscrowSnapshot} (advances : Advances (Reminded id) c)
    (stays : ∀ {db db' : Db}, Reminded id db db' → ∀ steps, stepsOf db id = some steps → step steps = true →
      ∃ steps', stepsOf db' id = some steps' ∧ step steps' = true) : c.history.countP (takes step id) ≤ 1 := by
  refine countOnce (meetsMono (fun earlier e found here d inside => ?_) advances.found)
  refine Bool.eq_false_of_not_eq_true fun there => ?_
  obtain ⟨_,⟨steps,before,free⟩,_⟩ := takesIff.mp here
  obtain ⟨_,_,steps',after,set⟩ := takesIff.mp there
  obtain ⟨_,found',set'⟩ := stays (found d inside) steps' after set
  cases before.symm.trans found'
  cases free.symm.trans set'

theorem halfOnce {c : EscrowSnapshot} (advances : Advances (Reminded id) c) : c.history.countP (takes Steps.half id) ≤ 1 := by
  refine takesOnce advances fun reminded steps found set => ?_
  obtain ⟨steps',found',half,_⟩ := reminded steps found
  exact ⟨steps',found',half set⟩

theorem ninetyOnce {c : EscrowSnapshot} (advances : Advances (Reminded id) c) : c.history.countP (takes90 id) ≤ 1 := by
  refine takesOnce advances fun reminded steps found set => ?_
  obtain ⟨steps',found',_,ninety⟩ := reminded steps found
  exact ⟨steps',found',ninety set⟩

theorem takesHalf {e : EscrowEvent} (taken : takes50 id e = true) : takes Steps.half id e = true :=
  (Bool.and_eq_true_iff.mp taken).1

/-- The 90% step covers the other one, which is not taken any more. -/
theorem coveredHalf {history rest : List EscrowEvent} {d e : EscrowEvent} (suffix : e :: rest <:+ history) (inside : d ∈ rest)
    (found : AllMeet (fun earlier e => ∀ d ∈ earlier, Reminded id d.after e.before) history)
    (covers : ∀ steps ∈ stepsOf d.after id, steps.half = true) (ninety : takes90 id d = true) : takes50 id e = false := by
  refine Bool.eq_false_of_not_eq_true fun taken => ?_
  obtain ⟨_,⟨steps,before,free⟩,_⟩ := takesIff.mp (takesHalf taken)
  obtain ⟨_,_,steps',after,_⟩ := takesIff.mp ninety
  obtain ⟨_,found',half,_⟩ := meetsIff.mp found rest e suffix d inside steps' after
  cases before.symm.trans found'
  cases free.symm.trans (half (covers steps' after))

variable {earlier : List EscrowEvent} {e : EscrowEvent}

/-- A call and the one that its thread has made before, with what lies between. -/
theorem previousSplit {d : EscrowEvent} (last : d ∈ previous earlier e) :
    ∃ recent rest, earlier = recent ++ d :: rest ∧ d.thread = e.thread ∧ recent = earlier.takeWhile fun d => d.thread ≠ e.thread := by
  obtain ⟨own,same⟩ := List.head?_eq_some_iff.mp last
  obtain ⟨recent,rest,rfl,others,mine,_⟩ := List.filter_eq_cons_iff.mp same
  have mine : d.thread = e.thread := of_decide_eq_true mine
  refine ⟨recent,rest,rfl,mine,?_⟩
  rw [List.takeWhile_append_of_pos,List.takeWhile_cons_of_neg,List.append_nil]
  · simpa using mine
  · intro d inside
    simpa using others d inside

theorem previousNewer {recent rest : List EscrowEvent} {d : EscrowEvent} (last : d ∈ previous (recent ++ rest) e) :
    d ∈ previous recent e ∨ d ∈ rest := by
  rw [previous,List.filter_append,List.head?_append] at last
  cases newer : (recent.filter fun d => d.thread = e.thread).head? with
  | none =>
    rw [newer] at last
    exact Or.inr (List.mem_of_mem_filter (List.mem_of_head? last))
  | some d' =>
    rw [newer] at last
    exact Or.inl (newer.trans last)

theorem previousAppend {recent rest : List EscrowEvent} {d : EscrowEvent} (last : d ∈ previous recent e) :
    d ∈ previous (recent ++ rest) e := by
  obtain ⟨own,same⟩ := List.head?_eq_some_iff.mp last
  rw [previous,List.filter_append,same]
  rfl

/-- A 50% reminder comes after the 90% one if that went out since the step was taken. -/
theorem orderedIff {history : List EscrowEvent} (suffix : e :: earlier <:+ history)
    (found : AllMeet (fun earlier e => ∀ d ∈ earlier, Reminded id d.after e.before) history)
    (covers : ∀ d ∈ history, takes90 id d = true → ∀ steps ∈ stepsOf d.after id, steps.half = true)
    (reminds : Reminds (takes50 id) earlier e) :
    (∀ older d, d :: older <:+ earlier → ¬ Reminds (takes90 id) older d) ↔
      AllMeet (fun older d => ¬ Reminds (takes90 id) older d) (earlier.takeWhile fun d => d.thread ≠ e.thread) := by
  obtain ⟨claim,last,taken⟩ := reminds
  obtain ⟨recent,rest,rfl,mine,same⟩ := previousSplit last
  rw [← same,meetsIff]
  constructor
  · intro ordered older d inner ⟨claim',last',taken'⟩
    obtain ⟨newer,rfl⟩ := inner
    refine ordered (older ++ claim :: rest) d ⟨newer,by simp⟩ ⟨claim',previousAppend last',taken'⟩
  · intro between older d inner ⟨claim',last',taken'⟩
    -- the 90% step is younger than the 50% step
    have young : claim' ∉ rest := by
      intro inside
      have below : claim :: rest <:+ history :=
        (List.suffix_append recent _).trans ((List.suffix_cons e _).trans suffix)
      have known : claim' ∈ history := below.subset (List.mem_cons_of_mem _ inside)
      cases taken.symm.trans (coveredHalf below inside found (covers claim' known taken') taken')
    have stored : claim' ∈ older := List.mem_of_mem_filter (List.mem_of_head? last')
    obtain below | above := List.suffix_or_suffix_of_suffix inner (List.suffix_append recent (claim :: rest))
    · obtain whole | below := List.suffix_cons_iff.mp below
      · obtain ⟨_,rfl⟩ := List.cons.inj whole
        exact young stored
      · exact young (((List.suffix_cons d older).trans below).subset stored)
    · obtain whole | ⟨others,rfl⟩ := List.suffix_cons_iff.mp above
      · obtain ⟨_,rfl⟩ := List.cons.inj whole
        exact young stored
      · obtain ⟨newer,split⟩ := inner
        have apart : newer ++ d :: others = recent := by
          refine (List.append_left_inj (claim :: rest)).mp ?_
          rw [← split,List.append_assoc,List.cons_append]
        obtain last' | inside := previousNewer last'
        · exact between others d ⟨newer,apart⟩ ⟨claim',last',taken'⟩
        · rcases List.mem_cons.mp inside with rfl | inside
          · simp [takes50,taken'] at taken
          · exact young inside

end Reminders

section Payouts

variable {engagementId : String} {milestoneIndex : Nat}

/-- While no call takes the milestone out of PROOF_SUBMITTED, it stays so. -/
abbrev Stays (engagementId : String) (milestoneIndex : Nat) (c : EscrowSnapshot) : Prop :=
  Since (fun e => Submitted engagementId milestoneIndex e.before → Submitted engagementId milestoneIndex e.after)
    (fun db db' => Submitted engagementId milestoneIndex db → Submitted engagementId milestoneIndex db') c

theorem paidIff {earlier : List EscrowEvent} {e : EscrowEvent} (stays : Stays engagementId milestoneIndex ⟨e.before,earlier⟩)
    (unsubmitted : ∀ d ∈ earlier, Submitted engagementId milestoneIndex e.before → Submitted engagementId milestoneIndex d.after)
    (guard : Guard (earlier.filter fun d => d.thread = e.thread) e) (pays : Pays id engagementId milestoneIndex earlier e) :
    Submitted engagementId milestoneIndex e.before ↔
      ∀ d ∈ earlier.takeWhile (fun d => !(d.thread = e.thread && d.site = .find .proofVersion)),
        Submitted engagementId milestoneIndex d.before → Submitted engagementId milestoneIndex d.after := by
  refine ⟨fun here d inside _ => unsubmitted d ((List.takeWhile_sublist _).subset inside) here,fun calm => ?_⟩
  obtain ⟨read,reading,submitted⟩ := guard.paid id engagementId milestoneIndex pays.1 pays.2
  obtain ⟨d,found,rfl⟩ := Option.map_eq_some_iff.mp reading
  rw [List.find?_filter] at found
  refine sinceFound stays found (fun d inside => calm d ?_) submitted
  simpa using inside

end Payouts

structure Kept (c : EscrowSnapshot) : Prop where
  single : ∀ id, Single id c
  once : ∀ id, AtMostOnce (Concludes id) c.history
  reminded : ∀ id, Advances (Reminded id) c
  unsubmitted : ∀ engagementId milestoneIndex, Advances (fun db db' => Submitted engagementId milestoneIndex db' → Submitted engagementId milestoneIndex db) c
  stays : ∀ engagementId milestoneIndex, Stays engagementId milestoneIndex c
  stayed : AllMeet (fun earlier e => ∀ engagementId milestoneIndex, Stays engagementId milestoneIndex ⟨e.before,earlier⟩) c.history

theorem keptRecord {thread : Nat} {site : Site} {i : Answer} {db' : Db} (kept : Kept c)
    (guard : Guard (c.history.filter fun e => e.thread = thread) (c.event thread site i db')) : Kept (c.record thread site i db') where
  single id := singleRecord (kept.single id) guard
  once id := ⟨concludesOnce (kept.single id),kept.once id⟩
  reminded id := advancesRecord (fun _ => remindedRefl rfl) remindedTrans (guard.reminded id) (kept.reminded id)
  unsubmitted engagementId milestoneIndex :=
    advancesRecord (fun _ here => here) (fun first second here => first (second here)) (guard.submitted engagementId milestoneIndex)
      (kept.unsubmitted engagementId milestoneIndex)
  stays engagementId milestoneIndex :=
    sinceRecord (fun _ here => here) (fun first second here => second (first here)) (fun quiet => quiet) (kept.stays engagementId milestoneIndex)
  stayed := ⟨kept.stays,kept.stayed⟩

theorem keptInitial (db : Db) : Kept ⟨db,[]⟩ := by
  have unheld : ∀ id k, ¬ Held id ⟨db,[]⟩ k := by
    rintro id k ⟨d,rest,_,made | ⟨payout,_,made⟩⟩ <;> cases made
  refine ⟨fun id => ⟨?_,?_,?_⟩,fun _ => trivial,fun _ => advancesInitial,fun _ _ => advancesInitial,fun _ _ => sinceInitial,trivial⟩
  · exact fun k held => absurd held (unheld id k)
  · exact fun k l held => absurd held (unheld id k)
  · exact fun older e suffix => by cases List.suffix_nil.mp suffix

theorem keptLater (kept : Kept c) (elapsed : Nat) : Kept { c with world := { c.world with clock := c.world.clock + elapsed } } where
  single id := ⟨(kept.single id).expired,(kept.single id).alone,(kept.single id).concluded⟩
  once := kept.once
  reminded id := ⟨fun recent e older => (kept.reminded id).since recent e older,(kept.reminded id).found⟩
  unsubmitted engagementId milestoneIndex :=
    ⟨fun recent e older => (kept.unsubmitted engagementId milestoneIndex).since recent e older,(kept.unsubmitted engagementId milestoneIndex).found⟩
  stays engagementId milestoneIndex := fun recent e older => kept.stays engagementId milestoneIndex recent e older
  stayed := kept.stayed

/-- Every step of a version fires once, in every run; its reminders come in order, and its
payout finds the milestone under review, in exactly the undisturbed runs. -/
theorem firesUndisturbed (self : Config) (db : Db) (moves : List SlaMove) (id : String) :
    Fires id ((service self).run (Pool.initial db) moves).history ↔
      AllMeet (Undisturbed id) ((service self).run (Pool.initial db) moves).history := by
  have run : GuardedPool (fun _ => Guard) Kept ((service self).run (Pool.initial db) moves) := by
    refine guardedRun (P := fun _ _ _ => True) ?_ ?_ (guardedHandler self) (guardedInitial (keptInitial db)) moves
      (meetsAlways (fun _ _ _ _ => trivial) _)
    · exact fun request c thread site i db' kept guard _ => keptRecord kept guard
    · exact fun elapsed c kept => keptLater kept elapsed
  generalize (service self).run (Pool.initial db) moves = pool at run ⊢
  have seen : ∀ earlier e, e :: earlier <:+ pool.history → Guard (earlier.filter fun d => d.thread = e.thread) e := by
    intro earlier e suffix
    have bound := run.known e (suffix.subset List.mem_cons_self)
    exact meetsIff.mp run.seen earlier e suffix _ (List.getElem?_eq_getElem bound)
  have covers : ∀ d ∈ pool.history, takes90 id d = true → ∀ steps ∈ stepsOf d.after id, steps.half = true := by
    intro d inside
    obtain ⟨recent,earlier,split⟩ := List.append_of_mem inside
    exact (seen earlier d ⟨recent,split.symm⟩).covers id
  have ordered := fun {earlier e} (suffix : e :: earlier <:+ pool.history) => orderedIff suffix (run.holds.reminded id).found covers
  have paid := fun {earlier e engagementId milestoneIndex} (suffix : e :: earlier <:+ pool.history) =>
    @paidIff id engagementId milestoneIndex earlier e (meetsIff.mp run.holds.stayed earlier e suffix engagementId milestoneIndex)
      (meetsIff.mp (run.holds.unsubmitted engagementId milestoneIndex).found earlier e suffix) (seen earlier e suffix)
  constructor
  · intro fires
    refine meetsIff.mpr fun earlier e suffix => ⟨fun reminds => ?_,fun engagementId milestoneIndex pays => ?_⟩
    · exact (ordered suffix reminds).mp (meetsIff.mp fires.ordered earlier e suffix reminds)
    · exact (paid suffix pays).mp (meetsIff.mp fires.submitted earlier e suffix engagementId milestoneIndex pays)
  · intro undisturbed
    have half : pool.history.countP (takes50 id) ≤ 1 :=
      (List.countP_mono_left fun e _ => takesHalf).trans (halfOnce (run.holds.reminded id))
    refine ⟨onceFollowing half,onceFollowing (ninetyOnce (run.holds.reminded id)),?_,run.holds.once id,?_⟩
    · exact meetsIff.mpr fun earlier e suffix reminds => (ordered suffix reminds).mpr ((meetsIff.mp undisturbed earlier e suffix).reminders reminds)
    · exact meetsIff.mpr fun earlier e suffix engagementId milestoneIndex pays =>
        (paid suffix pays).mpr ((meetsIff.mp undisturbed earlier e suffix).milestone engagementId milestoneIndex pays)

def pendingProof : Db where
  users := .single { id := "c", email := "c@x", proofSlaAction := .autoApprove }
  engagements := .single {
    id := "e"
    companyAddress := "GC"
    recruiterAddress := "GR"
    arbiterAddress := "GA"
    companyId := some "c"
    totalAmount := 1000 }
  milestones := .single {
    id := "m"
    engagementId := "e"
    milestoneIndex := 0
    name := "placed"
    kind := .placement
    paymentPercent := 100
    status := .proofSubmitted }
  proofVersions := .single { id := "v", milestoneId := "m", versionNumber := 1 }

def granted (thread count : Nat) : List SlaMove := answered thread (.replicate count {})

/-- The proof is disputed when the run has taken its deadline. -/
def disputed : List SlaMove :=
  [.environment (8 * DAY_MS),.start .runProofSlaChecks] ++ granted 0 4 ++ [.start (.disputeFlow "e" 0 "unsigned")] ++ granted 1 2 ++ granted 0 1

/-- A second run passes the first one, which has not yet sent its reminder. -/
def overtaken : List SlaMove :=
  [.environment (4 * DAY_MS),.start .runProofSlaChecks] ++ granted 0 4 ++
  [.environment (5 * DAY_MS / 2),.start .runProofSlaChecks] ++ granted 1 5 ++ granted 0 1

instance (engagementId : String) (milestoneIndex : Nat) (db : Db) : Decidable (Submitted engagementId milestoneIndex db) := by
  unfold Submitted
  infer_instance

instance (step : EscrowEvent → Bool) (earlier : List EscrowEvent) (e : EscrowEvent) : Decidable (Reminds step earlier e) := by
  unfold Reminds
  infer_instance

instance (id engagementId : String) (milestoneIndex : Nat) (earlier : List EscrowEvent) (e : EscrowEvent) :
    Decidable (Pays id engagementId milestoneIndex earlier e) := by
  unfold Pays
  infer_instance

theorem firesSubmitted {history : List EscrowEvent} (engagementId : String) (milestoneIndex : Nat) (fires : Fires id history) :
    AllMeet (fun earlier e => Pays id engagementId milestoneIndex earlier e → Submitted engagementId milestoneIndex e.before) history :=
  meetsMono (fun _ _ submitted => submitted engagementId milestoneIndex) fires.submitted

theorem firesOrdered {history : List EscrowEvent} (fires : Fires id history) :
    AllMeet (fun earlier e => Reminds (takes50 id) earlier e → AllMeet (fun older d => ¬ Reminds (takes90 id) older d) earlier) history :=
  meetsMono (fun _ _ apart reminds => meetsIff.mpr (apart reminds)) fires.ordered

theorem firesDisturbed :
    (¬ Fires "v" ((service {}).run (Pool.initial pendingProof) disputed).history) ∧
    ¬ Fires "v" ((service {}).run (Pool.initial pendingProof) overtaken).history :=
  ⟨fun fires => absurd (firesSubmitted "e" 0 fires) (by decide +kernel),fun fires => absurd (firesOrdered fires) (by decide +kernel)⟩

end Runs

end HireSettle.Escrow.ProofSlaRuns
