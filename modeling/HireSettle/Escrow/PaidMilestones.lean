import HireSettle.Escrow.CallEffects
import HireSettle.Workflow.Guards

/-! Paid milestones. The services write a status some calls after the test of the one
they have read. A settlement, a partial release, a retention unlock and the handlers
of chain events write it without a test. -/
namespace HireSettle.Escrow.PaidMilestones
open Workflow EventsService

def paid : MilestoneStatus → Bool
  | .confirmed | .resolved => true
  | _ => false

/-- Every milestone that is paid keeps its status. -/
def KeepsPaid (db db' : Db) : Prop :=
  ∀ id m, db.milestones.get? id = some m → paid m.status = true → ∃ m', db'.milestones.get? id = some m' ∧ m'.status = m.status

inductive Request where
  | submitProof (engagementId : String) (milestoneIndex : Nat) (user : PartyUser) (input : ProofInput)
  | rejectProof (engagementId : String) (milestoneIndex : Nat) (user : PartyUser) (reason : String) (versionNumber : Option Nat)
  | submitProofFlow (engagementId : String) (milestoneIndex : Nat) (proofHash : String)
  | approveMilestone (engagementId : String) (milestoneIndex : Nat) (userId : String) (proofVersion : Option Nat)
  | confirmFlow (engagementId : String) (milestoneIndex : Nat) (userId : Option String)
  | disputeFlow (engagementId : String) (milestoneIndex : Nat) (reason : String)
  | resolveDisputeFlow (engagementId : String) (milestoneIndex : Nat) (resolution : DisputeOutcome) (actor : Option DisputeActor)
  | decide (id : String) (outcome : DisputeOutcome) (user : DisputeActor)
  | openAppeal (disputeId : String) (user : DisputeActor) (reason : String)
  | finalizeExpiredAppealWindows
  | propose (engagementId : String) (milestoneIndex : Nat) (user : PartyUser) (terms : PartialReleaseService.PartialReleaseTerms)
  | approve (engagementId : String) (milestoneIndex : Nat) (releaseId : String) (user : PartyUser)
  | reject (engagementId : String) (milestoneIndex : Nat) (releaseId : String) (user : PartyUser)
  | unlockRetentionOnChain (milestoneId : String)
  | processEvent (event : ContractEvent)
  | pollEvents
  | retryUnprocessed

/-- The requests that handle events. -/
def Request.delivers : Request → Bool
  | .processEvent _ | .pollEvents | .retryUnprocessed => true
  | _ => false

/-- The event that a thread is handling. -/
def lastEvent (own : List EscrowEvent) : Option ContractEvent :=
  own.findSome? fun e => match e.site with
    | .findProcessed event => some event
    | _ => none

/-- The milestone whose status the call writes. -/
def target (site : Site) (db : Db) : Option Milestone :=
  match site with
  | .proofSubmitted id | .proofRejected id | .markUnlocked id => db.milestones.get? id
  | .proofSubmittedAt engagementId milestoneIndex | .markConfirmed engagementId milestoneIndex
  | .markResolved engagementId milestoneIndex | .markUnlockedAt engagementId milestoneIndex
  | .markDisputed engagementId milestoneIndex => db.milestoneAt engagementId milestoneIndex
  | _ => none

def settledAs (dispute : Dispute) : MilestoneStatus := if dispute.outcome = some .release then .resolved else .pending

/-- What `markResolved` makes of the milestone: the request's resolution, or the flag of the event. -/
def resolvedAs (request : Request) (own : List EscrowEvent) : MilestoneStatus :=
  let approved : Bool := match request with
    | .resolveDisputeFlow _ _ resolution _ => decide (resolution = .release)
    | _ => (lastEvent own).any fun event => flagAt (destructurePayload (extractPayload event)) 2
  if approved then .resolved else .pending

/-- The milestone is not paid with another status, unless it was paid when the request read it. -/
def Spares (request : Request) (own : List EscrowEvent) (e : EscrowEvent) (status : MilestoneStatus) : Prop :=
  ∀ m ∈ target e.site e.before, paid m.status = true → m.status ≠ status →
    request.delivers = false ∧ ∀ read ∈ own, read.site = .find .milestone → ∃ m ∈ target e.site read.before, paid m.status = true

instance (request : Request) (own : List EscrowEvent) (e : EscrowEvent) (status : MilestoneStatus) :
    Decidable (Spares request own e status) := inferInstanceAs (Decidable (∀ m ∈ _, _))

/-- A settlement finds its milestone unpaid, or resolved as the dispute was decided. -/
def SettlesUnpaid (own : List EscrowEvent) (id : String) (db : Db) : Prop :=
  ∀ read ∈ lastRead .dispute own, ∀ d ∈ read.disputes.get? id, ∀ m ∈ db.milestones.get? d.milestoneId,
    paid m.status = true → m.status = settledAs d

instance (own : List EscrowEvent) (id : String) (db : Db) : Decidable (SettlesUnpaid own id db) :=
  inferInstanceAs (Decidable (∀ read ∈ _, _))

/-- A partial release that refunds the rest finds its milestone not resolved. -/
def RefundsUnpaid (request : Request) (own : List EscrowEvent) (id : String) (db : Db) : Prop :=
  match request with
  | .approve engagementId milestoneIndex _ _ =>
      ∀ read ∈ lastRead .partialRelease own, ∀ r ∈ read.partialReleases.get? id, r.remainderAction = .refund →
        ∀ seen ∈ lastRead .milestone own, ∀ m₀ ∈ seen.milestoneAt engagementId milestoneIndex,
          ∀ m ∈ db.milestones.get? m₀.id, m.status ≠ .resolved
  | _ => True

instance (request : Request) (own : List EscrowEvent) (id : String) (db : Db) : Decidable (RefundsUnpaid request own id db) := by
  unfold RefundsUnpaid
  split <;> infer_instance

/-- No status is written over that of a paid milestone; a replacement is not handled. -/
def Timely (request : Request) (earlier : List EscrowEvent) (e : EscrowEvent) : Prop :=
  let own := earlier.filter fun e' => e'.thread = e.thread
  match e.site with
  | .proofSubmitted _ | .proofSubmittedAt _ _ => Spares request own e .proofSubmitted
  | .proofRejected _ | .markUnlockedAt _ _ => Spares request own e .pending
  | .markDisputed _ _ => Spares request own e .disputed
  | .markConfirmed _ _ => Spares request own e .confirmed
  | .markResolved _ _ => Spares request own e (resolvedAs request own)
  | .markUnlocked id => ∀ m ∈ e.before.milestones.get? id, paid m.status = false
  | .settleMilestone id => SettlesUnpaid own id e.before
  | .payRelease id => RefundsUnpaid request own id e.before
  | .resetMilestone _ => False
  | _ => True

instance (request : Request) (earlier : List EscrowEvent) (e : EscrowEvent) : Decidable (Timely request earlier e) := by
  unfold Timely
  dsimp only
  generalize e.site = site
  induction site using Site.casesOn <;> infer_instance

/-- A request that is not about an event has read its milestone unpaid. -/
def FoundUnpaid (request : Request) (own : List EscrowEvent) (site : Site) : Prop :=
  request.delivers = false → ∃ read ∈ own, read.site = .find .milestone ∧ ∀ m ∈ target site read.before, paid m.status = false

@[reducible] def Writes (request : Request) (own : List EscrowEvent) (site : Site) (db db' : Db) : Prop :=
  match site with
  | .settleMilestone id => ∃ read d, lastRead .dispute own = some read ∧ read.disputes.get? id = some d ∧
      Restates d.milestoneId (fun _ => settledAs d) db db'
  | .payRelease id => ∃ engagementId milestoneIndex releaseId user read r seen m,
      request = .approve engagementId milestoneIndex releaseId user ∧
      lastRead .partialRelease own = some read ∧ read.partialReleases.get? id = some r ∧
      lastRead .milestone own = some seen ∧ seen.milestoneAt engagementId milestoneIndex = some m ∧
      Restates m.id (fun status => if r.remainderAction = .refund then .confirmed else status) db db'
  | .markResolved engagementId milestoneIndex => FoundUnpaid request own site ∧
      RestatesAt engagementId milestoneIndex (fun _ => resolvedAs request own) db db'
  | .proofSubmitted _ | .proofSubmittedAt _ _ | .proofRejected _ | .markConfirmed _ _ | .markUnlockedAt _ _
  | .markDisputed _ _ => FoundUnpaid request own site ∧ site.effect db db'
  | _ => site.effect db db'

/-- What a request has seen when it writes a status, and what it writes. -/
def Guard (request : Request) (own : List EscrowEvent) (e : EscrowEvent) : Prop :=
  e.after = e.before ∨ Writes request own e.site e.before e.after

section Steps

variable {request : Request} {own : List EscrowEvent} {db db' : Db} {next : MilestoneStatus → MilestoneStatus}

theorem keepsPaidTrans {db'' : Db} (first : KeepsPaid db db') (second : KeepsPaid db' db'') : KeepsPaid db db'' := by
  intro id m found its
  obtain ⟨m',found',same⟩ := first id m found its
  obtain ⟨m'',found'',same'⟩ := second id m' found' (same ▸ its)
  exact ⟨m'',found'',same'.trans same⟩

theorem keepsPaidSame (same : db'.milestones = db.milestones) : KeepsPaid db db' :=
  fun _ m found _ => ⟨m,same ▸ found,rfl⟩

theorem keepsPaidRestates {id : String} (moved : Restates id next db db')
    (stays : ∀ m, db.milestones.get? id = some m → paid m.status = true → next m.status = m.status) : KeepsPaid db db' := by
  obtain ⟨f,keeps,same,rfl⟩ := moved
  intro other m found its
  by_cases here : other = id
  · subst here
    exact ⟨f m,Table.getUpdateSelf found f keeps,(same m).2.trans (stays m found its)⟩
  · exact ⟨m,(Table.getUpdateOther _ here f keeps).trans found,rfl⟩

theorem slotRow {engagementId : String} {milestoneIndex : Nat} {m : Milestone} (found : db.milestoneAt engagementId milestoneIndex = some m) :
    db.milestones.get? m.id = some m := Table.memGet (List.mem_of_find?_eq_some found)

theorem keepsPaidRestatesAt {engagementId : String} {milestoneIndex : Nat} (moved : RestatesAt engagementId milestoneIndex next db db')
    (stays : ∀ m, db.milestoneAt engagementId milestoneIndex = some m → paid m.status = true → next m.status = m.status) :
    KeepsPaid db db' := by
  obtain ⟨m,found,moved⟩ := moved
  refine keepsPaidRestates moved fun m' found' => ?_
  cases (slotRow found).symm.trans found'
  exact stays m found

/-- Where nothing else is admitted, a milestone that was found unpaid is written. -/
theorem sparesStatus {e : EscrowEvent} {status : MilestoneStatus} (spares : Spares request own e status) (found : FoundUnpaid request own e.site)
    (m : Milestone) (there : target e.site e.before = some m) (its : paid m.status = true) : status = m.status := by
  by_contra differ
  obtain ⟨api,sooner⟩ := spares m there its (Ne.symm differ)
  obtain ⟨read,inside,site,unpaid⟩ := found api
  obtain ⟨m₀,there₀,its₀⟩ := sooner read inside site
  rw [unpaid m₀ there₀] at its₀
  cases its₀

theorem keepsPaidStep {earlier : List EscrowEvent} {e : EscrowEvent} (guard : Guard request (earlier.filter fun e' => e'.thread = e.thread) e)
    (timely : Timely request earlier e) : KeepsPaid e.before e.after := by
  obtain ⟨thread,site,answer,db,db'⟩ := e
  obtain same | writes := guard
  · exact keepsPaidSame (congrArg Db.milestones same)
  · by_cases elsewhere : site.restates = false
    · refine keepsPaidSame (milestonesStay (Or.inr ?_) elsewhere)
      cases site <;> first | exact writes | cases elsewhere
    · cases site with
      | proofSubmitted | proofRejected =>
        exact keepsPaidRestates writes.2 (sparesStatus timely writes.1)
      | proofSubmittedAt | markConfirmed | markUnlockedAt | markDisputed | markResolved =>
        exact keepsPaidRestatesAt writes.2 (sparesStatus timely writes.1)
      | markUnlocked =>
        refine keepsPaidRestates writes fun m there its => ?_
        rw [timely m there] at its
        cases its
      | settleMilestone =>
        obtain ⟨read,d,last,found,moved⟩ := writes
        exact keepsPaidRestates moved fun m there its => (timely read last d found m there its).symm
      | payRelease =>
        obtain ⟨engagementId,milestoneIndex,releaseId,user,read,r,seen,m₀,rfl,last,found,saw,slot,moved⟩ := writes
        refine keepsPaidRestates moved fun m there its => ?_
        split
        · rename_i refunds
          have open' := timely read last r found refunds seen saw m₀ slot m there
          cases status : m.status <;> simp_all [paid]
        · rfl
      | resetMilestone => exact timely.elim
      | _ => exact absurd rfl elsewhere

end Steps

section Walks

variable (self : Config) {α : Type} {request : Request} {own : List EscrowEvent}

/-- The calls that write no status, or write it in any case. -/
def Site.untested : Site → Bool
  | .proofSubmitted _ | .proofSubmittedAt _ _ | .proofRejected _ | .markConfirmed _ _ | .markUnlockedAt _ _
  | .markDisputed _ _ | .markResolved _ _ | .settleMilestone _ | .payRelease _ => false
  | _ => true

theorem untestedReads (site : Site) (reads : site.reads = true) : Site.untested site = true := by
  cases site <;> first | rfl | cases reads

theorem guardUntested {e : EscrowEvent} (within : Within Site.untested e.site e.before e.after) : Guard request own e := by
  obtain ⟨thread,site,answer,db,db'⟩ := e
  obtain ⟨here,same | effect⟩ := within
  · exact Or.inl same
  · refine Or.inr ?_
    cases site <;> first | exact effect | cases here

theorem guardedUntested {p : Op α} (acts : Acts (Within Site.untested) p) : Guarded (Guard request) anyOutcome p own :=
  guardedAny (guardedActs (fun _ _ _ within => guardUntested within) acts)

theorem guardedReads {p : Op α} (reads : Reads Site.reads p) : Guarded (Guard request) anyOutcome p own :=
  guardedUntested (actsReads untestedReads reads)

/-- Until the write of a status the request goes on from the milestone it has read. -/
def reviewing (m : Milestone) (site : Site) : Site → Bool := fun site' => Site.untested site' || (site' = site && !paid m.status)

/-- The writes that follow a test of the status. -/
def Site.tested : Site → Bool
  | .proofSubmitted _ | .proofSubmittedAt _ _ | .proofRejected _ | .markConfirmed _ _ | .markDisputed _ _ => true
  | _ => false

theorem reviewingReads {m : Milestone} {site : Site} (site' : Site) (reads : site'.reads = true) : reviewing m site site' = true := by
  rw [reviewing,untestedReads site' reads,Bool.true_or]

theorem reviewingHere {m : Milestone} {site : Site} (unpaid : paid m.status = false) : reviewing m site site = true := by
  simp [reviewing,unpaid]

theorem reviewingUntested {m : Milestone} {site : Site} {site' : Site} (untested : Site.untested site' = true) :
    reviewing m site site' = true := by
  rw [reviewing,untested,Bool.true_or]

theorem guardedReviews {m : Milestone} (site : Site) (tested : Site.tested site = true) {read : EscrowEvent} (inside : read ∈ own)
    (its : read.site = .find .milestone) (found : target site read.before = some m) {p : Op α}
    (acts : Acts (Within (reviewing m site)) p) : Guarded (Guard request) anyOutcome p own := by
  refine guardedAny (guardedActs ?_ acts)
  rintro later ⟨thread,site',answer,db,db'⟩ _ ⟨here,effect⟩
  simp only [reviewing,Bool.or_eq_true,Bool.and_eq_true,decide_eq_true_eq,Bool.not_eq_true'] at here
  obtain here | ⟨rfl,unpaid⟩ := here
  · exact guardUntested ⟨here,effect⟩
  · obtain same | effect := effect
    · exact Or.inl same
    · have seen : FoundUnpaid request (later ++ own) site' := fun _ => ⟨read,List.mem_append_right _ inside,its,fun m' there => by
        cases found.symm.trans there
        exact unpaid⟩
      refine Or.inr ?_
      cases site' <;> first | exact ⟨seen,effect⟩ | cases tested

theorem guardedFindOne {done : List EscrowEvent → Except Exception Milestone → Prop} {engagementId : String} {milestoneIndex : Nat}
    (found : ∀ (e : EscrowEvent) m, e.site = .find .milestone → e.before.milestoneAt engagementId milestoneIndex = some m →
      done (e :: own) (.ok m))
    (failed : ∀ own error, done own (.error error)) :
    Guarded (Guard request) done (MilestonesService.findOne engagementId milestoneIndex) own := by
  refine guardedQuery fun thread i s => ⟨Or.inl rfl,?_⟩
  split
  · exact failed _ _
  · dsimp only
    split
    · exact failed _ _
    · rename_i m there
      exact found _ m rfl there

theorem guardedLoad {done : List EscrowEvent → Except Exception (Milestone × Engagement) → Prop} {engagementId : String}
    {milestoneIndex : Nat}
    (found : ∀ (e : EscrowEvent) m engagement, e.site = .find .milestone → e.before.milestoneAt engagementId milestoneIndex = some m →
      done (e :: own) (.ok (m,engagement)))
    (failed : ∀ own error, done own (.error error)) :
    Guarded (Guard request) done (load engagementId milestoneIndex) own := by
  refine guardedQuery fun thread i s => ⟨Or.inl rfl,?_⟩
  split
  · exact failed _ _
  · dsimp only
    split
    · exact failed _ _
    · rename_i m there
      split
      · exact failed _ _
      · exact found _ m _ rfl there

theorem guardedSubmitProof (engagementId : String) (milestoneIndex : Nat) (user : PartyUser) (input : ProofInput) :
    Guarded (Guard request) anyOutcome (ProofVersionsService.submitProof engagementId milestoneIndex user input) own := by
  refine guardedBind (guardedLoad ?_ fun _ _ => trivial)
  intro read m engagement site slot
  refine guardedReviews (.proofSubmitted m.id) rfl List.mem_cons_self site (slotRow slot) ?_
  refine actsBind (actsRequirePartyRole _ _ _ _) fun _ => ?_
  split
  · trivial
  · split
    · trivial
    · rename_i pending
      have unpaid : paid m.status = false := by rw [not_not.mp pending]; rfl
      refine actsBind (actsReads reviewingReads readsNow) fun at' => actsBind ?_ fun _ => actsBind ?_ fun version => ?_
      · refine updatesVersions _ ?_ (reviewingUntested rfl)
        exact fun _ => ⟨rfl,rfl,rfl,rfl,rfl⟩
      · exact actsRecordVersion reviewingReads (reviewingUntested rfl) _
      · refine actsBind (actsWrite (reviewingHere unpaid) fun i db value db' ok => restates ?_ ok) fun updated => ?_
        · exact fun _ => ⟨⟨rfl,rfl,rfl⟩,rfl⟩
        · exact actsBind (actsReads reviewingReads readsNotify) fun _ => trivial

theorem guardedRejectProof (engagementId : String) (milestoneIndex : Nat) (user : PartyUser) (reason : String)
    (versionNumber : Option Nat) :
    Guarded (Guard request) anyOutcome (ProofVersionsService.rejectProof engagementId milestoneIndex user reason versionNumber) own := by
  refine guardedBind (guardedLoad ?_ fun _ _ => trivial)
  intro read m engagement site slot
  refine guardedReviews (.proofRejected m.id) rfl List.mem_cons_self site (slotRow slot) ?_
  refine actsBind (actsRequirePartyRole _ _ _ _) fun _ => ?_
  split
  · trivial
  · rename_i submitted
    have unpaid : paid m.status = false := by rw [not_not.mp submitted]; rfl
    refine actsBind (actsReads reviewingReads (readsAssertReviewable _)) fun latest => ?_
    split
    · trivial
    · refine actsBind (actsReads reviewingReads readsNow) fun at' => actsBind ?_ fun count => ?_
      · refine updatesVersions _ ?_ (reviewingUntested rfl)
        exact fun _ => ⟨rfl,rfl,rfl,rfl,rfl⟩
      · split
        · trivial
        · refine actsBind (actsWrite (reviewingHere unpaid) fun i db value db' ok => restates ?_ ok) fun updated => ?_
          · exact fun _ => ⟨⟨rfl,rfl,rfl⟩,rfl⟩
          · refine actsBind (actsDeleteApprovals (reviewingUntested rfl)) fun _ => ?_
            exact actsBind (actsReads reviewingReads readsNotify) fun _ => trivial

theorem guardedSubmitProofFlow (engagementId : String) (milestoneIndex : Nat) (proofHash : String) :
    Guarded (Guard request) anyOutcome (MilestonesService.submitProofFlow self engagementId milestoneIndex proofHash) own := by
  refine guardedBind (guardedFindOne ?_ fun _ _ => trivial)
  intro read m site slot
  refine guardedReviews (.proofSubmittedAt engagementId milestoneIndex) rfl List.mem_cons_self site slot ?_
  split
  · trivial
  · rename_i pending
    have unpaid : paid m.status = false := by rw [not_not.mp pending]; rfl
    refine actsBind (actsMarkProofSubmitted reviewingReads self (reviewingHere unpaid) (fun _ => reviewingUntested rfl) _) fun updated => ?_
    refine actsBind (actsReads reviewingReads (readsFind _ _)) fun engagement => ?_
    split
    · trivial
    · exact actsBind (actsReads reviewingReads readsCreateNotification) fun _ => trivial

theorem actsPaysOut {m : Milestone} {engagementId : String} {milestoneIndex : Nat} (unpaid : paid m.status = false)
    (reviewedById : Option String) :
    Acts (Within (reviewing m (.markConfirmed engagementId milestoneIndex)))
      (MilestonesService.payOut self m engagementId milestoneIndex reviewedById) := by
  refine actsBind (actsStellar (reviewingUntested rfl) _) fun _ => ?_
  refine actsBind (actsMarkConfirmed reviewingReads (reviewingHere unpaid) _) fun updated => actsBind ?_ fun _ => trivial
  unfold MilestonesService.markApproved
  split
  · exact actsMarkApproved reviewingReads (reviewingUntested rfl) _
  · trivial

theorem guardedApproveMilestone (engagementId : String) (milestoneIndex : Nat) (userId : String) (proofVersion : Option Nat) :
    Guarded (Guard request) anyOutcome (MilestonesService.approveMilestone self engagementId milestoneIndex userId proofVersion) own := by
  refine guardedBind (guardedFindOne ?_ fun _ _ => trivial)
  intro read m site slot
  refine guardedReviews (.markConfirmed engagementId milestoneIndex) rfl List.mem_cons_self site slot ?_
  split
  · trivial
  · rename_i submitted
    have unpaid : paid m.status = false := by rw [not_not.mp submitted]; rfl
    refine actsBind (actsReads reviewingReads (readsReviewable _ _ _)) fun _ => ?_
    refine actsBind (actsReads reviewingReads (readsFindOr _ _)) fun engagement => ?_
    refine actsBind (actsReads reviewingReads (readsFind _ _)) fun existing => ?_
    split
    · trivial
    · refine actsBind (actsCreateApproval (reviewingUntested rfl) _) fun _ => ?_
      refine actsBind (actsReads reviewingReads (readsFind _ _)) fun count => ?_
      split
      · trivial
      · refine actsBind (actsPaysOut self unpaid _) fun updated => ?_
        split
        · trivial
        · exact actsBind (actsReads reviewingReads readsCreateNotification) fun _ => trivial

theorem guardedConfirmFlow (engagementId : String) (milestoneIndex : Nat) (userId : Option String) :
    Guarded (Guard request) anyOutcome (MilestonesService.confirmFlow self engagementId milestoneIndex userId) own := by
  refine guardedBind (guardedFindOne ?_ fun _ _ => trivial)
  intro read m site slot
  refine guardedReviews (.markConfirmed engagementId milestoneIndex) rfl List.mem_cons_self site slot ?_
  split
  · trivial
  · rename_i submitted
    have unpaid : paid m.status = false := by rw [not_not.mp submitted]; rfl
    refine actsBind (actsReads reviewingReads (readsReviewable _ _ _)) fun _ => ?_
    refine actsBind (actsReads reviewingReads (readsFindOr _ _)) fun engagement => actsBind ?_ fun _ => ?_
    · unfold MilestonesService.approveOnce
      split
      · trivial
      · refine actsBind (actsReads reviewingReads (readsFind _ _)) fun existing => ?_
        split
        · trivial
        · exact actsCreateApproval (reviewingUntested rfl) _
    · refine actsBind (actsReads reviewingReads (readsFind _ _)) fun count => ?_
      split
      · trivial
      · refine actsBind (actsPaysOut self unpaid _) fun updated => ?_
        exact actsBind (actsReads reviewingReads readsCreateNotification) fun _ => trivial

theorem guardedDisputeFlow (engagementId : String) (milestoneIndex : Nat) (reason : String) :
    Guarded (Guard request) anyOutcome (MilestonesService.disputeFlow self engagementId milestoneIndex reason) own := by
  refine guardedBind (guardedFindOne ?_ fun _ _ => trivial)
  intro read m site slot
  refine guardedReviews (.markDisputed engagementId milestoneIndex) rfl List.mem_cons_self site slot ?_
  split
  · trivial
  · rename_i submitted
    have unpaid : paid m.status = false := by rw [not_not.mp submitted]; rfl
    refine actsBind (actsWrite (reviewingHere unpaid) fun i db value db' ok => restatesAt ?_ ok) fun updated => ?_
    · exact fun _ => ⟨⟨rfl,rfl,rfl⟩,rfl⟩
    · refine actsBind ?_ fun dispute => actsBind (actsReads reviewingReads (readsFind _ _)) fun engagement => ?_
      · exact actsOpenForMilestone reviewingReads self (fun _ => reviewingUntested rfl) (fun _ => reviewingUntested rfl) _ _ _
      · split
        · trivial
        · exact actsBind (actsForEach (fun _ => actsReads reviewingReads readsCreateNotification) _) fun _ => trivial

/-- The calls of a settlement before it is recorded. -/
def Site.settling : Site → Bool
  | .refundMilestone _ | .resolveMilestoneDispute _ _ _ _ | .unclaimSettlement _ => true
  | _ => false

theorem settlingUntested {site : Site} {db db' : Db} (within : Within Site.settling site db db') : Within Site.untested site db db' := by
  refine ⟨?_,within.2⟩
  cases site <;> first | rfl | exact absurd within.1 Bool.false_ne_true

theorem guardedRecordSettlement {dispute : Dispute} {m : Milestone} (amount : Int) {read : Db} (last : lastRead .dispute own = some read)
    (found : read.disputes.get? dispute.id = some dispute) (its : m.id = dispute.milestoneId) :
    Guarded (Guard request) anyOutcome
      (DisputesService.recordSettlement self dispute m (decide (dispute.outcome = some .release)) amount) own := by
  refine guardedBind (guardedQuery fun thread i s => ⟨Or.inl rfl,?_⟩)
  refine guardedThen (guardedTransact ?_ fun thread i s error _ => ⟨Or.inl rfl,trivial⟩) fun _ own => guardedUntested ?_
  · intro thread' i' s' value after ok
    refine ⟨Or.inr ⟨read,dispute,(lastReadCons (by simp)).trans last,found,?_⟩,trivial⟩
    split at ok
    · contradiction
    · refine its ▸ restates ?_ ok
      refine fun row => ⟨⟨rfl,rfl,rfl⟩,?_⟩
      simp only [settledAs,decide_eq_true_eq]
  · refine actsBind (actsWrite rfl fun i db value db' ok => ?_) fun settled => ?_
    · refine movesDispute (P := fun d d' => d'.status = d.status ∧ SameHearing d d') ?_ ok
      exact fun _ => ⟨⟨rfl,rfl,rfl,rfl⟩,rfl,rfl,rfl⟩
    · refine actsBind (actsRecordArbiterPayout untestedReads self (fun _ => rfl) _ _) fun _ => ?_
      exact actsBind (actsReads untestedReads (readsNotifyParties _ _)) fun _ => trivial

theorem guardedSettle (disputeId : String) (own : List EscrowEvent) :
    Guarded (Guard request) anyOutcome (DisputesService.settle self disputeId) own := by
  refine guardedThen (guardedUntested (actsClaimSettlement rfl)) fun count own => ?_
  refine guardedBind (guardedQuery fun thread i s => ⟨Or.inl rfl,?_⟩)
  split
  · rename_i value out
    obtain ⟨dispute,m⟩ := value
    dsimp only at out ⊢
    split at out
    · contradiction
    · split at out
      · contradiction
      · rename_i d found
        split at out
        · contradiction
        · rename_i m' there
          cases out
          split
          · trivial
          · refine guardedBind (guardedMono ?_ (guardedActs (fun _ _ _ within => guardUntested (settlingUntested within))
              (actsHandle (actsPayOut (fun _ => rfl) (fun _ _ _ _ => rfl) _ _ _ _) fun error => actsUnclaim rfl error)))
            rintro own' out ⟨later,rfl,each⟩
            cases out with
            | error error => trivial
            | ok value =>
              have elsewhere : ∀ e ∈ later, e.site ≠ .find .dispute := by
                intro e inside same
                have here := (each e inside).1
                rw [same] at here
                cases here
              refine guardedRecordSettlement self _ ((lastReadLater elsewhere).trans (lastReadSelf rfl)) ?_ (Table.getKey there)
              have same : dispute.id = disputeId := Table.getKey found
              exact same ▸ found
  · trivial

theorem guardedDecide (dispute : Dispute) (outcome : DisputeOutcome) (actor : Option DisputeActor) (own : List EscrowEvent) :
    Guarded (Guard request) anyOutcome (DisputesService.decide self dispute outcome actor) own := by
  unfold DisputesService.decide
  split
  · trivial
  · split
    · trivial
    · split
      · trivial
      · refine guardedThen (guardedReads readsNow) fun at' own => guardedThen (guardedUntested ?_) fun count own => ?_
        · refine actsWrite rfl fun i db value db' ok => ?_
          cases ok
          refine movesDisputes ?_ ?_
          · intro d matched
            simpa only [Bool.and_eq_true,decide_eq_true_eq] using matched
          · exact fun _ => ⟨⟨rfl,rfl,rfl,rfl⟩,rfl,rfl,rfl,rfl⟩
        · split
          · trivial
          · split
            · exact guardedSettle self _ own
            · refine guardedReads (readsBind (readsFindOr _ _) fun updated => ?_)
              exact readsBind (readsNotifyParties _ _) fun _ => trivial

theorem guardedDecideAppeal (disputeId : String) (user : DisputeActor) (outcome : DisputeOutcome) (own : List EscrowEvent) :
    Guarded (Guard request) anyOutcome (AppealService.decideAppeal self disputeId user outcome) own := by
  refine guardedThen (guardedReads (readsFind _ _)) fun found own => ?_
  split
  · trivial
  · split
    · trivial
    · split
      · trivial
      · refine guardedThen (guardedReads readsNow) fun at' own => guardedThen (guardedUntested ?_) fun _ own => ?_
        · exact actsWrite rfl fun i db value db' ok => decideAppealMoves ok
        · exact guardedThen (guardedReads (readsNotifyParties _ _)) fun _ own => guardedSettle self _ own

theorem guardedControllerDecide (id : String) (outcome : DisputeOutcome) (user : DisputeActor) (own : List EscrowEvent) :
    Guarded (Guard request) anyOutcome (DisputesController.decide self id outcome user) own := by
  refine guardedThen (guardedReads (readsFind _ _)) fun found own => ?_
  split
  · trivial
  · split
    · exact guardedDecideAppeal self _ _ _ own
    · exact guardedDecide self _ _ _ own

theorem guardedFinalize (at' settled : Nat) (dispute : Dispute) (own : List EscrowEvent) :
    Guarded (Guard request) anyOutcome (AppealService.finalize self at' settled dispute) own := by
  refine guardedThen (guardedUntested (actsExpireWindow rfl _)) fun count own => ?_
  split
  · trivial
  · exact guardedElse (guardedThen (guardedSettle self _ own) fun _ _ => trivial) fun _ _ => trivial

theorem guardedFinalizeExpired (own : List EscrowEvent) :
    Guarded (Guard request) anyOutcome (AppealService.finalizeExpiredAppealWindows self) own := by
  refine guardedThen (guardedReads readsNow) fun at' own => guardedThen (guardedReads (readsQuery rfl _)) fun locked own => ?_
  split
  · trivial
  · refine guardedThen (guardedElse ?_ fun error own => ?_) fun settled own => ?_
    · refine guardedThen (guardedReads (readsFind _ _)) fun expired own => ?_
      exact guardedFoldEach (guardedFinalize self _) _ _ own
    · exact guardedReads (readsBind (readsQuery rfl _) fun _ => trivial)
    · exact guardedReads (readsBind (readsQuery rfl _) fun _ => trivial)

theorem guardedMarkResolved {engagementId : String} {milestoneIndex : Nat} {approved : Bool}
    (found : FoundUnpaid request own (.markResolved engagementId milestoneIndex))
    (as' : ∀ e : EscrowEvent, e.site = .clock → resolvedAs request (e :: own) = if approved then .resolved else .pending)
    (paymentReleased : Option Int) :
    Guarded (Guard request) anyOutcome (MilestonesService.markResolved engagementId milestoneIndex approved paymentReleased) own := by
  refine guardedBind (guardedQuery fun thread i s => ⟨Or.inl rfl,?_⟩)
  refine guardedThen (guardedTransact ?_ fun thread i s error _ => ⟨Or.inl rfl,trivial⟩) fun updated own => guardedUntested ?_
  · intro thread' i' s' value after ok
    refine ⟨Or.inr ⟨fun api => ?_,?_⟩,trivial⟩
    · obtain ⟨read,inside,its⟩ := found api
      exact ⟨read,List.mem_cons_of_mem _ inside,its⟩
    · split at ok
      · contradiction
      · refine restatesAt ?_ ok
        exact fun row => ⟨⟨rfl,rfl,rfl⟩,(as' _ rfl).symm⟩
  · exact actsBind (actsMarkSettledOnChain untestedReads (fun _ => rfl) _) fun _ => trivial

theorem foundLater {site : Site} (later : List EscrowEvent) (found : FoundUnpaid request own site) : FoundUnpaid request (later ++ own) site := by
  intro api
  obtain ⟨read,inside,its⟩ := found api
  exact ⟨read,List.mem_append_right _ inside,its⟩

theorem guardedPasses {β : Type} {p : Op α} {k : α → Op β} (acts : Acts (Within Site.untested) p)
    (rest : ∀ value later, Guarded (Guard request) anyOutcome (k value) (later ++ own)) :
    Guarded (Guard request) anyOutcome (p >>= k) own := by
  refine guardedBind (guardedMono ?_ (guardedActs (fun _ _ _ within => guardUntested within) acts))
  rintro own' out ⟨later,rfl,_⟩
  cases out with
  | ok value => exact rest value later
  | error error => trivial

theorem guardedResolveUntracked {m : Milestone} {engagementId : String} {milestoneIndex : Nat} {resolution : DisputeOutcome}
    {actor : Option DisputeActor}
    (found : FoundUnpaid (.resolveDisputeFlow engagementId milestoneIndex resolution actor) own (.markResolved engagementId milestoneIndex)) :
    Guarded (Guard (.resolveDisputeFlow engagementId milestoneIndex resolution actor)) anyOutcome
      (MilestonesService.resolveUntracked m engagementId milestoneIndex resolution) own := by
  unfold MilestonesService.resolveUntracked
  dsimp only
  split
  · refine guardedPasses (actsWrite rfl fun i db value db' ok => ?_) fun _ refunded => ?_
    · cases ok
      exact ⟨_,rfl⟩
    · refine guardedPasses (actsStellar rfl _) fun _ paid => ?_
      refine guardedThen (guardedMarkResolved (foundLater paid (foundLater refunded found)) (fun e _ => ?_) _) fun updated own =>
        guardedReads (readsAnnounces updated engagementId)
      simp [resolvedAs]
  · refine guardedPasses (actsStellar rfl _) fun _ paid => ?_
    refine guardedThen (guardedMarkResolved (foundLater paid found) (fun e _ => ?_) _) fun updated own =>
      guardedReads (readsAnnounces updated engagementId)
    simp [resolvedAs]

theorem guardedResolveDisputeFlow (engagementId : String) (milestoneIndex : Nat) (resolution : DisputeOutcome) (actor : Option DisputeActor) :
    Guarded (Guard (.resolveDisputeFlow engagementId milestoneIndex resolution actor)) anyOutcome
      (MilestonesService.resolveDisputeFlow self engagementId milestoneIndex resolution actor) own := by
  refine guardedBind (guardedFindOne ?_ fun _ _ => trivial)
  intro read m site slot
  dsimp only
  split
  · trivial
  · rename_i disputed
    have unpaid : paid m.status = false := by rw [not_not.mp disputed]; rfl
    have found : FoundUnpaid (.resolveDisputeFlow engagementId milestoneIndex resolution actor) (read :: own)
        (.markResolved engagementId milestoneIndex) := fun _ => ⟨read,List.mem_cons_self,site,fun m' there => by
      cases slot.symm.trans there
      exact unpaid⟩
    refine guardedBind ?_
    refine guardedBind (guardedQuery fun thread i s => ⟨Or.inl rfl,?_⟩)
    split
    · rename_i value out
      cases value with
      | none =>
        refine guardedBind (guardedMono ?_ (guardedResolveUntracked (foundLater [_] found)))
        intro own' out _
        cases out <;> trivial
      | some dispute =>
        refine guardedBind (guardedMono ?_ (guardedDecide self dispute resolution actor _))
        intro own' out _
        cases out with
        | error error => trivial
        | ok decided =>
          exact guardedReads (readsBind (readsFindOr _ _) fun current => trivial)
    · trivial

open PartialReleaseService in
theorem guardedPropose (engagementId : String) (milestoneIndex : Nat) (user : PartyUser) (terms : PartialReleaseTerms) :
    Guarded (Guard request) anyOutcome (propose engagementId milestoneIndex user terms) own := by
  refine guardedUntested (actsBind (actsReads untestedReads (readsFindOr _ _)) fun found => ?_)
  obtain ⟨m,engagement⟩ := found
  refine actsBind (actsRequirePartyRole _ _ _ _) fun role => ?_
  split
  · trivial
  · split
    · trivial
    · refine actsBind (actsReads untestedReads (readsFind _ _)) fun existing => ?_
      split
      · trivial
      · refine actsBind (actsOfExcept _) fun split => actsBind (actsReads untestedReads readsNow) fun at' => actsBind (actsHandle ?_ fun error => ?_) fun release => ?_
        · refine actsWrite rfl fun i db value db' ok => ?_
          dsimp only at ok
          split at ok
          · contradiction
          · split at ok
            · contradiction
            · cases ok
              exact ⟨_,rfl⟩
        · split <;> trivial
        · exact actsReads untestedReads (readsBind readsAudit fun _ => readsBind readsNotify fun _ => trivial)

open PartialReleaseService in
theorem readsFindOpen (milestoneId releaseId : String) : Reads Site.reads (findOpen milestoneId releaseId) := by
  refine readsBind (readsFind _ _) fun found => ?_
  split
  · trivial
  · split
    · trivial
    · split <;> trivial

open PartialReleaseService in
theorem guardedReject (engagementId : String) (milestoneIndex : Nat) (releaseId : String) (user : PartyUser) :
    Guarded (Guard request) anyOutcome (reject engagementId milestoneIndex releaseId user) own := by
  refine guardedUntested (actsBind (actsReads untestedReads (readsFindOr _ _)) fun found => ?_)
  obtain ⟨m,engagement⟩ := found
  refine actsBind (actsRequirePartyRole _ _ _ _) fun role => ?_
  refine actsBind (actsReads untestedReads (readsFindOpen _ _)) fun release => actsBind ?_ fun count => ?_
  · refine actsWrite rfl fun i db value db' ok => ?_
    cases ok
    exact ⟨_,rfl⟩
  · split
    · trivial
    · exact actsReads untestedReads (readsBind readsAudit fun _ => trivial)

/-- What an approval has read before the release is paid. -/
structure Approving (engagementId : String) (milestoneIndex : Nat) (release : MilestonePartialRelease) (m : Milestone)
    (own : List EscrowEvent) : Prop where
  milestone : ∃ seen, lastRead .milestone own = some seen ∧ seen.milestoneAt engagementId milestoneIndex = some m
  release : ∃ read, lastRead .partialRelease own = some read ∧ read.partialReleases.get? release.id = some release

variable {engagementId : String} {milestoneIndex : Nat} {release : MilestonePartialRelease} {m : Milestone}

theorem approvingCons {e : EscrowEvent} (elsewhere : ∀ model, e.site ≠ .find model) (state : Approving engagementId milestoneIndex release m own) :
    Approving engagementId milestoneIndex release m (e :: own) := by
  refine ⟨?_,?_⟩
  · rw [lastReadCons (elsewhere _)]
    exact state.milestone
  · rw [lastReadCons (elsewhere _)]
    exact state.release

open PartialReleaseService in
theorem guardedPay {releaseId : String} {user : PartyUser} (engagement : Engagement) (at' : Nat)
    (state : Approving engagementId milestoneIndex release m own) :
    Guarded (Guard (.approve engagementId milestoneIndex releaseId user)) anyOutcome (pay release m engagement at') own := by
  obtain ⟨⟨seen,saw,slot⟩,read,last,found⟩ := state
  refine guardedThen (guardedTransact ?_ fun thread i s error _ => ⟨Or.inl rfl,trivial⟩) fun _ own => guardedUntested ?_
  · intro thread i s value after ok
    refine ⟨Or.inr ⟨engagementId,milestoneIndex,releaseId,user,read,release,seen,m,rfl,last,found,saw,slot,?_⟩,trivial⟩
    split at ok
    · contradiction
    · refine restates ?_ ok
      exact fun row => ⟨⟨rfl,rfl,rfl⟩,rfl⟩
  · refine actsBind (actsWrite rfl fun i db value db' ok => ?_) fun _ => trivial
    obtain ⟨_,_,_,_,_,rfl⟩ := Db.updateEngagementCases ok
    exact ⟨_,rfl⟩

open PartialReleaseService in
theorem guardedFailed {done : List EscrowEvent → Except Exception String → Prop} (throws : ∀ own error, done own (.error error))
    {releaseId : String} {error : Exception} : Guarded (Guard request) done (failed releaseId error) own := by
  refine guardedBind (guardedTransact (fun thread i s value after ok => ⟨Or.inr ?_,?_⟩) fun _ _ _ _ _ => ⟨Or.inl rfl,throws _ _⟩)
  · split at ok
    · contradiction
    · obtain ⟨_,_,_,_,_,rfl⟩ := Db.updateReleaseCases ok
      exact ⟨_,rfl⟩
  · refine guardedBind (guardedQuery fun thread i s => ⟨Or.inl rfl,?_⟩)
    split <;> exact throws _ _

-- the end of an execution
theorem actsExecuted (release : MilestonePartialRelease) (txHash : String) : Acts (Within Site.untested) (do
    let executed ← write (.executeRelease release.id) fun _ db => db.updateRelease release.id fun r =>
      { r with status := .executed, txHash := some txHash }
    audit
    notify
    notify
    return executed : Op MilestonePartialRelease) := by
  refine actsBind (actsWrite rfl fun i db value db' ok => ?_) fun executed => ?_
  · obtain ⟨_,_,_,_,_,rfl⟩ := Db.updateReleaseCases ok
    exact ⟨_,rfl⟩
  · exact actsReads untestedReads (readsBind readsAudit fun _ => readsBind readsNotify fun _ => readsBind readsNotify fun _ => trivial)

open PartialReleaseService in
theorem guardedExecute {releaseId : String} {user : PartyUser} (engagement : Engagement)
    (state : Approving engagementId milestoneIndex release m own) :
    Guarded (Guard (.approve engagementId milestoneIndex releaseId user)) anyOutcome (execute release m engagement) own := by
  unfold execute
  split
  · trivial
  · refine guardedBind (guardedQuery fun thread i s => ⟨Or.inl rfl,?_⟩)
    have timed := approvingCons (e := ⟨thread,.clock,i,s,s⟩) (by simp) state
    refine guardedBind (guardedTransact ?_ fun thread i s error _ => ⟨Or.inl rfl,trivial⟩)
    intro thread' i' s' count after ok
    have claimed := approvingCons (e := ⟨thread',.claimRelease release.id,i',s',after⟩) (by simp) timed
    refine ⟨Or.inr ?_,?_⟩
    · split at ok
      · contradiction
      · cases ok
        exact ⟨_,rfl⟩
    · dsimp only
      split
      · exact guardedReads (readsFindOr _ _)
      · refine guardedBind (guardedHandle (guardedQuery fun thread'' i'' s'' => ⟨Or.inl rfl,?_⟩))
        have called := approvingCons (e := ⟨thread'',.releasePartialMilestonePayment release.id engagement.id m.milestoneIndex
          release.releaseAmount (release.remainderAction = .refund),i'',s'',s''⟩) (by simp) claimed
        split
        · refine guardedBind (guardedMono ?_ (guardedPay engagement _ called))
          rintro own' (error | value) _
          · trivial
          · dsimp only
            split
            · refine guardedUntested (actsBind (actsWrite rfl fun i db value db' ok => ?_) fun _ => actsExecuted _ _)
              cases ok
              exact ⟨_,rfl⟩
            · exact guardedUntested (actsExecuted _ _)
        · exact guardedFailed fun _ _ => trivial

theorem guardedRole {Q : List EscrowEvent → EscrowEvent → Prop} {done : List EscrowEvent → Except Exception PartyRole → Prop}
    (found : ∀ role, done own (.ok role)) (throws : ∀ error, done own (.error error)) (engagement : Engagement) (user : PartyUser)
    (allowed : List PartyRole) (message : String) : Guarded Q done (requirePartyRole engagement user allowed message) own := by
  unfold requirePartyRole
  split
  · split
    · exact found _
    · exact throws _
  · exact throws _

open PartialReleaseService in
theorem guardedFindOpen {done : List EscrowEvent → Except Exception MilestonePartialRelease → Prop}
    (found : ∀ (e : EscrowEvent) release, e.site = .find .partialRelease → done (e :: own) (.ok release))
    (throws : ∀ own error, done own (.error error)) (milestoneId releaseId : String) :
    Guarded (Guard request) done (findOpen milestoneId releaseId) own := by
  refine guardedBind (guardedQuery fun thread i s => ⟨Or.inl rfl,?_⟩)
  split
  · split
    · exact throws _ _
    · split
      · exact throws _ _
      · split
        · exact found _ _ rfl
        · exact throws _ _
        · exact throws _ _
        · exact throws _ _
  · exact throws _ _

open PartialReleaseService in
theorem guardedApprove (releaseId : String) (user : PartyUser) :
    Guarded (Guard (.approve engagementId milestoneIndex releaseId user)) anyOutcome (approve engagementId milestoneIndex releaseId user) own := by
  refine guardedBind (guardedLoad ?_ fun _ _ => trivial)
  intro read m engagement site slot
  refine guardedBind (guardedRole (fun role => ?_) (fun _ => trivial) _ _ _ _)
  refine guardedBind (guardedFindOpen ?_ (fun _ _ => trivial) _ _)
  intro opened release site'
  refine guardedBind (guardedQuery fun thread i s => ⟨Or.inl rfl,?_⟩)
  refine guardedBind (guardedTransact ?_ fun thread i s error _ => ⟨Or.inl rfl,trivial⟩)
  intro thread' i' s' count after ok
  refine ⟨Or.inr ?_,?_⟩
  · split at ok
    · contradiction
    · cases ok
      exact ⟨_,rfl⟩
  · dsimp only
    split
    · trivial
    · refine guardedBind (guardedQuery fun thread i s => ⟨Or.inl rfl,?_⟩)
      split
      · rename_i value out
        dsimp only at out ⊢
        split at out
        · contradiction
        · dsimp only [required] at out
          split at out
          · rename_i updated stored
            cases out
            split
            · trivial
            · have same : value.id = release.id := Table.getKey stored
              refine guardedExecute engagement ⟨⟨read.before,?_,slot⟩,s,lastReadSelf rfl,same ▸ stored⟩
              rw [lastReadCons (by simp),lastReadCons (by simp),lastReadCons (by simp),lastReadCons (by simp [site'])]
              exact lastReadSelf site
          · contradiction
      · trivial

theorem lastEventCons {e : EscrowEvent} (elsewhere : ∀ event, e.site ≠ .findProcessed event) : lastEvent (e :: own) = lastEvent own := by
  rw [lastEvent,List.findSome?_cons]
  split
  · rename_i event here
    split at here
    · exact absurd (by assumption) (elsewhere _)
    · cases here
  · rfl

theorem lastEventLater {later : List EscrowEvent} (elsewhere : ∀ e ∈ later, ∀ event, e.site ≠ .findProcessed event) :
    lastEvent (later ++ own) = lastEvent own := by
  induction later with
  | nil => rfl
  | cons e later ih =>
    rw [List.cons_append,lastEventCons (elsewhere e List.mem_cons_self)]
    exact ih fun e inside => elsewhere e (List.mem_cons_of_mem _ inside)

theorem resolvedAsFlag (delivers : request.delivers = true) {event : ContractEvent} (last : lastEvent own = some event) :
    resolvedAs request own = if flagAt (destructurePayload (extractPayload event)) 2 then .resolved else .pending := by
  cases request <;> first | (cases delivers; done) | simp only [resolvedAs,last,Option.any_some]

theorem guardedResolution (delivers : request.delivers = true) {event : ContractEvent} (last : lastEvent own = some event) :
    Guarded (Guard request) anyOutcome (handleDisputeResolved self (extractPayload event)) own := by
  refine guardedBind (guardedOfExcept ?_)
  split
  · refine guardedThen (guardedMarkResolved (fun api => ?_) (fun e clock => ?_) _) fun updated own => ?_
    · rw [delivers] at api
      cases api
    · exact resolvedAsFlag delivers ((lastEventCons (by simp [clock])).trans last)
    · refine guardedUntested (actsBind (actsSync untestedReads rfl) fun _ => ?_)
      exact actsReads untestedReads (readsBind (readsAnnounce _ _) fun _ => trivial)
  · trivial

theorem guardHandles (delivers : request.delivers = true) {e : EscrowEvent} (within : Within Site.handles e.site e.before e.after)
    (elsewhere : ∀ engagementId milestoneIndex, e.site ≠ .markResolved engagementId milestoneIndex) : Guard request own e := by
  obtain ⟨thread,site,answer,db,db'⟩ := e
  obtain ⟨here,same | effect⟩ := within
  · exact Or.inl same
  · have found : FoundUnpaid request own site := by
      intro api
      rw [delivers] at api
      cases api
    refine Or.inr ?_
    cases site <;> first | exact ⟨found,effect⟩ | exact effect | exact absurd rfl (elsewhere _ _) | cases here

/-- The calls of the handler of a replacement. -/
def Site.replaces : Site → Bool
  | .resetMilestone _ | .deleteApprovals _ | .upsertSchedule _ _ => true
  | site => site.reads

theorem guardedEvent (delivers : request.delivers = true) (event : ContractEvent) (last : lastEvent own = some event) :
    Guarded (Guard request) anyOutcome (handleEvent self (extractEventName event) (extractPayload event)) own := by
  by_cases resolves : extractEventName event = "dispute_resolved"
  · rw [resolves]
    exact guardedResolution self delivers last
  · have acts : Acts (fun site db db' => Within Site.handles site db db' ∧ ∀ engagementId milestoneIndex, site ≠ .markResolved engagementId milestoneIndex)
        (handleEvent self (extractEventName event) (extractPayload event)) := by
      refine actsEvent ?_ self _ (fun its => absurd its resolves) fun _ => ?_
      · rintro site db db' ⟨here,effect⟩
        refine ⟨⟨?_,effect⟩,?_⟩
        · cases site <;> first | rfl | cases here
        · rintro _ _ rfl
          cases here
      · have reads : ∀ site : Escrow.Site, site.reads = true → Site.replaces site = true := by
          intro site here
          cases site <;> first | rfl | cases here
        refine actsMono ?_ (actsHandleReplacementRequested reads (fun _ => rfl) (fun _ => rfl) (fun _ _ => rfl) _)
        rintro site db db' ⟨here,effect⟩
        refine ⟨⟨?_,effect⟩,?_⟩
        · cases site <;> first | rfl | cases here
        · rintro _ _ rfl
          cases here
    exact guardedAny (guardedActs (fun _ _ _ within => guardHandles delivers within.1 within.2) acts)

/-- The calls that find or save the row of an event. -/
def Site.saves : Site → Bool
  | .findSaved _ | .saveEvent _ => true
  | _ => false

theorem guardedProcessEvent (delivers : request.delivers = true) (event : ContractEvent) (own : List EscrowEvent) :
    Guarded (Guard request) anyOutcome (processEvent self event) own := by
  refine guardedBind (guardedQuery fun thread i s => ⟨Or.inl rfl,?_⟩)
  split
  · split
    · trivial
    · have acts : Acts (Within Site.saves) (savedEvent event) := actsSavedEvent rfl rfl
      refine guardedBind (guardedMono ?_ (guardedActs (fun _ e _ within => guardUntested ⟨?_,within.2⟩) acts))
      · rintro own' (error | chainEvent) ⟨later,rfl,each⟩
        · trivial
        · dsimp only
          split
          · trivial
          · refine guardedThen (guardedEvent self delivers event ?_) fun writes own => guardedUntested (actsMarkProcessed rfl writes)
            rw [lastEventLater]
            · rfl
            · intro e inside event' same
              have here := (each e inside).1
              rw [same] at here
              cases here
      · obtain ⟨thread,site,answer,db,db'⟩ := e
        cases site <;> first | rfl | exact absurd within.1 Bool.false_ne_true
  · trivial

theorem guardedPollEvents (delivers : request.delivers = true) (own : List EscrowEvent) :
    Guarded (Guard request) anyOutcome (pollEvents self) own := by
  refine guardedThen (guardedReads (readsQuery rfl _)) fun locked own => ?_
  split
  · trivial
  · refine guardedThen (guardedElse ?_ fun _ _ => trivial) fun _ own => guardedReads (readsQuery rfl _)
    refine guardedThen (guardedReads (readsQuery rfl _)) fun events own => guardedForEach (fun event own => ?_) events own
    refine guardedThen (guardedProcessEvent self delivers event own) fun _ own => guardedUntested ?_
    refine actsTransact (fun _ => ⟨rfl,Or.inl rfl⟩) fun i db value after ok => ⟨rfl,Or.inr ?_⟩
    cases ok
    exact ⟨_,rfl⟩

open ChainEventRetryService in
theorem actsRecordFailure (id : String) (currentRetryCount : Nat) : Acts (Within Site.untested) (recordFailure id currentRetryCount) := by
  refine actsBind (actsWrite rfl fun i db value after ok => ?_) fun _ => ?_
  · split at ok
    · contradiction
    · cases ok
      exact ⟨_,rfl⟩
  · split
    · refine actsBind (actsReads untestedReads (readsFind _ _)) fun found => ?_
      split
      · trivial
      · refine actsWrite rfl fun i db value after ok => ?_
        split at ok
        · contradiction
        · split at ok
          · contradiction
          · cases ok
            exact ⟨_,_,rfl⟩
    · trivial

open ChainEventRetryService in
theorem guardedRetryUnprocessed (delivers : request.delivers = true) (own : List EscrowEvent) :
    Guarded (Guard request) anyOutcome (retryUnprocessed self) own := by
  refine guardedThen (guardedReads (readsQuery rfl _)) fun locked own => ?_
  split
  · trivial
  · refine guardedThen (guardedElse ?_ fun error own => ?_) fun _ own => guardedReads (readsQuery rfl _)
    · refine guardedThen (guardedReads (readsFind _ _)) fun events own => guardedForEach (fun chainEvent own => ?_) events own
      refine guardedThen (guardedReads readsNow) fun at' own => ?_
      split
      · trivial
      · refine guardedElse (guardedProcessEvent self delivers _ own) fun error own => ?_
        exact guardedUntested (actsRecordFailure _ _)
    · exact guardedReads (readsBind (readsQuery rfl _) fun _ => trivial)

end Walks

section Runs

variable (self : Config)

def handler : Request → Op Unit
  | .submitProof engagementId milestoneIndex user input => do
      let _ ← ProofVersionsService.submitProof engagementId milestoneIndex user input
  | .rejectProof engagementId milestoneIndex user reason versionNumber => do
      let _ ← ProofVersionsService.rejectProof engagementId milestoneIndex user reason versionNumber
  | .submitProofFlow engagementId milestoneIndex proofHash => do
      let _ ← MilestonesService.submitProofFlow self engagementId milestoneIndex proofHash
  | .approveMilestone engagementId milestoneIndex userId proofVersion => do
      let _ ← MilestonesService.approveMilestone self engagementId milestoneIndex userId proofVersion
  | .confirmFlow engagementId milestoneIndex userId => do
      let _ ← MilestonesService.confirmFlow self engagementId milestoneIndex userId
  | .disputeFlow engagementId milestoneIndex reason => do
      let _ ← MilestonesService.disputeFlow self engagementId milestoneIndex reason
  | .resolveDisputeFlow engagementId milestoneIndex resolution actor => do
      let _ ← MilestonesService.resolveDisputeFlow self engagementId milestoneIndex resolution actor
  | .decide id outcome user => do
      let _ ← DisputesController.decide self id outcome user
  | .openAppeal disputeId user reason => do
      let _ ← AppealService.openAppeal self disputeId user reason
  | .finalizeExpiredAppealWindows => do
      let _ ← AppealService.finalizeExpiredAppealWindows self
  | .propose engagementId milestoneIndex user terms => do
      let _ ← PartialReleaseService.propose engagementId milestoneIndex user terms
  | .approve engagementId milestoneIndex releaseId user => do
      let _ ← PartialReleaseService.approve engagementId milestoneIndex releaseId user
  | .reject engagementId milestoneIndex releaseId user => do
      let _ ← PartialReleaseService.reject engagementId milestoneIndex releaseId user
  | .unlockRetentionOnChain milestoneId => MilestonesService.unlockRetentionOnChain milestoneId
  | .processEvent event => processEvent self event
  | .pollEvents => pollEvents self
  | .retryUnprocessed => ChainEventRetryService.retryUnprocessed self

def service : System Request Nat Site Answer Db Exception Unit where
  handler := handler self
  environment elapsed db := { db with clock := db.clock + elapsed }

abbrev PaidMove := Move Request Nat Answer

theorem guardedUnlockRetention {request : Request} {own : List EscrowEvent} (milestoneId : String) :
    Guarded (Guard request) anyOutcome (MilestonesService.unlockRetentionOnChain milestoneId) own := by
  refine guardedUntested (actsBind (actsReads untestedReads (readsFind _ _)) fun found => ?_)
  split
  · trivial
  · refine actsBind (actsStellar rfl _) fun _ => actsBind ?_ fun _ => actsWrite rfl fun i db value db' ok => ?_
    · refine actsWrite rfl fun i db value db' ok => restates ?_ ok
      exact fun _ => ⟨⟨rfl,rfl,rfl⟩,rfl⟩
    · cases ok
      exact ⟨_,rfl⟩

theorem guardedHandler (request : Request) : Guarded (Guard request) anyOutcome (handler self request) [] := by
  cases request with
  | submitProof => exact guardedThen (guardedSubmitProof _ _ _ _) fun _ _ => trivial
  | rejectProof => exact guardedThen (guardedRejectProof _ _ _ _ _) fun _ _ => trivial
  | submitProofFlow => exact guardedThen (guardedSubmitProofFlow self _ _ _) fun _ _ => trivial
  | approveMilestone => exact guardedThen (guardedApproveMilestone self _ _ _ _) fun _ _ => trivial
  | confirmFlow => exact guardedThen (guardedConfirmFlow self _ _ _) fun _ _ => trivial
  | disputeFlow => exact guardedThen (guardedDisputeFlow self _ _ _) fun _ _ => trivial
  | resolveDisputeFlow => exact guardedThen (guardedResolveDisputeFlow self _ _ _ _) fun _ _ => trivial
  | decide => exact guardedThen (guardedControllerDecide self _ _ _ _) fun _ _ => trivial
  | openAppeal =>
    exact guardedThen (guardedUntested (actsOpenAppeal untestedReads self rfl _ _)) fun _ _ => trivial
  | finalizeExpiredAppealWindows => exact guardedThen (guardedFinalizeExpired self _) fun _ _ => trivial
  | propose => exact guardedThen (guardedPropose _ _ _ _) fun _ _ => trivial
  | approve => exact guardedThen (guardedApprove _ _) fun _ _ => trivial
  | reject => exact guardedThen (guardedReject _ _ _ _) fun _ _ => trivial
  | unlockRetentionOnChain => exact guardedUnlockRetention _
  | processEvent => exact guardedProcessEvent self rfl _ _
  | pollEvents => exact guardedPollEvents self rfl _
  | retryUnprocessed => exact guardedRetryUnprocessed self rfl _

def submitted : Db where
  engagements := .single { id := "e", companyAddress := "GC", recruiterAddress := "GR", arbiterAddress := "GA", totalAmount := 1000 }
  milestones := .single { id := "m", engagementId := "e", milestoneIndex := 0, name := "placed", kind := .placement
                          paymentPercent := 100, amount := some 1000, status := .proofSubmitted }

def contractEvent (name : String) (items : List Json) : ContractEvent :=
  { ledger := 5, txHash := name, topic := [name], value := .array (.text "e" :: .number 0 :: items) }

def approved : List PaidMove := [.start (.approveMilestone "e" 0 "u" none)] ++ answered 0 (.replicate 10 {})

/-- The confirmation of the contract, after that of the service. -/
def confirmedTwice : List PaidMove :=
  [.start (.processEvent (contractEvent "milestone_confirmed" [.number 1000]))] ++
  answered 1 [{},{},{ text := "c" },{},{},{},{},{},{},{}]

/-- An unlock event of a milestone that has been confirmed meanwhile. -/
def unlockedLate : List PaidMove :=
  [.start (.processEvent (contractEvent "milestone_unlocked" []))] ++ answered 1 [{},{},{ text := "c" },{},{},{},{}]

def released : Db := { submitted with
  milestones := ⟨[{ id := "m", engagementId := "e", milestoneIndex := 0, name := "placed", kind := .placement
                    paymentPercent := 100, amount := some 1000, status := .resolved }],by decide⟩
  partialReleases := ⟨[{ id := "p", milestoneId := "m", engagementId := "e", proposedById := "c", releaseAmount := 400
                         remainderAmount := 600, remainderAction := .refund, companyApprovedAt := some 1 }],by decide⟩ }

/-- The second approval of a partial release, after the dispute was resolved. -/
def approvedLate : List PaidMove :=
  [.start (.approve "e" 0 "p" { stellarAddress := some "GR" })] ++ answered 0 (.replicate 15 {})

theorem keepsStatus {db db' : Db} (keeps : KeepsPaid db db') (id : String) (status : MilestoneStatus) (its : paid status = true)
    (before : (db.milestones.get? id).map Milestone.status = some status) :
    (db'.milestones.get? id).map Milestone.status = some status := by
  obtain ⟨m,found,rfl⟩ := Option.map_eq_some_iff.mp before
  obtain ⟨m',found',same⟩ := keeps id m found its
  rw [found',Option.map_some,same]

end Runs

end HireSettle.Escrow.PaidMilestones
