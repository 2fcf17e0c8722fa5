import HireSettle.Escrow.Appeals
import HireSettle.Escrow.ChainEvents
import HireSettle.Escrow.PartialReleases

/-! What each call can do to the tables, said once. A call that fails or misses its
row changes nothing; otherwise its site tells which tables it writes and how. -/
namespace HireSettle.Escrow
open Workflow

structure SameSlot (m m' : Milestone) : Prop where
  id : m'.id = m.id
  engagementId : m'.engagementId = m.engagementId
  milestoneIndex : m'.milestoneIndex = m.milestoneIndex

/-- The milestone `id` gets a status; it stays in its slot. -/
def Restates (id : String) (next : MilestoneStatus → MilestoneStatus) (db db' : Db) : Prop :=
  ∃ (f : Milestone → Milestone) (keeps : ∀ m, (f m).id = m.id), (∀ m, SameSlot m (f m) ∧ (f m).status = next m.status) ∧
    db' = { db with milestones := db.milestones.update id f keeps }

def RestatesAt (engagementId : String) (milestoneIndex : Nat) (next : MilestoneStatus → MilestoneStatus) (db db' : Db) : Prop :=
  ∃ m, db.milestoneAt engagementId milestoneIndex = some m ∧ Restates m.id next db db'

structure SameCase (d d' : Dispute) : Prop where
  id : d'.id = d.id
  engagementId : d'.engagementId = d.engagementId
  milestoneId : d'.milestoneId = d.milestoneId
  createdAt : d'.createdAt = d.createdAt

/-- The disputes that meet `p` move by `P`. -/
def MovesDisputes (p : Dispute → Prop) (P : Dispute → Dispute → Prop) (db db' : Db) : Prop :=
  ∃ (q : Dispute → Bool) (f : Dispute → Dispute) (keeps : ∀ d, (f d).id = d.id),
    (∀ d, q d = true → p d) ∧ (∀ d, SameCase d (f d) ∧ P d (f d)) ∧
    db' = { db with disputes := db.disputes.updateMany q f keeps }

def SameFunds (d d' : Dispute) : Prop := d'.fundsReleasedAt = d.fundsReleasedAt

structure SameHearing (d d' : Dispute) : Prop where
  arbiterId : d'.arbiterId = d.arbiterId
  stage : d'.stage = d.stage

/-- Appeals are changed, but not whose decision they are against. -/
def MovesAppeals (db db' : Db) : Prop :=
  ∃ (q : DisputeAppeal → Bool) (f : DisputeAppeal → DisputeAppeal) (keeps : ∀ a, (f a).disputeId = a.disputeId),
    (∀ a, (f a).originalArbiterId = a.originalArbiterId) ∧ db' = { db with appeals := db.appeals.updateMany q f keeps }

structure NewDispute (milestoneId : String) (row : Dispute) : Prop where
  milestoneId : row.milestoneId = milestoneId
  status : row.status = .opened
  stage : row.stage = .assignment
  arbiterId : row.arbiterId = none
  fundsReleasedAt : row.fundsReleasedAt = none

structure SameProof (v v' : MilestoneProofVersion) : Prop where
  milestoneId : v'.milestoneId = v.milestoneId
  versionNumber : v'.versionNumber = v.versionNumber
  proofUrl : v'.proofUrl = v.proofUrl
  content : v'.content = v.content
  submittedAt : v'.submittedAt = v.submittedAt

def UpdatesVersions (db db' : Db) : Prop :=
  ∃ (q : MilestoneProofVersion → Bool) (f : MilestoneProofVersion → MilestoneProofVersion) (keeps : ∀ v, (f v).id = v.id),
    (∀ v, SameProof v (f v)) ∧
    db' = { db with proofVersions := db.proofVersions.updateMany q f keeps }

/-- Versions of the milestone are changed, or one is added. -/
def WritesVersions (milestoneId : String) (db db' : Db) : Prop :=
  UpdatesVersions db db' ∨
  ∃ row proofVersions, row.milestoneId = milestoneId ∧ db.proofVersions.create row = some proofVersions ∧
    db' = { db with proofVersions := proofVersions }

@[reducible] def Site.effect (site : Site) (db db' : Db) : Prop :=
  match site with
  | .createApproval milestoneId => ∃ userId approvals, db.approvals.create ⟨milestoneId,userId⟩ = some approvals ∧
      db' = { db with approvals := approvals }
  | .deleteApprovals milestoneId =>
      db' = { db with approvals := db.approvals.deleteMany fun row => row.milestoneId = milestoneId }
  | .writeProofVersion milestoneId => WritesVersions milestoneId db db'
  | .claimProofSla _ => UpdatesVersions db db'
  | .proofSubmitted milestoneId => Restates milestoneId (fun _ => .proofSubmitted) db db'
  | .proofSubmittedAt engagementId milestoneIndex => RestatesAt engagementId milestoneIndex (fun _ => .proofSubmitted) db db'
  | .proofRejected milestoneId => Restates milestoneId (fun _ => .pending) db db'
  | .markConfirmed engagementId milestoneIndex => RestatesAt engagementId milestoneIndex (fun _ => .confirmed) db db'
  | .markResolved engagementId milestoneIndex => ∃ status, (status = .resolved ∨ status = .pending) ∧
      RestatesAt engagementId milestoneIndex (fun _ => status) db db'
  | .markUnlocked milestoneId => Restates milestoneId (fun _ => .pending) db db'
  | .markUnlockedAt engagementId milestoneIndex => RestatesAt engagementId milestoneIndex (fun _ => .pending) db db'
  | .markDisputed engagementId milestoneIndex => RestatesAt engagementId milestoneIndex (fun _ => .disputed) db db'
  | .settleMilestone _ => ∃ id status, (status = .resolved ∨ status = .pending) ∧ Restates id (fun _ => status) db db'
  | .resetMilestone milestoneId => ∃ status, (status = .pending ∨ status = .locked) ∧
      Restates milestoneId (fun _ => status) db db'
  | .payRelease _ => ∃ id next, (next = (fun status => status) ∨ next = fun _ => .confirmed) ∧ Restates id next db db'
  | .createRelease _ | .approveRelease _ _ | .rejectRelease _ | .claimRelease _ | .failRelease _ | .executeRelease _ =>
      ∃ partialReleases, db' = { db with partialReleases := partialReleases }
  | .refundMilestone _ | .refundRemainder _ => ∃ refunds, db' = { db with refunds := refunds }
  | .openDispute milestoneId => ∃ row disputes, NewDispute milestoneId row ∧ db.disputes.create row = some disputes ∧
      db' = { db with disputes := disputes }
  | .assignArbiter id => MovesDisputes (fun d => d.id = id) (fun d d' => d'.status = .underReview ∧ SameFunds d d') db db'
  | .overrideArbiter id => MovesDisputes (fun d => d.id = id) (fun d d' => d'.status = .underReview ∧ SameFunds d d') db db'
  | .decide id => MovesDisputes (fun d => d.id = id ∧ d.active = true)
      (fun d d' => d'.status = .resolved ∧ SameFunds d d' ∧ SameHearing d d') db db'
  | .expireAppealWindow id => MovesDisputes (fun d => d.id = id)
      (fun d d' => d'.status = d.status ∧ SameFunds d d' ∧ SameHearing d d') db db'
  | .claimSettlement id => MovesDisputes (fun d => DisputesService.settleable id d = true)
      (fun d d' => d'.status = .closed ∧ SameFunds d d' ∧ SameHearing d d') db db'
  | .unclaimSettlement id => MovesDisputes (fun d => d.id = id)
      (fun d d' => d'.status = .resolved ∧ SameFunds d d' ∧ SameHearing d d') db db'
  | .unlockFunds id => MovesDisputes (fun d => d.id = id) (fun d d' => d'.status = d.status ∧ SameHearing d d') db db'
  | .markSettledOnChain milestoneId => MovesDisputes (fun d => d.milestoneId = milestoneId ∧ d.fundsReleasedAt = none)
      (fun d d' => d'.status = .closed ∧ SameHearing d d') db db'
  | .openAppeal id => ∃ mid, MovesDisputes (fun d => d.id = id ∧ d.status = .resolved)
      (fun d d' => (d'.status = .opened ∨ d'.status = .underReview) ∧ SameFunds d d') db mid ∧
      ∃ appeals, db' = { mid with appeals := appeals }
  | .decideAppeal id => ∃ mid, MovesDisputes (fun d => d.id = id)
      (fun d d' => d'.status = .resolved ∧ SameFunds d d' ∧ SameHearing d d') db mid ∧ MovesAppeals mid db'
  | .overrideAppeal _ => MovesAppeals db db'
  | .createPayout _ => ∃ payouts, db' = { db with payouts := payouts }
  | .addReleasedAmount _ | .syncEngagement _ => ∃ engagements, db' = { db with engagements := engagements }
  | .unlockSchedule | .upsertSchedule _ _ => ∃ schedules, db' = { db with schedules := schedules }
  | .saveEvent _ | .recordFailure _ => ∃ chainEvents, db' = { db with chainEvents := chainEvents }
  | .moveToDeadLetter _ | .requeue _ => ∃ deadLetters chainEvents, db' = { db with deadLetters := deadLetters, chainEvents := chainEvents }
  | .advance _ => ∃ lastProcessedLedger, db' = { db with lastProcessedLedger := lastProcessedLedger }
  | .markProcessed _ _ => ∃ engagements schedules chainEvents,
      db' = { db with engagements := engagements, schedules := schedules, chainEvents := chainEvents }
  | _ => False

/-- A call changes nothing, or what its site says. -/
def Effect (site : Site) (db db' : Db) : Prop := db' = db ∨ site.effect db db'

/-- The calls that write disputes. -/
def Site.writesDisputes : Site → Bool
  | .openDispute _ | .assignArbiter _ | .overrideArbiter _ | .decide _ | .expireAppealWindow _ | .claimSettlement _
  | .unclaimSettlement _ | .unlockFunds _ | .markSettledOnChain _ | .openAppeal _ | .decideAppeal _ => true
  | _ => false

theorem disputesStay {site : Site} {db db' : Db} (effect : Effect site db db') (elsewhere : site.writesDisputes = false) :
    db'.disputes = db.disputes := by
  have restated : ∀ {id next}, Restates id next db db' → db'.disputes = db.disputes := by
    rintro id next ⟨_,_,_,rfl⟩
    rfl
  obtain rfl | effect := effect
  · rfl
  · cases site with
    | writeProofVersion =>
      obtain ⟨_,_,_,_,rfl⟩ | ⟨_,_,_,_,rfl⟩ := effect <;> rfl
    | claimProofSla =>
      obtain ⟨_,_,_,_,rfl⟩ := effect
      rfl
    | proofSubmitted | proofRejected | markUnlocked => exact restated effect
    | proofSubmittedAt | markConfirmed | markUnlockedAt | markDisputed =>
      obtain ⟨_,_,moved⟩ := effect
      exact restated moved
    | markResolved =>
      obtain ⟨_,_,_,_,moved⟩ := effect
      exact restated moved
    | settleMilestone | payRelease =>
      obtain ⟨_,_,_,moved⟩ := effect
      exact restated moved
    | resetMilestone =>
      obtain ⟨_,_,moved⟩ := effect
      exact restated moved
    | createApproval =>
      obtain ⟨_,_,_,rfl⟩ := effect
      rfl
    | deleteApprovals =>
      cases effect
      rfl
    | createRelease | approveRelease | rejectRelease | claimRelease | failRelease | executeRelease | refundMilestone
    | refundRemainder | createPayout | addReleasedAmount | syncEngagement | unlockSchedule | upsertSchedule
    | saveEvent | recordFailure | advance =>
      obtain ⟨_,rfl⟩ := effect
      rfl
    | overrideAppeal =>
      obtain ⟨_,_,_,_,rfl⟩ := effect
      rfl
    | moveToDeadLetter | requeue =>
      obtain ⟨_,_,rfl⟩ := effect
      rfl
    | markProcessed =>
      obtain ⟨_,_,_,rfl⟩ := effect
      rfl
    | _ => first | exact effect.elim | cases elsewhere

/-- The calls that write the status of a milestone. -/
def Site.restates : Site → Bool
  | .proofSubmitted _ | .proofSubmittedAt _ _ | .proofRejected _ | .markConfirmed _ _ | .markResolved _ _ | .markUnlocked _
  | .markUnlockedAt _ _ | .markDisputed _ _ | .settleMilestone _ | .resetMilestone _ | .payRelease _ => true
  | _ => false

theorem milestonesStay {site : Site} {db db' : Db} (effect : Effect site db db') (elsewhere : site.restates = false) :
    db'.milestones = db.milestones := by
  have moved : ∀ {p P}, MovesDisputes p P db db' → db'.milestones = db.milestones := by
    rintro p P ⟨_,_,_,_,_,rfl⟩
    rfl
  obtain rfl | effect := effect
  · rfl
  · cases site with
    | writeProofVersion =>
      obtain ⟨_,_,_,_,rfl⟩ | ⟨_,_,_,_,rfl⟩ := effect <;> rfl
    | claimProofSla =>
      obtain ⟨_,_,_,_,rfl⟩ := effect
      rfl
    | createApproval =>
      obtain ⟨_,_,_,rfl⟩ := effect
      rfl
    | deleteApprovals =>
      cases effect
      rfl
    | openDispute =>
      obtain ⟨_,_,_,_,rfl⟩ := effect
      rfl
    | assignArbiter | overrideArbiter | decide | expireAppealWindow | claimSettlement | unclaimSettlement | unlockFunds
    | markSettledOnChain => exact moved effect
    | openAppeal =>
      obtain ⟨mid,⟨_,_,_,_,_,rfl⟩,_,rfl⟩ := effect
      rfl
    | decideAppeal =>
      obtain ⟨mid,⟨_,_,_,_,_,rfl⟩,_,_,_,_,rfl⟩ := effect
      rfl
    | overrideAppeal =>
      obtain ⟨_,_,_,_,rfl⟩ := effect
      rfl
    | createRelease | approveRelease | rejectRelease | claimRelease | failRelease | executeRelease | refundMilestone
    | refundRemainder | createPayout | addReleasedAmount | syncEngagement | unlockSchedule | upsertSchedule
    | saveEvent | recordFailure | advance =>
      obtain ⟨_,rfl⟩ := effect
      rfl
    | moveToDeadLetter | requeue =>
      obtain ⟨_,_,rfl⟩ := effect
      rfl
    | markProcessed =>
      obtain ⟨_,_,_,rfl⟩ := effect
      rfl
    | _ => first | exact effect.elim | cases elsewhere

section Reads

/-- The state in which a thread has last read a row of the table. -/
def lastRead (model : Model) (own : List EscrowEvent) : Option Db := (own.find? fun e => e.site = .find model).map Event.before

variable {own : List EscrowEvent}

theorem lastReadCons {model : Model} {e : EscrowEvent} (elsewhere : e.site ≠ .find model) :
    lastRead model (e :: own) = lastRead model own := by
  rw [lastRead,List.find?_cons_of_neg (by simpa using elsewhere)]
  rfl

theorem lastReadSelf {model : Model} {e : EscrowEvent} (here : e.site = .find model) : lastRead model (e :: own) = some e.before := by
  rw [lastRead,List.find?_cons_of_pos (by simpa using here)]
  rfl

theorem lastReadLater {model : Model} {later : List EscrowEvent} (elsewhere : ∀ e ∈ later, e.site ≠ .find model) :
    lastRead model (later ++ own) = lastRead model own := by
  induction later with
  | nil => rfl
  | cons e later ih =>
    rw [List.cons_append,lastReadCons (elsewhere e List.mem_cons_self)]
    exact ih fun e inside => elsewhere e (List.mem_cons_of_mem _ inside)

theorem lastReadMem {model : Model} {db : Db} (last : lastRead model own = some db) : ∃ e ∈ own, e.before = db := by
  obtain ⟨e,found,same⟩ := Option.map_eq_some_iff.mp last
  exact ⟨e,List.mem_of_find?_eq_some found,same⟩

end Reads

def Within (sites : Site → Bool) (site : Site) (db db' : Db) : Prop := sites site = true ∧ Effect site db db'

section Writes

variable {α : Type} {sites : Site → Bool} {site : Site} {db db' : Db}

theorem actsReads {p : Op α} (included : ∀ site, site.reads = true → sites site = true) (reads : Reads Site.reads p) :
    Acts (Within sites) p :=
  actsMono (fun site _ _ ⟨here,same⟩ => ⟨included site here,Or.inl same.symm⟩) (actsSteps reads)

theorem actsWrite (here : sites site = true) {f : Answer → Db → Except Exception (α × Db)}
    (commits : ∀ i db value db', f i db = .ok (value,db') → site.effect db db') : Acts (Within sites) (write site f) := by
  refine actsTransact (fun _ => ⟨here,Or.inl rfl⟩) fun i db value db' ok => ⟨here,Or.inr ?_⟩
  split at ok
  · contradiction
  · exact commits i db value db' ok

theorem restates {id : String} {next : MilestoneStatus → MilestoneStatus} {f : Milestone → Milestone}
    {keeps : ∀ m, (f m).id = m.id} (same : ∀ m, SameSlot m (f m) ∧ (f m).status = next m.status) {m' : Milestone}
    (updated : db.updateMilestone id f keeps = .ok (m',db')) : Restates id next db db' := by
  obtain ⟨_,_,_,_,_,rfl⟩ := Db.updateMilestoneCases updated
  exact ⟨f,keeps,same,rfl⟩

theorem restatesAt {engagementId : String} {milestoneIndex : Nat} {next : MilestoneStatus → MilestoneStatus}
    {f : Milestone → Milestone} {keeps : ∀ m, (f m).id = m.id}
    (same : ∀ m, SameSlot m (f m) ∧ (f m).status = next m.status) {m' : Milestone}
    (updated : db.updateMilestoneAt engagementId milestoneIndex f keeps = .ok (m',db')) :
    RestatesAt engagementId milestoneIndex next db db' := by
  have here : ∀ m, (f m).engagementId = m.engagementId ∧ (f m).milestoneIndex = m.milestoneIndex :=
    fun m => ⟨(same m).1.engagementId,(same m).1.milestoneIndex⟩
  obtain ⟨m,found,_,_,moved⟩ := Db.updateMilestoneAtCases here updated
  exact ⟨m,found,restates same moved⟩

theorem movesDispute {id : String} {P : Dispute → Dispute → Prop} {f : Dispute → Dispute} {keeps : ∀ d, (f d).id = d.id}
    (same : ∀ d, SameCase d (f d) ∧ P d (f d)) {d' : Dispute} (updated : db.updateDispute id f keeps = .ok (d',db')) :
    MovesDisputes (fun d => d.id = id) P db db' := by
  obtain ⟨_,_,_,_,_,rfl⟩ := Db.updateDisputeCases updated
  exact ⟨_,f,keeps,fun d matched => of_decide_eq_true matched,same,rfl⟩

theorem updatesVersion {milestoneId id : String} {f : MilestoneProofVersion → MilestoneProofVersion}
    (keeps : ∀ v, (f v).id = v.id) (same : ∀ v, SameProof v (f v))
    (here : sites (.writeProofVersion milestoneId) = true) :
    Acts (Within sites) (ProofVersionsService.updateVersion milestoneId id f keeps) := by
  refine actsWrite here fun i db value db' ok => ?_
  obtain ⟨_,found,rest⟩ := exceptBind.mp ok
  obtain ⟨_,_,rfl⟩ := Db.requiredModify found
  cases rest
  exact Or.inl ⟨_,f,keeps,same,rfl⟩

theorem updatesVersions {milestoneId : String} {q : MilestoneProofVersion → Bool}
    {f : MilestoneProofVersion → MilestoneProofVersion} (keeps : ∀ v, (f v).id = v.id)
    (same : ∀ v, SameProof v (f v))
    (here : sites (.writeProofVersion milestoneId) = true) :
    Acts (Within sites) (write (.writeProofVersion milestoneId) fun _ db => .ok (db.updateVersionsWhere q f keeps)) := by
  refine actsWrite here fun i db value db' ok => ?_
  cases ok
  exact Or.inl ⟨q,f,keeps,same,rfl⟩

theorem movesDisputes {p : Dispute → Prop} {P : Dispute → Dispute → Prop} {q : Dispute → Bool} {f : Dispute → Dispute}
    {keeps : ∀ d, (f d).id = d.id} (met : ∀ d, q d = true → p d) (same : ∀ d, SameCase d (f d) ∧ P d (f d)) :
    MovesDisputes p P db { db with disputes := db.disputes.updateMany q f keeps } := ⟨q,f,keeps,met,same,rfl⟩

end Writes

section Versions

open ProofVersionsService

variable {sites : Site → Bool} (reads : ∀ site, site.reads = true → sites site = true) {milestoneId : String}

theorem actsCreateVersion (here : sites (.writeProofVersion milestoneId) = true) (versionNumber : Nat) (input : ProofInput) :
    Acts (Within sites) (createVersion milestoneId versionNumber input) := by
  refine actsWrite here fun i db value db' ok => ?_
  dsimp only at ok
  split at ok
  · contradiction
  · split at ok
    · contradiction
    · rename_i proofVersions made
      cases ok
      exact Or.inr ⟨_,proofVersions,rfl,made,rfl⟩

include reads

theorem actsAttemptVersion (here : sites (.writeProofVersion milestoneId) = true) (input : ProofInput)
    {lost : Exception → Op MilestoneProofVersion} (again : ∀ error, Acts (Within sites) (lost error)) :
    Acts (Within sites) (attemptVersion milestoneId input lost) := by
  refine actsBind (actsReads reads (readsFind _ _)) fun found => ?_
  split
  · exact actsHandle (actsCreateVersion here _ _) again
  · split
    · split
      · exact updatesVersion _ (fun _ => ⟨rfl,rfl,rfl,rfl,rfl⟩) here
      · trivial
    · exact actsHandle (actsCreateVersion here _ _) again

theorem actsRecordVersion (here : sites (.writeProofVersion milestoneId) = true) (input : ProofInput) :
    Acts (Within sites) (recordVersion milestoneId input) := by
  refine actsAttemptVersion reads here input fun error => ?_
  split
  · exact actsAttemptVersion reads here input fun _ => trivial
  · trivial

theorem actsMarkApproved (here : sites (.writeProofVersion milestoneId) = true) (reviewedById : Option String) :
    Acts (Within sites) (markApproved milestoneId reviewedById) := by
  refine actsBind (actsReads reads (readsFind _ _)) fun found => ?_
  split
  · trivial
  · split
    · trivial
    · refine actsBind (actsReads reads readsNow) fun at' => ?_
      exact actsBind (updatesVersion _ (fun _ => ⟨rfl,rfl,rfl,rfl,rfl⟩) here) fun _ => trivial

omit reads in
theorem readsAssertReviewable (versionNumber : Option Nat) : Reads Site.reads (assertReviewable milestoneId versionNumber) := by
  refine readsBind (readsFind _ _) fun found => ?_
  split
  · trivial
  · trivial
  · split
    · trivial
    · split <;> trivial

end Versions

section Proofs

open ProofVersionsService

theorem actsRequirePartyRole {E : Site → Db → Db → Prop} (engagement : Engagement) (user : PartyUser) (allowed : List PartyRole)
    (message : String) : Acts E (requirePartyRole engagement user allowed message) := by
  unfold requirePartyRole
  split
  · split <;> trivial
  · trivial

variable {sites : Site → Bool} (reads : ∀ site, site.reads = true → sites site = true)
  (versions : ∀ id, sites (.writeProofVersion id) = true)
include reads versions

theorem actsSubmitProof (submits : ∀ id, sites (.proofSubmitted id) = true) (engagementId : String) (milestoneIndex : Nat)
    (user : PartyUser) (input : ProofInput) : Acts (Within sites) (submitProof engagementId milestoneIndex user input) := by
  refine actsBind (actsReads reads (readsFindOr _ _)) fun found => actsBind (actsRequirePartyRole _ _ _ _) fun _ => ?_
  split
  · trivial
  · split
    · trivial
    · refine actsBind (actsReads reads readsNow) fun at' => actsBind ?_ fun _ => actsBind ?_ fun version => actsBind ?_ fun updated => ?_
      · exact updatesVersions _ (fun _ => ⟨rfl,rfl,rfl,rfl,rfl⟩) (versions _)
      · exact actsRecordVersion reads (versions _) _
      · refine actsWrite (submits _) fun i db value db' ok => restates ?_ ok
        exact fun _ => ⟨⟨rfl,rfl,rfl⟩,rfl⟩
      · exact actsBind (actsReads reads readsNotify) fun _ => trivial

theorem actsRejectProof (rejects : ∀ id, sites (.proofRejected id) = true) (deletes : ∀ id, sites (.deleteApprovals id) = true)
    (engagementId : String) (milestoneIndex : Nat) (user : PartyUser) (reason : String) (versionNumber : Option Nat) :
    Acts (Within sites) (rejectProof engagementId milestoneIndex user reason versionNumber) := by
  refine actsBind (actsReads reads (readsFindOr _ _)) fun found => actsBind (actsRequirePartyRole _ _ _ _) fun _ => ?_
  split
  · trivial
  · refine actsBind (actsReads reads (readsAssertReviewable _)) fun latest => ?_
    split
    · trivial
    · refine actsBind (actsReads reads readsNow) fun at' => actsBind (updatesVersions _ (fun _ => ⟨rfl,rfl,rfl,rfl,rfl⟩) (versions _)) fun count => ?_
      split
      · trivial
      · refine actsBind ?_ fun updated => actsBind ?_ fun _ => actsBind (actsReads reads readsNotify) fun _ => trivial
        · refine actsWrite (rejects _) fun i db value db' ok => restates ?_ ok
          exact fun _ => ⟨⟨rfl,rfl,rfl⟩,rfl⟩
        · refine actsWrite (deletes _) fun i db value db' ok => ?_
          cases ok
          rfl

end Proofs

section Disputes

open ArbiterAssignmentService DisputesService

variable {sites : Site → Bool} (reads : ∀ site, site.reads = true → sites site = true) (self : Config)
include reads

theorem actsAutoAssign (assigns : ∀ id, sites (.assignArbiter id) = true) (disputeId : String) :
    Acts (Within sites) (autoAssign self disputeId) := by
  refine actsBind (actsReads reads (readsFindOr _ _)) fun found => ?_
  split
  · trivial
  · split
    · trivial
    · refine actsBind (actsReads reads (readsSelectArbiter _ _)) fun selected => ?_
      split
      · trivial
      · refine actsBind (actsReads reads readsNow) fun at' => actsBind ?_ fun count => ?_
        · refine actsWrite (assigns disputeId) fun i db value db' ok => ?_
          cases ok
          refine movesDisputes ?_ ?_
          · intro d matched
            simp only [Bool.and_eq_true,decide_eq_true_eq] at matched
            exact matched.1.1
          · exact fun d => ⟨⟨rfl,rfl,rfl,rfl⟩,rfl,rfl⟩
        · dsimp only
          split
          · exact actsBind (actsReads reads readsNotify) fun _ => actsReads reads (readsFind _ _)
          · exact actsReads reads (readsFind _ _)

theorem actsOpenForMilestone (opens : ∀ id, sites (.openDispute id) = true) (assigns : ∀ id, sites (.assignArbiter id) = true)
    (milestoneId : String) (reason raisedById : Option String) :
    Acts (Within sites) (openForMilestone self milestoneId reason raisedById) := by
  refine actsBind (actsReads reads (readsFind _ _)) fun existing => ?_
  split
  · trivial
  · refine actsBind (actsReads reads (readsFind _ _)) fun found => ?_
    split
    · trivial
    · refine actsBind (actsReads reads readsNow) fun at' => actsBind ?_ fun dispute => ?_
      · refine actsWrite (opens milestoneId) fun i db value db' ok => ?_
        dsimp only at ok
        split at ok
        · contradiction
        · rename_i disputes made
          cases ok
          exact ⟨_,disputes,⟨rfl,rfl,rfl,rfl,rfl⟩,made,rfl⟩
      · exact actsBind (actsAutoAssign reads self assigns _) fun _ => trivial

theorem actsMarkSettledOnChain (closes : ∀ id, sites (.markSettledOnChain id) = true) (milestoneId : String) :
    Acts (Within sites) (markSettledOnChain milestoneId) := by
  refine actsBind (actsReads reads readsNow) fun at' => actsWrite (closes milestoneId) fun i db value db' ok => ?_
  cases ok
  refine movesDisputes ?_ ?_
  · intro d matched
    simpa only [Bool.and_eq_true,decide_eq_true_eq,Option.isNone_iff_eq_none] using matched
  · exact fun d => ⟨⟨rfl,rfl,rfl,rfl⟩,rfl,rfl,rfl⟩

theorem actsRecordArbiterPayout (pays : ∀ id, sites (.createPayout id) = true) (dispute : Dispute) (amount : Int) :
    Acts (Within sites) (recordArbiterPayout self dispute amount) := by
  unfold recordArbiterPayout
  split
  · trivial
  · dsimp only
    split
    · trivial
    · refine actsBind (actsReads reads (readsFind _ _)) fun existing => ?_
      split
      · trivial
      · refine actsBind (actsWrite (pays _) fun i db value db' ok => ?_) fun _ => trivial
        split at ok
        · contradiction
        · cases ok
          exact ⟨_,rfl⟩

theorem actsRecordSettlement (settles : ∀ id, sites (.settleMilestone id) = true) (unlocks : ∀ id, sites (.unlockFunds id) = true)
    (pays : ∀ id, sites (.createPayout id) = true) (dispute : Dispute) (milestone : Milestone) (approved : Bool) (amount : Int) :
    Acts (Within sites) (recordSettlement self dispute milestone approved amount) := by
  refine actsBind (actsReads reads readsNow) fun at' => actsBind ?_ fun _ => actsBind ?_ fun settled => ?_
  · refine actsWrite (settles _) fun i db value db' ok => ?_
    refine ⟨milestone.id,if approved then .resolved else .pending,?_,restates ?_ ok⟩
    · split
      · exact Or.inl rfl
      · exact Or.inr rfl
    · exact fun _ => ⟨⟨rfl,rfl,rfl⟩,rfl⟩
  · refine actsWrite (unlocks _) fun i db value db' ok => ?_
    refine movesDispute (P := fun d d' => d'.status = d.status ∧ SameHearing d d') ?_ ok
    exact fun _ => ⟨⟨rfl,rfl,rfl,rfl⟩,rfl,rfl,rfl⟩
  · refine actsBind (actsRecordArbiterPayout reads self pays _ _) fun _ => ?_
    exact actsBind (actsReads reads (readsNotifyParties _ _)) fun _ => trivial

end Disputes

section Settlements

open ArbiterAssignmentService DisputesService AppealService

variable {sites : Site → Bool}

theorem actsStellar {α : Type} {site : Site} (here : sites site = true) (f : Answer → α) : Acts (Within sites) (stellar site f) :=
  actsQuery (fun _ => ⟨here,Or.inl rfl⟩) _

theorem actsUnclaim {disputeId : String} (here : sites (.unclaimSettlement disputeId) = true) (error : Exception) :
    Acts (Within sites) (unclaim disputeId error) := by
  refine actsBind (actsWrite here fun i db value db' ok => ?_) fun _ => trivial
  refine movesDispute ?_ ok
  exact fun _ => ⟨⟨rfl,rfl,rfl,rfl⟩,rfl,rfl,rfl,rfl⟩

theorem actsClaimSettlement {disputeId : String} (here : sites (.claimSettlement disputeId) = true) :
    Acts (Within sites) (claimSettlement disputeId) := by
  refine actsWrite here fun i db value db' ok => ?_
  cases ok
  refine movesDisputes (fun _ => id) ?_
  exact fun _ => ⟨⟨rfl,rfl,rfl,rfl⟩,rfl,rfl,rfl,rfl⟩

theorem actsPayOut (refunds : ∀ id, sites (.refundMilestone id) = true)
    (resolves : ∀ id engagementId index approved, sites (.resolveMilestoneDispute id engagementId index approved) = true)
    (dispute : Dispute) (milestone : Milestone) (approved : Bool) (amount : Int) :
    Acts (Within sites) (DisputesService.payOut dispute milestone approved amount) := by
  unfold DisputesService.payOut
  split
  · refine actsBind (actsWrite (refunds _) fun i db value db' ok => ?_) fun _ => actsStellar (resolves _ _ _ _) _
    cases ok
    exact ⟨_,rfl⟩
  · exact actsStellar (resolves _ _ _ _) _

theorem openAppealMoves {self : Config} {disputeId : String} {appeal appeal' : DisputeAppeal} {at' : Nat} {db db' : Db}
    (created : createAppeal self disputeId appeal at' db = .ok (appeal',db')) : (Site.openAppeal disputeId).effect db db' := by
  unfold createAppeal Db.updateDisputesWhere at created
  dsimp only at created
  split at created
  · contradiction
  · split at created
    · contradiction
    · cases created
      have keeps : ∀ d, (underAppeal self appeal at' d).id = d.id := fun _ => rfl
      refine ⟨{ db with disputes := db.disputes.updateMany (appealable disputeId at') (underAppeal self appeal at') keeps },
        movesDisputes ?_ ?_,_,rfl⟩
      · intro d matched
        simp only [appealable,Bool.and_eq_true,decide_eq_true_eq] at matched
        exact matched.1.1
      · refine fun d => ⟨⟨rfl,rfl,rfl,rfl⟩,?_,rfl⟩
        simp only [underAppeal,DisputeSlaService.stageFields]
        split
        · exact Or.inr rfl
        · exact Or.inl rfl

theorem decideAppealMoves {disputeId : String} {outcome : DisputeOutcome} {slaStatus : DisputeSlaStatus} {at' : Nat} {db db' : Db}
    (recorded : recordAppealDecision disputeId outcome slaStatus at' db = .ok ((),db')) : (Site.decideAppeal disputeId).effect db db' := by
  unfold recordAppealDecision at recorded
  dsimp only at recorded
  split at recorded
  · contradiction
  · obtain ⟨out,updated,same⟩ := exceptBind.mp recorded
    cases same
    obtain ⟨_,_,_,_,_,same⟩ := Db.updateDisputeCases updated
    refine ⟨{ db with disputes := db.disputes.update disputeId (finallyResolved outcome slaStatus at') },?_,_,decidedAs outcome at',
      fun _ => rfl,fun _ => rfl,same⟩
    exact movesDisputes (fun d matched => of_decide_eq_true matched) fun d => ⟨⟨rfl,rfl,rfl,rfl⟩,rfl,rfl,rfl,rfl⟩

theorem actsExpireWindow {dispute : Dispute} (here : sites (.expireAppealWindow dispute.id) = true) (at' : Nat) :
    Acts (Within sites) (expireWindow at' dispute) := by
  unfold expireWindow
  split
  · trivial
  · refine actsWrite here fun i db value db' ok => ?_
    cases ok
    refine movesDisputes ?_ ?_
    · intro d matched
      simp only [Bool.and_eq_true,decide_eq_true_eq] at matched
      exact matched.1.1.1
    · exact fun d => ⟨⟨rfl,rfl,rfl,rfl⟩,rfl,rfl,rfl,rfl⟩

theorem actsOpenAppeal (reads : ∀ site, site.reads = true → sites site = true) (self : Config) {disputeId : String}
    (here : sites (.openAppeal disputeId) = true) (user : DisputeActor) (reason : String) :
    Acts (Within sites) (openAppeal self disputeId user reason) := by
  refine actsBind (actsReads reads readsNow) fun at' => actsBind (actsReads reads (readsFindOr _ _)) fun found => ?_
  split
  · trivial
  · split
    · trivial
    · split
      · trivial
      · split
        · trivial
        · split
          · split
            · trivial
            · refine actsBind (actsReads reads (readsSelectArbiter _ _)) fun arbiter => actsBind (actsHandle ?_ fun error => ?_) fun appeal => ?_
              · exact actsWrite here fun i db value db' ok => openAppealMoves ok
              · split <;> trivial
              · exact actsBind (actsReads reads (readsAnnounceAppeal _ _ _)) fun _ => trivial
          · trivial

end Settlements

section Events

open EventsService MilestonesService

variable {sites : Site → Bool} (reads : ∀ site, site.reads = true → sites site = true) (self : Config)
include reads

theorem actsSync {engagementId : String} (here : sites (.syncEngagement engagementId) = true) :
    Acts (Within sites) (EngagementsService.syncFromChain engagementId) := by
  refine actsHandle (actsBind (actsReads reads (readsQuery rfl _)) fun onChain => ?_) fun _ => trivial
  split
  · trivial
  · refine actsBind (actsReads reads (readsFind _ _)) fun found => ?_
    split
    · trivial
    · refine actsBind (actsReads reads (readsQuery rfl _)) fun escrowBalance => ?_
      refine actsBind (actsWrite here fun i db value db' ok => ?_) fun _ => ?_
      · obtain ⟨_,_,_,_,_,rfl⟩ := Db.updateEngagementCases ok
        exact ⟨_,rfl⟩
      · split
        · exact actsBind (actsReads reads readsNotify) fun _ => actsReads reads readsNotify
        · trivial

omit reads in
theorem readsAnnounce (engagementId : String) (notices : Nat) : Reads Site.reads (announce engagementId notices) := by
  refine readsBind (readsFind _ _) fun engagement => ?_
  split
  · trivial
  · exact stepsForEach (fun _ => readsNotify) _

omit reads in
theorem actsMarkUnlocked {engagementId : String} {milestoneIndex : Nat} (here : sites (.markUnlockedAt engagementId milestoneIndex) = true) :
    Acts (Within sites) (markUnlocked engagementId milestoneIndex) := by
  refine actsWrite here fun i db value db' ok => restatesAt ?_ ok
  exact fun _ => ⟨⟨rfl,rfl,rfl⟩,rfl⟩

theorem actsMarkProofSubmitted {engagementId : String} {milestoneIndex : Nat}
    (here : sites (.proofSubmittedAt engagementId milestoneIndex) = true) (writes : ∀ id, sites (.writeProofVersion id) = true)
    (proofHash : String) : Acts (Within sites) (markProofSubmitted self engagementId milestoneIndex proofHash) := by
  refine actsBind (actsWrite here fun i db value db' ok => restatesAt ?_ ok) fun updated => actsBind ?_ fun _ => trivial
  · exact fun _ => ⟨⟨rfl,rfl,rfl⟩,rfl⟩
  · unfold recordVersion
    split
    · exact actsRecordVersion reads (writes _) _
    · trivial

theorem actsMarkConfirmed {engagementId : String} {milestoneIndex : Nat} (here : sites (.markConfirmed engagementId milestoneIndex) = true)
    (amount : Int) : Acts (Within sites) (markConfirmed engagementId milestoneIndex amount) := by
  refine actsBind (actsReads reads readsNow) fun at' => actsWrite here fun i db value db' ok => restatesAt ?_ ok
  exact fun _ => ⟨⟨rfl,rfl,rfl⟩,rfl⟩

theorem actsMarkDisputed {engagementId : String} {milestoneIndex : Nat} (here : sites (.markDisputed engagementId milestoneIndex) = true)
    (opens : ∀ id, sites (.openDispute id) = true) (assigns : ∀ id, sites (.assignArbiter id) = true) :
    Acts (Within sites) (markDisputed self engagementId milestoneIndex) := by
  refine actsBind (actsWrite here fun i db value db' ok => restatesAt ?_ ok) fun updated => actsBind ?_ fun _ => trivial
  · exact fun _ => ⟨⟨rfl,rfl,rfl⟩,rfl⟩
  · exact actsOpenForMilestone reads self opens assigns _ _ _

theorem actsMarkResolved {engagementId : String} {milestoneIndex : Nat} (here : sites (.markResolved engagementId milestoneIndex) = true)
    (closes : ∀ id, sites (.markSettledOnChain id) = true) (approved : Bool) (paymentReleased : Option Int) :
    Acts (Within sites) (markResolved engagementId milestoneIndex approved paymentReleased) := by
  refine actsBind (actsReads reads readsNow) fun at' => actsBind ?_ fun updated => actsBind ?_ fun _ => trivial
  · refine actsWrite here fun i db value db' ok => ⟨if approved then .resolved else .pending,?_,restatesAt ?_ ok⟩
    · split
      · exact Or.inl rfl
      · exact Or.inr rfl
    · exact fun _ => ⟨⟨rfl,rfl,rfl⟩,rfl⟩
  · exact actsMarkSettledOnChain reads closes _

omit reads in
theorem actsDeleteApprovals {milestoneId : String} (here : sites (.deleteApprovals milestoneId) = true) :
    Acts (Within sites) (deleteApprovals milestoneId) := by
  refine actsWrite here fun i db value db' ok => ?_
  cases ok
  rfl

omit reads in
theorem actsResetPlacement {m : Milestone} (resets : sites (.resetMilestone m.id) = true) (deletes : sites (.deleteApprovals m.id) = true) :
    Acts (Within sites) (resetPlacement m) := by
  refine actsBind (actsWrite resets fun i db value db' ok => ⟨.pending,Or.inl rfl,restates ?_ ok⟩) fun _ => actsDeleteApprovals deletes
  exact fun _ => ⟨⟨rfl,rfl,rfl⟩,rfl⟩

theorem actsResetRetention {m : Milestone} (resets : sites (.resetMilestone m.id) = true) (deletes : sites (.deleteApprovals m.id) = true)
    {engagementId : String} (schedules : sites (.upsertSchedule engagementId m.milestoneIndex) = true) (currentLedger : Int) :
    Acts (Within sites) (resetRetention engagementId currentLedger m) := by
  refine actsBind (actsReads reads readsNow) fun at' => actsBind ?_ fun _ => actsBind (actsDeleteApprovals deletes) fun _ => ?_
  · refine actsWrite resets fun i db value db' ok => ⟨.locked,Or.inr rfl,restates ?_ ok⟩
    exact fun _ => ⟨⟨rfl,rfl,rfl⟩,rfl⟩
  · split
    · trivial
    · trivial
    · refine actsWrite schedules fun i db value db' ok => ?_
      cases ok
      exact ⟨_,rfl⟩

theorem actsResetForReplacement {engagementId : String} (resets : ∀ id, sites (.resetMilestone id) = true)
    (deletes : ∀ id, sites (.deleteApprovals id) = true) (schedules : ∀ index, sites (.upsertSchedule engagementId index) = true)
    (currentLedger : Int) : Acts (Within sites) (resetForReplacement engagementId currentLedger) := by
  refine actsBind (actsReads reads (readsFind _ _)) fun milestones => actsForEach (fun m => ?_) milestones
  split
  · exact actsResetPlacement (resets _) (deletes _)
  · split
    · trivial
    · exact actsResetRetention reads (resets _) (deletes _) (schedules _) _

theorem actsHandleDisputeResolved (resolves : ∀ id index, sites (.markResolved id index) = true)
    (closes : ∀ id, sites (.markSettledOnChain id) = true) (syncs : ∀ id, sites (.syncEngagement id) = true) (payload : Json) :
    Acts (Within sites) (handleDisputeResolved self payload) := by
  refine actsBind (actsOfExcept _) fun index => actsBind (actsMarkResolved reads (resolves _ _) closes _ _) fun _ => ?_
  exact actsBind (actsSync reads (syncs _)) fun _ => actsBind (actsReads reads (readsAnnounce _ _)) fun _ => trivial

theorem actsHandleDisputeRaised (disputes : ∀ id index, sites (.markDisputed id index) = true)
    (opens : ∀ id, sites (.openDispute id) = true) (assigns : ∀ id, sites (.assignArbiter id) = true) (payload : Json) :
    Acts (Within sites) (handleDisputeRaised self payload) := by
  refine actsBind (actsOfExcept _) fun index => actsBind (actsMarkDisputed reads self (disputes _ _) opens assigns) fun _ => ?_
  exact actsBind (actsReads reads (readsAnnounce _ _)) fun _ => trivial

theorem actsHandleReplacementRequested (resets : ∀ id, sites (.resetMilestone id) = true)
    (deletes : ∀ id, sites (.deleteApprovals id) = true) (schedules : ∀ id index, sites (.upsertSchedule id index) = true)
    (payload : Json) : Acts (Within sites) (handleReplacementRequested payload) := by
  refine actsBind (actsReads reads (readsQuery rfl _)) fun ledger => ?_
  refine actsBind (actsResetForReplacement reads resets deletes (schedules _) _) fun _ => ?_
  exact actsReads reads (readsBind (readsFindOr _ _) fun _ => readsBind (readsAnnounce _ _) fun _ => trivial)

omit reads in
theorem actsSavedEvent {event : ContractEvent} (finds : sites (.findSaved event) = true) (saves : sites (.saveEvent event) = true) :
    Acts (Within sites) (savedEvent event) := by
  refine actsBind (actsQuery (fun _ => ⟨finds,Or.inl rfl⟩) _) fun found => ?_
  split
  · trivial
  · refine actsWrite saves fun i db row after ok => ?_
    dsimp only at ok
    split at ok
    · contradiction
    · split at ok
      · contradiction
      · cases ok
        exact ⟨_,rfl⟩

omit reads in
theorem actsMarkProcessed {event : ContractEvent} {chainEvent : ChainEvent} (here : sites (.markProcessed event chainEvent.id) = true)
    (writes : TxWrites) : Acts (Within sites) (markProcessed event chainEvent writes) := by
  refine actsWrite here fun i db value after ok => ?_
  dsimp only at ok
  split at ok
  · contradiction
  · cases ok
    exact ⟨_,_,_,rfl⟩

end Events

section Decisions

open DisputesService MilestonesService

/-- The calls of a settlement. -/
def Site.settles : Site → Bool
  | .claimSettlement _ | .unclaimSettlement _ | .refundMilestone _ | .resolveMilestoneDispute _ _ _ _ | .settleMilestone _
  | .unlockFunds _ | .createPayout _ => true
  | site => site.reads

/-- The calls of a first-tier decision, or of a settlement without one. -/
def Site.decides : Site → Bool
  | .decide _ | .markResolved _ _ | .markSettledOnChain _ => true
  | site => site.settles

variable {sites : Site → Bool} (self : Config)

theorem settlesReads (site : Site) (reads : site.reads = true) : site.settles = true := by
  cases site <;> first | rfl | cases reads

theorem decidesSettles (site : Site) (settles : site.settles = true) : site.decides = true := by
  cases site <;> first | rfl | cases settles

theorem actsSettle (settles : ∀ site, site.settles = true → sites site = true) (disputeId : String) :
    Acts (Within sites) (settle self disputeId) := by
  have reads : ∀ site : Site, site.reads = true → sites site = true := fun site here => settles site (settlesReads site here)
  refine actsBind (actsClaimSettlement (settles _ rfl)) fun count => ?_
  refine actsBind (actsReads reads (readsFindOr _ _)) fun found => ?_
  dsimp only
  split
  · trivial
  · refine actsBind (actsHandle ?_ fun error => actsUnclaim (settles _ rfl) error) fun _ => ?_
    · exact actsPayOut (fun _ => settles _ rfl) (fun _ _ _ _ => settles _ rfl) _ _ _ _
    · exact actsRecordSettlement reads self (fun _ => settles _ rfl) (fun _ => settles _ rfl) (fun _ => settles _ rfl) _ _ _ _

theorem actsDisputeFlow (reads : ∀ site, site.reads = true → sites site = true) (disputes : ∀ id index, sites (.markDisputed id index) = true)
    (opens : ∀ id, sites (.openDispute id) = true) (assigns : ∀ id, sites (.assignArbiter id) = true) (engagementId : String)
    (milestoneIndex : Nat) (reason : String) : Acts (Within sites) (disputeFlow self engagementId milestoneIndex reason) := by
  refine actsBind (actsReads reads (readsFindOr _ _)) fun milestone => ?_
  split
  · trivial
  · refine actsBind (actsWrite (disputes _ _) fun i db value db' ok => restatesAt ?_ ok) fun updated => ?_
    · exact fun _ => ⟨⟨rfl,rfl,rfl⟩,rfl⟩
    · refine actsBind (actsOpenForMilestone reads self opens assigns _ _ _) fun dispute => actsReads reads ?_
      refine readsBind (readsFind _ _) fun engagement => ?_
      split
      · trivial
      · exact readsBind (stepsForEach (fun _ => readsCreateNotification) _) fun _ => trivial

variable (decides : ∀ site, site.decides = true → sites site = true)
include decides

theorem actsDecide (dispute : Dispute) (outcome : DisputeOutcome) (actor : Option DisputeActor) :
    Acts (Within sites) (DisputesService.decide self dispute outcome actor) := by
  have settles : ∀ site : Site, site.settles = true → sites site = true := fun site here => decides site (decidesSettles site here)
  have reads : ∀ site : Site, site.reads = true → sites site = true := fun site here => settles site (settlesReads site here)
  unfold DisputesService.decide
  split
  · trivial
  · split
    · trivial
    · split
      · trivial
      · refine actsBind (actsReads reads readsNow) fun at' => actsBind (actsWrite (decides _ rfl) fun i db value db' ok => ?_) fun count => ?_
        · cases ok
          refine movesDisputes ?_ ?_
          · intro d matched
            simpa only [Bool.and_eq_true,decide_eq_true_eq] using matched
          · exact fun _ => ⟨⟨rfl,rfl,rfl,rfl⟩,rfl,rfl,rfl,rfl⟩
        · split
          · trivial
          · split
            · exact actsSettle self settles _
            · refine actsReads reads (readsBind (readsFindOr _ _) fun updated => ?_)
              exact readsBind (readsNotifyParties _ _) fun _ => trivial

open AppealService in
theorem actsDecideAppeal (appeals : ∀ id, sites (.decideAppeal id) = true) (disputeId : String) (user : DisputeActor)
    (outcome : DisputeOutcome) : Acts (Within sites) (decideAppeal self disputeId user outcome) := by
  have settles : ∀ site : Site, site.settles = true → sites site = true := fun site here => decides site (decidesSettles site here)
  have reads : ∀ site : Site, site.reads = true → sites site = true := fun site here => settles site (settlesReads site here)
  refine actsBind (actsReads reads (readsFind _ _)) fun found => ?_
  split
  · trivial
  · split
    · trivial
    · split
      · trivial
      · refine actsBind (actsReads reads readsNow) fun at' => actsBind ?_ fun _ => ?_
        · exact actsWrite (appeals _) fun i db value db' ok => decideAppealMoves ok
        · exact actsBind (actsReads reads (readsNotifyParties _ _)) fun _ => actsSettle self settles _

theorem actsControllerDecide (appeals : ∀ id, sites (.decideAppeal id) = true) (id : String) (outcome : DisputeOutcome)
    (user : DisputeActor) : Acts (Within sites) (DisputesController.decide self id outcome user) := by
  have reads : ∀ site : Site, site.reads = true → sites site = true :=
    fun site here => decides site (decidesSettles site (settlesReads site here))
  refine actsBind (actsReads reads (readsFind _ _)) fun found => ?_
  split
  · trivial
  · split
    · exact actsDecideAppeal self decides appeals _ _ _
    · exact actsDecide self decides _ _ _

open AppealService in
theorem actsFinalizeExpired (expires : ∀ id, sites (.expireAppealWindow id) = true) :
    Acts (Within sites) (finalizeExpiredAppealWindows self) := by
  have settles : ∀ site : Site, site.settles = true → sites site = true := fun site here => decides site (decidesSettles site here)
  have reads : ∀ site : Site, site.reads = true → sites site = true := fun site here => settles site (settlesReads site here)
  have releases : Acts (Within sites) DistributedLockService.releaseLock := actsReads reads (readsQuery rfl _)
  refine actsBind (actsReads reads readsNow) fun at' => actsBind (actsReads reads (readsQuery rfl _)) fun locked => ?_
  split
  · trivial
  · refine actsBind (actsHandle ?_ fun error => actsBind releases fun _ => trivial) fun settled => actsBind releases fun _ => trivial
    refine actsBind (actsReads reads (readsFind _ _)) fun expired => actsFoldEach (fun settled dispute => ?_) 0 expired
    refine actsBind (actsExpireWindow (expires _) _) fun count => ?_
    split
    · trivial
    · exact actsHandle (actsBind (actsSettle self settles _) fun _ => trivial) fun _ => trivial

omit decides in
theorem readsAnnounces (updated : Milestone) (engagementId : String) : Reads Site.reads (do
    let engagement ← find .engagement fun db => db.engagements.get? engagementId
    match engagement with
    | none => return updated
    | some engagement => do
        .forEach (fun _ => createNotification) [engagement.companyId,engagement.recruiterId]
        return updated : Op Milestone) := by
  refine readsBind (readsFind _ _) fun engagement => ?_
  split
  · trivial
  · exact readsBind (stepsForEach (fun _ => readsCreateNotification) _) fun _ => trivial

theorem actsResolveUntracked (milestone : Milestone) (engagementId : String) (milestoneIndex : Nat) (resolution : DisputeOutcome) :
    Acts (Within sites) (resolveUntracked milestone engagementId milestoneIndex resolution) := by
  have reads : ∀ site : Site, site.reads = true → sites site = true :=
    fun site here => decides site (decidesSettles site (settlesReads site here))
  have marks : ∀ approved paymentReleased, Acts (Within sites) (markResolved engagementId milestoneIndex approved paymentReleased) :=
    fun _ _ => actsMarkResolved reads (decides _ rfl) (fun _ => decides _ rfl) _ _
  unfold resolveUntracked
  dsimp only
  split
  · refine actsBind (actsWrite (decides _ rfl) fun i db value db' ok => ?_) fun _ => actsBind (actsStellar (decides _ rfl) _) fun _ => ?_
    · cases ok
      exact ⟨_,rfl⟩
    · exact actsBind (marks _ _) fun updated => actsReads reads (readsAnnounces updated engagementId)
  · refine actsBind (actsStellar (decides _ rfl) _) fun _ => ?_
    exact actsBind (marks _ _) fun updated => actsReads reads (readsAnnounces updated engagementId)

theorem actsResolveDisputeFlow (engagementId : String) (milestoneIndex : Nat) (resolution : DisputeOutcome) (actor : Option DisputeActor) :
    Acts (Within sites) (resolveDisputeFlow self engagementId milestoneIndex resolution actor) := by
  have reads : ∀ site : Site, site.reads = true → sites site = true :=
    fun site here => decides site (decidesSettles site (settlesReads site here))
  refine actsBind (actsReads reads (readsFindOr _ _)) fun milestone => ?_
  split
  · trivial
  · refine actsBind (actsBind (actsReads reads (readsFind _ _)) fun found => ?_) fun dispute => ?_
    · split
      · trivial
      · exact actsBind (actsDecide self decides _ _ _) fun _ => trivial
    · split
      · exact actsBind (actsReads reads (readsFindOr _ _)) fun _ => trivial
      · exact actsBind (actsResolveUntracked decides _ _ _ _) fun _ => trivial

end Decisions

section Services

open DisputesService MilestonesService

/-- Every call of the process does what its site says. -/
abbrev Affects {α : Type} (p : Op α) : Prop := Acts (Within anySite) p

variable (self : Config)

theorem affectsSettle (disputeId : String) : Affects (settle self disputeId) := actsSettle self (fun _ _ => rfl) disputeId

theorem readsReviewable (milestoneId : String) (versionNumber : Option Nat) :
    Reads Site.reads (MilestonesService.assertReviewable self milestoneId versionNumber) := by
  unfold MilestonesService.assertReviewable
  split
  · exact readsAssertReviewable _
  · trivial

theorem actsCreateApproval {sites : Site → Bool} {milestoneId : String} (here : sites (.createApproval milestoneId) = true)
    (userId : String) : Acts (Within sites) (createApproval milestoneId userId) := by
  refine actsWrite here fun i db value db' ok => ?_
  split at ok
  · contradiction
  · rename_i approvals made
    cases ok
    exact ⟨_,approvals,made,rfl⟩

end Services

section Handlers

open EventsService MilestonesService

/-- The calls of a handler. -/
def Site.handles : Site → Bool
  | .markUnlockedAt _ _ | .proofSubmittedAt _ _ | .writeProofVersion _ | .markConfirmed _ _ | .markDisputed _ _
  | .openDispute _ | .assignArbiter _ | .markResolved _ _ | .markSettledOnChain _ | .syncEngagement _
  | .resetMilestone _ | .deleteApprovals _ | .upsertSchedule _ _ => true
  | site => site.reads

abbrev Handles {α : Type} (p : Op α) : Prop := Acts (Within Site.handles) p

theorem readsHandled (site : Site) (reads : site.reads = true) : site.handles = true := by
  cases site <;> first | rfl | cases reads

theorem handlesReads {α : Type} {p : Op α} (reads : Reads Site.reads p) : Handles p := actsReads readsHandled reads

structure SameEvents (db db' : Db) : Prop where
  chainEvents : db'.chainEvents = db.chainEvents
  deadLetters : db'.deadLetters = db.deadLetters
  lastProcessedLedger : db'.lastProcessedLedger = db.lastProcessedLedger

theorem restatesEvents {id : String} {next : MilestoneStatus → MilestoneStatus} {db db' : Db} (moved : Restates id next db db') :
    SameEvents db db' := by
  obtain ⟨f,keeps,_,rfl⟩ := moved
  exact ⟨rfl,rfl,rfl⟩

theorem movesEvents {p : Dispute → Prop} {P : Dispute → Dispute → Prop} {db db' : Db} (moved : MovesDisputes p P db db') :
    SameEvents db db' := by
  obtain ⟨q,f,keeps,_,_,rfl⟩ := moved
  exact ⟨rfl,rfl,rfl⟩

/-- No handler writes the events or the cursor. -/
theorem handlesSameEvents {site : Site} {db db' : Db} (within : Within Site.handles site db db') : SameEvents db db' := by
  obtain ⟨here,rfl | effect⟩ := within
  · exact ⟨rfl,rfl,rfl⟩
  · cases site with
    | deleteApprovals => cases effect; exact ⟨rfl,rfl,rfl⟩
    | writeProofVersion =>
      obtain ⟨_,_,_,_,rfl⟩ | ⟨_,_,_,_,rfl⟩ := effect <;> exact ⟨rfl,rfl,rfl⟩
    | proofSubmittedAt | markConfirmed | markUnlockedAt | markDisputed =>
      obtain ⟨_,_,moved⟩ := effect
      exact restatesEvents moved
    | markResolved =>
      obtain ⟨_,_,_,_,moved⟩ := effect
      exact restatesEvents moved
    | resetMilestone =>
      obtain ⟨_,_,moved⟩ := effect
      exact restatesEvents moved
    | openDispute =>
      obtain ⟨_,_,_,_,rfl⟩ := effect
      exact ⟨rfl,rfl,rfl⟩
    | assignArbiter | markSettledOnChain => exact movesEvents effect
    | syncEngagement | upsertSchedule =>
      obtain ⟨_,rfl⟩ := effect
      exact ⟨rfl,rfl,rfl⟩
    | _ => first | exact effect.elim | cases here

/-- A handler other than those of a resolution and a replacement. -/
def Site.handlesPlainly : Site → Bool
  | .markResolved _ _ | .resetMilestone _ => false
  | site => site.handles

theorem actsEvent {E : Site → Db → Db → Prop} (plain : ∀ site db db', Within Site.handlesPlainly site db db' → E site db db')
    (self : Config) {eventName : String} (payload : Json)
    (resolves : eventName = "dispute_resolved" → Acts E (handleDisputeResolved self payload))
    (replaces : eventName = "replacement_requested" → Acts E (handleReplacementRequested payload)) :
    Acts E (handleEvent self eventName payload) := by
  have reads : ∀ site : Site, site.reads = true → site.handlesPlainly = true := by
    intro site here
    cases site <;> first | rfl | cases here
  have announces : ∀ engagementId notices, Acts (Within Site.handlesPlainly) (announce engagementId notices) :=
    fun _ _ => actsReads reads (readsAnnounce _ _)
  unfold handleEvent
  split
  · exact actsMono plain (actsBind (actsSync reads rfl) fun _ => actsBind (announces _ _) fun _ => trivial)
  · refine actsMono plain (actsBind (actsOfExcept _) fun index => actsBind (actsMarkUnlocked rfl) fun _ => ?_)
    exact actsBind (actsReads reads (readsFind _ _)) fun _ => actsBind (announces _ _) fun _ => trivial
  · refine actsMono plain (actsBind (actsOfExcept _) fun index => ?_)
    refine actsBind (actsMarkProofSubmitted reads self rfl (fun _ => rfl) _) fun _ => ?_
    exact actsBind (announces _ _) fun _ => trivial
  · refine actsMono plain (actsBind (actsOfExcept _) fun amount => actsBind (actsOfExcept _) fun index => ?_)
    refine actsBind (actsMarkConfirmed reads rfl _) fun _ => actsBind (actsSync reads rfl) fun _ => ?_
    exact actsBind (announces _ _) fun _ => trivial
  · exact actsMono plain (actsHandleDisputeRaised reads self (fun _ _ => rfl) (fun _ => rfl) (fun _ => rfl) payload)
  · exact resolves rfl
  · exact replaces rfl
  · refine actsMono plain (actsBind (actsReads reads (readsFindOr _ _)) fun _ => ?_)
    exact actsBind (announces _ _) fun _ => trivial
  · trivial

theorem handlesEvent (self : Config) (eventName : String) (payload : Json) : Handles (handleEvent self eventName payload) := by
  refine actsEvent ?_ self payload ?_ ?_
  · rintro site db db' ⟨here,effect⟩
    refine ⟨?_,effect⟩
    cases site <;> first | rfl | cases here
  · exact fun _ => actsHandleDisputeResolved readsHandled self (fun _ _ => rfl) (fun _ => rfl) (fun _ => rfl) payload
  · exact fun _ => actsHandleReplacementRequested readsHandled (fun _ => rfl) (fun _ => rfl) (fun _ _ => rfl) payload

/-- Processing an event: its handler, and the bookkeeping of its row. -/
theorem actsProcessEvent {E : Site → Db → Db → Prop} (self : Config) (event : ContractEvent)
    (handles : Acts E (handleEvent self (extractEventName event) (extractPayload event)))
    (reads : ∀ site db, site.reads = true → E site db db)
    (saves : ∀ db chainEvents, E (.saveEvent event) db { db with chainEvents := chainEvents })
    (marks : ∀ id db engagements schedules chainEvents, E (.markProcessed event id) db
      { db with engagements := engagements, schedules := schedules, chainEvents := chainEvents })
    (unsaved : ∀ db, E (.saveEvent event) db db) (unmarked : ∀ id db, E (.markProcessed event id) db db) :
    Acts E (processEvent self event) := by
  refine actsBind (actsQuery (fun db => reads _ db rfl) _) fun existing => ?_
  split
  · trivial
  · refine actsBind (actsBind (actsQuery (fun db => reads _ db rfl) _) fun found => ?_) fun chainEvent => ?_
    · split
      · trivial
      · refine actsTransact unsaved fun i db row after ok => ?_
        dsimp only at ok
        split at ok
        · contradiction
        · split at ok
          · contradiction
          · split at ok
            · contradiction
            · cases ok
              exact saves db _
    · split
      · trivial
      · refine actsBind handles fun writes => actsTransact (unmarked _) fun i db value after ok => ?_
        split at ok
        · contradiction
        · dsimp only at ok
          split at ok
          · contradiction
          · cases ok
            exact marks _ db _ _ _

end Handlers

end HireSettle.Escrow
