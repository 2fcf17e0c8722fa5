import HireSettle.Escrow.ChainMirror
import HireSettle.Escrow.PaidMilestones
import HireSettle.Escrow.ProofSla
import HireSettle.Workflow.Guards

/-! Which engagements are paid. No payment tests the status of the engagement: it
follows from a milestone under review or a proposed release, and these say nothing
of the engagement unless they appear, and it ends, in the right order. -/
namespace HireSettle.Escrow.LiveEngagements
open Workflow

inductive Request where
  | prepareEngagement (userId : String) (dto : CreateEngagementDto)
  | acceptInvite (engagementId : String) (stellarAddress : Option String)
  | declineInvite (engagementId : String) (stellarAddress : Option String)
  | cancelEngagement (engagementId : String) (stellarAddress : Option String)
  | processEvent (event : ContractEvent)
  | submitProof (engagementId : String) (milestoneIndex : Nat) (user : PartyUser) (input : ProofInput)
  | submitProofFlow (engagementId : String) (milestoneIndex : Nat) (proofHash : String)
  | approveMilestone (engagementId : String) (milestoneIndex : Nat) (userId : String) (proofVersion : Option Nat)
  | confirmFlow (engagementId : String) (milestoneIndex : Nat) (userId : Option String)
  | runProofSlaChecks
  | propose (engagementId : String) (milestoneIndex : Nat) (user : PartyUser) (terms : PartialReleaseService.PartialReleaseTerms)
  | approve (engagementId : String) (milestoneIndex : Nat) (releaseId : String) (user : PartyUser)
  | reject (engagementId : String) (milestoneIndex : Nat) (releaseId : String) (user : PartyUser)

variable (self : Config)

def handler : Request → Op Unit
  | .prepareEngagement userId dto => do
      let _ ← EngagementsService.prepareEngagement self userId dto
  | .acceptInvite engagementId stellarAddress => do
      let _ ← EngagementsService.acceptInvite engagementId stellarAddress
  | .declineInvite engagementId stellarAddress => do
      let _ ← EngagementsService.declineInvite engagementId stellarAddress
  | .cancelEngagement engagementId stellarAddress => do
      let _ ← EngagementsService.cancelEngagement engagementId stellarAddress
  | .processEvent event => EventsService.processEvent self event
  | .submitProof engagementId milestoneIndex user input => do
      let _ ← ProofVersionsService.submitProof engagementId milestoneIndex user input
  | .submitProofFlow engagementId milestoneIndex proofHash => do
      let _ ← MilestonesService.submitProofFlow self engagementId milestoneIndex proofHash
  | .approveMilestone engagementId milestoneIndex userId proofVersion => do
      let _ ← MilestonesService.approveMilestone self engagementId milestoneIndex userId proofVersion
  | .confirmFlow engagementId milestoneIndex userId => do
      let _ ← MilestonesService.confirmFlow self engagementId milestoneIndex userId
  | .runProofSlaChecks => do
      let _ ← MilestoneProofSlaService.runProofSlaChecks
  | .propose engagementId milestoneIndex user terms => do
      let _ ← PartialReleaseService.propose engagementId milestoneIndex user terms
  | .approve engagementId milestoneIndex releaseId user => do
      let _ ← PartialReleaseService.approve engagementId milestoneIndex releaseId user
  | .reject engagementId milestoneIndex releaseId user => do
      let _ ← PartialReleaseService.reject engagementId milestoneIndex releaseId user

def service : System Request Nat Site Answer Db Exception Unit where
  handler := handler self
  environment elapsed db := { db with clock := db.clock + elapsed }

abbrev LiveMove := Move Request Nat Answer

def live (engagementId : String) (db : Db) : Bool :=
  (db.engagements.get? engagementId).any fun row => row.status = .active || row.status = .replacementRequested

/-- A milestone of the engagement is under review, or a release of one is proposed. -/
def awaits (engagementId : String) (db : Db) : Bool :=
  (db.milestones.rows.any fun m => m.engagementId = engagementId && m.status = .proofSubmitted) ||
  db.partialReleases.rows.any fun r => r.status = .proposed &&
    (db.milestones.get? r.milestoneId).any fun m => m.engagementId = engagementId

def pays (engagementId : String) : Site → Bool
  | .releaseMilestonePayment id _ => id = engagementId
  | .releasePartialMilestonePayment _ id _ _ _ => id = engagementId
  | _ => false

def opens (engagementId : String) (e : EscrowEvent) : Bool := !awaits engagementId e.before && awaits engagementId e.after

def leaves (engagementId : String) (e : EscrowEvent) : Bool := live engagementId e.before && !live engagementId e.after

/-- What has happened since the first call of the thread. -/
def during (thread : Nat) (earlier : List EscrowEvent) : List EscrowEvent :=
  earlier.reverse.dropWhile fun d => d.thread ≠ thread

/-- Reviews and proposals begin while the engagement is live; it ends when none is
left, and not while a request is about to pay. -/
def orderly (engagementId : String) (earlier : List EscrowEvent) (e : EscrowEvent) : Bool :=
  (!opens engagementId e || live engagementId e.before) &&
  (!leaves engagementId e || !awaits engagementId e.before) &&
  (!pays engagementId e.site || (during e.thread earlier).all fun d => !leaves engagementId d)

/-- Milestones stay with their engagement. -/
def KeepsHome (db db' : Db) : Prop :=
  ∀ id m, db.milestones.get? id = some m → ∃ m', db'.milestones.get? id = some m' ∧ m'.engagementId = m.engagementId

structure Settles (db db' : Db) : Prop where
  home : KeepsHome db db'
  apart : ∀ engagementId, (awaits engagementId db' = true → awaits engagementId db = true) ∨
    (live engagementId db = true → live engagementId db' = true)

section Steps

variable {db db' : Db} {engagementId : String}

theorem homeSame (same : db'.milestones = db.milestones) : KeepsHome db db' :=
  fun _ m found => ⟨m,same ▸ found,rfl⟩

theorem homeTrans {a b c : Db} (first : KeepsHome a b) (second : KeepsHome b c) : KeepsHome a c := by
  intro id m found
  obtain ⟨m',found',same⟩ := first id m found
  obtain ⟨m'',found'',same'⟩ := second id m' found'
  exact ⟨m'',found'',same'.trans same⟩

theorem homeUpdateMany {p : Milestone → Bool} {f : Milestone → Milestone} {keeps : ∀ m, (f m).id = m.id}
    (same : ∀ m, (f m).engagementId = m.engagementId) :
    KeepsHome db { db with milestones := db.milestones.updateMany p f keeps } := by
  intro id m found
  refine ⟨if p m then f m else m,?_,?_⟩
  · show (db.milestones.updateMany p f keeps).get? id = _
    rw [Table.getUpdateMany,found,Option.map_some]
  · split
    · exact same m
    · rfl

theorem awaitsSame (milestones : db'.milestones = db.milestones) (releases : db'.partialReleases = db.partialReleases) :
    awaits engagementId db' = awaits engagementId db := by
  rw [awaits,awaits,milestones,releases]

theorem liveSame (engagements : db'.engagements = db.engagements) : live engagementId db' = live engagementId db := by
  rw [live,live,engagements]

theorem settlesRefl (db : Db) : Settles db db := ⟨homeSame rfl,fun _ => Or.inl fun here => here⟩

theorem settlesElsewhere (home : KeepsHome db db') (engagements : db'.engagements = db.engagements) : Settles db db' :=
  ⟨home,fun _ => Or.inr fun here => by rwa [liveSame engagements]⟩

theorem settlesEngagements (milestones : db'.milestones = db.milestones) (releases : db'.partialReleases = db.partialReleases) :
    Settles db db' := ⟨homeSame milestones,fun _ => Or.inl fun here => by rwa [awaitsSame milestones releases] at here⟩

theorem homeRestates {id : String} {next : MilestoneStatus → MilestoneStatus} (moved : Restates id next db db') :
    KeepsHome db db' := by
  obtain ⟨f,keeps,same,rfl⟩ := moved
  exact homeUpdateMany fun m => (same m).1.engagementId

/-- The calls that write engagements write nothing that awaits a payment. -/
theorem engagementsApart {site : Site} (effect : Effect site db db') :
    db'.engagements = db.engagements ∨ (db'.milestones = db.milestones ∧ db'.partialReleases = db.partialReleases) := by
  obtain rfl | effect := effect
  · exact Or.inl rfl
  · cases site <;> grind [Restates,RestatesAt,MovesDisputes,MovesAppeals,WritesVersions,UpdatesVersions]

theorem homeEffect {site : Site} (effect : Effect site db db') : KeepsHome db db' := by
  by_cases elsewhere : site.restates = false
  · exact homeSame (milestonesStay effect elsewhere)
  · obtain rfl | effect := effect
    · exact homeSame rfl
    · cases site with
      | proofSubmitted | proofRejected | markUnlocked => exact homeRestates effect
      | proofSubmittedAt | markConfirmed | markUnlockedAt | markDisputed =>
        obtain ⟨_,_,moved⟩ := effect
        exact homeRestates moved
      | markResolved =>
        obtain ⟨_,_,_,_,moved⟩ := effect
        exact homeRestates moved
      | settleMilestone | payRelease =>
        obtain ⟨_,_,_,moved⟩ := effect
        exact homeRestates moved
      | resetMilestone =>
        obtain ⟨_,_,moved⟩ := effect
        exact homeRestates moved
      | _ => exact absurd rfl elsewhere

theorem settlesEffect {site : Site} (effect : Effect site db db') : Settles db db' := by
  obtain engagements | ⟨milestones,releases⟩ := engagementsApart effect
  · exact settlesElsewhere (homeEffect effect) engagements
  · exact settlesEngagements milestones releases

theorem homeCreated {m : Milestone} (created : db.createMilestone m = .ok db') : KeepsHome db db' := by
  unfold Db.createMilestone at created
  split at created
  · contradiction
  · split at created
    · contradiction
    · rename_i milestones made
      cases created
      obtain ⟨free,_,rows⟩ := Table.createGet made
      intro id m' found
      refine ⟨m',?_,rfl⟩
      rw [rows,if_neg fun same => by rw [same,free] at found; cases found]
      exact found

theorem homeCreatedAll {milestones : List Milestone} (created : milestones.foldlM Db.createMilestone db = .ok db') : KeepsHome db db' := by
  induction milestones generalizing db with
  | nil =>
    cases created
    exact homeSame rfl
  | cons m rest ih =>
    obtain ⟨mid,first,created⟩ := exceptBind.mp created
    exact homeTrans (homeCreated first) (ih created)

theorem settlesCreated {engagement : Engagement} {engagements : Table Engagement} {milestones : List Milestone}
    (made : db.engagements.create engagement = some engagements)
    (created : milestones.foldlM Db.createMilestone { db with engagements := engagements } = .ok db') : Settles db db' := by
  have home : KeepsHome db db' := by
    refine homeTrans ?_ (homeCreatedAll created)
    exact homeSame rfl
  refine ⟨home,fun engagementId => Or.inr fun here => ?_⟩
  obtain ⟨free,_,rows⟩ := Table.createGet made
  rw [live,ChainMirror.createdEngagements created]
  dsimp only
  rw [rows]
  split
  · rename_i same
    rw [live,same,free] at here
    cases here
  · exact here

theorem homeScheduled {estimates : List (Milestone × Int × Int)} (scheduled : estimates.foldlM EngagementsService.scheduleUnlock db = .ok db') :
    KeepsHome db db' := by
  induction estimates generalizing db with
  | nil =>
    cases scheduled
    exact homeSame rfl
  | cons estimate estimates ih =>
    obtain ⟨mid,first,rest⟩ := exceptBind.mp scheduled
    obtain ⟨⟨m',db''⟩,updated,made⟩ := exceptBind.mp first
    have moved : KeepsHome db db'' := by
      obtain ⟨_,_,_,_,_,rfl⟩ := Db.updateMilestoneCases updated
      refine homeUpdateMany ?_
      exact fun _ => rfl
    refine homeTrans (homeTrans moved (homeSame ?_)) (ih rest)
    dsimp only [Db.createSchedule] at made
    split at made
    · contradiction
    · cases made
      rfl

theorem liveUpdate {id : String} {f : Engagement → Engagement} {keeps : ∀ row, (f row).id = row.id} {row' : Engagement}
    (active : ∀ row, (f row).status = .active) (updated : db.updateEngagement id f keeps = .ok (row',db'))
    (here : live engagementId db = true) : live engagementId db' = true := by
  obtain ⟨row,_,_,there,elsewhere,_⟩ := Db.updateEngagementCases updated
  by_cases same : engagementId = id
  · rw [live,same,there,Option.any_some,active]
    rfl
  · rwa [live,elsewhere _ same]

theorem settlesUpdate {id : String} {f : Engagement → Engagement} {keeps : ∀ row, (f row).id = row.id} {row' : Engagement}
    (updated : db.updateEngagement id f keeps = .ok (row',db')) : Settles db db' := by
  obtain ⟨_,_,_,_,_,rfl⟩ := Db.updateEngagementCases updated
  exact settlesEngagements rfl rfl

theorem settlesActivate {txHash : String} {createdLedger : Int} {estimates : List (Milestone × Int × Int)} {row : Engagement}
    {id : String} (activated : EngagementsService.activate id txHash createdLedger estimates db = .ok (row,db')) : Settles db db' := by
  obtain ⟨⟨row',mid⟩,updated,rest⟩ := exceptBind.mp activated
  obtain ⟨last,scheduled,same⟩ := exceptBind.mp rest
  cases same
  refine ⟨homeTrans (settlesUpdate updated).home (homeScheduled scheduled),fun engagementId => Or.inr fun here => ?_⟩
  rw [liveSame (ChainMirror.scheduledSame scheduled).engagements]
  exact liveUpdate (fun _ => rfl) updated here

end Steps

/-- The thread has read a milestone under review, or the milestone first and then a proposed release of it. -/
def Due (engagementId : String) (own : List EscrowEvent) : Prop :=
  ∃ newer read older, own = newer ++ read :: older ∧
    ((∃ m ∈ read.before.milestones.rows, m.engagementId = engagementId ∧ m.status = .proofSubmitted) ∨
    ∃ seen ∈ older, ∃ m r, seen.after.milestones.get? m.id = some m ∧ m.engagementId = engagementId ∧
      r ∈ read.before.partialReleases.rows ∧ r.milestoneId = m.id ∧ r.status = .proposed)

structure Guard (own : List EscrowEvent) (e : EscrowEvent) : Prop where
  settles : Settles e.before e.after
  due : ∀ engagementId, pays engagementId e.site = true → Due engagementId own

-- every call but the payments of other engagements
def paysOnly (due : Option String) : Site → Bool
  | .releaseMilestonePayment id _ => due = some id
  | .releasePartialMilestonePayment _ id _ _ _ => due = some id
  | _ => true

section Guards

variable {α : Type} {own : List EscrowEvent} {engagementId : String} {due : Option String}

theorem dueLater (later : List EscrowEvent) (known : Due engagementId own) : Due engagementId (later ++ own) := by
  obtain ⟨newer,read,older,rfl,awaited⟩ := known
  exact ⟨later ++ newer,read,older,by rw [List.append_assoc],awaited⟩

theorem onlyReads (site : Site) (reads : site.reads = true) : paysOnly due site = true := by
  cases site <;> first | rfl | cases reads

theorem guardPaying (known : ∀ id ∈ due, Due id own) {e : EscrowEvent} (within : Within (paysOnly due) e.site e.before e.after) :
    Guard own e := by
  obtain ⟨thread,site,i,db,db'⟩ := e
  refine ⟨settlesEffect within.2,fun id paid => known id ?_⟩
  cases site <;> first
    | cases paid
    | exact (of_decide_eq_true within.1).trans (congrArg some (of_decide_eq_true paid))

theorem guardReading {thread : Nat} {model : Model} {i : Answer} {db : Db} : Guard own ⟨thread,.find model,i,db,db⟩ :=
  ⟨settlesRefl db,fun id paid => by cases paid⟩

theorem guardedPaying (known : ∀ id ∈ due, Due id own) {p : Op α} (acts : Acts (Within (paysOnly due)) p) :
    Guarded Guard anyOutcome p own := by
  refine guardedAny (guardedActs (fun later e _ within => guardPaying (fun id its => dueLater later (known id its)) within) acts)

theorem guardedUnpaid {p : Op α} (acts : Acts (Within (paysOnly none)) p) : Guarded Guard anyOutcome p own :=
  guardedPaying (fun _ known => by cases known) acts

theorem guardedReads {p : Op α} (reads : Reads Site.reads p) : Guarded Guard anyOutcome p own :=
  guardedUnpaid (actsReads onlyReads reads)

theorem guardedWrites {site : Site} {f : Answer → Db → Except Exception (α × Db)} (unpaid : ∀ id, pays id site = false)
    (settles : ∀ i db value db', f i db = .ok (value,db') → Settles db db') : Guarded Guard anyOutcome (write site f) own := by
  refine guardedTransact (fun thread i db value db' ok => ⟨⟨?_,?_⟩,trivial⟩) fun thread i db error _ => ⟨⟨settlesRefl db,?_⟩,trivial⟩
  · split at ok
    · contradiction
    · exact settles i db value db' ok
  · exact fun id paid => absurd paid (by simp [unpaid])
  · exact fun id paid => absurd paid (by simp [unpaid])

end Guards

section Invites

open EngagementsService

variable {own : List EscrowEvent}

theorem guardedCreateEngagement (engagement : Engagement) (milestones : String → List Milestone) :
    Guarded Guard anyOutcome (createEngagement engagement milestones) own := by
  refine guardedWrites (fun _ => rfl) fun i db value db' ok => ?_
  dsimp only at ok
  split at ok
  · contradiction
  · rename_i engagements made
    obtain ⟨_,first,ok⟩ := exceptBind.mp ok
    cases first
    obtain ⟨_,created,same⟩ := exceptBind.mp ok
    cases same
    exact settlesCreated made created

theorem guardedPersist (dto : CreateEngagementDto) (templateVersion : Option EngagementTemplateVersion) :
    Guarded Guard anyOutcome (persist dto templateVersion) own := by
  unfold persist
  dsimp only
  split
  · trivial
  · trivial
  · split
    · trivial
    · split
      · trivial
      · refine guardedThen (guardedCreateEngagement _ _) fun engagement own => ?_
        exact guardedReads (readsBind readsNotify fun _ => trivial)

theorem guardedPrepareEngagement (userId : String) (dto : CreateEngagementDto) :
    Guarded Guard anyOutcome (prepareEngagement self userId dto) own := by
  refine guardedThen (guardedReads (readsFind _ _)) fun existing own => ?_
  split
  · trivial
  · split
    · trivial
    · split
      · exact guardedPersist dto none
      · refine guardedThen (guardedReads ?_) fun templateVersion own => guardedPersist dto templateVersion
        refine readsBind (readsFind _ _) fun found => ?_
        split
        · trivial
        · split
          · trivial
          · exact readsFind _ _

theorem guardedAcceptInvite (engagementId : String) (stellarAddress : Option String) :
    Guarded Guard anyOutcome (acceptInvite engagementId stellarAddress) own := by
  refine guardedThen (guardedReads (readsFind _ _)) fun found own => ?_
  split
  · trivial
  · split
    · trivial
    · split
      · trivial
      · refine guardedThen (guardedReads (readsQuery rfl _)) fun balance own => ?_
        split
        · trivial
        · refine guardedThen (guardedUnpaid (actsStellar rfl _)) fun submitted own => ?_
          refine guardedThen (guardedReads (readsQuery rfl _)) fun currentLedger own => ?_
          refine guardedThen (guardedReads readsNow) fun at' own => ?_
          refine guardedThen (guardedWrites (fun _ => rfl) fun i db row db' ok => settlesActivate ok) fun accepted own => ?_
          exact guardedReads (readsBind readsNotify fun _ => trivial)

theorem guardedDeclineInvite (engagementId : String) (stellarAddress : Option String) :
    Guarded Guard anyOutcome (declineInvite engagementId stellarAddress) own := by
  refine guardedThen (guardedReads (readsFind _ _)) fun found own => ?_
  split
  · trivial
  · split
    · trivial
    · split
      · trivial
      · refine guardedThen (guardedWrites (fun _ => rfl) fun i db row db' ok => settlesUpdate ok) fun updated own => ?_
        exact guardedReads (readsBind readsNotify fun _ => trivial)

theorem guardedCancelEngagement (engagementId : String) (stellarAddress : Option String) :
    Guarded Guard anyOutcome (cancelEngagement engagementId stellarAddress) own := by
  refine guardedThen (guardedReads (readsFind _ _)) fun found own => ?_
  split
  · trivial
  · split
    · trivial
    · split
      · trivial
      · refine guardedThen (guardedUnpaid (actsStellar rfl _)) fun _ own => ?_
        refine guardedThen (guardedWrites (fun _ => rfl) fun i db row db' ok => settlesUpdate ok) fun updated own => ?_
        exact guardedReads (readsBind readsNotify fun _ => trivial)

theorem guardedProcessEvent (event : ContractEvent) : Guarded Guard anyOutcome (EventsService.processEvent self event) own := by
  refine guardedUnpaid (actsProcessEvent self event ?_ ?_ ?_ ?_ ?_ ?_)
  · refine actsMono ?_ (handlesEvent self _ _)
    rintro site db db' ⟨here,effect⟩
    refine ⟨?_,effect⟩
    cases site <;> first | rfl | cases here
  · exact fun site db here => ⟨onlyReads site here,Or.inl rfl⟩
  · exact fun db chainEvents => ⟨rfl,Or.inr ⟨_,rfl⟩⟩
  · exact fun id db engagements schedules chainEvents => ⟨rfl,Or.inr ⟨_,_,_,rfl⟩⟩
  · exact fun db => ⟨rfl,Or.inl rfl⟩
  · exact fun id db => ⟨rfl,Or.inl rfl⟩

end Invites

section Reviews

variable {own : List EscrowEvent}

theorem guardedSubmitProof (engagementId : String) (milestoneIndex : Nat) (user : PartyUser) (input : ProofInput) :
    Guarded Guard anyOutcome (ProofVersionsService.submitProof engagementId milestoneIndex user input) own :=
  guardedUnpaid (actsSubmitProof onlyReads (fun _ => rfl) (fun _ => rfl) engagementId milestoneIndex user input)

theorem guardedSubmitProofFlow (engagementId : String) (milestoneIndex : Nat) (proofHash : String) :
    Guarded Guard anyOutcome (MilestonesService.submitProofFlow self engagementId milestoneIndex proofHash) own := by
  refine guardedUnpaid (actsBind (actsReads onlyReads (readsFindOr _ _)) fun milestone => ?_)
  split
  · trivial
  · refine actsBind (actsMarkProofSubmitted onlyReads self rfl (fun _ => rfl) _) fun updated => ?_
    refine actsReads onlyReads (readsBind (readsFind _ _) fun engagement => ?_)
    split
    · trivial
    · exact readsBind readsCreateNotification fun _ => trivial

/-- A request that goes on from a milestone under review. -/
theorem guardedReviewed {α : Type} {engagementId : String} {milestoneIndex : Nat} {k : Milestone → Op α}
    (pays : ∀ m, m.status = .proofSubmitted → Acts (Within (paysOnly (some engagementId))) (k m))
    (other : ∀ m, m.status ≠ .proofSubmitted → ∃ error, k m = .raise error) :
    Guarded Guard anyOutcome (MilestonesService.findOne engagementId milestoneIndex >>= k) own := by
  refine guardedBind (guardedQuery fun thread i db => ⟨guardReading,?_⟩)
  split
  · rename_i value out
    split at out
    · contradiction
    · dsimp only at out
      split at out
      · contradiction
      · rename_i m found
        cases out
        by_cases submitted : value.status = .proofSubmitted
        · refine guardedPaying (fun id its => ?_) (pays value submitted)
          cases its
          refine ⟨[],_,_,rfl,Or.inl ⟨value,List.mem_of_find?_eq_some found,?_,submitted⟩⟩
          have slot := List.find?_some found
          exact of_decide_eq_true (Bool.and_eq_true_iff.mp slot).1
        · obtain ⟨error,raised⟩ := other value submitted
          rw [raised]
          trivial
  · trivial

theorem actsPayOut (milestone : Milestone) (engagementId : String) (milestoneIndex : Nat) (reviewedById : Option String) :
    Acts (Within (paysOnly (some engagementId))) (MilestonesService.payOut self milestone engagementId milestoneIndex reviewedById) := by
  refine actsBind (actsStellar (decide_eq_true rfl) _) fun _ => actsBind (actsMarkConfirmed onlyReads rfl _) fun updated => ?_
  refine actsBind ?_ fun _ => trivial
  unfold MilestonesService.markApproved
  split
  · exact actsMarkApproved onlyReads rfl _
  · trivial

theorem guardedApproveMilestone (engagementId : String) (milestoneIndex : Nat) (userId : String) (proofVersion : Option Nat) :
    Guarded Guard anyOutcome (MilestonesService.approveMilestone self engagementId milestoneIndex userId proofVersion) own := by
  refine guardedReviewed (fun m submitted => ?_) fun m other => ⟨_,if_pos other⟩
  rw [if_neg (not_not.mpr submitted)]
  refine actsBind (actsReads onlyReads (readsReviewable _ _ _)) fun _ => ?_
  refine actsBind (actsReads onlyReads (readsFindOr _ _)) fun engagement => ?_
  refine actsBind (actsReads onlyReads (readsFind _ _)) fun existing => ?_
  split
  · trivial
  · refine actsBind (actsCreateApproval rfl _) fun _ => ?_
    refine actsBind (actsReads onlyReads (readsFind _ _)) fun count => ?_
    split
    · trivial
    · refine actsBind (actsPayOut self _ _ _ _) fun updated => ?_
      split
      · trivial
      · exact actsReads onlyReads (readsBind readsCreateNotification fun _ => trivial)

theorem guardedConfirmFlow (engagementId : String) (milestoneIndex : Nat) (userId : Option String) :
    Guarded Guard anyOutcome (MilestonesService.confirmFlow self engagementId milestoneIndex userId) own := by
  refine guardedReviewed (fun m submitted => ?_) fun m other => ⟨_,if_pos other⟩
  rw [if_neg (not_not.mpr submitted)]
  refine actsBind (actsReads onlyReads (readsReviewable _ _ _)) fun _ => ?_
  refine actsBind (actsReads onlyReads (readsFindOr _ _)) fun engagement => actsBind ?_ fun _ => ?_
  · unfold MilestonesService.approveOnce
    split
    · trivial
    · refine actsBind (actsReads onlyReads (readsFind _ _)) fun existing => ?_
      split
      · trivial
      · exact actsCreateApproval rfl _
  · refine actsBind (actsReads onlyReads (readsFind _ _)) fun count => ?_
    split
    · trivial
    · refine actsBind (actsPayOut self _ _ _ _) fun updated => ?_
      exact actsReads onlyReads (readsBind readsCreateNotification fun _ => trivial)

open MilestoneProofSlaService

theorem actsAutoApprove (pending : PendingVersion) (at' : Nat) :
    Acts (Within (paysOnly (some pending.milestone.engagementId))) (autoApprove pending at') := by
  refine actsBind (actsHandle (actsStellar (decide_eq_true rfl) _) fun error => ?_) fun _ => ?_
  · refine actsBind (updatesVersion _ (fun _ => ⟨rfl,rfl,rfl,rfl,rfl⟩) rfl) fun _ => trivial
  · refine actsBind (actsMarkConfirmed onlyReads rfl _) fun updated => actsBind (updatesVersion _ (fun _ => ⟨rfl,rfl,rfl,rfl,rfl⟩) rfl) fun version => ?_
    exact actsReads onlyReads (readsBind readsNotify fun _ => readsNotify)

theorem actsCheck (at' : Nat) (summary : ProofSlaRunSummary) (pending : PendingVersion) :
    Acts (Within (paysOnly (some pending.milestone.engagementId))) (check at' summary pending) := by
  have claims : ∀ {free : MilestoneProofVersion → Bool} {data : MilestoneProofVersion → MilestoneProofVersion}
      {keeps : ∀ v, (data v).id = v.id} (_ : ∀ v, SameProof v (data v)),
      Acts (Within (paysOnly (some pending.milestone.engagementId))) (claim pending.version.id free data keeps) := by
    intro free data keeps same
    refine actsWrite rfl fun i db value db' ok => ?_
    cases ok
    exact ⟨_,data,keeps,same,rfl⟩
  refine actsHandle ?_ fun _ => trivial
  unfold evaluate
  split
  · refine actsBind (claims fun _ => ⟨rfl,rfl,rfl,rfl,rfl⟩) fun claimed => ?_
    split
    · trivial
    · split
      · exact actsBind (actsAutoApprove pending at') fun _ => trivial
      · refine actsReads onlyReads (readsBind ?_ fun _ => trivial)
        exact readsBind (readsFind _ _) fun admins => readsBind (stepsForEach (fun _ => readsNotify) _) fun _ => readsNotify
  · split
    · refine actsBind (claims fun _ => ⟨rfl,rfl,rfl,rfl,rfl⟩) fun claimed => ?_
      split
      · trivial
      · exact actsReads onlyReads (readsBind readsNotify fun _ => trivial)
    · split
      · refine actsBind (claims fun _ => ⟨rfl,rfl,rfl,rfl,rfl⟩) fun claimed => ?_
        split
        · trivial
        · exact actsReads onlyReads (readsBind readsNotify fun _ => trivial)
      · trivial

theorem pendingSubmitted {db : Db} {pending : PendingVersion} (inside : pending ∈ db.pendingVersions) :
    pending.milestone ∈ db.milestones.rows ∧ pending.milestone.status = .proofSubmitted := by
  obtain ⟨version,_,made⟩ := List.mem_filterMap.mp inside
  simp only [Option.bind_eq_bind,Option.bind_eq_some_iff] at made
  obtain ⟨milestone,found,engagement,_,made⟩ := made
  split at made
  · cases made
    exact ⟨Table.getMem found,by assumption⟩
  · cases made

theorem guardedRunProofSlaChecks : Guarded Guard anyOutcome runProofSlaChecks own := by
  refine guardedThen (guardedReads readsNow) fun at' own => guardedThen (guardedReads (readsQuery rfl _)) fun locked own => ?_
  split
  · trivial
  · refine guardedThen (guardedElse ?_ fun error own => ?_) fun _ own => guardedReads (readsBind (readsQuery rfl _) fun _ => trivial)
    · refine guardedBind (guardedQuery fun thread i db => ⟨guardReading,?_⟩)
      split
      · rename_i pending out
        have stored : pending = db.pendingVersions := by
          split at out
          · contradiction
          · cases out
            rfl
        -- every round starts from a version whose milestone was read under review
        refine guardedFoldKeeps (I := fun own => ∀ p ∈ pending, Due p.milestone.engagementId own) ?_ _ ?_
        · intro acc p inside own known
          refine guardedMono ?_ (guardedActs ?_ (actsCheck at' acc p))
          · rintro own' out ⟨later,rfl,_⟩ _ _ q among
            exact dueLater later (known q among)
          · refine fun later e _ within => guardPaying (fun id its => ?_) within
            cases its
            exact dueLater later (known p inside)
        · intro p inside
          obtain ⟨there,submitted⟩ := pendingSubmitted (stored ▸ inside)
          exact ⟨[],_,_,rfl,Or.inl ⟨_,there,rfl,submitted⟩⟩
      · trivial
    · exact guardedReads (readsBind (readsQuery rfl _) fun _ => trivial)

end Reviews

section Releases

open PartialReleaseService

variable {own : List EscrowEvent} {due : Option String}

theorem guardedPropose (engagementId : String) (milestoneIndex : Nat) (user : PartyUser) (terms : PartialReleaseTerms) :
    Guarded Guard anyOutcome (propose engagementId milestoneIndex user terms) own := by
  refine guardedUnpaid (actsBind (actsReads onlyReads (readsFindOr _ _)) fun found => ?_)
  obtain ⟨m,engagement⟩ := found
  refine actsBind (actsRequirePartyRole _ _ _ _) fun role => ?_
  split
  · trivial
  · split
    · trivial
    · refine actsBind (actsReads onlyReads (readsFind _ _)) fun existing => ?_
      split
      · trivial
      · refine actsBind (actsOfExcept _) fun split => actsBind (actsReads onlyReads readsNow) fun at' => ?_
        refine actsBind (actsHandle ?_ fun error => ?_) fun release => ?_
        · refine actsWrite rfl fun i db value db' ok => ?_
          dsimp only at ok
          split at ok
          · contradiction
          · split at ok
            · contradiction
            · cases ok
              exact ⟨_,rfl⟩
        · split <;> trivial
        · exact actsReads onlyReads (readsBind readsAudit fun _ => readsBind readsNotify fun _ => trivial)

theorem guardedReject (engagementId : String) (milestoneIndex : Nat) (releaseId : String) (user : PartyUser) :
    Guarded Guard anyOutcome (reject engagementId milestoneIndex releaseId user) own := by
  refine guardedUnpaid (actsBind (actsReads onlyReads (readsFindOr _ _)) fun found => ?_)
  obtain ⟨m,engagement⟩ := found
  refine actsBind (actsRequirePartyRole _ _ _ _) fun role => ?_
  refine actsBind (actsReads onlyReads (PaidMilestones.readsFindOpen _ _)) fun release => actsBind ?_ fun count => ?_
  · refine actsWrite rfl fun i db value db' ok => ?_
    cases ok
    exact ⟨_,rfl⟩
  · split
    · trivial
    · exact actsReads onlyReads (readsBind readsAudit fun _ => trivial)

theorem actsFailed (releaseId : String) (error : Exception) : Acts (Within (paysOnly due)) (failed releaseId error) := by
  refine actsBind (actsWrite rfl fun i db value db' ok => ?_) fun _ => actsReads onlyReads (readsBind readsAudit fun _ => trivial)
  obtain ⟨_,_,_,_,_,rfl⟩ := Db.updateReleaseCases ok
  exact ⟨_,rfl⟩

theorem actsPay (release : MilestonePartialRelease) (milestone : Milestone) (engagement : Engagement) (at' : Nat) :
    Acts (Within (paysOnly due)) (pay release milestone engagement at') := by
  refine actsBind (actsWrite rfl fun i db value db' ok => ?_) fun _ => actsBind (actsWrite rfl fun i db value db' ok => ?_) fun _ => trivial
  · by_cases refunds : release.remainderAction = .refund
    · refine ⟨_,fun _ => .confirmed,Or.inr rfl,restates ?_ ok⟩
      exact fun m => ⟨⟨rfl,rfl,rfl⟩,if_pos refunds⟩
    · refine ⟨_,fun status => status,Or.inl rfl,restates ?_ ok⟩
      exact fun m => ⟨⟨rfl,rfl,rfl⟩,if_neg refunds⟩
  · obtain ⟨_,_,_,_,_,rfl⟩ := Db.updateEngagementCases ok
    exact ⟨_,rfl⟩

theorem actsExecute (release : MilestonePartialRelease) (milestone : Milestone) (engagement : Engagement) :
    Acts (Within (paysOnly (some engagement.id))) (execute release milestone engagement) := by
  unfold execute
  split
  · trivial
  · refine actsBind (actsReads onlyReads readsNow) fun at' => actsBind (actsWrite rfl fun i db value db' ok => ?_) fun count => ?_
    · cases ok
      exact ⟨_,rfl⟩
    · split
      · exact actsReads onlyReads (readsFindOr _ _)
      · refine actsBind (actsHandle (actsStellar (decide_eq_true rfl) _) (actsFailed _)) fun txHash => ?_
        refine actsBind (actsPay release milestone engagement at') fun _ => ?_
        have ends : Acts (Within (paysOnly (some engagement.id))) (do
            let executed ← write (.executeRelease release.id) fun _ db => db.updateRelease release.id fun r =>
              { r with status := .executed, txHash := some txHash }
            audit
            notify
            notify
            return executed : Op MilestonePartialRelease) := by
          refine actsBind (actsWrite rfl fun i db value db' ok => ?_) fun executed => ?_
          · obtain ⟨_,_,_,_,_,rfl⟩ := Db.updateReleaseCases ok
            exact ⟨_,rfl⟩
          · exact actsReads onlyReads (readsBind readsAudit fun _ => readsBind readsNotify fun _ => readsBind readsNotify fun _ => trivial)
        dsimp only
        split
        · refine actsBind (actsWrite rfl fun i db value db' ok => ?_) fun _ => ends
          cases ok
          exact ⟨_,rfl⟩
        · exact ends

theorem guardedApprove (engagementId : String) (milestoneIndex : Nat) (releaseId : String) (user : PartyUser) :
    Guarded Guard anyOutcome (approve engagementId milestoneIndex releaseId user) own := by
  refine guardedBind (guardedQuery fun thread i db => ⟨guardReading,?_⟩)
  split
  · rename_i found out
    obtain ⟨m,engagement⟩ := found
    have there : db.milestones.get? m.id = some m ∧ engagement.id = m.engagementId := by
      split at out
      · contradiction
      · dsimp only at out
        split at out
        · contradiction
        · rename_i milestone slot
          split at out
          · contradiction
          · rename_i row stored
            cases out
            exact ⟨Table.memGet (List.mem_of_find?_eq_some slot),Table.getKey stored⟩
    refine guardedBind (PaidMilestones.guardedRole (fun role => ?_) (fun _ => trivial) _ _ _ _)
    refine guardedBind (guardedBind (guardedQuery fun thread' i' db' => ⟨guardReading,?_⟩))
    split
    · rename_i release out'
      split
      · trivial
      · rename_i row
        split
        · trivial
        · rename_i its
          split
          · rename_i proposed
            -- the milestone has been read, then a proposed release of it
            refine guardedPaying (?_ : ∀ id ∈ some engagement.id, Due id _) ?_
            · intro id same
              cases same
              refine ⟨[],_,_,rfl,Or.inr ⟨_,List.mem_cons_self,m,row,there.1,there.2.symm,?_,not_not.mp its,proposed⟩⟩
              split at out'
              · contradiction
              · exact Table.getMem (Except.ok.inj out')
            · refine actsBind (actsReads onlyReads readsNow) fun at' => actsBind (actsWrite rfl fun i db value db' ok => ?_) fun count => ?_
              · cases ok
                exact ⟨_,rfl⟩
              · split
                · trivial
                · refine actsBind (actsReads onlyReads (readsFindOr _ _)) fun updated => ?_
                  split
                  · trivial
                  · exact actsExecute updated m engagement
          all_goals trivial
    · trivial
  · trivial

end Releases

theorem guardedHandler (request : Request) : Guarded Guard anyOutcome (handler self request) [] := by
  cases request with
  | prepareEngagement => exact guardedThen (guardedPrepareEngagement self _ _) fun _ _ => trivial
  | acceptInvite => exact guardedThen (guardedAcceptInvite _ _) fun _ _ => trivial
  | declineInvite => exact guardedThen (guardedDeclineInvite _ _) fun _ _ => trivial
  | cancelEngagement => exact guardedThen (guardedCancelEngagement _ _) fun _ _ => trivial
  | processEvent => exact guardedProcessEvent self _
  | submitProof => exact guardedThen (guardedSubmitProof _ _ _ _) fun _ _ => trivial
  | submitProofFlow => exact guardedThen (guardedSubmitProofFlow self _ _ _) fun _ _ => trivial
  | approveMilestone => exact guardedThen (guardedApproveMilestone self _ _ _ _) fun _ _ => trivial
  | confirmFlow => exact guardedThen (guardedConfirmFlow self _ _ _) fun _ _ => trivial
  | runProofSlaChecks => exact guardedThen guardedRunProofSlaChecks fun _ _ => trivial
  | propose => exact guardedThen (guardedPropose _ _ _ _) fun _ _ => trivial
  | approve => exact guardedThen (guardedApprove _ _ _ _) fun _ _ => trivial
  | reject => exact guardedThen (guardedReject _ _ _ _) fun _ _ => trivial

section Runs

variable {engagementId : String}

/-- Only a live engagement is awaiting a payment, and what leaves it is seen. -/
structure Kept (engagementId : String) (c : EscrowSnapshot) : Prop where
  awaited : awaits engagementId c.world = true → live engagementId c.world = true
  home : Since (fun _ => True) KeepsHome c
  stays : Since (fun e => leaves engagementId e = false) (fun db db' => live engagementId db = true → live engagementId db' = true) c

/-- It was so at every event. -/
structure Lasting (engagementId : String) (c : EscrowSnapshot) : Prop where
  kept : Kept engagementId c
  met : AllMeet (fun earlier e => Kept engagementId ⟨e.before,earlier⟩) c.history

theorem awaitedStep {earlier : List EscrowEvent} {e : EscrowEvent} (settles : Settles e.before e.after)
    (proper : orderly engagementId earlier e = true) (awaited : awaits engagementId e.before = true → live engagementId e.before = true)
    (here : awaits engagementId e.after = true) : live engagementId e.after = true := by
  simp only [orderly,Bool.and_eq_true,Bool.or_eq_true,Bool.not_eq_true'] at proper
  obtain ⟨⟨opened,left⟩,_⟩ := proper
  by_contra dead
  cases before : awaits engagementId e.before with
  | true =>
    have left : leaves engagementId e = false := left.resolve_right (by simp [before])
    simp [leaves,awaited before,dead] at left
  | false =>
    have alive : live engagementId e.before = true := opened.resolve_left (by simp [opens,before,here])
    obtain old | stays := settles.apart engagementId
    · rw [old here] at before
      cases before
    · exact dead (stays alive)

theorem keptStep {c : EscrowSnapshot} {thread : Nat} {site : Site} {i : Answer} {db' : Db} (kept : Kept engagementId c)
    (settles : Settles c.world db') (proper : orderly engagementId c.history (c.event thread site i db') = true) :
    Kept engagementId (c.record thread site i db') := by
  refine ⟨awaitedStep settles proper kept.awaited,?_,?_⟩
  · exact sinceRecord (fun _ => homeSame rfl) homeTrans (fun _ => settles.home) kept.home
  · refine sinceRecord (fun _ here => here) (fun first second here => second (first here)) (fun quiet here => ?_) kept.stays
    change (live engagementId c.world && !live engagementId db') = false at quiet
    rw [here,Bool.true_and,Bool.not_eq_false'] at quiet
    exact quiet

theorem memDuring {recent older : List EscrowEvent} {read d : EscrowEvent} (inside : d ∈ recent ++ [read]) :
    d ∈ during read.thread (recent ++ read :: older) := by
  have there : d ∈ read :: recent.reverse := by
    rcases List.mem_append.mp inside with later | here
    · exact List.mem_cons_of_mem _ (List.mem_reverse.mpr later)
    · exact List.mem_singleton.mp here ▸ List.mem_cons_self
  rw [during,List.reverse_append,List.reverse_cons,List.append_assoc,List.dropWhile_append]
  split
  · rwa [List.singleton_append,List.dropWhile_cons_of_neg (by simp)]
  · exact List.mem_append_right _ there

/-- A payment that is due finds the engagement as the review or the proposal was read. -/
theorem dueLive {history earlier : List EscrowEvent} {e : EscrowEvent} (suffix : e :: earlier <:+ history)
    (met : AllMeet (fun earlier e => Kept engagementId ⟨e.before,earlier⟩) history)
    (due : Due engagementId (earlier.filter fun d => d.thread = e.thread))
    (running : ∀ d ∈ during e.thread earlier, leaves engagementId d = false) : live engagementId e.before = true := by
  obtain ⟨newer,read,older,same,awaited⟩ := due
  obtain ⟨recent,rest,rfl,_,same⟩ := List.filter_eq_append_iff.mp same
  obtain ⟨others,past,rfl,_,mine,rfl⟩ := List.filter_eq_cons_iff.mp same
  have its : read.thread = e.thread := of_decide_eq_true mine
  rw [← List.append_assoc,← its] at running
  have suffix' : read :: past <:+ history :=
    (List.suffix_append others _).trans ((List.suffix_append recent _).trans ((List.suffix_cons e _).trans suffix))
  have before : Kept engagementId ⟨read.before,past⟩ := meetsIff.mp met past read suffix'
  have alive : live engagementId read.before = true := by
    refine before.awaited ?_
    rw [awaits,Bool.or_eq_true]
    rcases awaited with ⟨m,inside,here,submitted⟩ | ⟨seen,inside,m,r,found,here,stored,belongs,proposed⟩
    · exact Or.inl (List.any_eq_true.mpr ⟨m,inside,by simp [here,submitted]⟩)
    · obtain ⟨ahead,behind,rfl⟩ := List.append_of_mem (List.mem_of_mem_filter inside)
      obtain ⟨m',found',here'⟩ := before.home ahead seen behind rfl (fun _ _ => trivial) m.id m found
      refine Or.inr (List.any_eq_true.mpr ⟨r,stored,?_⟩)
      simp [belongs,proposed,found',here',here]
  have after : live engagementId read.after = true := by
    have quiet := running read (memDuring (List.mem_append_right _ List.mem_cons_self))
    rw [leaves,alive,Bool.true_and,Bool.not_eq_false'] at quiet
    exact quiet
  have now : Kept engagementId ⟨e.before,recent ++ (others ++ read :: past)⟩ := meetsIff.mp met _ e suffix
  refine now.stays (recent ++ others) read past (List.append_assoc _ _ _).symm (fun d inside => ?_) after
  exact running d (memDuring (List.mem_append_left _ inside))

def invite : CreateEngagementDto where
  engagementId := "e"
  companyAddress := "GC"
  recruiterAddress := "GR"
  arbiterAddress := "GA"
  tokenAddress := "USDC"
  totalAmount := some 1000
  jobTitle := some "Engineer"
  milestones := some [{ name := "placed", kind := .placement, paymentPercent := 100 }]

def served (thread : Nat) (request : Request) : List LiveMove :=
  .start request :: answered thread (.replicate 12 { number := 1000, text := "tx" })

def prepare : Request := .prepareEngagement "c" invite

def accept : Request := .acceptInvite "e" (some "GR")

def submit : Request := .submitProof "e" 0 { stellarAddress := some "GR" } { proofHash := some "p" }

def approve : Request := .approveMilestone "e" 0 "c" none

def cancel : Request := .cancelEngagement "e" (some "GC")

def inTurn : List LiveMove := served 0 prepare ++ served 1 accept ++ served 2 submit ++ served 3 approve

/-- Nobody has accepted, and no escrow is on the chain. -/
def unaccepted : List LiveMove := served 0 prepare ++ served 1 submit ++ served 2 approve

def cancelled : List LiveMove :=
  served 0 prepare ++ served 1 accept ++ served 2 submit ++ served 3 cancel ++ served 4 approve

theorem paidDead {history : List EscrowEvent} (dead : history.any (fun e => pays engagementId e.site && !live engagementId e.before) = true) :
    ¬ ∀ e ∈ history, pays engagementId e.site = true → live engagementId e.before = true := by
  intro alive
  obtain ⟨e,inside,paid⟩ := List.any_eq_true.mp dead
  rw [Bool.and_eq_true] at paid
  simp [alive e inside paid.1] at paid

end Runs

end HireSettle.Escrow.LiveEngagements
