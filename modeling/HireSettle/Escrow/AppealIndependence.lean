import HireSettle.Escrow.CallEffects
import HireSettle.Workflow.Guards

/-! Who decides a dispute and who decides its appeal. The selection of an arbiter
leaves out the conflicted ones and, for an appeal, the arbiter of the decision. A
dispute without an arbiter is open to every arbiter, and a manual override asks only
about the arbiter of the decision. -/
namespace HireSettle.Escrow.AppealIndependence
open Workflow ArbiterAssignmentService

inductive Request where
  | openForMilestone (milestoneId : String) (reason raisedById : Option String)
  | autoAssign (disputeId : String)
  | applyManualOverride (engagementId arbiterId : String)
  -- the dispute, or its appeal
  | decide (id : String) (outcome : DisputeOutcome) (userId : String) (stellarAddress : Option String)
  -- without a user in bulk
  | resolveDisputeFlow (engagementId : String) (milestoneIndex : Nat) (resolution : DisputeOutcome) (userId : Option String)
      (stellarAddress : Option String)
  | openAppeal (disputeId userId : String) (stellarAddress : Option String) (reason : String)

def Request.user : Request → Option String
  | .decide _ _ userId _ => some userId
  | .resolveDisputeFlow _ _ _ userId _ => userId
  | _ => none

/-- A party to the engagement, or recused from it. -/
def Conflicted (db : Db) (engagement : Engagement) (userId : String) : Prop :=
  DisputesService.isParty engagement { id := userId, stellarAddress := (db.users.get? userId).bind User.stellarAddress } = true ∨
  ∃ row ∈ db.recusals.rows, row.engagementId = engagement.id ∧ row.arbiterId = userId

instance (db : Db) (engagement : Engagement) (userId : String) : Decidable (Conflicted db engagement userId) :=
  inferInstanceAs (Decidable (_ ∨ _))

/-- The dispute that the call decides in the first tier. -/
def decidedFirst (e : EscrowEvent) : Option String :=
  match e.site with
  | .decide id => if e.after.disputes.rows = e.before.disputes.rows then none else some id
  | _ => none

/-- The dispute whose appeal the call decides. -/
def decidedAppeal (e : EscrowEvent) : Option String :=
  match e.site with
  | .decideAppeal id => if e.after.appeals.rows = e.before.appeals.rows then none else some id
  | _ => none

section Roles

variable (roleOf : String → UserRole)

/-- The user on whose behalf a request decides, unless an admin. -/
def officer (request : Request) : Option String := request.user.filter fun userId => roleOf userId ≠ .admin

/-- Nobody decides a dispute and, not as an admin, its appeal; nobody decides who is conflicted. -/
def Independent (pool : Pool Request Site Answer Db Exception Unit) : Prop :=
  (∀ e ∈ pool.history, ∀ e' ∈ pool.history, ∀ t ∈ pool.threads[e.thread]?, ∀ t' ∈ pool.threads[e'.thread]?,
    ∀ id ∈ decidedFirst e, decidedAppeal e' = some id → ∀ userId ∈ officer roleOf t'.request, t.request.user ≠ some userId) ∧
  ∀ e ∈ pool.history, ∀ t ∈ pool.threads[e.thread]?, ∀ id ∈ (decidedFirst e).or (decidedAppeal e),
    ∀ userId ∈ officer roleOf t.request, ∀ d ∈ e.before.disputes.get? id,
      ∀ engagement ∈ e.before.engagements.get? d.engagementId, ¬ Conflicted e.before engagement userId

instance (pool : Pool Request Site Answer Db Exception Unit) : Decidable (Independent roleOf pool) :=
  inferInstanceAs (Decidable (_ ∧ _))

/-- The overriding arbiter is not conflicted, and the override finds the dispute as it has read it. -/
def OverridesProperly (request : Request) (own : List EscrowEvent) (db : Db) (d : Dispute) : Prop :=
  match request with
  | .applyManualOverride _ arbiterId =>
      d.active = true ∧ (∀ read ∈ lastRead .dispute own, ∀ d₀ ∈ read.disputes.get? d.id, d.stage = d₀.stage) ∧
      ∀ engagement ∈ db.engagements.get? d.engagementId, ¬ Conflicted db engagement arbiterId
  | _ => True

instance (request : Request) (own : List EscrowEvent) (db : Db) (d : Dispute) : Decidable (OverridesProperly request own db d) := by
  unfold OverridesProperly
  split <;> infer_instance

/-- A first-tier decision is made by the arbiter assigned at that moment and not under
appeal; a dispute gets its arbiter while it is active. -/
def Proper (request : Request) (earlier : List EscrowEvent) (e : EscrowEvent) : Prop :=
  e.after.disputes.rows ≠ e.before.disputes.rows → match e.site with
    | .decide id => ∀ userId ∈ officer roleOf request, ∀ d ∈ e.before.disputes.get? id,
        present d.arbiterId = some userId ∧ d.stage ≠ .appealReview
    | .assignArbiter id => ∀ d ∈ e.before.disputes.get? id, d.active = true
    | .overrideArbiter id => ∀ d ∈ e.before.disputes.get? id,
        OverridesProperly request (earlier.filter fun e' => e'.thread = e.thread) e.before d
    | _ => True

instance (request : Request) (earlier : List EscrowEvent) (e : EscrowEvent) : Decidable (Proper roleOf request earlier e) := by
  unfold Proper
  refine @instDecidableForall _ _ inferInstance ?_
  generalize e.site = site
  induction site using Site.casesOn <;> infer_instance

end Roles

structure SameRoster (db db' : Db) : Prop where
  engagements : db'.engagements = db.engagements
  users : db'.users = db.users
  recusals : db'.recusals = db.recusals

/-- What became of a dispute: once decided it keeps its arbiter until it is appealed, and
the appeal is against that arbiter; an appeal under review stays under review. -/
structure Follows (before after : Option DisputeAppeal) (d d' : Dispute) : Prop where
  engagementId : d'.engagementId = d.engagementId
  unappealed : d.active = false → before = none → after = none → d'.active = false ∧ d'.arbiterId = d.arbiterId
  appealed : d.active = false → before = none → ∀ a, after = some a → a.originalArbiterId = d.arbiterId
  reviewed : before.isSome → d.stage = .appealReview → d.arbiterId.isSome → d'.stage = .appealReview ∧ d'.arbiterId.isSome
  unreviewed : before.isSome → d.stage ≠ .appealReview → d'.stage ≠ .appealReview

structure Leads (db db' : Db) : Prop where
  roster : SameRoster db db'
  appeals : ∀ id a, db.appeals.get? id = some a → ∃ a', db'.appeals.get? id = some a' ∧ a'.originalArbiterId = a.originalArbiterId
  disputes : ∀ id d, db.disputes.get? id = some d →
    ∃ d', db'.disputes.get? id = some d' ∧ Follows (db.appeals.get? id) (db'.appeals.get? id) d d'

structure SoundRow (db : Db) (id : String) (d : Dispute) : Prop where
  appealed : d.stage = .appealReview → (db.appeals.get? id).isSome
  eligible : ∀ userId, d.arbiterId = some userId → ∀ engagement, db.engagements.get? d.engagementId = some engagement →
    ¬ Conflicted db engagement userId
  other : d.stage = .appealReview → ∀ userId, d.arbiterId = some userId → ∀ a, db.appeals.get? id = some a →
    present a.originalArbiterId ≠ some userId

def Sound (db : Db) : Prop := ∀ id d, db.disputes.get? id = some d → SoundRow db id d

section Rows

variable {db db' db'' : Db} {id : String}

theorem rosterConflicted (roster : SameRoster db db') {engagement : Engagement} {userId : String} :
    Conflicted db' engagement userId ↔ Conflicted db engagement userId := by
  simp only [Conflicted,roster.users,roster.recusals]

theorem followsRefl (a : Option DisputeAppeal) (d : Dispute) : Follows a a d d where
  engagementId := rfl
  unappealed closed _ _ := ⟨closed,rfl⟩
  appealed _ absent a' here := by
    rw [absent] at here
    cases here
  reviewed _ stage arbiter := ⟨stage,arbiter⟩
  unreviewed _ stage := stage

theorem leadsRefl (db : Db) : Leads db db where
  roster := ⟨rfl,rfl,rfl⟩
  appeals _ a found := ⟨a,found,rfl⟩
  disputes _ d found := ⟨d,found,followsRefl _ d⟩

theorem leadsTrans (first : Leads db db') (second : Leads db' db'') : Leads db db'' where
  roster := ⟨second.roster.engagements.trans first.roster.engagements,second.roster.users.trans first.roster.users,
    second.roster.recusals.trans first.roster.recusals⟩
  appeals id a found := by
    obtain ⟨a',found',same⟩ := first.appeals id a found
    obtain ⟨a'',found'',same'⟩ := second.appeals id a' found'
    exact ⟨a'',found'',same'.trans same⟩
  disputes id d found := by
    obtain ⟨d',found',follows⟩ := first.disputes id d found
    obtain ⟨d'',found'',follows'⟩ := second.disputes id d' found'
    have still : (db.appeals.get? id).isSome → (db'.appeals.get? id).isSome := by
      intro exists'
      obtain ⟨a,here⟩ := Option.isSome_iff_exists.mp exists'
      obtain ⟨a',there,_⟩ := first.appeals id a here
      simp [there]
    refine ⟨d'',found'',?_,?_,?_,?_,?_⟩
    · exact follows'.engagementId.trans follows.engagementId
    · intro closed absent absent''
      have absent' : db'.appeals.get? id = none := by
        by_contra exists'
        obtain ⟨a,here⟩ := Option.ne_none_iff_exists'.mp exists'
        obtain ⟨a',there,_⟩ := second.appeals id a here
        cases absent''.symm.trans there
      obtain ⟨closed',same⟩ := follows.unappealed closed absent absent'
      obtain ⟨closed'',same'⟩ := follows'.unappealed closed' absent' absent''
      exact ⟨closed'',same'.trans same⟩
    · intro closed absent a'' there
      cases here : db'.appeals.get? id with
      | none =>
        obtain ⟨closed',same⟩ := follows.unappealed closed absent here
        exact (follows'.appealed closed' here a'' there).trans same
      | some a' =>
        obtain ⟨_,found,same⟩ := second.appeals id a' here
        cases there.symm.trans found
        exact same.trans (follows.appealed closed absent a' here)
    · intro exists' stage arbiter
      obtain ⟨stage',arbiter'⟩ := follows.reviewed exists' stage arbiter
      exact follows'.reviewed (still exists') stage' arbiter'
    · exact fun exists' stage => follows'.unreviewed (still exists') (follows.unreviewed exists' stage)

theorem movedRows {p : Dispute → Prop} {P : Dispute → Dispute → Prop} (moves : MovesDisputes p P db db') :
    ∃ (g : Dispute → Dispute) (disputes : Table Dispute), db' = { db with disputes := disputes } ∧
      (∀ id, disputes.get? id = (db.disputes.get? id).map g) ∧ ∀ d, g d = d ∨ p d ∧ SameCase d (g d) ∧ P d (g d) := by
  obtain ⟨q,f,keeps,met,same,rfl⟩ := moves
  refine ⟨fun d => if q d then f d else d,_,rfl,fun id => Table.getUpdateMany _ q f keeps id,fun d => ?_⟩
  by_cases matched : q d = true
  · refine Or.inr ⟨met d matched,?_⟩
    dsimp only
    rw [if_pos matched]
    exact same d
  · exact Or.inl (if_neg matched)

theorem leadsMoved {g : Dispute → Dispute} (roster : SameRoster db db') (rows : ∀ id, db'.disputes.get? id = (db.disputes.get? id).map g)
    (appeals : ∀ id a, db.appeals.get? id = some a → ∃ a', db'.appeals.get? id = some a' ∧ a'.originalArbiterId = a.originalArbiterId)
    (each : ∀ id d, db.disputes.get? id = some d →
      Follows (db.appeals.get? id) (db'.appeals.get? id) d (g d) ∧ SoundRow db' id (g d)) : Leads db db' ∧ Sound db' := by
  refine ⟨⟨roster,appeals,fun id d found => ⟨g d,by rw [rows,found]; rfl,(each id d found).1⟩⟩,fun id d' found' => ?_⟩
  rw [rows] at found'
  obtain ⟨d,found,rfl⟩ := Option.map_eq_some_iff.mp found'
  exact (each id d found).2

/-- The appeals are against the same decisions. -/
def SameAppeals (db db' : Db) : Prop :=
  ∀ id, (db'.appeals.get? id).map DisputeAppeal.originalArbiterId = (db.appeals.get? id).map DisputeAppeal.originalArbiterId

theorem sameAppealsKept (same : SameAppeals db db') (id : String) (a : DisputeAppeal) (found : db.appeals.get? id = some a) :
    ∃ a', db'.appeals.get? id = some a' ∧ a'.originalArbiterId = a.originalArbiterId := by
  have here := same id
  rw [found] at here
  exact Option.map_eq_some_iff.mp here

theorem sameAppealsNone (same : SameAppeals db db') (absent : db.appeals.get? id = none) : db'.appeals.get? id = none := by
  have here := same id
  rw [absent] at here
  exact Option.map_eq_none_iff.mp here

/-- The row is heard by the same arbiter in the same stage, and is not opened again. -/
structure SameTrial (d d' : Dispute) : Prop where
  engagementId : d'.engagementId = d.engagementId
  hearing : SameHearing d d'
  closed : d.active = false → d'.active = false

theorem followsTrial {d d' : Dispute} (appeals : SameAppeals db db') (trial : SameTrial d d') :
    Follows (db.appeals.get? id) (db'.appeals.get? id) d d' where
  engagementId := trial.engagementId
  unappealed closed _ _ := ⟨trial.closed closed,trial.hearing.arbiterId⟩
  appealed _ absent a there := by
    rw [sameAppealsNone appeals absent] at there
    cases there
  reviewed _ stage arbiter := ⟨trial.hearing.stage.trans stage,trial.hearing.arbiterId ▸ arbiter⟩
  unreviewed _ stage := trial.hearing.stage ▸ stage

theorem soundTrial {d d' : Dispute} (roster : SameRoster db db') (appeals : SameAppeals db db') (trial : SameTrial d d')
    (sound : SoundRow db id d) : SoundRow db' id d' where
  appealed stage := by
    obtain ⟨a,found⟩ := Option.isSome_iff_exists.mp (sound.appealed (trial.hearing.stage ▸ stage))
    obtain ⟨a',found',_⟩ := sameAppealsKept appeals id a found
    simp [found']
  eligible userId arbiter engagement found := by
    rw [rosterConflicted roster]
    exact sound.eligible userId (trial.hearing.arbiterId ▸ arbiter) engagement (by rw [← roster.engagements,← trial.engagementId,found])
  other stage userId arbiter a' found' := by
    cases found : db.appeals.get? id with
    | none => cases (sameAppealsNone appeals found).symm.trans found'
    | some a =>
      obtain ⟨_,there,same⟩ := sameAppealsKept appeals id a found
      cases found'.symm.trans there
      rw [same]
      exact sound.other (trial.hearing.stage ▸ stage) userId (trial.hearing.arbiterId ▸ arbiter) a found

theorem sameTrialRefl (d : Dispute) : SameTrial d d := ⟨rfl,⟨rfl,rfl⟩,fun closed => closed⟩

theorem soundElsewhere {disputes : Table Dispute} {d : Dispute} (sound : SoundRow db id d) :
    SoundRow { db with disputes := disputes } id d := ⟨sound.appealed,sound.eligible,sound.other⟩

theorem leadsTrial {p : Dispute → Prop} {P : Dispute → Dispute → Prop} {mid : Db} (moves : MovesDisputes p P db mid)
    (trial : ∀ d d', p d → P d d' → SameHearing d d' ∧ (d.active = false → d'.active = false))
    (rest : mid.disputes = db'.disputes) (roster : SameRoster mid db') (appeals : SameAppeals mid db') (sound : Sound db) :
    Leads db db' ∧ Sound db' := by
  obtain ⟨g,disputes,rfl,rows,each⟩ := movedRows moves
  have appeals' : SameAppeals db db' := appeals
  have roster' : SameRoster db db' := ⟨roster.engagements,roster.users,roster.recusals⟩
  refine leadsMoved roster' (fun id => by rw [← rest]; exact rows id) (sameAppealsKept appeals') fun id d found => ?_
  have same : SameTrial d (g d) := by
    rcases each d with same | ⟨met,case',changed⟩
    · rw [same]
      exact sameTrialRefl d
    · obtain ⟨hearing,closed⟩ := trial d (g d) met changed
      exact ⟨case'.engagementId,hearing,closed⟩
  exact ⟨followsTrial appeals' same,soundTrial roster' appeals' same (sound id d found)⟩

theorem leadsAside (disputes : db'.disputes = db.disputes) (roster : SameRoster db db') (appeals : SameAppeals db db') (sound : Sound db) :
    Leads db db' ∧ Sound db' := by
  refine leadsMoved (g := fun d => d) roster (fun id => by simp [disputes]) (sameAppealsKept appeals) fun id d found => ?_
  exact ⟨followsTrial appeals (sameTrialRefl d),soundTrial roster appeals (sameTrialRefl d) (sound id d found)⟩

theorem sameAppealsMoves (moves : MovesAppeals db db') :
    SameAppeals db db' ∧ db'.disputes = db.disputes ∧ SameRoster db db' := by
  obtain ⟨q,f,keeps,same,rfl⟩ := moves
  refine ⟨fun id => ?_,rfl,⟨rfl,rfl,rfl⟩⟩
  rw [Table.getUpdateMany _ q f keeps,Option.map_map]
  cases db.appeals.get? id with
  | none => rfl
  | some a =>
    simp only [Option.map_some,Function.comp]
    split
    · rw [same]
    · rfl

end Rows

section Steps

variable (roleOf : String → UserRole)

/-- An arbiter whom a thread has found not conflicted. -/
def Eligible (own : List EscrowEvent) (id userId : String) : Prop :=
  ∃ dispute ∈ own, ∃ recusal ∈ own, ∃ user ∈ own, ∃ d engagement, dispute.before.disputes.get? id = some d ∧
    dispute.before.engagements.get? d.engagementId = some engagement ∧
    ¬ Conflicted { recusal.before with users := user.before.users } engagement userId

/-- The dispute goes under appeal. -/
structure Appeals (id : String) (appeal : DisputeAppeal) (d d' : Dispute) (db : Db) (disputes : Table Dispute)
    (appeals : Table DisputeAppeal) : Prop where
  found : db.disputes.get? id = some d
  closed : d.active = false
  moved : disputes.get? id = some d'
  others : ∀ other, other ≠ id → disputes.get? other = db.disputes.get? other
  engagementId : d'.engagementId = d.engagementId
  arbiter : d'.arbiterId = appeal.arbiterId
  stage : d'.stage = .appealReview
  made : db.appeals.create appeal = some appeals

@[reducible] def Writes (request : Request) (own : List EscrowEvent) (site : Site) (db db' : Db) : Prop :=
  match site with
  | .assignArbiter id => ∃ arbiterId, Eligible own id arbiterId ∧ MovesDisputes (fun d => d.id = id ∧ d.arbiterId = none)
      (fun _ d' => d'.arbiterId = some arbiterId ∧ d'.stage = .arbiterReview) db db'
  | .overrideArbiter id => ∃ engagementId arbiterId read d₀, request = .applyManualOverride engagementId arbiterId ∧
      lastRead .dispute own = some read ∧ read.disputes.get? id = some d₀ ∧
      (d₀.stage = .appealReview → ∀ a, read.appeals.get? id = some a → a.originalArbiterId ≠ some arbiterId) ∧
      MovesDisputes (fun d => d.id = id)
        (fun d d' => d'.arbiterId = some arbiterId ∧ d'.stage = if d₀.stage = .assignment then .arbiterReview else d.stage) db db'
  | .openAppeal id => ∃ read ∈ own, ∃ d₀ d d' appeal disputes appeals,
      (read.before.disputes.get? id = some d₀ ∧ d₀.active = false ∧ read.before.appeals.get? id = none) ∧
      (appeal.disputeId = id ∧ appeal.originalArbiterId = d₀.arbiterId ∧
        ∀ userId, appeal.arbiterId = some userId → Eligible own id userId ∧ present d₀.arbiterId ≠ some userId) ∧
      Appeals id appeal d d' db disputes appeals ∧ db' = { db with disputes := disputes, appeals := appeals }
  | .decideAppeal id => site.effect db db' ∧ ∀ userId, officer roleOf request = some userId →
      ∃ read ∈ own, ∃ d, read.before.disputes.get? id = some d ∧ d.stage = .appealReview ∧ (read.before.appeals.get? id).isSome ∧
        d.arbiterId = some userId
  | .addReleasedAmount _ | .syncEngagement _ | .markProcessed _ _ => False
  | _ => site.effect db db'

/-- What a request has seen when it writes, and what it writes. -/
def Guard (request : Request) (own : List EscrowEvent) (e : EscrowEvent) : Prop :=
  e.after = e.before ∨ Writes roleOf request own e.site e.before e.after

/-- Every state of the run is sound and leads to the present one. -/
structure Kept (c : EscrowSnapshot) : Prop where
  sound : Sound c.world
  before : ∀ e ∈ c.history, Sound e.before ∧ Leads e.before c.world
  after : ∀ e ∈ c.history, Leads e.after c.world

variable {roleOf} {c : EscrowSnapshot} {request : Request} {own : List EscrowEvent} {id : String}

theorem eligibleNow (kept : Kept c) (inside : ∀ e ∈ own, e ∈ c.history) {userId : String} (eligible : Eligible own id userId)
    {d : Dispute} (found : c.world.disputes.get? id = some d) {engagement : Engagement}
    (engaged : c.world.engagements.get? d.engagementId = some engagement) : ¬ Conflicted c.world engagement userId := by
  obtain ⟨dispute,at₁,recusal,at₂,user,at₃,d₀,engagement₀,found₀,engaged₀,free⟩ := eligible
  have roster₁ := (kept.before dispute (inside _ at₁)).2
  have roster₂ := (kept.before recusal (inside _ at₂)).2.roster
  have roster₃ := (kept.before user (inside _ at₃)).2.roster
  obtain ⟨_,there,follows⟩ := roster₁.disputes id d₀ found₀
  cases found.symm.trans there
  have same : engagement = engagement₀ := by
    rw [follows.engagementId,roster₁.roster.engagements,engaged₀] at engaged
    exact (Option.some.inj engaged).symm
  subst same
  simpa only [Conflicted,roster₂.recusals,roster₃.users] using free

theorem leadsAssigns {arbiterId : String} {db' : Db} (kept : Kept c) (inside : ∀ e ∈ own, e ∈ c.history) (eligible : Eligible own id arbiterId)
    (active : ∀ d, c.world.disputes.get? id = some d → d.active = true)
    (moves : MovesDisputes (fun d => d.id = id ∧ d.arbiterId = none)
      (fun _ d' => d'.arbiterId = some arbiterId ∧ d'.stage = .arbiterReview) c.world db') : Leads c.world db' ∧ Sound db' := by
  obtain ⟨g,disputes,rfl,rows,each⟩ := movedRows moves
  refine leadsMoved ⟨rfl,rfl,rfl⟩ rows (fun _ a found => ⟨a,found,rfl⟩) fun other d found => ?_
  rcases each d with same | ⟨⟨here,unassigned⟩,case',arbiter,stage⟩
  · rw [same]
    exact ⟨followsRefl _ d,soundElsewhere (kept.sound other d found)⟩
  · have mine : other = id := (Table.getKey found).symm.trans here
    subst mine
    have opened := active d found
    refine ⟨⟨case'.engagementId,?_,?_,?_,?_⟩,⟨?_,?_,?_⟩⟩
    · exact fun closed => by simp [opened] at closed
    · exact fun closed => by simp [opened] at closed
    · exact fun _ _ assigned => by simp [unassigned] at assigned
    · exact fun _ _ => by simp [stage]
    · exact fun review => by simp [stage] at review
    · intro userId its engagement engaged
      cases arbiter.symm.trans its
      exact eligibleNow kept inside eligible found (case'.engagementId ▸ engaged)
    · exact fun review => by simp [stage] at review

theorem leadsOverrides {engagementId arbiterId : String} {read : Db} {d₀ : Dispute} {db' : Db} (kept : Kept c)
    (inside : ∀ e ∈ own, e ∈ c.history) (last : lastRead .dispute own = some read) (seen : read.disputes.get? id = some d₀)
    (other : d₀.stage = .appealReview → ∀ a, read.appeals.get? id = some a → a.originalArbiterId ≠ some arbiterId)
    (proper : ∀ d, c.world.disputes.get? id = some d →
      OverridesProperly (.applyManualOverride engagementId arbiterId) own c.world d)
    (moves : MovesDisputes (fun d => d.id = id)
      (fun d d' => d'.arbiterId = some arbiterId ∧ d'.stage = if d₀.stage = .assignment then .arbiterReview else d.stage) c.world db') :
    Leads c.world db' ∧ Sound db' := by
  obtain ⟨e,at',rfl⟩ := lastReadMem last
  obtain ⟨past,leads⟩ := kept.before e (inside e at')
  obtain ⟨g,disputes,rfl,rows,each⟩ := movedRows moves
  refine leadsMoved ⟨rfl,rfl,rfl⟩ rows (fun _ a found => ⟨a,found,rfl⟩) fun id' d found => ?_
  rcases each d with same | ⟨here,case',arbiter,stage⟩
  · rw [same]
    exact ⟨followsRefl _ d,soundElsewhere (kept.sound id' d found)⟩
  · have mine : id' = id := (Table.getKey found).symm.trans here
    subst mine
    obtain ⟨active,unmoved,free⟩ := proper d found
    have sameStage : d.stage = d₀.stage := unmoved e.before last d₀ (here ▸ seen)
    rw [← sameStage] at stage other
    have review : (g d).stage = .appealReview ↔ d.stage = .appealReview := by
      rw [stage]
      split
      · rename_i assignment
        simp [assignment]
      · rfl
    refine ⟨⟨case'.engagementId,?_,?_,?_,?_⟩,⟨?_,?_,?_⟩⟩
    · exact fun closed => by simp [active] at closed
    · exact fun closed => by simp [active] at closed
    · exact fun _ its _ => ⟨review.mpr its,by simp [arbiter]⟩
    · exact fun _ its => mt review.mp its
    · exact fun its => (kept.sound id' d found).appealed (review.mp its)
    · intro userId its engagement engaged
      cases arbiter.symm.trans its
      exact free engagement (case'.engagementId ▸ engaged)
    · intro its userId assigned a there
      cases arbiter.symm.trans assigned
      obtain ⟨a₀,there₀⟩ := Option.isSome_iff_exists.mp ((past id' d₀ seen).appealed (sameStage ▸ review.mp its))
      obtain ⟨_,now,same⟩ := leads.appeals id' a₀ there₀
      cases there.symm.trans now
      intro original
      refine other (review.mp its) a₀ there₀ ?_
      rw [← same]
      exact (Option.filter_eq_some_iff.mp original).1

theorem leadsAppeals {read : EscrowEvent} {d₀ d d' : Dispute} {appeal : DisputeAppeal} {disputes : Table Dispute}
    {appeals : Table DisputeAppeal} (kept : Kept c) (inside : ∀ e ∈ own, e ∈ c.history) (at' : read ∈ own)
    (seen : read.before.disputes.get? id = some d₀ ∧ d₀.active = false ∧ read.before.appeals.get? id = none)
    (row : appeal.disputeId = id ∧ appeal.originalArbiterId = d₀.arbiterId ∧
      ∀ userId, appeal.arbiterId = some userId → Eligible own id userId ∧ present d₀.arbiterId ≠ some userId)
    (opens : Appeals id appeal d d' c.world disputes appeals) :
    Leads c.world { c.world with disputes := disputes, appeals := appeals } ∧
      Sound { c.world with disputes := disputes, appeals := appeals } := by
  obtain ⟨its,original,eligible⟩ := row
  obtain ⟨seen,decided,absent⟩ := seen
  obtain ⟨past,leads⟩ := kept.before read (inside read at')
  obtain ⟨free,_,found'⟩ := Table.createGet opens.made
  have key : Keyed.key appeal = id := its
  have mine : appeals.get? id = some appeal := by rw [found',key,if_pos rfl]
  have others : ∀ other, other ≠ id → appeals.get? other = c.world.appeals.get? other :=
    fun other differs => by rw [found',key,if_neg differs]
  have fresh : c.world.appeals.get? id = none := key ▸ free
  -- the decision under appeal is that of the arbiter of the row
  have sameArbiter : d.arbiterId = d₀.arbiterId := by
    obtain ⟨_,there,follows⟩ := leads.disputes id d₀ seen
    cases opens.found.symm.trans there
    exact (follows.unappealed decided absent fresh).2
  have rows : ∀ other, disputes.get? other = (c.world.disputes.get? other).map fun x => if x.id = id then d' else x := by
    intro other
    by_cases here : other = id
    · subst here
      have self' : d.id = other := Table.getKey opens.found
      rw [opens.moved,opens.found,Option.map_some,if_pos self']
    · rw [opens.others other here]
      cases there : c.world.disputes.get? other with
      | none => rfl
      | some x =>
        have differs : x.id ≠ id := fun same => here ((Table.getKey there).symm.trans same)
        rw [Option.map_some,if_neg differs]
  refine leadsMoved ⟨rfl,rfl,rfl⟩ rows ?_ fun other x found => ?_
  · intro other a there
    have differs : other ≠ id := by
      rintro rfl
      cases fresh.symm.trans there
    exact ⟨a,(others other differs).trans there,rfl⟩
  · by_cases here : other = id
    · subst here
      cases opens.found.symm.trans found
      have self' : d.id = other := Table.getKey opens.found
      rw [if_pos self',show appeals.get? other = some appeal from mine,fresh]
      refine ⟨⟨opens.engagementId,nofun,?_,nofun,nofun⟩,⟨?_,?_,?_⟩⟩
      · intro _ _ a there
        cases there
        exact original.trans sameArbiter.symm
      · intro _
        show (appeals.get? other).isSome = true
        rw [mine]
        rfl
      · intro userId assigned engagement engaged
        exact eligibleNow kept inside (eligible userId (opens.arbiter ▸ assigned)).1 found (opens.engagementId ▸ engaged)
      · intro _ userId assigned a there
        cases mine.symm.trans there
        rw [original]
        exact (eligible userId (opens.arbiter ▸ assigned)).2
    · have differs : x.id ≠ id := fun same => here ((Table.getKey found).symm.trans same)
      have sound := kept.sound other x found
      rw [if_neg differs,show appeals.get? other = c.world.appeals.get? other from others other here]
      refine ⟨followsRefl _ x,⟨?_,sound.eligible,?_⟩⟩
      · intro stage
        show (appeals.get? other).isSome = true
        rw [others other here]
        exact sound.appealed stage
      · intro stage userId assigned a there
        exact sound.other stage userId assigned a ((others other here).symm.trans there)

theorem leadsOpens {row : Dispute} {disputes : Table Dispute} (kept : Kept c) (unassigned : row.arbiterId = none)
    (stage : row.stage = .assignment) (made : c.world.disputes.create row = some disputes) :
    Leads c.world { c.world with disputes := disputes } ∧ Sound { c.world with disputes := disputes } := by
  obtain ⟨free,_,found'⟩ := Table.createGet made
  have old : ∀ id d, c.world.disputes.get? id = some d → disputes.get? id = some d := by
    intro id d found
    have differs : id ≠ Keyed.key row := by
      rintro rfl
      cases free.symm.trans found
    rw [found',if_neg differs,found]
  refine ⟨⟨⟨rfl,rfl,rfl⟩,fun _ a found => ⟨a,found,rfl⟩,fun id d found => ⟨d,old id d found,followsRefl _ d⟩⟩,fun id d found => ?_⟩
  rw [show disputes.get? id = _ from found' id] at found
  split at found
  · cases found
    exact ⟨fun review => by simp [stage] at review,fun _ its => by simp [unassigned] at its,fun review => by simp [stage] at review⟩
  · exact soundElsewhere (kept.sound id d found)

/-- The tables of the disputes and of those who may decide them. -/
structure SameCourt (db db' : Db) : Prop where
  disputes : db'.disputes = db.disputes
  appeals : db'.appeals = db.appeals
  roster : SameRoster db db'

/-- The calls that write these tables. -/
def Site.writesCourt : Site → Bool
  | .overrideAppeal _ | .addReleasedAmount _ | .syncEngagement _ | .markProcessed _ _ => true
  | site => site.writesDisputes

theorem courtStays {site : Site} {db db' : Db} (effect : Effect site db db') (elsewhere : Site.writesCourt site = false) : SameCourt db db' := by
  obtain rfl | effect := effect
  · exact ⟨rfl,rfl,⟨rfl,rfl,rfl⟩⟩
  · cases site with
    | writeProofVersion =>
      obtain ⟨_,_,_,_,rfl⟩ | ⟨_,_,_,_,rfl⟩ := effect <;> exact ⟨rfl,rfl,⟨rfl,rfl,rfl⟩⟩
    | claimProofSla =>
      obtain ⟨_,_,_,_,rfl⟩ := effect
      exact ⟨rfl,rfl,⟨rfl,rfl,rfl⟩⟩
    | createApproval =>
      obtain ⟨_,_,_,rfl⟩ := effect
      exact ⟨rfl,rfl,⟨rfl,rfl,rfl⟩⟩
    | deleteApprovals =>
      cases effect
      exact ⟨rfl,rfl,⟨rfl,rfl,rfl⟩⟩
    | proofSubmitted | proofRejected | markUnlocked =>
      obtain ⟨_,_,_,rfl⟩ := effect
      exact ⟨rfl,rfl,⟨rfl,rfl,rfl⟩⟩
    | proofSubmittedAt | markConfirmed | markUnlockedAt | markDisputed =>
      obtain ⟨_,_,_,_,_,rfl⟩ := effect
      exact ⟨rfl,rfl,⟨rfl,rfl,rfl⟩⟩
    | markResolved =>
      obtain ⟨_,_,_,_,_,_,_,rfl⟩ := effect
      exact ⟨rfl,rfl,⟨rfl,rfl,rfl⟩⟩
    | settleMilestone | payRelease =>
      obtain ⟨_,_,_,_,_,_,rfl⟩ := effect
      exact ⟨rfl,rfl,⟨rfl,rfl,rfl⟩⟩
    | resetMilestone =>
      obtain ⟨_,_,_,_,_,rfl⟩ := effect
      exact ⟨rfl,rfl,⟨rfl,rfl,rfl⟩⟩
    | createRelease | approveRelease | rejectRelease | claimRelease | failRelease | executeRelease | refundMilestone
    | refundRemainder | createPayout | unlockSchedule | upsertSchedule | saveEvent | recordFailure | advance =>
      obtain ⟨_,rfl⟩ := effect
      exact ⟨rfl,rfl,⟨rfl,rfl,rfl⟩⟩
    | moveToDeadLetter | requeue =>
      obtain ⟨_,_,rfl⟩ := effect
      exact ⟨rfl,rfl,⟨rfl,rfl,rfl⟩⟩
    | _ => first | exact effect.elim | cases elsewhere

theorem tableSame {ρ κ : Type} [Keyed ρ κ] {t t' : Table ρ} (same : t'.rows = t.rows) : t' = t := by
  cases t
  cases t'
  cases same
  rfl

/-- What a call that moves disputes has found, if it has changed any. -/
theorem leadsChanged {p : Dispute → Prop} {P : Dispute → Dispute → Prop} {db db' : Db} (sound : Sound db) (moves : MovesDisputes p P db db')
    (changed : db'.disputes.rows ≠ db.disputes.rows → Leads db db' ∧ Sound db') : Leads db db' ∧ Sound db' := by
  by_cases same : db'.disputes.rows = db.disputes.rows
  · obtain ⟨q,f,keeps,_,_,rfl⟩ := moves
    exact leadsAside (tableSame same) ⟨rfl,rfl,rfl⟩ (fun _ => rfl) sound
  · exact changed same

theorem leadsStep {thread : Nat} {site : Site} {i : Answer} {db' : Db} (kept : Kept c)
    (guard : Guard roleOf request (c.history.filter fun e => e.thread = thread) (c.event thread site i db'))
    (proper : Proper roleOf request c.history (c.event thread site i db')) : Leads c.world db' ∧ Sound db' := by
  have inside : ∀ e ∈ c.history.filter fun e => e.thread = thread, e ∈ c.history := fun e its => (List.mem_filter.mp its).1
  have sound := kept.sound
  obtain same | writes := guard
  · cases same
    exact ⟨leadsRefl _,sound⟩
  · simp only [Snapshot.event] at writes proper
    by_cases elsewhere : Site.writesCourt site = false
    · have effect : Effect site c.world db' := by
        refine Or.inr ?_
        cases site <;> first | exact writes | cases elsewhere
      obtain ⟨disputes,appeals,roster⟩ := courtStays effect elsewhere
      exact leadsAside disputes roster (fun _ => by rw [appeals]) sound
    · cases site with
      | openDispute =>
        obtain ⟨row,disputes,new,made,rfl⟩ := writes
        exact leadsOpens kept new.arbiterId new.stage made
      | assignArbiter id =>
        obtain ⟨arbiterId,eligible,moves⟩ := writes
        refine leadsChanged sound moves fun changed => leadsAssigns kept inside eligible (fun d found => ?_) moves
        exact proper changed d found
      | overrideArbiter id =>
        obtain ⟨engagementId,arbiterId,read,d₀,rfl,last,seen,other,moves⟩ := writes
        refine leadsChanged sound moves fun changed => ?_
        have overrides : ∀ d, c.world.disputes.get? id = some d → OverridesProperly (.applyManualOverride engagementId arbiterId)
            (c.history.filter fun e => e.thread = thread) c.world d := proper changed
        exact leadsOverrides kept inside last seen other overrides moves
      | openAppeal id =>
        obtain ⟨read,at',d₀,d,d',appeal,disputes,appeals,seen,row,opens,rfl⟩ := writes
        exact leadsAppeals kept inside at' seen row opens
      | decideAppeal id =>
        obtain ⟨⟨mid,moves,appeals⟩,_⟩ := writes
        obtain ⟨same,disputes,roster⟩ := sameAppealsMoves appeals
        refine leadsTrial moves (fun d d' _ its => ⟨its.2.2,fun _ => ?_⟩) disputes.symm roster same sound
        simp [Dispute.active,ACTIVE_DISPUTE_STATUSES,its.1]
      | overrideAppeal id =>
        obtain ⟨same,disputes,roster⟩ := sameAppealsMoves writes
        exact leadsAside disputes roster same sound
      | decide | claimSettlement | unclaimSettlement =>
        refine leadsTrial writes (fun d d' _ its => ⟨its.2.2,fun _ => ?_⟩) rfl ⟨rfl,rfl,rfl⟩ (fun _ => rfl) sound
        simp [Dispute.active,ACTIVE_DISPUTE_STATUSES,its.1]
      | expireAppealWindow =>
        refine leadsTrial writes (fun d d' _ its => ⟨its.2.2,fun closed => ?_⟩) rfl ⟨rfl,rfl,rfl⟩ (fun _ => rfl) sound
        simpa only [Dispute.active,its.1] using closed
      | unlockFunds =>
        refine leadsTrial writes (fun d d' _ its => ⟨its.2,fun closed => ?_⟩) rfl ⟨rfl,rfl,rfl⟩ (fun _ => rfl) sound
        simpa only [Dispute.active,its.1] using closed
      | markSettledOnChain =>
        refine leadsTrial writes (fun d d' _ its => ⟨its.2,fun _ => ?_⟩) rfl ⟨rfl,rfl,rfl⟩ (fun _ => rfl) sound
        simp [Dispute.active,ACTIVE_DISPUTE_STATUSES,its.1]
      | addReleasedAmount | syncEngagement | markProcessed => exact writes.elim
      | _ => exact absurd rfl elsewhere

end Steps

section Selection

theorem leastLoadedMem {load : String → Nat} {arbiters : List User} {arbiter : User} (chosen : leastLoaded load arbiters = some arbiter) :
    arbiter ∈ arbiters := by
  have folded : ∀ (rest : List User) best,
      rest.foldl (fun best next => if load next.id < load best.id then next else best) best ∈ best :: rest := by
    intro rest
    induction rest with
    | nil => simp
    | cons next rest ih =>
      intro best
      rw [List.foldl_cons]
      rcases List.mem_cons.mp (ih (if load next.id < load best.id then next else best)) with same | later
      · rw [same]
        split <;> simp
      · exact List.mem_cons_of_mem _ (List.mem_cons_of_mem _ later)
  cases arbiters with
  | nil => cases chosen
  | cons first rest =>
    rw [← Option.some.inj chosen]
    exact folded rest first

theorem candidateCases {db : Db} {conflicted : List String} {arbiter : User} (inside : arbiter ∈ candidates db conflicted) :
    db.users.get? arbiter.id = some arbiter ∧ arbiter.id ∉ conflicted := by
  obtain ⟨stored,matched⟩ := List.mem_filter.mp ((List.mem_insertionSort standing).mp inside)
  simp only [Bool.and_eq_true,decide_eq_true_eq] at matched
  exact ⟨Table.memGet stored,matched.2⟩

theorem partyFree {engagement : Engagement} {arbiter : User}
    (ids : arbiter.id ∉ (present engagement.companyId).toList ++ (present engagement.recruiterId).toList)
    (address : isPartyAddress engagement arbiter = false) :
    DisputesService.isParty engagement { id := arbiter.id, stellarAddress := arbiter.stellarAddress } = false := by
  have named : ∀ owner : Option String, arbiter.id ∉ (present owner).toList → arbiter.id = "" ∨ some arbiter.id ≠ owner := by
    intro owner absent
    by_contra both
    obtain ⟨named,same⟩ := not_or.mp both
    refine absent ?_
    rw [← not_not.mp same]
    simp [present,Option.filter,named]
  obtain ⟨company,recruiter⟩ := not_or.mp (List.mem_append.not.mp ids)
  have company := named _ company
  have recruiter := named _ recruiter
  simp only [DisputesService.isParty,Bool.or_eq_false_iff]
  refine ⟨?_,?_⟩
  · by_cases empty : arbiter.id = ""
    · simp [empty]
    · simp [empty,company.resolve_left empty,recruiter.resolve_left empty]
  · unfold isPartyAddress at address
    split at address
    · rename_i owned
      rw [owned]
      simpa using address
    · rename_i unowned
      rw [unowned]
      rfl

theorem selectedFree {recusals users : Db} {engagement : Engagement} {exclude : List String} {arbiter : User}
    (inside : arbiter ∈ (candidates users (((recusals.recusals.findMany fun row => row.engagementId = engagement.id).map ArbiterRecusal.arbiterId ++
      (present engagement.companyId).toList ++ (present engagement.recruiterId).toList) ++ exclude)).filter
        fun arbiter => !isPartyAddress engagement arbiter) :
    ¬ Conflicted { recusals with users := users.users } engagement arbiter.id ∧ arbiter.id ∉ exclude := by
  obtain ⟨inside,address⟩ := List.mem_filter.mp inside
  obtain ⟨stored,absent⟩ := candidateCases inside
  obtain ⟨conflictless,excluded⟩ := not_or.mp (List.mem_append.not.mp absent)
  rw [List.append_assoc] at conflictless
  obtain ⟨recused,parties⟩ := not_or.mp (List.mem_append.not.mp conflictless)
  refine ⟨?_,excluded⟩
  rintro (party | ⟨row,there,its,same⟩)
  · rw [show users.users.get? arbiter.id = some arbiter from stored,Option.bind_some,
      partyFree parties (by simpa using address)] at party
    cases party
  · refine recused (List.mem_map.mpr ⟨row,?_,same⟩)
    exact List.mem_filter.mpr ⟨there,decide_eq_true its⟩

end Selection

section Walks

variable (self : Config) (roleOf : String → UserRole) {request : Request} {own : List EscrowEvent} {α : Type}

/-- The calls that need no guard. -/
def Site.plain : Site → Bool
  | .assignArbiter _ | .overrideArbiter _ | .openAppeal _ | .decideAppeal _ | .addReleasedAmount _ | .syncEngagement _
  | .markProcessed _ _ => false
  | _ => true

theorem plainReads (site : Site) (reads : site.reads = true) : Site.plain site = true := by
  cases site <;> first | rfl | cases reads

theorem plainDecides (site : Site) (decides : site.decides = true) : Site.plain site = true := by
  cases site <;> first | rfl | cases decides

variable {roleOf}

theorem guardPlain {e : EscrowEvent} (within : Within Site.plain e.site e.before e.after) : Guard roleOf request own e := by
  obtain ⟨thread,site,answer,db,db'⟩ := e
  obtain ⟨here,same | effect⟩ := within
  · exact Or.inl same
  · refine Or.inr ?_
    cases site <;> first | exact effect | cases here

theorem guardedPlain {p : Op α} (acts : Acts (Within Site.plain) p) : Guarded (Guard roleOf request) anyOutcome p own :=
  guardedAny (guardedActs (fun _ _ _ within => guardPlain within) acts)

theorem guardedReads {p : Op α} (reads : Reads Site.reads p) : Guarded (Guard roleOf request) anyOutcome p own :=
  guardedPlain (actsReads plainReads reads)

theorem guardedSelect {done : List EscrowEvent → Except Exception (Option User) → Prop} {engagement : Engagement} {exclude : List String}
    {id : String} {read : EscrowEvent} {d : Dispute} (inside : read ∈ own) (found : read.before.disputes.get? id = some d)
    (engaged : read.before.engagements.get? d.engagementId = some engagement)
    (selected : ∀ later arbiter, (∀ a, arbiter = some a → Eligible (later ++ own) id a.id ∧ a.id ∉ exclude) →
      done (later ++ own) (.ok arbiter)) (throws : ∀ own error, done own (.error error)) :
    Guarded (Guard roleOf request) done (selectArbiter engagement exclude) own := by
  refine guardedBind (guardedBind (guardedQuery fun thread i s => ⟨Or.inl rfl,?_⟩))
  split
  · rename_i recusals out
    split at out
    · contradiction
    · cases out
      refine guardedBind (guardedQuery fun thread' i' s' => ⟨Or.inl rfl,?_⟩)
      split
      · rename_i arbiters out
        split at out
        · contradiction
        · cases out
          dsimp only
          split
          · exact selected [_,_] none fun a chosen => absurd chosen (Option.some_ne_none a).symm
          · refine guardedBind (guardedQuery fun thread'' i'' s'' => ⟨Or.inl rfl,?_⟩)
            split
            · rename_i load out
              split at out
              · contradiction
              · cases out
                refine selected [_,_,_] _ fun arbiter chosen => ?_
                obtain ⟨free,excluded⟩ := selectedFree (leastLoadedMem chosen)
                refine ⟨⟨read,by simp [inside],⟨thread,.find .recusal,i,s,s⟩,by simp,⟨thread',.find .user,i',s',s'⟩,by simp,d,engagement,found,
                  engaged,free⟩,excluded⟩
            · exact throws _ _
      · exact throws _ _
  · exact throws _ _

theorem guardedAutoAssign (disputeId : String) (own : List EscrowEvent) :
    Guarded (Guard roleOf request) anyOutcome (autoAssign self disputeId) own := by
  refine guardedBind (guardedQuery fun thread i s => ⟨Or.inl rfl,?_⟩)
  split
  · rename_i found out
    split at out
    · contradiction
    · dsimp only at out
      split at out
      · cases out
        trivial
      · rename_i dispute there
        split at out
        · contradiction
        · rename_i engagement engaged
          cases out
          dsimp only
          split
          · trivial
          · refine guardedBind (guardedSelect List.mem_cons_self there engaged ?_ fun _ _ => trivial)
            intro later selected eligible
            cases selected with
            | none => trivial
            | some arbiter =>
              refine guardedBind (guardedQuery fun thread' i' s' => ⟨Or.inl rfl,?_⟩)
              refine guardedThen (guardedTransact ?_ fun thread i s error _ => ⟨Or.inl rfl,trivial⟩) fun count own => ?_
              · intro thread'' i'' s'' count after ok
                refine ⟨Or.inr ⟨arbiter.id,?_,?_⟩,trivial⟩
                · obtain ⟨⟨dispute,at₁,recusal,at₂,user,at₃,rest⟩,_⟩ := eligible arbiter rfl
                  exact ⟨dispute,List.mem_cons_of_mem _ at₁,recusal,List.mem_cons_of_mem _ at₂,user,List.mem_cons_of_mem _ at₃,rest⟩
                · split at ok
                  · contradiction
                  · cases ok
                    refine movesDisputes ?_ ?_
                    · intro d matched
                      simp only [Bool.and_eq_true,decide_eq_true_eq,Option.isNone_iff_eq_none] at matched
                      exact matched.1
                    · exact fun d => ⟨⟨rfl,rfl,rfl,rfl⟩,rfl,rfl⟩
              · split
                · exact guardedReads (readsBind readsNotify fun _ => readsFind _ _)
                · exact guardedReads (readsFind _ _)
  · trivial

theorem guardedOpenForMilestone (milestoneId : String) (reason raisedById : Option String) (own : List EscrowEvent) :
    Guarded (Guard roleOf request) anyOutcome (DisputesService.openForMilestone self milestoneId reason raisedById) own := by
  refine guardedThen (guardedReads (readsFind _ _)) fun existing own => ?_
  split
  · trivial
  · refine guardedThen (guardedReads (readsFind _ _)) fun found own => ?_
    split
    · trivial
    · refine guardedThen (guardedReads readsNow) fun at' own => guardedThen (guardedPlain ?_) fun dispute own => ?_
      · refine actsWrite rfl fun i db value db' ok => ?_
        dsimp only at ok
        split at ok
        · contradiction
        · rename_i disputes made
          cases ok
          exact ⟨_,disputes,⟨rfl,rfl,rfl,rfl,rfl⟩,made,rfl⟩
      · exact guardedThen (guardedAutoAssign self _ own) fun _ _ => trivial

theorem overrideMoves {dispute : Dispute} {arbiterId : String} {at' : Nat} {db db' : Db} {d' : Dispute}
    (updated : db.updateDispute dispute.id (overridden self dispute arbiterId at') (overriddenId self dispute arbiterId at') = .ok (d',db')) :
    MovesDisputes (fun d => d.id = dispute.id)
      (fun d d' => d'.arbiterId = some arbiterId ∧ d'.stage = if dispute.stage = .assignment then .arbiterReview else d.stage) db db' := by
  refine movesDispute (fun d => ?_) updated
  unfold overridden
  dsimp only
  split <;> exact ⟨⟨rfl,rfl,rfl,rfl⟩,rfl,rfl⟩

theorem reassignMoves {disputeId arbiterId : String} {db db' : Db} {value : Unit} (ok : reassign disputeId arbiterId db = .ok (value,db')) :
    MovesAppeals db db' := by
  obtain ⟨out,found,same⟩ := exceptBind.mp ok
  obtain ⟨_,_,rfl⟩ := Db.requiredModify found
  cases same
  exact ⟨_,fun row => { row with arbiterId := some arbiterId },fun _ => rfl,fun _ => rfl,rfl⟩

theorem guardedManualOverride (engagementId arbiterId : String) (own : List EscrowEvent) :
    Guarded (Guard roleOf (.applyManualOverride engagementId arbiterId)) anyOutcome (applyManualOverride self engagementId arbiterId) own := by
  refine guardedBind (guardedQuery fun thread i read => ⟨Or.inl rfl,?_⟩)
  split
  · rename_i disputes out
    split at out
    · contradiction
    · cases out
      refine guardedFoldKeeps (I := fun own => lastRead .dispute own = some read) ?_ 0 (lastReadSelf rfl)
      intro updated x inside own last
      obtain ⟨dispute,stored,rfl⟩ := List.mem_map.mp inside
      have found : read.disputes.get? dispute.id = some dispute := Table.memGet (List.mem_filter.mp stored).1
      dsimp only
      split
      · exact fun _ _ => last
      · rename_i goes
        refine guardedBind (guardedQuery fun thread' i' s' => ⟨Or.inl rfl,?_⟩)
        have timed : lastRead .dispute (⟨thread',.clock,i',s',s'⟩ :: own) = some read := (lastReadCons (by simp)).trans last
        refine guardedBind (guardedTransact ?_ fun thread i s error _ => ⟨Or.inl rfl,(by simp)⟩)
        intro thread'' i'' s'' value after ok
        refine ⟨Or.inr ⟨engagementId,arbiterId,read,dispute,rfl,timed,found,?_,?_⟩,?_⟩
        · intro review a there original
          refine goes ⟨review,?_⟩
          rw [there]
          simpa using original
        · split at ok
          · contradiction
          · exact overrideMoves self ok
        · have written : lastRead .dispute (⟨thread'',.overrideArbiter dispute.id,i'',s'',after⟩ :: ⟨thread',.clock,i',s',s'⟩ :: own) =
              some read := (lastReadCons (by simp)).trans timed
          dsimp only
          split
          · refine guardedBind (guardedTransact ?_ fun thread i s error _ => ⟨Or.inl rfl,(by simp)⟩)
            intro thread i s value after ok
            refine ⟨Or.inr ?_,fun _ _ => (lastReadCons (by simp)).trans written⟩
            split at ok
            · contradiction
            · exact reassignMoves ok
          · exact fun _ _ => written
  · trivial

open AppealService in
theorem appealsCreate {disputeId : String} {appeal appeal' : DisputeAppeal} {at' : Nat} {db db' : Db}
    (created : createAppeal self disputeId appeal at' db = .ok (appeal',db')) :
    ∃ d d' disputes appeals, Appeals disputeId appeal d d' db disputes appeals ∧ db' = { db with disputes := disputes, appeals := appeals } := by
  obtain ⟨d,disputes,appeals,found,matched,moved,others,made,rfl⟩ := createAppealCases created
  refine ⟨d,_,disputes,appeals,⟨found,?_,moved,others,rfl,rfl,rfl,made⟩,rfl⟩
  simp only [appealable,Bool.and_eq_true,decide_eq_true_eq] at matched
  simp [Dispute.active,ACTIVE_DISPUTE_STATUSES,matched.1.1.2]

open AppealService in
theorem guardedOpenAppeal (disputeId : String) (user : DisputeActor) (reason : String) (own : List EscrowEvent) :
    Guarded (Guard roleOf request) anyOutcome (openAppeal self disputeId user reason) own := by
  refine guardedThen (guardedReads readsNow) fun at' own => guardedBind (guardedQuery fun thread i s => ⟨Or.inl rfl,?_⟩)
  split
  · rename_i found out
    split at out
    · contradiction
    · dsimp only at out
      split at out
      · cases out
        trivial
      · rename_i dispute there
        split at out
        · contradiction
        · rename_i engagement engaged
          cases out
          dsimp only
          split
          · trivial
          · split
            · trivial
            · rename_i absent
              split
              · trivial
              · split
                · rename_i resolved _ _
                  split
                  · trivial
                  · have closed : dispute.active = false := by simp [Dispute.active,ACTIVE_DISPUTE_STATUSES,resolved]
                    have unappealed : s.appeals.get? disputeId = none := by simpa using absent
                    refine guardedBind (guardedSelect List.mem_cons_self there engaged ?_ fun _ _ => trivial)
                    intro later arbiter eligible
                    refine guardedBind (guardedHandle (guardedTransact ?_ fun thread i s error _ => ⟨Or.inl rfl,?_⟩))
                    · intro thread' i' s' appeal after ok
                      refine ⟨Or.inr ?_,guardedReads ?_⟩
                      · split at ok
                        · contradiction
                        · obtain ⟨d,d',disputes,appeals,opens,rest⟩ := appealsCreate self ok
                          refine ⟨⟨thread,.find .dispute,i,s,s⟩,by simp,dispute,d,d',_,disputes,appeals,⟨there,closed,unappealed⟩,⟨rfl,rfl,?_⟩,opens,rest⟩
                          intro userId its
                          obtain ⟨a,same,rfl⟩ := Option.map_eq_some_iff.mp its
                          obtain ⟨free,excluded⟩ := eligible a same
                          exact ⟨free,fun same => excluded (by simp [same])⟩
                      · exact readsBind (readsAnnounceAppeal _ _ _) fun _ => trivial
                    · dsimp only
                      split <;> trivial
                · trivial
  · trivial

open AppealService in
theorem guardedDecideAppeal {disputeId : String} {user : DisputeActor} {outcome : DisputeOutcome}
    (asks : ∀ userId, officer roleOf request = some userId → userId = user.id ∧ user.role ≠ .admin) (own : List EscrowEvent) :
    Guarded (Guard roleOf request) anyOutcome (decideAppeal self disputeId user outcome) own := by
  refine guardedBind (guardedQuery fun thread i s => ⟨Or.inl rfl,?_⟩)
  split
  · rename_i found out
    split at out
    · contradiction
    · cases out
      dsimp only
      split
      · trivial
      · rename_i dispute appeal there
        obtain ⟨_,stored,same⟩ := Option.map_eq_some_iff.mp there
        cases same
        split
        · trivial
        · rename_i reviewable
          split
          · trivial
          · rename_i allowed
            refine guardedBind (guardedQuery fun thread' i' s' => ⟨Or.inl rfl,?_⟩)
            refine guardedThen (guardedTransact ?_ fun thread i s error _ => ⟨Or.inl rfl,trivial⟩) fun _ own => ?_
            · intro thread'' i'' s'' value after ok
              refine ⟨Or.inr ⟨?_,?_⟩,trivial⟩
              · split at ok
                · contradiction
                · exact decideAppealMoves ok
              · intro userId its
                obtain ⟨rfl,plain⟩ := asks userId its
                simp only [ne_eq,not_or,not_not] at reviewable
                obtain ⟨stage,opened⟩ := reviewable
                refine ⟨⟨thread,.find .dispute,i,s,s⟩,by simp,dispute,stored,stage,?_,?_⟩
                · cases here : s.appeals.get? disputeId with
                  | none => simp [here] at opened
                  | some a => rfl
                · by_contra differs
                  exact allowed ⟨plain,differs⟩
            · refine guardedPlain (actsBind (actsReads plainReads (readsNotifyParties _ _)) fun _ => ?_)
              exact actsSettle self (fun site here => plainDecides site (decidesSettles site here)) _
  · trivial

end Walks

section Runs

variable (self : Config) (roleOf : String → UserRole)

def actor (userId : String) (stellarAddress : Option String) : DisputeActor := ⟨userId,roleOf userId,stellarAddress⟩

def handler : Request → Op Unit
  | .openForMilestone milestoneId reason raisedById => do
      let _ ← DisputesService.openForMilestone self milestoneId reason raisedById
  | .autoAssign disputeId => do
      let _ ← autoAssign self disputeId
  | .applyManualOverride engagementId arbiterId => do
      let _ ← applyManualOverride self engagementId arbiterId
  | .decide id outcome userId stellarAddress => do
      let _ ← DisputesController.decide self id outcome (actor roleOf userId stellarAddress)
  | .resolveDisputeFlow engagementId milestoneIndex resolution userId stellarAddress => do
      let _ ← MilestonesService.resolveDisputeFlow self engagementId milestoneIndex resolution
        (userId.map fun userId => actor roleOf userId stellarAddress)
  | .openAppeal disputeId userId stellarAddress reason => do
      let _ ← AppealService.openAppeal self disputeId (actor roleOf userId stellarAddress) reason

def service : System Request Nat Site Answer Db Exception Unit where
  handler := handler self roleOf
  environment elapsed db := { db with clock := db.clock + elapsed }

abbrev AppealMove := Move Request Nat Answer

theorem guardedHandler (request : Request) : Guarded (Guard roleOf request) anyOutcome (handler self roleOf request) [] := by
  cases request with
  | openForMilestone => exact guardedThen (guardedOpenForMilestone self _ _ _ _) fun _ _ => trivial
  | autoAssign => exact guardedThen (guardedAutoAssign self _ _) fun _ _ => trivial
  | applyManualOverride => exact guardedThen (guardedManualOverride self _ _ _) fun _ _ => trivial
  | openAppeal => exact guardedThen (guardedOpenAppeal self _ _ _ _) fun _ _ => trivial
  | resolveDisputeFlow => exact guardedThen (guardedPlain (actsResolveDisputeFlow self plainDecides _ _ _ _)) fun _ _ => trivial
  | decide id outcome userId stellarAddress =>
    refine guardedThen (guardedThen (guardedReads (readsFind _ _)) fun found own => ?_) fun _ _ => trivial
    split
    · trivial
    · split
      · refine guardedDecideAppeal self ?_ own
        intro userId' its
        obtain ⟨same,plain⟩ := Option.filter_eq_some_iff.mp its
        cases same
        exact ⟨rfl,of_decide_eq_true plain⟩
      · exact guardedPlain (actsDecide self plainDecides _ _ _)

variable {self roleOf} {request : Request} {c : EscrowSnapshot}

theorem keptRecord {thread : Nat} {site : Site} {i : Answer} {db' : Db} (kept : Kept c)
    (guard : Guard roleOf request (c.history.filter fun e => e.thread = thread) (c.event thread site i db'))
    (proper : Proper roleOf request c.history (c.event thread site i db')) : Kept (c.record thread site i db') := by
  obtain ⟨leads,sound⟩ := leadsStep kept guard proper
  refine ⟨sound,?_,?_⟩
  · intro e inside
    rcases List.mem_cons.mp inside with rfl | earlier
    · exact ⟨kept.sound,leads⟩
    · exact ⟨(kept.before e earlier).1,leadsTrans (kept.before e earlier).2 leads⟩
  · intro e inside
    rcases List.mem_cons.mp inside with rfl | earlier
    · exact leadsRefl db'
    · exact leadsTrans (kept.after e earlier) leads

theorem keptElapsed (kept : Kept c) (elapsed : Nat) : Kept { c with world := { c.world with clock := c.world.clock + elapsed } } := by
  have aside : Leads c.world { c.world with clock := c.world.clock + elapsed } ∧ Sound { c.world with clock := c.world.clock + elapsed } :=
    leadsAside rfl ⟨rfl,rfl,rfl⟩ (fun _ => rfl) kept.sound
  exact ⟨aside.2,fun e inside => ⟨(kept.before e inside).1,leadsTrans (kept.before e inside).2 aside.1⟩,
    fun e inside => leadsTrans (kept.after e inside) aside.1⟩

theorem changedRow {id : String} {p : Dispute → Prop} {P : Dispute → Dispute → Prop} {db db' : Db}
    (moves : MovesDisputes (fun d => d.id = id ∧ p d) P db db') (changed : db'.disputes.rows ≠ db.disputes.rows) :
    ∃ d d', db.disputes.get? id = some d ∧ db'.disputes.get? id = some d' ∧ P d d' ∧ db'.appeals = db.appeals := by
  obtain ⟨q,f,keeps,met,same,rfl⟩ := moves
  obtain ⟨d,stored,matched⟩ : ∃ d ∈ db.disputes.rows, q d = true := by
    by_contra nowhere
    refine changed ((List.map_congr_left fun d stored => ?_).trans (List.map_id _))
    exact if_neg fun matched => nowhere ⟨d,stored,matched⟩
  have found : db.disputes.get? id = some d := (met d matched).1 ▸ Table.memGet stored
  refine ⟨d,f d,found,?_,(same d).2,rfl⟩
  show (db.disputes.updateMany q f keeps).get? id = some (f d)
  rw [Table.getUpdateMany _ q f keeps,found,Option.map_some,if_pos matched]

theorem keptRun {db : Db} (self : Config) (empty : db.disputes.rows = []) (moves : List AppealMove)
    (proper : Meets (Proper roleOf) ((service self roleOf).run (Pool.initial db) moves)) :
    GuardedPool (Guard roleOf) Kept ((service self roleOf).run (Pool.initial db) moves) := by
  have start : Kept ⟨db,[]⟩ := by
    refine ⟨fun id d found => ?_,fun _ inside => absurd inside List.not_mem_nil,fun _ inside => absurd inside List.not_mem_nil⟩
    have stored := Table.getMem found
    rw [empty] at stored
    exact absurd stored List.not_mem_nil
  have first : GuardedPool (Guard roleOf) Kept (Pool.initial db : Pool Request Site Answer Db Exception Unit) := guardedInitial start
  refine guardedRun ?_ ?_ (guardedHandler self roleOf) first moves proper
  · exact fun request c thread site i db' kept guard its => keptRecord kept guard its
  · exact fun elapsed c kept => keptElapsed kept elapsed

variable {pool : Pool Request Site Answer Db Exception Unit} {e : EscrowEvent} {t : Thread Request Site Answer Db Exception Unit} {id : String}

/-- The call that decides a dispute finds it with the arbiter who decides. -/
theorem firstDecision (guarded : GuardedPool (Guard roleOf) Kept pool) (proper : Meets (Proper roleOf) pool) (inside : e ∈ pool.history)
    (there : pool.threads[e.thread]? = some t) (decided : decidedFirst e = some id) :
    ∃ d d', e.before.disputes.get? id = some d ∧ e.after.disputes.get? id = some d' ∧ d'.active = false ∧ d'.arbiterId = d.arbiterId ∧
      e.after.appeals = e.before.appeals ∧
      ∀ userId, officer roleOf t.request = some userId → present d.arbiterId = some userId ∧ d.stage ≠ .appealReview := by
  obtain ⟨own,_,guard⟩ := meetsAt guarded.seen inside
  obtain ⟨earlier,_,its⟩ := meetsAt proper inside
  have guard := guard t there
  have its := its t there
  obtain ⟨thread,site,answer,db,db'⟩ := e
  cases site <;> simp only [decidedFirst,reduceCtorEq] at decided
  split at decided
  · cases decided
  · rename_i changed
    cases decided
    obtain same | moves := guard
    · exact absurd (congrArg (fun db : Db => db.disputes.rows) same) changed
    · obtain ⟨d,d',found,found',⟨status,_,hearing⟩,appeals⟩ := changedRow moves changed
      refine ⟨d,d',found,found',?_,hearing.arbiterId,appeals,fun userId acts => its changed userId acts d found⟩
      simp [Dispute.active,ACTIVE_DISPUTE_STATUSES,status]

/-- The arbiter who decides an appeal was found as the one assigned to it. -/
theorem appealDecision (guarded : GuardedPool (Guard roleOf) Kept pool) (inside : e ∈ pool.history)
    (there : pool.threads[e.thread]? = some t) (decided : decidedAppeal e = some id) {userId : String}
    (acts : officer roleOf t.request = some userId) :
    ∃ read ∈ pool.history, ∃ d a, read.before.disputes.get? id = some d ∧ read.before.appeals.get? id = some a ∧
      d.stage = .appealReview ∧ d.arbiterId = some userId := by
  obtain ⟨earlier,suffix,guard⟩ := meetsAt guarded.seen inside
  have guard := guard t there
  obtain ⟨thread,site,answer,db,db'⟩ := e
  cases site <;> simp only [decidedAppeal,reduceCtorEq] at decided
  split at decided
  · cases decided
  · rename_i changed
    cases decided
    obtain same | ⟨_,asked⟩ := guard
    · exact absurd (congrArg (fun db : Db => db.appeals.rows) same) changed
    · obtain ⟨read,at',d,found,stage,appealed,arbiter⟩ := asked userId acts
      obtain ⟨a,there'⟩ := Option.isSome_iff_exists.mp appealed
      exact ⟨read,suffix.subset (List.mem_cons_of_mem _ (List.mem_filter.mp at').1),d,a,found,there',stage,arbiter⟩

theorem decidersDiffer (guarded : GuardedPool (Guard roleOf) Kept pool) (proper : Meets (Proper roleOf) pool) {e' : EscrowEvent}
    {t' : Thread Request Site Answer Db Exception Unit} (inside : e ∈ pool.history) (inside' : e' ∈ pool.history)
    (there : pool.threads[e.thread]? = some t) (there' : pool.threads[e'.thread]? = some t') (decided : decidedFirst e = some id)
    (decided' : decidedAppeal e' = some id) {userId : String} (acts : officer roleOf t'.request = some userId) :
    t.request.user ≠ some userId := by
  intro same
  have plain : decide (roleOf userId ≠ .admin) = true := (Option.filter_eq_some_iff.mp acts).2
  obtain ⟨d,d₁,found,found₁,closed,kept,appeals,assigned⟩ := firstDecision guarded proper inside there decided
  obtain ⟨arbiter,stage⟩ := assigned userId (Option.filter_eq_some_iff.mpr ⟨same,plain⟩)
  obtain ⟨read,earlier,d₂,a,found₂,appealed,review,arbiter₂⟩ := appealDecision guarded inside' there' decided' acts
  obtain ⟨sound,leads₂⟩ := guarded.holds.before read earlier
  obtain ⟨last,there₂,follows₂⟩ := leads₂.disputes id d₂ found₂
  have reviewed : last.stage = .appealReview := (follows₂.reviewed (by simp [appealed]) review (by simp [arbiter₂])).1
  obtain ⟨a',lastAppeal,original⟩ := leads₂.appeals id a appealed
  cases before : e.before.appeals.get? id with
  | some a₀ =>
    obtain ⟨_,now,follows⟩ := (guarded.holds.before e inside).2.disputes id d found
    cases there₂.symm.trans now
    exact follows.unreviewed (by simp [before]) stage reviewed
  | none =>
    obtain ⟨_,now,follows⟩ := (guarded.holds.after e inside).disputes id d₁ found₁
    cases there₂.symm.trans now
    have against := follows.appealed closed (appeals ▸ before) a' lastAppeal
    refine (sound id d₂ found₂).other review userId arbiter₂ a appealed ?_
    rw [← original,against,kept]
    exact arbiter

/-- In a run where each decision of the first tier is made by the assigned arbiter and each
override finds the dispute as it was read and appoints somebody not conflicted, the appeals
are independent. -/
theorem appealsIndependent (self : Config) (roleOf : String → UserRole) (db : Db) (empty : db.disputes.rows = []) (moves : List AppealMove)
    (proper : Meets (Proper roleOf) ((service self roleOf).run (Pool.initial db) moves)) :
    Independent roleOf ((service self roleOf).run (Pool.initial db) moves) := by
  have guarded := keptRun self empty moves proper
  refine ⟨?_,?_⟩
  · intro e inside e' inside' t there t' there' id decided decided' userId acts
    exact decidersDiffer guarded proper inside inside' there there' decided decided' acts
  · intro e inside t there id decided userId acts d found engagement engaged
    rcases Option.or_eq_some_iff.mp decided with first | ⟨_,second⟩
    · obtain ⟨_,_,found',_,_,_,_,assigned⟩ := firstDecision guarded proper inside there first
      cases found.symm.trans found'
      have arbiter := (Option.filter_eq_some_iff.mp (assigned userId acts).1).1
      exact ((guarded.holds.before e inside).1 id d found).eligible userId arbiter engagement engaged
    · obtain ⟨read,earlier,d₂,_,found₂,_,_,arbiter⟩ := appealDecision guarded inside there second acts
      obtain ⟨sound,leads₂⟩ := guarded.holds.before read earlier
      obtain ⟨_,leads⟩ := guarded.holds.before e inside
      obtain ⟨_,last₂,follows₂⟩ := leads₂.disputes id d₂ found₂
      obtain ⟨_,last,follows⟩ := leads.disputes id d found
      cases last₂.symm.trans last
      rw [← rosterConflicted leads.roster,rosterConflicted leads₂.roster]
      refine (sound id d₂ found₂).eligible userId arbiter engagement ?_
      rw [← follows₂.engagementId,follows.engagementId,← leads₂.roster.engagements,leads.roster.engagements]
      exact engaged

def court : Db where
  users := ⟨[{ id := "a", role := .arbiter },{ id := "b", role := .arbiter }],by decide⟩
  engagements := .single { id := "e", companyId := some "c", companyAddress := "GC", recruiterAddress := "GR", arbiterAddress := "GA"
                           totalAmount := 1000 }
  milestones := .single { id := "m", engagementId := "e", milestoneIndex := 0, name := "placed", kind := .placement
                          paymentPercent := 100, amount := some 1000, status := .disputed }

def roles (userId : String) : UserRole := if userId = "c" then .company else .arbiter

def hearing : List AppealMove :=
  [.start (.openForMilestone "m" none none)] ++ answered 0 [{},{},{},{ text := "d" },{},{},{},{},{},{},{},{},{},{}] ++
  [.start (.decide "d" .release "a" none)] ++ answered 1 (.replicate 6 {}) ++
  [.start (.openAppeal "d" "c" none "unheard")] ++ answered 2 (.replicate 8 {}) ++
  [.start (.decide "d" .refund "b" none)] ++ answered 3 (.replicate 16 {})

theorem appealsIndependentHearing :
    Independent roles ((service {} roles).run (Pool.initial court) hearing) ∧
    ((service {} roles).run (Pool.initial court) hearing).world.appeals.rows.map DisputeAppeal.status = [.decided] :=
  ⟨appealsIndependent {} roles court rfl hearing (by decide +kernel),by decide +kernel⟩

/-- The assignment throws, and who has decided the dispute is selected for its appeal. -/
def unassigned : List AppealMove :=
  [.start (.openForMilestone "m" none none)] ++ answered 0 [{},{},{},{ text := "d" },{ fails := true }] ++
  [.start (.decide "d" .release "a" none)] ++ answered 1 (.replicate 6 {}) ++
  [.start (.openAppeal "d" "c" none "unheard")] ++ answered 2 (.replicate 8 {}) ++
  [.start (.decide "d" .release "a" none)] ++ answered 3 (.replicate 6 {})

def recused : Db := { court with recusals := .single { engagementId := "e", arbiterId := "b" } }

def appointed : List AppealMove :=
  [.start (.openForMilestone "m" none none)] ++ answered 0 [{},{},{},{ text := "d" },{},{},{},{},{},{},{},{},{},{}] ++
  [.start (.applyManualOverride "e" "b")] ++ answered 1 (.replicate 3 {}) ++
  [.start (.decide "d" .release "b" none)] ++ answered 2 (.replicate 6 {})

theorem sameArbiterHears :
    ¬ Independent roles ((service {} roles).run (Pool.initial court) unassigned) ∧
    ¬ Independent roles ((service {} roles).run (Pool.initial recused) appointed) := by
  decide +kernel

end Runs

end HireSettle.Escrow.AppealIndependence
