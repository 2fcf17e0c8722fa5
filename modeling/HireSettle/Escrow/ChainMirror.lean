import HireSettle.Escrow.KeptTerms
import HireSettle.Escrow.Engagements
import HireSettle.Workflow.Facts

/-! The milestones of an engagement and the list its contract was created with. The
list is fixed by the submission; the rows may be changed by others before and
after it. A caller that found an engagement or milestone may rely on it, since
no row is deleted or moved to another engagement. -/
namespace HireSettle.Escrow.ChainMirror
open Workflow

abbrev Terms := String × MilestoneKind × Int

def terms (m : Milestone) : Terms := (m.name,m.kind,m.paymentPercent)

def chainTerms (m : ChainMilestone) : Terms := (m.name,m.kind,m.paymentPercent)

def listed (db : Db) (engagementId : String) : List Terms := (db.milestonesOf engagementId).map terms

def Submitted (history : List EscrowEvent) (engagementId : String) (milestones : List ChainMilestone) : Prop :=
  ∃ e ∈ history, e.site = .submitCreateEngagement engagementId milestones ∧ e.answer.fails = false

def Mirrors (c : EscrowSnapshot) (engagementId : String) : Prop :=
  ∀ milestones, Submitted c.history engagementId milestones → milestones.map chainTerms = listed c.world engagementId

/-- The contract is created with the current rows, and afterwards they are neither
added to nor adjusted. -/
structure Steady (earlier : List EscrowEvent) (e : EscrowEvent) : Prop where
  current : ∀ engagementId milestones, e.site = .submitCreateEngagement engagementId milestones → e.answer.fails = false →
    milestones.map chainTerms = listed e.before engagementId
  fixed : ∀ engagementId, e.site = .bulkCreate engagementId ∨ e.site = .adjustPercents engagementId → e.answer.fails = false →
    ∀ milestones, ¬ Submitted earlier engagementId milestones

def submission (engagementId : String) (e : EscrowEvent) : Bool :=
  !e.answer.fails && match e.site with
    | .submitCreateEngagement id _ => id = engagementId
    | _ => false

def steady (earlier : List EscrowEvent) (e : EscrowEvent) : Bool :=
  e.answer.fails || match e.site with
    | .submitCreateEngagement engagementId milestones => milestones.map chainTerms = listed e.before engagementId
    | .bulkCreate engagementId | .adjustPercents engagementId => !earlier.any (submission engagementId)
    | _ => true

theorem steadyMeets {earlier : List EscrowEvent} {e : EscrowEvent} (holds : steady earlier e = true) : Steady earlier e := by
  refine ⟨fun engagementId milestones site answered => ?_,fun engagementId site answered milestones => ?_⟩
  · simpa [steady,site,answered] using holds
  · rintro ⟨d,inside,same,fine⟩
    have none : earlier.any (submission engagementId) = false := by
      rcases site with site | site <;> simpa [steady,site,answered] using holds
    have missed := List.any_eq_false.mp none d inside
    simp [submission,same,fine] at missed

inductive Fact where
  | created (engagementId : String)
  | submitted (engagementId : String)
  | member (milestoneId engagementId : String)

def Created (db : Db) (engagementId : String) : Prop := ∃ row, db.engagements.get? engagementId = some row

def Member (db : Db) (milestoneId engagementId : String) : Prop :=
  ∃ m, db.milestones.get? milestoneId = some m ∧ m.engagementId = engagementId

def Holds (c : EscrowSnapshot) : Fact → Prop
  | .created engagementId => Created c.world engagementId
  | .submitted engagementId => ∃ milestones, Submitted c.history engagementId milestones
  | .member milestoneId engagementId => Member c.world milestoneId engagementId

structure Base (c : EscrowSnapshot) : Prop where
  mirrors : ∀ engagementId, Mirrors c engagementId
  created : ∀ engagementId milestones, Submitted c.history engagementId milestones → Created c.world engagementId
  active : ∀ engagementId row, c.world.engagements.get? engagementId = some row → row.status = .active →
    ∃ milestones, Submitted c.history engagementId milestones

def mirror : Knowledge Site Answer Db Unit Fact where
  base c _ := Base c
  holds := Holds
  admits := Steady

section Rows

variable {db db' db'' : Db} {own : String}

structure SameEntry (m m' : Milestone) : Prop where
  engagementId : m'.engagementId = m.engagementId
  milestoneIndex : m'.milestoneIndex = m.milestoneIndex
  terms : terms m' = terms m

/-- The list of every other engagement is the same, and no row leaves its engagement. -/
structure KeepsOthers (own : String → Prop) (db db' : Db) : Prop where
  listed : ∀ engagementId, ¬ own engagementId → listed db' engagementId = listed db engagementId
  members : ∀ milestoneId engagementId, Member db milestoneId engagementId → Member db' milestoneId engagementId

abbrev KeepsLists : Db → Db → Prop := KeepsOthers fun _ => False

theorem keepsSame {own : String → Prop} (same : db'.milestones = db.milestones) : KeepsOthers own db db' := by
  refine ⟨fun engagementId _ => ?_,fun milestoneId engagementId member => ?_⟩
  · simp only [ChainMirror.listed,Db.milestonesOf,same]
  · simpa only [Member,same] using member

theorem keepsTrans {own : String → Prop} (first : KeepsOthers own db db') (second : KeepsOthers own db' db'') :
    KeepsOthers own db db'' :=
  ⟨fun engagementId other => (second.listed engagementId other).trans (first.listed engagementId other),
    fun milestoneId engagementId member => second.members _ _ (first.members milestoneId engagementId member)⟩

theorem keepsWeak {own own' : String → Prop} (weaker : ∀ id, own id → own' id) (keeps : KeepsOthers own db db') :
    KeepsOthers own' db db' :=
  ⟨fun engagementId other => keeps.listed engagementId fun mine => other (weaker _ mine),keeps.members⟩

theorem listedMap {f : Milestone → Milestone} (same : ∀ m, SameEntry m (f m))
    (rows : db'.milestones.rows = db.milestones.rows.map f) (engagementId : String) :
    listed db' engagementId = listed db engagementId := by
  have found : db'.milestones.findMany (fun row => row.engagementId = engagementId) =
      (db.milestones.findMany fun row => row.engagementId = engagementId).map f := by
    simp only [Table.findMany,rows,List.filter_map,Function.comp_def,(same _).engagementId]
  have sorted := List.map_insertionSort byIndex byIndex f (db.milestones.findMany fun row => row.engagementId = engagementId)
    fun a _ b _ => by simp only [byIndex,(same _).milestoneIndex]
  simp only [ChainMirror.listed,Db.milestonesOf,found]
  rw [← sorted,List.map_map]
  exact List.map_congr_left fun m _ => (same m).terms

theorem memberUpdated {id : String} {f : Milestone → Milestone} {keeps : ∀ m, (f m).id = m.id} {m' : Milestone}
    (same : ∀ m, (f m).engagementId = m.engagementId) (updated : db.updateMilestone id f keeps = .ok (m',db'))
    {milestoneId engagementId : String} (member : Member db milestoneId engagementId) : Member db' milestoneId engagementId := by
  obtain ⟨m,there,_,there',elsewhere,_⟩ := Db.updateMilestoneCases updated
  obtain ⟨row,found,mine⟩ := member
  by_cases here : milestoneId = id
  · subst here
    cases Option.some.inj (found.symm.trans there)
    exact ⟨f m,there',(same m).trans mine⟩
  · exact ⟨row,(elsewhere milestoneId here).trans found,mine⟩

theorem keepsEntry {id : String} {f : Milestone → Milestone} {keeps : ∀ m, (f m).id = m.id} {m' : Milestone}
    (same : ∀ m, SameEntry m (f m)) (updated : db.updateMilestone id f keeps = .ok (m',db')) : KeepsLists db db' := by
  refine ⟨fun engagementId _ => ?_,fun _ _ => memberUpdated (fun m => (same m).engagementId) updated⟩
  obtain ⟨_,_,_,_,_,rfl⟩ := Db.updateMilestoneCases updated
  refine listedMap (f := fun m => if Keyed.key m = id then f m else m) (fun m => ?_) (by simp [Table.update,Table.updateMany]) engagementId
  split
  · exact same m
  · exact ⟨rfl,rfl,rfl⟩

theorem keepsAdjusted {id : String} {f : Milestone → Milestone} {keeps : ∀ m, (f m).id = m.id} {m' : Milestone}
    (same : ∀ m, (f m).engagementId = m.engagementId) (member : Member db id own)
    (updated : db.updateMilestone id f keeps = .ok (m',db')) : KeepsOthers (· = own) db db' := by
  refine ⟨fun engagementId other => ?_,fun _ _ => memberUpdated same updated⟩
  obtain ⟨_,_,_,_,_,rfl⟩ := Db.updateMilestoneCases updated
  obtain ⟨m,found,mine⟩ := member
  have apart : ∀ r ∈ db.milestones.rows, (decide (Keyed.key r = id)) = true → decide (r.engagementId = engagementId) = false := by
    intro r inside matched
    have here : db.milestones.get? id = some r := of_decide_eq_true matched ▸ Table.memGet inside
    cases Option.some.inj (found.symm.trans here)
    exact decide_eq_false fun also => other (also.symm.trans mine)
  simp only [ChainMirror.listed,Db.milestonesOf,Table.update]
  rw [Table.findManyUpdateOther db.milestones keeps (fun r => by simp only [same]) apart]

theorem keepsCreated {m : Milestone} (created : db.createMilestone m = .ok db') : KeepsOthers (· = m.engagementId) db db' := by
  unfold Db.createMilestone at created
  split at created
  · contradiction
  · split at created
    · contradiction
    · rename_i milestones made
      cases created
      obtain ⟨free,rows,get⟩ := Table.createGet made
      refine ⟨fun engagementId other => ?_,?_⟩
      · have apart : ¬ m.engagementId = engagementId := fun mine => other mine.symm
        simp only [ChainMirror.listed,Db.milestonesOf,Table.findMany,rows,List.filter_append,List.filter_cons,apart,decide_false]
        simp
      · rintro milestoneId engagementId ⟨row,found,mine⟩
        refine ⟨row,?_,mine⟩
        simp only [get]
        split
        · rename_i taken
          rw [taken,free] at found
          cases found
        · exact found

theorem createdSame {m : Milestone} (created : db.createMilestone m = .ok db') : db'.engagements = db.engagements := by
  unfold Db.createMilestone at created
  split at created
  · contradiction
  · split at created
    · contradiction
    · cases created
      rfl

theorem keepsCreatedAll {milestones : List Milestone} (mine : ∀ m ∈ milestones, m.engagementId = own)
    (added : milestones.foldlM Db.createMilestone db = .ok db') : KeepsOthers (· = own) db db' := by
  induction milestones generalizing db with
  | nil => cases added; exact keepsSame rfl
  | cons m milestones ih =>
    obtain ⟨mid,first,rest⟩ := exceptBind.mp added
    have here := keepsCreated first
    rw [mine m List.mem_cons_self] at here
    exact keepsTrans here (ih (fun m inside => mine m (List.mem_cons_of_mem _ inside)) rest)

theorem createdEngagements {milestones : List Milestone} (added : milestones.foldlM Db.createMilestone db = .ok db') :
    db'.engagements = db.engagements := by
  induction milestones generalizing db with
  | nil => cases added; rfl
  | cons m milestones ih =>
    obtain ⟨mid,first,rest⟩ := exceptBind.mp added
    exact (ih rest).trans (createdSame first)

end Rows

def quietSite : Site → Bool
  | .submitCreateEngagement _ _ => false
  | _ => true

section Base

variable {α : Type} {c : EscrowSnapshot} {db' : Db} {thread : Nat} {site : Site} {i : Answer} {known : Multiset Fact}
variable {own : String → Prop}

theorem submittedLater {engagementId : String} {milestones : List ChainMilestone}
    (submitted : Submitted c.history engagementId milestones) :
    Submitted (c.record thread site i db').history engagementId milestones := by
  obtain ⟨e,inside,here⟩ := submitted
  exact ⟨e,List.mem_cons_of_mem _ inside,here⟩

theorem submittedBefore {engagementId : String} {milestones : List ChainMilestone}
    (other : quietSite site = true ∨ i.fails = true)
    (submitted : Submitted (c.record thread site i db').history engagementId milestones) :
    Submitted c.history engagementId milestones := by
  obtain ⟨e,inside,here,answered⟩ := submitted
  rcases List.mem_cons.mp inside with rfl | earlier
  · rcases other with quiet | fails
    · have at' : site = .submitCreateEngagement engagementId milestones := here
      rw [at'] at quiet
      cases quiet
    · cases fails.symm.trans answered
  · exact ⟨e,earlier,here,answered⟩

/-- What a call other than a submission does to the rows. -/
structure Follows (c : EscrowSnapshot) (own : String → Prop) (db' : Db) : Prop where
  keeps : KeepsOthers own c.world db'
  free : ∀ engagementId milestones, own engagementId → ¬ Submitted c.history engagementId milestones
  created : ∀ engagementId, Created c.world engagementId → Created db' engagementId
  active : ∀ engagementId row', db'.engagements.get? engagementId = some row' → row'.status = .active →
    (∃ row, c.world.engagements.get? engagementId = some row ∧ row.status = .active) ∨
      ∃ milestones, Submitted c.history engagementId milestones

def Keeps (c c' : EscrowSnapshot) : Prop := mirror.base c' () ∧ mirror.Remembers c c'

theorem keepsFollowing (base : Base c) (other : quietSite site = true ∨ i.fails = true) (follows : Follows c own db') :
    Keeps c (c.record thread site i db') := by
  refine ⟨⟨fun engagementId milestones submitted => ?_,fun engagementId milestones submitted => ?_,
    fun engagementId row found active => ?_⟩,fun fact true => ?_⟩
  · have before := submittedBefore other submitted
    have others : ¬ own engagementId := fun mine => follows.free engagementId milestones mine before
    exact (base.mirrors engagementId milestones before).trans (follows.keeps.listed engagementId others).symm
  · exact follows.created engagementId (base.created engagementId milestones (submittedBefore other submitted))
  · rcases follows.active engagementId row found active with ⟨row,found,active⟩ | ⟨milestones,submitted⟩
    · obtain ⟨milestones,submitted⟩ := base.active engagementId row found active
      exact ⟨milestones,submittedLater submitted⟩
    · exact ⟨milestones,submittedLater submitted⟩
  · cases fact with
    | created engagementId => exact follows.created engagementId true
    | submitted engagementId =>
      obtain ⟨milestones,submitted⟩ := true
      exact ⟨milestones,submittedLater submitted⟩
    | member milestoneId engagementId => exact follows.keeps.members milestoneId engagementId true

theorem followsRows (keeps : KeepsOthers own c.world db') (same : db'.engagements = c.world.engagements)
    (free : ∀ engagementId milestones, own engagementId → ¬ Submitted c.history engagementId milestones) : Follows c own db' where
  keeps := keeps
  free := free
  created := by
    intro engagementId created
    simpa only [Created,same] using created
  active := by
    intro engagementId row found active
    exact Or.inl ⟨row,same ▸ found,active⟩

theorem followsNothing : Follows c (fun _ => False) c.world := followsRows (keepsSame rfl) rfl fun _ _ none => none.elim

structure SameLists (db db' : Db) : Prop where
  keeps : KeepsLists db db'
  engagements : db'.engagements = db.engagements

theorem sparesLists : mirror.contract.Spares quietSite SameLists := by
  rintro site db' quiet c ⟨_,known⟩ thread i same ⟨base,facts⟩
  have kept : Keeps c (c.record thread site i db') :=
    keepsFollowing base (Or.inl quiet) (followsRows same.keeps same.engagements fun _ _ none => none.elim)
  exact ⟨kept.1,fun fact inside => kept.2 fact (facts fact inside)⟩

theorem sameTerms {db db' : Db} (kept : KeepsTerms db db') : SameLists db db' := by
  obtain ⟨f,same,rows⟩ := kept.milestones
  obtain ⟨f',same',get,_⟩ := keptGet kept
  refine ⟨⟨fun engagementId _ => listedMap (fun m => ?_) rows engagementId,?_⟩,kept.engagements⟩
  · exact ⟨(same m).engagementId,(same m).milestoneIndex,by simp only [terms,(same m).name,(same m).kind,(same m).paymentPercent]⟩
  · rintro milestoneId engagementId ⟨m,found,mine⟩
    exact ⟨f' m,by rw [get,found]; rfl,(same' m).engagementId.trans mine⟩

theorem stepsRoutine {p : Op α} (routine : Routine p) : Steps quietSite SameLists p :=
  stepsMono (by intro site here; cases site <;> first | rfl | cases here) (fun _ _ => sameTerms) routine

theorem harmlessRoutine {α : Type} {p : Op α} (routine : Routine p) : Harmless mirror.contract p :=
  harmlessSteps sparesLists (stepsRoutine routine)

theorem safeWrite {f : Answer → Db → Except Exception (α × Db)} {done : Except Exception α → Unit × Multiset Fact → Prop}
    (quiet : quietSite site = true) (fin : ∀ out, done out ((),known))
    (commits : ∀ c thread i value db', Base c → (∀ fact ∈ known, Holds c fact) → i.fails = false →
      f i c.world = .ok (value,db') → Steady c.history (c.event thread site i db') → ∃ own, Follows c own db') :
    Safe mirror.contract done (write site f) ((),known) := by
  refine Knowledge.safeTransact ?_ ?_
  · intro c frame thread i value db' base facts ok steady
    split at ok
    · contradiction
    · rename_i answered
      obtain ⟨own,follows⟩ := commits c thread i value db' base facts (by simpa using answered) ok steady
      obtain ⟨base',remembers⟩ : Keeps c (c.record thread site i db') := keepsFollowing base (Or.inl quiet) follows
      exact ⟨(),base',remembers,Knowledge.learnsNothing (fin _)⟩
  · intro c frame thread i error base facts _ _
    obtain ⟨base',remembers⟩ : Keeps c (c.record thread site i c.world) := keepsFollowing base (Or.inl quiet) followsNothing
    exact ⟨(),base',remembers,Knowledge.learnsNothing (fin _)⟩

end Base

section Methods

open EngagementsService MilestonesService

variable (self : Config) {known : Multiset Fact}

theorem stepsPayOut (milestone : Milestone) (engagementId : String) (milestoneIndex : Nat) (reviewedById : Option String) :
    Steps quietSite SameLists (payOut self milestone engagementId milestoneIndex reviewedById) := by
  have stays : ∀ db, SameLists db db := fun _ => ⟨keepsSame rfl,rfl⟩
  refine stepsBind (stepsQuery rfl stays _) fun _ => stepsBind ?_ fun updated => ?_
  · refine stepsBind (stepsRoutine (routineReads readsNow)) fun at' => stepsWrite rfl stays ?_
    intro i db value db' ok
    obtain ⟨_,_,updated⟩ := exceptBind.mp ok
    refine ⟨keepsEntry ?_ updated,?_⟩
    · exact fun _ => ⟨rfl,rfl,rfl⟩
    · obtain ⟨_,_,_,_,_,rfl⟩ := Db.updateMilestoneCases updated
      rfl
  · exact stepsBind (stepsRoutine (routineApproved self _ _)) fun _ => trivial

theorem harmlessPayOut (milestone : Milestone) (engagementId : String) (milestoneIndex : Nat) (reviewedById : Option String) :
    Harmless mirror.contract (payOut self milestone engagementId milestoneIndex reviewedById) :=
  harmlessSteps sparesLists (stepsPayOut self milestone engagementId milestoneIndex reviewedById)

theorem followsCreated {engagement : Engagement} {milestones : List Milestone} {c : EscrowSnapshot} {db' : Db}
    {engagements : Table Engagement} (base : Base c) (pending : engagement.status ≠ .active)
    (mine : ∀ m ∈ milestones, m.engagementId = engagement.id) (made : c.world.engagements.create engagement = some engagements)
    (added : milestones.foldlM Db.createMilestone { c.world with engagements := engagements } = .ok db') :
    Follows c (· = engagement.id) db' := by
  obtain ⟨free,_,get⟩ := Table.createGet made
  have first : KeepsOthers (· = engagement.id) c.world { c.world with engagements := engagements } := keepsSame rfl
  have same := createdEngagements added
  refine ⟨keepsTrans first (keepsCreatedAll mine added),?_,?_,?_⟩
  · rintro engagementId chain rfl submitted
    obtain ⟨row,found⟩ := base.created _ _ submitted
    cases found.symm.trans free
  · rintro engagementId ⟨row,found⟩
    refine ⟨row,?_⟩
    rw [same]
    simp only [get]
    split
    · rename_i taken
      rw [taken,free] at found
      cases found
    · exact found
  · intro engagementId row found active
    rw [same] at found
    simp only [get] at found
    split at found
    · cases found
      exact absurd active pending
    · exact Or.inl ⟨row,found,active⟩

theorem harmlessCreateEngagement (engagement : Engagement) (milestones : String → List Milestone)
    (pending : engagement.status ≠ .active) (mine : ∀ id, ∀ m ∈ milestones id, m.engagementId = engagement.id) :
    Harmless mirror.contract (createEngagement engagement milestones) := by
  rintro ⟨_,known⟩
  refine safeWrite rfl (fun _ => trivial) fun c thread i value db' base facts answered ok steady => ?_
  dsimp only at ok
  split at ok
  · contradiction
  · rename_i engagements made
    obtain ⟨_,⟨⟩,ok⟩ := exceptBind.mp ok
    obtain ⟨db'',added,same⟩ := exceptBind.mp ok
    cases same
    exact ⟨_,followsCreated base pending (mine _) made added⟩

theorem milestoneDataMine (engagementId id : String) (items : List MilestoneInput) :
    ∀ index days, ∀ m ∈ milestoneData engagementId id index days items, m.engagementId = engagementId := by
  induction items with
  | nil => simp [milestoneData]
  | cons item items ih =>
    intro index days m inside
    simp only [milestoneData] at inside
    rcases List.mem_cons.mp inside with rfl | later
    · rfl
    · exact ih _ _ m later

theorem harmlessPersist (dto : CreateEngagementDto) (templateVersion : Option EngagementTemplateVersion) :
    Harmless mirror.contract (persist dto templateVersion) := by
  unfold persist
  dsimp only
  split
  · exact fun _ => trivial
  · exact fun _ => trivial
  · split
    · exact fun _ => trivial
    · split
      · exact fun _ => trivial
      · refine harmlessBind (harmlessCreateEngagement _ _ (by simp) fun id => milestoneDataMine _ id _ _ _) fun engagement => ?_
        exact harmlessRoutine (stepsBind (routineReads readsNotify) fun _ => trivial)

theorem harmlessCreate (userId : String) (dto : CreateEngagementDto) : Harmless mirror.contract (create self userId dto) := by
  refine harmlessBind (harmlessBind (harmlessRoutine (routineReads (readsFind _ _))) fun existing => ?_) fun _ => ?_
  · split
    · exact fun _ => trivial
    · split
      · exact fun _ => trivial
      · split
        · exact harmlessPersist dto none
        · refine harmlessBind (harmlessBind (harmlessRoutine (routineReads (readsFind _ _))) fun found => ?_) fun version => ?_
          · split
            · exact fun _ => trivial
            · split
              · exact fun _ => trivial
              · exact harmlessRoutine (routineReads (readsFind _ _))
          · exact harmlessPersist dto version
  · refine harmlessBind (harmlessSteps sparesLists ?_) fun _ _ => trivial
    exact stepsCountTemplateUse rfl (fun _ => rfl) (fun _ => ⟨keepsSame rfl,rfl⟩) (fun _ _ => ⟨keepsSame rfl,rfl⟩) dto.templateId

theorem scheduleSame {schedule : RetentionSchedule} {db db' : Db} (created : db.createSchedule schedule = .ok db') :
    SameLists db db' := by
  unfold Db.createSchedule at created
  split at created
  · contradiction
  · cases created
    exact ⟨keepsSame rfl,rfl⟩

theorem schedulesSame {schedules : List RetentionSchedule} {db db' : Db}
    (added : schedules.foldlM Db.createSchedule db = .ok db') : SameLists db db' := by
  induction schedules generalizing db with
  | nil => cases added; exact ⟨keepsSame rfl,rfl⟩
  | cons schedule schedules ih =>
    obtain ⟨mid,first,rest⟩ := exceptBind.mp added
    have here := scheduleSame first
    have later := ih rest
    exact ⟨keepsTrans here.keeps later.keeps,later.engagements.trans here.engagements⟩

theorem harmlessBulkCreate (engagementId : String) (items : List MilestoneInput) (user : PartyUser) :
    Harmless mirror.contract (bulkCreate engagementId items user) := by
  refine harmlessBind (harmlessRoutine (routineReads (readsFind _ _))) fun found => ?_
  split
  · exact fun _ => trivial
  · split
    · exact fun _ => trivial
    · refine harmlessBind (harmlessRoutine (routineReads (readsFind _ _))) fun last => ?_
      refine harmlessBind (harmlessRoutine (routineReads (readsQuery rfl _))) fun currentLedger => ?_
      refine harmlessBind (harmlessRoutine (routineReads readsNow)) fun at' => ?_
      rintro ⟨_,known⟩
      refine safeWrite rfl (fun _ => trivial) fun c thread i value db' base facts answered ok steady => ⟨(· = engagementId),?_⟩
      obtain ⟨mid,added,ok⟩ := exceptBind.mp ok
      obtain ⟨last',scheduled,same⟩ := exceptBind.mp ok
      cases same
      have later := schedulesSame scheduled
      refine followsRows (keepsTrans (keepsCreatedAll ?_ added) (keepsWeak (fun _ none => none.elim) later.keeps))
        (later.engagements.trans (createdEngagements added)) ?_
      · intro m inside
        obtain ⟨index,item,_,rfl⟩ := List.mem_mapIdx.mp inside
        rfl
      · rintro _ milestones rfl submitted
        exact steady.fixed _ (Or.inl rfl) answered milestones submitted

theorem keepsAdjustments {engagementId : String} {db db' : Db} (pairs : List (Milestone × PercentAdjustment))
    (members : ∀ pair ∈ pairs, Member db pair.1.id engagementId)
    (adjusted : pairs.foldlM (fun db (m,adj) => do
      let (_,db) ← db.updateMilestone m.id fun row => { row with paymentPercent := adj.paymentPercent }
      return db) db = .ok db') : KeepsOthers (· = engagementId) db db' ∧ db'.engagements = db.engagements := by
  induction pairs generalizing db with
  | nil => cases adjusted; exact ⟨keepsSame rfl,rfl⟩
  | cons pair pairs ih =>
    obtain ⟨mid,first,rest⟩ := exceptBind.mp adjusted
    obtain ⟨⟨m',db''⟩,updated,same⟩ := exceptBind.mp first
    cases same
    have here : KeepsOthers (· = engagementId) db mid := by
      refine keepsAdjusted ?_ (members pair List.mem_cons_self) updated
      exact fun _ => rfl
    obtain ⟨keeps,engagements⟩ := ih (fun other inside =>
      here.members _ _ (members other (List.mem_cons_of_mem _ inside))) rest
    obtain ⟨_,_,_,_,_,rfl⟩ := Db.updateMilestoneCases updated
    exact ⟨keepsTrans here keeps,engagements⟩

theorem safeFindRows {engagementId : String} {done : Except Exception (List Milestone) → Unit × Multiset Fact → Prop}
    (failed : ∀ error, done (.error error) ((),known))
    (found : ∀ rows known', known ≤ known' → (∀ m ∈ rows, .member m.id engagementId ∈ known') → done (.ok rows) ((),known')) :
    Safe mirror.contract done
      (find .milestone fun db => db.milestones.findMany fun row => row.engagementId = engagementId) ((),known) := by
  refine Knowledge.safeQuery fun c frame thread i base _ _ => ?_
  have kept : Keeps c (c.record thread (.find .milestone) i c.world) := keepsFollowing base (Or.inl rfl) followsNothing
  refine ⟨(),kept.1,kept.2,?_⟩
  split
  · exact Knowledge.learnsNothing (failed _)
  · let rows := c.world.milestones.findMany fun row => row.engagementId = engagementId
    refine ⟨(rows.map fun m => Fact.member m.id engagementId : List Fact),fun fact inside => ?_,
      found rows _ (Multiset.le_add_left _ _) fun m inside => ?_⟩
    · obtain ⟨m,there,rfl⟩ := List.mem_map.mp (Multiset.mem_coe.mp inside)
      obtain ⟨stored,mine⟩ := List.mem_filter.mp there
      exact ⟨m,Table.memGet stored,of_decide_eq_true mine⟩
    · exact Multiset.mem_add.mpr (Or.inl (Multiset.mem_coe.mpr (List.mem_map_of_mem inside)))

theorem harmlessAdjust (engagementId : String) (adjustments : List PercentAdjustment) :
    Harmless mirror.contract (adjustMilestonePercents engagementId adjustments) := by
  rintro ⟨_,known⟩
  refine safeBind (safeFindRows (fun _ => trivial) fun rows known' _ members => ?_)
  dsimp only
  split
  · trivial
  · cases checked : adjustments.mapM (checkAdjustment rows) with
    | error error => trivial
    | ok targets =>
      dsimp only [Process.ofExcept,Process.retBind]
      split
      · trivial
      · refine safeWrite rfl (fun _ => trivial) fun c thread i value db' base facts answered ok steady => ⟨(· = engagementId),?_⟩
        obtain ⟨last,adjusted,same⟩ := exceptBind.mp ok
        cases same
        obtain ⟨keeps,engagements⟩ := keepsAdjustments (targets.zip adjustments) (fun pair inside =>
          facts _ (members pair.1 (checkedTargets checked pair.1 (List.of_mem_zip inside).1))) adjusted
        refine followsRows keeps engagements ?_
        rintro _ milestones rfl submitted
        exact steady.fixed _ (Or.inr rfl) answered milestones submitted

theorem safeSubmit {engagementId : String} {milestones : List ChainMilestone} {α : Type} {f : Answer → α}
    {done : Except Exception α → Unit × Multiset Fact → Prop} (created : .created engagementId ∈ known)
    (failed : ∀ error, done (.error error) ((),known))
    (submitted : ∀ value, done (.ok value) ((),.submitted engagementId ::ₘ known)) :
    Safe mirror.contract done (stellar (.submitCreateEngagement engagementId milestones) f) ((),known) := by
  refine Knowledge.safeQuery fun c frame thread i base facts steady => ?_
  cases answered : i.fails with
  | true =>
    have kept : Keeps c (c.record thread (.submitCreateEngagement engagementId milestones) i c.world) :=
      keepsFollowing base (Or.inr answered) followsNothing
    exact ⟨(),kept.1,kept.2,Knowledge.learnsNothing (failed _)⟩
  | false =>
    have here : Submitted (c.record thread (.submitCreateEngagement engagementId milestones) i c.world).history
        engagementId milestones := ⟨_,List.mem_cons_self,rfl,answered⟩
    refine ⟨(),⟨?_,?_,?_⟩,?_,Knowledge.learnsFact (.submitted engagementId) ⟨milestones,here⟩ (submitted _)⟩
    · rintro id chain ⟨e,inside,site,fine⟩
      rcases List.mem_cons.mp inside with rfl | earlier
      · exact steady.current id chain site fine
      · exact base.mirrors id chain ⟨e,earlier,site,fine⟩
    · rintro id chain ⟨e,inside,site,fine⟩
      rcases List.mem_cons.mp inside with rfl | earlier
      · cases site
        exact facts _ created
      · exact base.created id chain ⟨e,earlier,site,fine⟩
    · intro id row found active
      obtain ⟨chain,submitted⟩ := base.active id row found active
      exact ⟨chain,submittedLater submitted⟩
    · intro fact true
      cases fact with
      | created id => exact true
      | submitted id => exact true.imp fun _ => submittedLater
      | member milestoneId id => exact true

theorem scheduledSame {estimates : List (Milestone × Int × Int)} {db db' : Db}
    (scheduled : estimates.foldlM scheduleUnlock db = .ok db') : SameLists db db' := by
  induction estimates generalizing db with
  | nil => cases scheduled; exact ⟨keepsSame rfl,rfl⟩
  | cons estimate estimates ih =>
    obtain ⟨mid,first,rest⟩ := exceptBind.mp scheduled
    obtain ⟨⟨m',db''⟩,updated,made⟩ := exceptBind.mp first
    have later := ih rest
    have created := scheduleSame made
    have here : KeepsLists db db'' := by
      refine keepsEntry ?_ updated
      exact fun _ => ⟨rfl,rfl,rfl⟩
    obtain ⟨_,_,_,_,_,rfl⟩ := Db.updateMilestoneCases updated
    exact ⟨keepsTrans here (keepsTrans created.keeps later.keeps),later.engagements.trans created.engagements⟩

theorem safeActivate {engagementId txHash : String} {createdLedger : Int} {estimates : List (Milestone × Int × Int)}
    {done : Except Exception Engagement → Unit × Multiset Fact → Prop} (submitted : .submitted engagementId ∈ known)
    (fin : ∀ out, done out ((),known)) :
    Safe mirror.contract done (write (.activateEngagement engagementId) fun _ db =>
      activate engagementId txHash createdLedger estimates db) ((),known) := by
  refine safeWrite rfl fin fun c thread i value db' base facts answered ok steady => ⟨fun _ => False,?_⟩
  obtain ⟨⟨e',mid⟩,updated,ok⟩ := exceptBind.mp ok
  obtain ⟨last,scheduled,same⟩ := exceptBind.mp ok
  cases same
  have later := scheduledSame scheduled
  obtain ⟨e,found,_,found',elsewhere,rfl⟩ := Db.updateEngagementCases updated
  refine ⟨⟨later.keeps.listed,later.keeps.members⟩,fun _ _ none => none.elim,fun id => ?_,fun id row there active => ?_⟩
  · rintro ⟨row,there⟩
    rw [Created,later.engagements]
    by_cases here : id = engagementId
    · subst here
      exact ⟨_,found'⟩
    · exact ⟨row,(elsewhere id here).trans there⟩
  · rw [later.engagements] at there
    by_cases here : id = engagementId
    · subst here
      exact Or.inr (facts _ submitted)
    · exact Or.inl ⟨row,(elsewhere id here).symm.trans there,active⟩

theorem safeFindWithMilestones {engagementId : String}
    {done : Except Exception (Option (Engagement × List Milestone)) → Unit × Multiset Fact → Prop}
    (failed : ∀ error, done (.error error) ((),known)) (missing : done (.ok none) ((),known))
    (found : ∀ engagement milestones, engagement.id = engagementId →
      done (.ok (some (engagement,milestones))) ((),.created engagement.id ::ₘ known)) :
    Safe mirror.contract done (findWithMilestones engagementId) ((),known) := by
  refine Knowledge.safeQuery fun c frame thread i base _ _ => ?_
  have kept : Keeps c (c.record thread (.find .engagement) i c.world) := keepsFollowing base (Or.inl rfl) followsNothing
  refine ⟨(),kept.1,kept.2,?_⟩
  split
  · exact Knowledge.learnsNothing (failed _)
  · cases there : c.world.engagements.get? engagementId with
    | none => exact Knowledge.learnsNothing (by simpa only [there,Option.map_none] using missing)
    | some engagement =>
      have same : engagement.id = engagementId := Table.getKey there
      refine Knowledge.learnsFact (.created engagement.id) ⟨engagement,same.symm ▸ there⟩ ?_
      simpa only [there,Option.map_some] using found engagement (c.world.milestonesOf engagementId) same

theorem harmlessAcceptInvite (engagementId : String) (stellarAddress : Option String) :
    Harmless mirror.contract (acceptInvite engagementId stellarAddress) := by
  rintro ⟨_,known⟩
  refine safeBind (safeFindWithMilestones (fun _ => trivial) trivial fun engagement milestones same => ?_)
  subst same
  have created := Multiset.mem_cons_self (Fact.created engagement.id) known
  dsimp only
  split
  · trivial
  · split
    · trivial
    · refine safeStepsThen sparesLists (stepsRoutine (routineReads (readsQuery rfl _))) (fun balance => ?_) fun _ => trivial
      split
      · trivial
      · refine safeBind (safeSubmit created (fun _ => trivial) fun value => ?_)
        have submitted := Multiset.mem_cons_self (Fact.submitted engagement.id) (.created engagement.id ::ₘ known)
        refine safeStepsThen sparesLists (stepsRoutine (routineReads (readsQuery rfl _))) (fun currentLedger => ?_) fun _ => trivial
        refine safeStepsThen sparesLists (stepsRoutine (routineReads readsNow)) (fun at' => ?_) fun _ => trivial
        refine safeBind (safeActivate submitted fun out => ?_)
        cases out with
        | error error => trivial
        | ok accepted =>
          exact safeStepsThen sparesLists (stepsRoutine (routineReads readsNotify)) (fun _ => trivial) fun _ => trivial

end Methods

inductive Request where
  | create (userId : String) (dto : CreateEngagementDto)
  | bulkCreate (engagementId : String) (items : List MilestoneInput) (user : PartyUser)
  | adjustMilestonePercents (engagementId : String) (adjustments : List PercentAdjustment)
  | acceptInvite (engagementId : String) (stellarAddress : Option String)
  | approveMilestone (engagementId : String) (milestoneIndex : Nat) (userId : String) (proofVersion : Option Nat)
  | confirmFlow (engagementId : String) (milestoneIndex : Nat) (userId : Option String)
  | submitProof (engagementId : String) (milestoneIndex : Nat) (user : PartyUser) (input : ProofInput)
  | submitProofFlow (engagementId : String) (milestoneIndex : Nat) (proofHash : String)
  | rejectProof (engagementId : String) (milestoneIndex : Nat) (user : PartyUser) (reason : String) (versionNumber : Option Nat)
  | unlockRetentionOnChain (milestoneId : String)

inductive Reply where
  | engagement (row : Engagement)
  | milestones (rows : List Milestone)
  | approval (result : ApprovalResult)
  | confirmation (result : ApprovalResult ⊕ Milestone)
  | proof (row : Milestone × MilestoneProofVersion)
  | milestone (row : Milestone)
  | unlocked

variable (self : Config)

def handler : Request → Op Reply
  | .create userId dto => return .engagement (← EngagementsService.create self userId dto)
  | .bulkCreate engagementId items user => return .milestones (← MilestonesService.bulkCreate engagementId items user)
  | .adjustMilestonePercents engagementId adjustments =>
      return .milestones (← MilestonesService.adjustMilestonePercents engagementId adjustments)
  | .acceptInvite engagementId stellarAddress =>
      return .engagement (← EngagementsService.acceptInvite engagementId stellarAddress)
  | .approveMilestone engagementId milestoneIndex userId proofVersion =>
      return .approval (← MilestonesService.approveMilestone self engagementId milestoneIndex userId proofVersion)
  | .confirmFlow engagementId milestoneIndex userId =>
      return .confirmation (← MilestonesService.confirmFlow self engagementId milestoneIndex userId)
  | .submitProof engagementId milestoneIndex user input =>
      return .proof (← ProofVersionsService.submitProof engagementId milestoneIndex user input)
  | .submitProofFlow engagementId milestoneIndex proofHash =>
      return .milestone (← MilestonesService.submitProofFlow self engagementId milestoneIndex proofHash)
  | .rejectProof engagementId milestoneIndex user reason versionNumber =>
      return .proof (← ProofVersionsService.rejectProof engagementId milestoneIndex user reason versionNumber)
  | .unlockRetentionOnChain milestoneId => do
      MilestonesService.unlockRetentionOnChain milestoneId
      return .unlocked

def service : System Request Nat Site Answer Db Exception Reply where
  handler := handler self
  environment elapsed db := { db with clock := db.clock + elapsed }

section Runs

abbrev MirrorMove := Move Request Nat Answer

theorem harmlessHandler (request : Request) : Harmless mirror.contract (handler self request) := by
  cases request with
  | create => exact harmlessBind (harmlessCreate self _ _) fun _ _ => trivial
  | bulkCreate => exact harmlessBind (harmlessBulkCreate _ _ _) fun _ _ => trivial
  | adjustMilestonePercents => exact harmlessBind (harmlessAdjust _ _) fun _ _ => trivial
  | acceptInvite => exact harmlessBind (harmlessAcceptInvite _ _) fun _ _ => trivial
  | approveMilestone =>
    exact harmlessBind (harmlessApproveMilestone harmlessRoutine (harmlessPayOut self) _ _ _ _) fun _ _ => trivial
  | confirmFlow => exact harmlessBind (harmlessConfirmFlow harmlessRoutine (harmlessPayOut self) _ _ _) fun _ _ => trivial
  | submitProof => exact harmlessBind (harmlessRoutine (routineSubmitProof _ _ _ _)) fun _ _ => trivial
  | submitProofFlow => exact harmlessBind (harmlessRoutine (routineSubmitProofFlow self _ _ _)) fun _ _ => trivial
  | rejectProof => exact harmlessBind (harmlessRoutine (routineRejectProof _ _ _ _ _)) fun _ _ => trivial
  | unlockRetentionOnChain => exact harmlessBind (harmlessRoutine (routineUnlockRetention _)) fun _ _ => trivial

/-- In every run in which the list of milestones stands still from the reading of the
acceptance on, the rows of an active engagement are the list its contract was
created with. -/
theorem activeMirrorsChain (db : Db) (fresh : ∀ row ∈ db.engagements.rows, row.status ≠ .active) (moves : List MirrorMove)
    (steady : AllMeet Steady ((service self).run (Pool.initial db) moves).history) (engagementId : String) (row : Engagement)
    (found : ((service self).run (Pool.initial db) moves).world.engagements.get? engagementId = some row)
    (active : row.status = .active) :
    (∃ milestones, Submitted ((service self).run (Pool.initial db) moves).history engagementId milestones) ∧
      Mirrors ((service self).run (Pool.initial db) moves).snapshot engagementId := by
  have begin : Secured mirror.contract (fun _ => anyEnd) (Pool.initial db : Pool Request Site Answer Db Exception Reply) := by
    refine securedInitial (K := mirror.contract) ⟨⟨?_,?_,?_⟩,by simp⟩
    · rintro id milestones ⟨e,inside,_⟩
      cases inside
    · rintro id milestones ⟨e,inside,_⟩
      cases inside
    · intro id row found active
      exact absurd active (fresh row (Table.getMem found))
  have ticks : ∀ elapsed c held, mirror.contract.inv c held →
      mirror.contract.inv { c with world := (service self).environment elapsed c.world } held := by
    rintro elapsed c held ⟨⟨mirrors,created,active⟩,facts⟩
    refine ⟨⟨mirrors,created,active⟩,fun fact inside => ?_⟩
    have true := facts fact inside
    cases fact <;> exact true
  have secured := securedRun (fun request => harmlessHandler self request 0) ticks begin moves steady
  obtain ⟨_,base⟩ := Knowledge.securedBase secured
  exact ⟨base.active engagementId row found active,base.mirrors engagementId⟩

def invite : CreateEngagementDto where
  engagementId := "e"
  companyAddress := "GC"
  recruiterAddress := "GR"
  arbiterAddress := "GA"
  tokenAddress := "XLM"
  totalAmount := some 1000
  jobTitle := some "engineer"
  milestones := some [⟨"placed",.placement,60,none⟩,⟨"stayed",.retention,40,none⟩]
  retentionDays := some [some 30]

def invited : List MirrorMove := [.start (.create "c" invite)] ++ answered 0 (.replicate 3 { text := "m" })

def accepted (thread : Nat) : List MirrorMove :=
  [.start (.acceptInvite "e" (some "GR"))] ++ answered thread (.replicate 8 { number := 1000, text := "tx" })

theorem acceptedMirrorsChain :
    ((service {}).run (Pool.initial {}) (invited ++ accepted 1)).world.engagements.rows.length = 1 ∧
    ∀ row, ((service {}).run (Pool.initial {}) (invited ++ accepted 1)).world.engagements.get? "e" = some row →
      (∃ milestones, Submitted ((service {}).run (Pool.initial {}) (invited ++ accepted 1)).history "e" milestones) ∧
      Mirrors ((service {}).run (Pool.initial {}) (invited ++ accepted 1)).snapshot "e" := by
  have status : (((service {}).run (Pool.initial {}) (invited ++ accepted 1)).world.engagements.get? "e").map
      Engagement.status = some .active := by decide +kernel
  refine ⟨by decide +kernel,fun row found => ?_⟩
  rw [found] at status
  refine activeMirrorsChain {} {} (fun _ => nofun) (invited ++ accepted 1) (meetsMono (fun _ _ => steadyMeets) ?_) "e" row found
    (Option.some.inj status)
  decide +kernel

/-- The company adds milestones after the acceptance has read the list. -/
def addedMeanwhile : List MirrorMove :=
  invited ++ [.start (.acceptInvite "e" (some "GR"))] ++ answered 1 [{}] ++
  [.start (.bulkCreate "e" [⟨"bonus",.placement,100,none⟩] { stellarAddress := some "GC" })] ++
  answered 2 (.replicate 5 { text := "b" }) ++ answered 1 (.replicate 7 { number := 1000, text := "tx" })

/-- The percentages are adjusted once the contract exists. -/
def adjustedLater : List MirrorMove :=
  invited ++ accepted 1 ++ [.start (.adjustMilestonePercents "e" [⟨0,50⟩,⟨1,50⟩])] ++ answered 2 (.replicate 2 {})

def strays (moves : List MirrorMove) : Bool :=
  let pool := (service {}).run (Pool.initial {}) moves
  (pool.world.engagements.get? "e").any (·.status = .active) && pool.history.any fun e =>
    !e.answer.fails && match e.site with
      | .submitCreateEngagement id milestones => id = "e" && milestones.map chainTerms ≠ listed pool.world "e"
      | _ => false

theorem straysUnmirrored {moves : List MirrorMove} (stray : strays moves = true) :
    ¬ Mirrors ((service {}).run (Pool.initial {}) moves).snapshot "e" := by
  simp only [strays,Bool.and_eq_true,List.any_eq_true] at stray
  obtain ⟨_,e,inside,answered,here⟩ := stray
  intro mirrors
  split at here
  · rename_i id milestones site
    simp only [Bool.and_eq_true,decide_eq_true_eq] at here
    exact here.2 (mirrors milestones ⟨e,inside,here.1 ▸ site,by simpa using answered⟩)
  · contradiction

theorem activeUnmirrored :
    (∃ row, ((service {}).run (Pool.initial {}) addedMeanwhile).world.engagements.get? "e" = some row ∧ row.status = .active) ∧
    ¬ Mirrors ((service {}).run (Pool.initial {}) addedMeanwhile).snapshot "e" ∧
    (∃ row, ((service {}).run (Pool.initial {}) adjustedLater).world.engagements.get? "e" = some row ∧ row.status = .active) ∧
    ¬ Mirrors ((service {}).run (Pool.initial {}) adjustedLater).snapshot "e" := by
  have first : strays addedMeanwhile = true := by decide +kernel
  have second : strays adjustedLater = true := by decide +kernel
  have live : ∀ moves, strays moves = true →
      ∃ row, ((service {}).run (Pool.initial {}) moves).world.engagements.get? "e" = some row ∧ row.status = .active := by
    intro moves stray
    have active := (Bool.and_eq_true_iff.mp stray).1
    simpa [Option.any_eq_true] using active
  exact ⟨live _ first,straysUnmirrored first,live _ second,straysUnmirrored second⟩

end Runs

end HireSettle.Escrow.ChainMirror
