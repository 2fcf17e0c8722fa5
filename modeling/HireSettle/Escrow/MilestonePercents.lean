import HireSettle.Escrow.Engagements
import HireSettle.Escrow.ServedCalls

/-! The shares of an engagement's milestones. Creation checks the list it is given,
the adjustment checks the list as it will be, and the bulk creation checks only the
batch that it appends. -/
namespace HireSettle.Escrow.MilestonePercents
open Workflow MilestonesService EngagementsService

/-- A batch that the validation lets through. -/
structure BulkCreateMilestonesDto where
  milestones : List MilestoneInput
  milestonesSum100 : (milestones.map MilestoneInput.paymentPercent).sum = 100

inductive Request where
  | create (userId : String) (dto : CreateEngagementDto)
  | bulkCreate (engagementId : String) (dto : BulkCreateMilestonesDto) (user : PartyUser)
  | adjustMilestonePercents (engagementId : String) (adjustments : List PercentAdjustment)

def Request.engagementId : Request → String
  | .create _ dto => dto.engagementId
  | .bulkCreate engagementId _ _ | .adjustMilestonePercents engagementId _ => engagementId

variable (self : Config)

def handler : Request → Op Unit
  | .create userId dto => do let _ ← create self userId dto
  | .bulkCreate engagementId dto user => do let _ ← bulkCreate engagementId dto.milestones user
  | .adjustMilestonePercents engagementId adjustments => do let _ ← adjustMilestonePercents engagementId adjustments

def service : System Request Nat Site Answer Db Exception Unit where
  handler := handler self
  environment elapsed db := { db with clock := db.clock + elapsed }

abbrev PercentTurn := Turn Request Nat Answer

def percents (engagementId : String) (db : Db) : List Int :=
  (db.milestones.findMany fun m => m.engagementId = engagementId).map Milestone.paymentPercent

def slot (m : Milestone) : String × Nat := (m.engagementId,m.milestoneIndex)

/-- A bulk creation finds an engagement without milestones, or writes nothing. -/
def Unfilled (engagementId : String) (e : EscrowEvent) : Prop :=
  e.site = .bulkCreate engagementId → percents engagementId e.before = [] ∨ e.after.milestones.rows = e.before.milestones.rows

instance (engagementId : String) (e : EscrowEvent) : Decidable (Unfilled engagementId e) := by
  unfold Unfilled
  infer_instance

/-- The milestones of the engagement, if it has any, share out the whole of it. -/
structure Sums (engagementId : String) (db : Db) : Prop where
  -- the unique index
  unique : (db.milestones.rows.map slot).Nodup
  total : percents engagementId db = [] ∨ (db.engagements.get? engagementId).isSome ∧ (percents engagementId db).sum = 100

section Rows

variable {own engagementId : String} {db db' : Db}

theorem createdRow {m : Milestone} (created : db.createMilestone m = .ok db') :
    db'.milestones.rows = db.milestones.rows ++ [m] ∧ db'.engagements = db.engagements ∧
      ((db.milestones.rows.map slot).Nodup → (db'.milestones.rows.map slot).Nodup) := by
  unfold Db.createMilestone at created
  split at created
  · contradiction
  · rename_i free
    split at created
    · contradiction
    · rename_i milestones made
      cases created
      obtain ⟨_,rows,_⟩ := Table.createGet made
      refine ⟨rows,rfl,fun unique => ?_⟩
      simp only [rows,List.map_append,List.map_cons,List.map_nil]
      refine List.nodup_append.mpr ⟨unique,by simp,fun taken inside last same => ?_⟩
      intro equal
      obtain ⟨row,there,slotted⟩ := List.mem_map.mp inside
      rw [List.mem_singleton.mp same] at equal
      subst slotted
      obtain ⟨here,index⟩ := Prod.mk.inj equal
      refine free (Option.isSome_iff_ne_none.mpr fun none => ?_)
      have absent := List.find?_eq_none.mp none row there
      simp [here,index] at absent

theorem createdRows {milestones : List Milestone} (created : milestones.foldlM Db.createMilestone db = .ok db') :
    db'.milestones.rows = db.milestones.rows ++ milestones ∧ db'.engagements = db.engagements ∧
      ((db.milestones.rows.map slot).Nodup → (db'.milestones.rows.map slot).Nodup) := by
  induction milestones generalizing db with
  | nil => cases created; simp
  | cons m milestones ih =>
    obtain ⟨mid,first,rest⟩ := exceptBind.mp created
    have here := createdRow first
    have others := ih rest
    refine ⟨?_,others.2.1.trans here.2.1,fun unique => others.2.2 (here.2.2 unique)⟩
    rw [others.1,here.1,List.append_assoc]
    rfl

theorem percentsCreated (engagementId : String) {milestones : List Milestone} (mine : ∀ m ∈ milestones, m.engagementId = own)
    (created : db'.milestones.rows = db.milestones.rows ++ milestones) :
    percents engagementId db' =
      percents engagementId db ++ if own = engagementId then milestones.map Milestone.paymentPercent else [] := by
  simp only [percents,Table.findMany,created,List.filter_append,List.map_append]
  congr 1
  split
  · rename_i same
    rw [List.filter_eq_self.mpr fun m inside => by simp [mine m inside,same]]
  · rename_i other
    rw [List.filter_eq_nil_iff.mpr fun m inside => by simp [mine m inside,other]]
    rfl

theorem adjustedCons (adj : PercentAdjustment) (rest : List PercentAdjustment) (m : Milestone) :
    adjustedPercent (adj :: rest) m =
      adjustedPercent rest (if m.milestoneIndex = adj.milestoneIndex then { m with paymentPercent := adj.paymentPercent } else m) := by
  by_cases same : m.milestoneIndex = adj.milestoneIndex
  · rw [if_pos same]
    simp only [adjustedPercent,List.filter_cons,same.symm,decide_true,if_true]
    cases last : (rest.filter fun adj' => adj'.milestoneIndex = m.milestoneIndex).getLast? with
    | none => simp [List.getLast?_eq_none_iff.mp last]
    | some other => simp [List.getLast?_cons,last]
  · have other : ¬ adj.milestoneIndex = m.milestoneIndex := fun same' => same same'.symm
    rw [if_neg same]
    simp [adjustedPercent,other]

/-- The adjustment of one milestone, found by its index. -/
def adjustedBy (adj : PercentAdjustment) (m : Milestone) : Milestone :=
  if m.milestoneIndex = adj.milestoneIndex then { m with paymentPercent := adj.paymentPercent } else m

theorem adjustedRow {m : Milestone} {adj : PercentAdjustment} {updated : Milestone} (unique : (db.milestones.rows.map slot).Nodup)
    (index : m.milestoneIndex = adj.milestoneIndex) (member : ∃ row ∈ db.milestones.rows, row.id = m.id ∧ slot row = (own,m.milestoneIndex))
    (done : db.updateMilestone m.id (fun row => { row with paymentPercent := adj.paymentPercent }) = .ok (updated,db')) :
    db'.milestones.rows = db.milestones.rows.map (fun r => if r.engagementId = own then adjustedBy adj r else r) ∧
      db'.engagements = db.engagements := by
  obtain ⟨row,inside,id,slotted⟩ := member
  obtain ⟨_,_,_,_,_,rfl⟩ := Db.updateMilestoneCases done
  refine ⟨List.map_congr_left fun r there => ?_,rfl⟩
  obtain ⟨mine,place⟩ := Prod.mk.inj slotted
  have same : Keyed.key r = m.id ↔ r.engagementId = own ∧ r.milestoneIndex = adj.milestoneIndex := by
    constructor
    · intro key
      have equal : some r = some row := (Table.memGet there).symm.trans (key.trans id.symm ▸ Table.memGet inside)
      cases equal
      exact ⟨mine,place.trans index⟩
    · rintro ⟨its,at'⟩
      have equal : slot r = slot row := Prod.ext (its.trans mine.symm) (at'.trans (place.trans index).symm)
      rw [List.inj_on_of_nodup_map unique there inside equal]
      exact id
  by_cases here : Keyed.key r = m.id
  · obtain ⟨its,at'⟩ := same.mp here
    simp [here,its,at',adjustedBy]
  · by_cases its : r.engagementId = own
    · have other : ¬ r.milestoneIndex = adj.milestoneIndex := fun at' => here (same.mpr ⟨its,at'⟩)
      simp [here,its,other,adjustedBy]
    · simp [here,its]

theorem adjustedRows (own : String) {pairs : List (Milestone × PercentAdjustment)} (unique : (db.milestones.rows.map slot).Nodup)
    (members : ∀ pair ∈ pairs, pair.1.milestoneIndex = pair.2.milestoneIndex ∧
      ∃ row ∈ db.milestones.rows, row.id = pair.1.id ∧ slot row = (own,pair.1.milestoneIndex))
    (adjusted : pairs.foldlM (fun db (m,adj) => do
      let (_,db) ← db.updateMilestone m.id fun row => { row with paymentPercent := adj.paymentPercent }
      return db) db = .ok db') :
    db'.milestones.rows = db.milestones.rows.map (fun r =>
      if r.engagementId = own then { r with paymentPercent := adjustedPercent (pairs.map Prod.snd) r } else r) ∧
      db'.engagements = db.engagements := by
  induction pairs generalizing db with
  | nil =>
    cases adjusted
    refine ⟨((List.map_congr_left fun r _ => ?_).trans (List.map_id _)).symm,rfl⟩
    split <;> rfl
  | cons pair pairs ih =>
    obtain ⟨mid,first,rest⟩ := exceptBind.mp adjusted
    obtain ⟨⟨updated,db₁⟩,done,same⟩ := exceptBind.mp first
    cases same
    obtain ⟨index,member⟩ := members pair List.mem_cons_self
    obtain ⟨rows,engagements⟩ := adjustedRow unique index member done
    have slots : ∀ r, slot (if r.engagementId = own then adjustedBy pair.2 r else r) = slot r := by
      intro r
      unfold adjustedBy
      split <;> try split
      all_goals rfl
    have ids : ∀ r : Milestone, (if r.engagementId = own then adjustedBy pair.2 r else r).id = r.id := by
      intro r
      unfold adjustedBy
      split <;> try split
      all_goals rfl
    obtain ⟨rows',engagements'⟩ := @ih mid (by
      rw [rows,List.map_map]
      simpa only [Function.comp_def,slots] using unique) (fun other inside => by
      obtain ⟨index,row,there,id,slotted⟩ := members other (List.mem_cons_of_mem _ inside)
      refine ⟨index,_,rows ▸ List.mem_map_of_mem there,?_,?_⟩
      · rw [ids,id]
      · rw [slots,slotted]) rest
    refine ⟨?_,engagements'.trans engagements⟩
    rw [rows',rows,List.map_map]
    refine List.map_congr_left fun r _ => ?_
    simp only [Function.comp_apply,List.map_cons,adjustedCons]
    by_cases mine : r.engagementId = own
    · by_cases at' : r.milestoneIndex = pair.2.milestoneIndex
      · simp [mine,at',adjustedBy]
      · simp [mine,at',adjustedBy]
    · simp [mine]

theorem percentsAdjusted (engagementId : String) {adjustments : List PercentAdjustment}
    (rows : db'.milestones.rows = db.milestones.rows.map (fun r =>
      if r.engagementId = own then { r with paymentPercent := adjustedPercent adjustments r } else r)) :
    percents engagementId db' = if own = engagementId then
      (db.milestones.findMany fun m => m.engagementId = engagementId).map (adjustedPercent adjustments) else percents engagementId db := by
  have stays : ∀ r : Milestone, (if r.engagementId = own then { r with paymentPercent := adjustedPercent adjustments r } else r).engagementId =
      r.engagementId := by
    intro r
    split <;> rfl
  simp only [percents,Table.findMany,rows,List.filter_map,List.map_map,Function.comp_def,stays]
  split
  · rename_i same
    refine List.map_congr_left fun r inside => ?_
    have mine : r.engagementId = engagementId := by simpa using (List.mem_filter.mp inside).2
    rw [if_pos (mine.trans same.symm)]
  · rename_i other
    refine List.map_congr_left fun r inside => ?_
    have mine : r.engagementId = engagementId := by simpa using (List.mem_filter.mp inside).2
    rw [if_neg fun its => other (its.symm.trans mine)]

theorem milestoneDataRows (own id : String) (index : Nat) (days : List (Option Int)) (milestones : List MilestoneInput) :
    (milestoneData own id index days milestones).map Milestone.paymentPercent = milestones.map MilestoneInput.paymentPercent ∧
      ∀ m ∈ milestoneData own id index days milestones, m.engagementId = own := by
  induction milestones generalizing index days with
  | nil => simp [milestoneData]
  | cons m rest ih =>
    obtain ⟨shares,mine⟩ := ih (index + 1) (if m.kind = .retention then days.tail else days)
    refine ⟨by simp only [milestoneData,List.map_cons,shares],fun row inside => ?_⟩
    rcases List.mem_cons.mp inside with rfl | later
    · rfl
    · exact mine row later

theorem bulkRows (own : String) (startIndex : Nat) (currentLedger : Int) (at' : Nat) (id : String) (items : List MilestoneInput) :
    (items.mapIdx (bulkMilestone own startIndex currentLedger at' id)).map Milestone.paymentPercent =
      items.map MilestoneInput.paymentPercent ∧
    ∀ m ∈ items.mapIdx (bulkMilestone own startIndex currentLedger at' id), m.engagementId = own := by
  refine ⟨?_,fun m inside => ?_⟩
  · exact List.ext_getElem (by simp) fun index _ _ => by simp [bulkMilestone]
  · obtain ⟨index,item,_,rfl⟩ := List.mem_mapIdx.mp inside
    rfl

end Rows

section Steps

variable {engagementId : String} {db db' : Db}

theorem sumsCreated {engagement : Engagement} {milestones : List Milestone} {engagements : Table Engagement} (sums : Sums engagementId db)
    (mine : ∀ m ∈ milestones, m.engagementId = engagement.id) (whole : (milestones.map Milestone.paymentPercent).sum = 100)
    (opened : db.engagements.create engagement = some engagements)
    (created : milestones.foldlM Db.createMilestone { db with engagements := engagements } = .ok db') : Sums engagementId db' := by
  obtain ⟨rows,same,unique⟩ := createdRows created
  have gets := Table.createGet opened
  refine ⟨unique sums.unique,?_⟩
  rw [percentsCreated engagementId mine rows,same]
  show percents engagementId db ++ _ = [] ∨ (engagements.get? engagementId).isSome ∧ (percents engagementId db ++ _).sum = 100
  rw [gets.2.2]
  by_cases its : engagement.id = engagementId
  · rcases sums.total with empty | ⟨taken,_⟩
    · refine Or.inr ⟨by simp [its,Keyed.key],?_⟩
      rw [empty,if_pos its,List.nil_append,whole]
    · rw [← its,show db.engagements.get? engagement.id = none from gets.1] at taken
      cases taken
  · have other : ¬ engagementId = Keyed.key engagement := fun same => its same.symm
    rw [if_neg its,if_neg other,List.append_nil]
    exact sums.total

theorem sumsAppended {own : String} {milestones : List Milestone} (sums : Sums engagementId db)
    (mine : ∀ m ∈ milestones, m.engagementId = own) (whole : (milestones.map Milestone.paymentPercent).sum = 100)
    (there : (db.engagements.get? own).isSome) (created : milestones.foldlM Db.createMilestone db = .ok db')
    (unfilled : own = engagementId → percents engagementId db = []) :
    Sums engagementId db' ∧ (own = engagementId → (percents engagementId db').sum = 100) := by
  obtain ⟨rows,same,unique⟩ := createdRows created
  have shares := percentsCreated engagementId mine rows
  by_cases its : own = engagementId
  · rw [unfilled its,if_pos its,List.nil_append] at shares
    refine ⟨⟨unique sums.unique,Or.inr ⟨?_,by rw [shares,whole]⟩⟩,fun _ => by rw [shares,whole]⟩
    rw [same,← its]
    exact there
  · rw [if_neg its,List.append_nil] at shares
    exact ⟨⟨unique sums.unique,by rw [shares,same]; exact sums.total⟩,fun same => absurd same its⟩

theorem checkedPairs {milestones targets : List Milestone} {adjustments : List PercentAdjustment}
    (checked : adjustments.mapM (checkAdjustment milestones) = .ok targets) :
    targets.length = adjustments.length ∧
      ∀ pair ∈ targets.zip adjustments, pair.1 ∈ milestones ∧ pair.1.milestoneIndex = pair.2.milestoneIndex := by
  induction adjustments generalizing targets with
  | nil => cases checked; simp
  | cons adj adjustments ih =>
    rw [List.mapM_cons] at checked
    obtain ⟨target,first,checked⟩ := exceptBind.mp checked
    obtain ⟨rest,there,same⟩ := exceptBind.mp checked
    cases same
    obtain ⟨length,others⟩ := ih there
    refine ⟨by simp [length],fun pair inside => ?_⟩
    rcases List.mem_cons.mp inside with rfl | later
    · unfold checkAdjustment at first
      split at first
      · contradiction
      · rename_i found
        split at first
        · contradiction
        · cases first
          exact ⟨List.mem_of_find?_eq_some found,by simpa using List.find?_some found⟩
    · exact others pair later

theorem schedulesKeep {schedules : List RetentionSchedule} (added : schedules.foldlM Db.createSchedule db = .ok db') :
    db'.milestones = db.milestones ∧ db'.engagements = db.engagements := by
  induction schedules generalizing db with
  | nil => cases added; exact ⟨rfl,rfl⟩
  | cons schedule schedules ih =>
    obtain ⟨mid,first,rest⟩ := exceptBind.mp added
    unfold Db.createSchedule at first
    split at first
    · contradiction
    · cases first
      obtain ⟨milestones,engagements⟩ := ih rest
      exact ⟨milestones,engagements⟩

theorem sumsAdjusted {own : String} {adjustments : List PercentAdjustment} {targets : List Milestone} (sums : Sums engagementId db)
    (checked : adjustments.mapM (checkAdjustment (db.milestones.findMany fun m => m.engagementId = own)) = .ok targets)
    (whole : ((db.milestones.findMany fun m => m.engagementId = own).map (adjustedPercent adjustments)).sum = 100)
    (adjusted : (targets.zip adjustments).foldlM (fun db (m,adj) => do
      let (_,db) ← db.updateMilestone m.id fun row => { row with paymentPercent := adj.paymentPercent }
      return db) db = .ok db') :
    Sums engagementId db' ∧ (own = engagementId → (percents engagementId db').sum = 100) := by
  obtain ⟨length,members⟩ := checkedPairs checked
  have pairs : (targets.zip adjustments).map Prod.snd = adjustments := List.map_snd_zip (by omega)
  obtain ⟨rows,engagements⟩ := adjustedRows own sums.unique (fun pair inside => by
    obtain ⟨there,index⟩ := members pair inside
    obtain ⟨stored,mine⟩ := List.mem_filter.mp there
    exact ⟨index,pair.1,stored,rfl,Prod.ext (of_decide_eq_true mine) rfl⟩) adjusted
  rw [pairs] at rows
  have shares := percentsAdjusted engagementId rows
  have unique : (db'.milestones.rows.map slot).Nodup := by
    have slots : ∀ r, slot (if r.engagementId = own then { r with paymentPercent := adjustedPercent adjustments r } else r) = slot r := by
      intro r
      split <;> rfl
    rw [rows,List.map_map]
    simpa only [Function.comp_def,slots] using sums.unique
  by_cases its : own = engagementId
  · subst its
    rw [if_pos rfl] at shares
    refine ⟨⟨unique,?_⟩,fun _ => by rw [shares,whole]⟩
    rcases sums.total with empty | ⟨there,_⟩
    · rw [List.map_eq_nil_iff.mp empty] at whole
      cases whole
    · exact Or.inr ⟨engagements ▸ there,by rw [shares,whole]⟩
  · rw [if_neg its] at shares
    exact ⟨⟨unique,by rw [shares,engagements]; exact sums.total⟩,fun same => absurd same its⟩

end Steps

section Turns

variable {self} {engagementId : String} {c : EscrowSnapshot} {db : Db}

/-- What an operation leaves, and what it has established when it succeeds. -/
def Established (engagementId own : String) {α : Type} (out : Except Exception α) (c : EscrowSnapshot) : Prop :=
  Sums engagementId c.world ∧ (own = engagementId → ∀ value, out = .ok value → (percents engagementId c.world).sum = 100)

def Summed (engagementId : String) (c : EscrowSnapshot) : Prop := Sums engagementId c.world

abbrev Served {α : Type} (engagementId : String) (done : Except Exception α → EscrowSnapshot → Prop) (p : Op α) (c : EscrowSnapshot) : Prop :=
  Ensures (fun _ => Unfilled engagementId) (Summed engagementId) done p c

theorem servedBulkCreate (own : String) (dto : BulkCreateMilestonesDto) (user : PartyUser) (sums : Sums engagementId db) (here : c.world = db) :
    Served engagementId (Established engagementId own) (bulkCreate own dto.milestones user) c := by
  have weak : ∀ c' : EscrowSnapshot, c'.world = db → Summed engagementId c' := fun c' same => show Sums engagementId c'.world from same ▸ sums
  have fails : ∀ error (c' : EscrowSnapshot), c'.world = db →
      Established engagementId own (.error error : Except Exception (List Milestone)) c' :=
    fun error c' same => ⟨weak c' same,fun _ _ => nofun⟩
  refine ensuresFind weak fails here fun c here => ?_
  split
  · exact fails _ _ here
  · rename_i engagement found
    split
    · exact fails _ _ here
    · refine ensuresFind weak fails here fun c here => ?_
      refine ensuresStellar weak fails here fun i' c here => ?_
      refine ensuresNow weak fails here fun c here => ?_
      refine ensuresWrite weak fails here fun thread i value db' _ ok unfilled => ?_
      obtain ⟨db₁,created,ok⟩ := exceptBind.mp ok
      obtain ⟨db₂,scheduled,same⟩ := exceptBind.mp ok
      cases same
      obtain ⟨milestones,engagements⟩ := schedulesKeep scheduled
      obtain ⟨shares,mine⟩ := bulkRows own _ i'.number db.clock i.text dto.milestones
      have rows := (createdRows created).1
      have opened : (db.engagements.get? own).isSome := by simp [found]
      have kept : Sums engagementId db₁ ∧ (own = engagementId → (percents engagementId db₁).sum = 100) := by
        refine sumsAppended sums mine (shares ▸ dto.milestonesSum100) opened created fun same => ?_
        rcases unfilled (same ▸ rfl) with empty | nothing
        · exact empty
        · have none := List.append_right_eq_self.mp (rows.symm.trans (milestones ▸ nothing))
          rw [none] at shares
          have whole := dto.milestonesSum100
          rw [← shares] at whole
          cases whole
      have sums' : Sums engagementId db' :=
        ⟨milestones ▸ kept.1.unique,by simpa only [percents,milestones,engagements] using kept.1.total⟩
      have total : own = engagementId → (percents engagementId db').sum = 100 := by
        simpa only [percents,milestones] using kept.2
      exact ⟨sums',sums',fun same _ _ => total same⟩

theorem servedAdjust (own : String) (adjustments : List PercentAdjustment) (sums : Sums engagementId db) (here : c.world = db) :
    Served engagementId (Established engagementId own) (adjustMilestonePercents own adjustments) c := by
  have weak : ∀ c' : EscrowSnapshot, c'.world = db → Summed engagementId c' := fun c' same => show Sums engagementId c'.world from same ▸ sums
  have fails : ∀ error (c' : EscrowSnapshot), c'.world = db →
      Established engagementId own (.error error : Except Exception (List Milestone)) c' :=
    fun error c' same => ⟨weak c' same,fun _ _ => nofun⟩
  refine ensuresFind weak fails here fun c here => ?_
  split
  · exact fails _ _ here
  · cases checked : adjustments.mapM (checkAdjustment (db.milestones.findMany fun row => row.engagementId = own)) with
    | error error => exact fails _ _ here
    | ok targets =>
      dsimp only [Process.ofExcept,Process.retBind]
      split
      · exact fails _ _ here
      · rename_i whole
        refine ensuresWrite weak fails here fun thread i value db' _ ok _ => ?_
        obtain ⟨db₁,adjusted,same⟩ := exceptBind.mp ok
        cases same
        have kept : Sums engagementId db' ∧ (own = engagementId → (percents engagementId db').sum = 100) :=
          sumsAdjusted sums checked (not_not.mp whole) adjusted
        exact ⟨kept.1,kept.1,fun own _ _ => kept.2 own⟩

theorem servedPersist (dto : CreateEngagementDto) (templateVersion : Option EngagementTemplateVersion) (sums : Sums engagementId db)
    (here : c.world = db) : Served engagementId (fun _ => Summed engagementId) (persist dto templateVersion) c := by
  have weak : ∀ c' : EscrowSnapshot, c'.world = db → Summed engagementId c' := fun c' same => show Sums engagementId c'.world from same ▸ sums
  unfold persist
  dsimp only
  split
  · exact weak _ here
  · exact weak _ here
  · split
    · exact weak _ here
    · rename_i jobTitle milestones _ whole
      split
      · exact weak _ here
      · refine ensuresBind (ensuresWrite weak (fun _ => weak) here fun thread i value db' _ ok _ => ?_)
        have sums' : Sums engagementId db' := by
          dsimp only at ok
          split at ok
          · cases ok
          · rename_i engagements opened
            obtain ⟨db₀,first,ok⟩ := exceptBind.mp ok
            cases first
            obtain ⟨db₁,created,same⟩ := exceptBind.mp ok
            cases same
            obtain ⟨shares,mine⟩ := milestoneDataRows dto.engagementId i.text 0 _ _
            exact sumsCreated sums mine (shares ▸ not_not.mp whole) opened created
        have weak' : ∀ c' : EscrowSnapshot, c'.world = db' → Summed engagementId c' := fun c' same => show Sums engagementId c'.world from same ▸ sums'
        exact ⟨sums',ensuresAsk weak' (fun _ _ c' _ same => weak' c' same) fun _ => weak'⟩

theorem servedCountTemplateUse (templateId : Option String) (sums : Summed engagementId c) :
    Served engagementId (fun _ => Summed engagementId) (countTemplateUse templateId) c := by
  unfold countTemplateUse
  split
  · exact sums
  · intro thread i _
    refine ⟨sums,ensuresTransact (fun thread i value db' ok _ => ?_) fun _ _ _ _ => ⟨sums,sums⟩⟩
    split at ok
    · contradiction
    · obtain ⟨_,_,counted⟩ := exceptBind.mp ok
      cases counted
      exact ⟨⟨sums.unique,sums.total⟩,⟨sums.unique,sums.total⟩⟩

theorem servedCreate (userId : String) (dto : CreateEngagementDto) (sums : Sums engagementId db) (here : c.world = db) :
    Served engagementId (Established engagementId dto.engagementId) (create self userId dto) c := by
  have weak : ∀ c' : EscrowSnapshot, c'.world = db → Summed engagementId c' := fun c' same => show Sums engagementId c'.world from same ▸ sums
  have prepared : Served engagementId (fun _ => Summed engagementId) (prepareEngagement self userId dto) c := by
    refine ensuresFind weak (fun _ => weak) here fun c here => ?_
    split
    · exact weak _ here
    · split
      · exact weak _ here
      · split
        · exact servedPersist dto none sums here
        · refine ensuresBind (ensuresFind weak (fun _ => weak) here fun c here => ?_)
          split
          · exact weak _ here
          · split
            · exact weak _ here
            · refine ensuresMono (fun out c same => ?_) (ensuresReads (readsFind _ _) fun c' same => weak c' (same.trans here))
              cases out with
              | ok templateVersion => exact servedPersist dto templateVersion sums (same.trans here)
              | error error => exact weak c (same.trans here)
  refine ensuresBind (ensuresMono ?_ prepared)
  intro out c sums
  cases out with
  | error error => exact ⟨sums,fun _ _ => (by simp)⟩
  | ok engagement =>
    refine ensuresBind (ensuresMono ?_ (servedCountTemplateUse dto.templateId sums))
    intro out c' sums
    cases out <;> exact ⟨sums,fun _ _ => (by simp)⟩

theorem servedUnit {own : String} {α : Type} {p : Op α} (served : Served engagementId (Established engagementId own) p c) :
    Served engagementId (Established engagementId own) (p >>= fun _ => pure ()) c := by
  refine ensuresBind (ensuresMono ?_ served)
  intro out c established
  cases out with
  | ok value => exact ⟨established.1,fun mine _ _ => established.2 mine value rfl⟩
  | error error => exact ⟨established.1,fun _ _ => nofun⟩

theorem servedHandler (request : Request) (sums : Sums engagementId c.world) :
    Served engagementId (Established engagementId request.engagementId) (handler self request) c := by
  cases request with
  | create userId dto => exact servedUnit (servedCreate userId dto sums rfl)
  | bulkCreate own dto user => exact servedUnit (servedBulkCreate own dto user sums rfl)
  | adjustMilestonePercents own adjustments => exact servedUnit (servedAdjust own adjustments sums rfl)

/-- Where no bulk creation adds to milestones that are there, the shares of an
engagement sum to 100 after each operation on it that succeeds. -/
theorem percentsSum (self : Config) (db : Db) (engagementId : String) (sums : Sums engagementId db) (list : List PercentTurn)
    (request : Request) (answers : List Answer) (own : request.engagementId = engagementId)
    (unfilled : Meets (fun _ _ e => Unfilled engagementId e) ((service self).serve ((service self).turns (Pool.initial db) list) request answers))
    (succeeds : (service self).Returns ((service self).turns (Pool.initial db) list) request answers ()) :
    (percents engagementId ((service self).serve ((service self).turns (Pool.initial db) list) request answers).world).sum = 100 := by
  have before : Meets (fun _ _ e => Unfilled engagementId e)
      ((service self).turns ((service self).turns (Pool.initial db) list) [.serve request answers]) := unfilled
  have kept : Summed engagementId ((service self).turns (Pool.initial db) list).snapshot := by
    refine turnsKeep ?_ ?_ sums list (meetsEarlier before)
    · exact fun request c sums => ensuresMono (fun _ _ _ => trivial) (servedHandler request sums)
    · exact fun elapsed c sums => ⟨sums.unique,sums.total⟩
  obtain ⟨_,p,there,ends⟩ := ensuresServe kept (servedHandler request kept) answers (meetsServed unfilled)
  cases there.symm.trans succeeds
  exact ends.2 own () rfl

def invite : CreateEngagementDto where
  engagementId := "e"
  companyAddress := "GC"
  recruiterAddress := "GR"
  arbiterAddress := "GA"
  tokenAddress := "usdc"
  totalAmount := some 1000
  jobTitle := some "engineer"
  milestones := some [{ name := "placed", kind := .placement, paymentPercent := 60 },
    { name := "stayed", kind := .retention, paymentPercent := 40 }]

def invited : List PercentTurn := [.serve (.create "u" invite) [{},{ text := "m" },{}]]

def halves : Request := .adjustMilestonePercents "e" [⟨0,50⟩,⟨1,50⟩]

theorem percentsSumAdjusted :
    (percents "e" ((service {}).serve ((service {}).turns (Pool.initial {}) invited) halves [{},{}]).world).sum = 100 ∧
    percents "e" ((service {}).serve ((service {}).turns (Pool.initial {}) invited) halves [{},{}]).world = [50,50] :=
  ⟨percentsSum {} {} "e" ⟨List.nodup_nil,Or.inl rfl⟩ invited halves [{},{}] rfl (by decide +kernel) rfl,by decide +kernel⟩

/-- The company appends a batch that is whole in itself. -/
def appended : Request :=
  .bulkCreate "e" ⟨[{ name := "bonus", kind := .placement, paymentPercent := 100 }],by decide⟩ { role := some .company, stellarAddress := some "GC" }

theorem percentsDoubled :
    (service {}).Returns ((service {}).turns (Pool.initial {}) invited) appended [{},{},{},{},{ text := "n" }] () ∧
    (percents "e" ((service {}).serve ((service {}).turns (Pool.initial {}) invited) appended [{},{},{},{},{ text := "n" }]).world).sum = 200 :=
  ⟨rfl,by decide +kernel⟩

end Turns

end HireSettle.Escrow.MilestonePercents
