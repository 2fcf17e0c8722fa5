import HireSettle.Escrow.LatestVersions
import HireSettle.Escrow.ProofSla
import HireSettle.Workflow.Guards

/-! The history of a milestone's proofs. Versions are numbered one after another, and
the only one that may await review is the last. A rejection is written where the
version still awaits review; an approval goes to the version that was read before. -/
namespace HireSettle.Escrow.ProofHistory
open Workflow ProofApprovals LatestVersions ProofVersionsService MilestoneProofSlaService

inductive Request where
  | submitProof (engagementId : String) (milestoneIndex : Nat) (user : PartyUser) (input : ProofInput)
  | recordVersion (milestoneId : String) (input : ProofInput)
  | rejectProof (engagementId : String) (milestoneIndex : Nat) (user : PartyUser) (reason : String) (versionNumber : Option Nat)
  | markApproved (milestoneId : String) (reviewedById : Option String)
  | runProofSlaChecks

def handler : Request → Op Unit
  | .submitProof engagementId milestoneIndex user input => do let _ ← submitProof engagementId milestoneIndex user input
  | .recordVersion milestoneId input => do let _ ← recordVersion milestoneId input
  | .rejectProof engagementId milestoneIndex user reason versionNumber => do
      let _ ← rejectProof engagementId milestoneIndex user reason versionNumber
  | .markApproved milestoneId reviewedById => do let _ ← markApproved milestoneId reviewedById
  | .runProofSlaChecks => do let _ ← runProofSlaChecks

def service : System Request Nat Site Answer Db Exception Unit where
  handler := handler
  environment elapsed db := { db with clock := db.clock + elapsed }

abbrev HistoryMove := Move Request Nat Answer

def numbers (db : Db) (milestoneId : String) : List Nat :=
  (db.proofVersions.findMany fun row => row.milestoneId = milestoneId).map MilestoneProofVersion.versionNumber

/-- The versions of the milestone are numbered from one on, and at most the last one awaits review. -/
structure Sound (milestoneId : String) (db : Db) : Prop where
  numbered : (numbers db milestoneId).Perm (List.range' 1 (numbers db milestoneId).length)
  single : (db.proofVersions.count fun row => row.milestoneId = milestoneId && row.status = .submitted) ≤ 1
  last : ∀ row ∈ db.proofVersions.rows, row.milestoneId = milestoneId → row.status = .submitted →
    row.versionNumber = (numbers db milestoneId).length

/-- A version that was reviewed has the same status ever after. -/
def Reviewed (db db' : Db) : Prop := ∀ id row, db.proofVersions.get? id = some row → row.status ≠ .submitted →
  (db'.proofVersions.get? id).map MilestoneProofVersion.status = some row.status

def claimed (own : List EscrowEvent) : Option String :=
  own.findSome? fun e => match e.site with
    | .claimProofSla id => some id
    | _ => none

/-- The version that a call approves: the one read last, or the one that the job has confirmed the milestone for. -/
def approves (request : Request) (own : List EscrowEvent) (e : EscrowEvent) : Option String :=
  match request,e.site with
  | .markApproved milestoneId _, .writeProofVersion _ =>
      (lastRead .proofVersion own).bind fun read => (latestVersion read milestoneId).map MilestoneProofVersion.id
  | .runProofSlaChecks, .writeProofVersion _ =>
      match own with
      | ⟨_,.markConfirmed _ _,_,_,_⟩ :: rest => claimed rest
      | _ => none
  | _,_ => none

/-- A call that approves a version does not find it rejected. -/
def Timely (request : Request) (earlier : List EscrowEvent) (e : EscrowEvent) : Prop := e.answer.fails = false →
  ∀ id ∈ approves request (earlier.filter fun d => d.thread = e.thread) e, ∀ row ∈ e.before.proofVersions.get? id, row.status ≠ .rejected

instance (request : Request) (earlier : List EscrowEvent) (e : EscrowEvent) : Decidable (Timely request earlier e) := by
  unfold Timely
  infer_instance

/-- Versions stay, in their place, and none comes to await review again. -/
def Follows (db db' : Db) : Prop := ∀ id row, db.proofVersions.get? id = some row →
  ∃ row', db'.proofVersions.get? id = some row' ∧ row'.milestoneId = row.milestoneId ∧ row'.versionNumber = row.versionNumber ∧
    (row'.status = .submitted → row.status = .submitted)

/-- How a call changes the versions, by what its thread has seen. -/
inductive Changes (request : Request) (own : List EscrowEvent) (e : EscrowEvent) : Prop where
  | same (same : e.after.proofVersions = e.before.proofVersions)
      (quiet : ∀ id ∈ approves request own e, e.answer.fails = true ∨ e.before.proofVersions.get? id = none)
  | rewritten (quiet : approves request own e = none) (p : MilestoneProofVersion → Bool)
      (f : MilestoneProofVersion → MilestoneProofVersion) (keys : ∀ v, (f v).id = v.id)
      (place : ∀ v, (f v).milestoneId = v.milestoneId ∧ (f v).versionNumber = v.versionNumber)
      (status : ∀ v, p v = true → (f v).status = v.status ∨ v.status = .submitted ∧ (f v).status ≠ .submitted)
      (versions : e.after.proofVersions = e.before.proofVersions.updateMany p f keys)
  | created (quiet : approves request own e = none) (d : EscrowEvent) (inside : d ∈ own) (row : MilestoneProofVersion)
      (free : (e.before.proofVersions.findFirst fun v => v.milestoneId = row.milestoneId && v.versionNumber = row.versionNumber) = none)
      (next : row.versionNumber = ((latestVersion d.before row.milestoneId).map MilestoneProofVersion.versionNumber).getD 0 + 1)
      (reviewed : ∀ latest ∈ latestVersion d.before row.milestoneId, latest.status ≠ .submitted)
      (made : e.before.proofVersions.create row = some e.after.proofVersions)
  | approved (id : String) (named : approves request own e = some id) (accepted : e.answer.fails = false)
      (f : MilestoneProofVersion → MilestoneProofVersion) (keys : ∀ v, (f v).id = v.id)
      (place : ∀ v, (f v).milestoneId = v.milestoneId ∧ (f v).versionNumber = v.versionNumber)
      (status : ∀ v, (f v).status = .approved) (row : MilestoneProofVersion) (stored : e.before.proofVersions.get? id = some row)
      (versions : e.after.proofVersions = e.before.proofVersions.update id f keys)

section Steps

variable {request : Request} {own history : List EscrowEvent} {e : EscrowEvent} {db db' : Db} {milestoneId : String}

theorem followsTrans {a b c : Db} (first : Follows a b) (second : Follows b c) : Follows a c := by
  intro id row found
  obtain ⟨row',found',milestone',number',status'⟩ := first id row found
  obtain ⟨row'',found'',milestone'',number'',status''⟩ := second id row' found'
  exact ⟨row'',found'',milestone''.trans milestone',number''.trans number',fun waits => status' (status'' waits)⟩

/-- The two invariants that the others follow from. -/
structure Ordered (milestoneId : String) (db : Db) : Prop where
  numbered : (numbers db milestoneId).Perm (List.range' 1 (numbers db milestoneId).length)
  last : ∀ row ∈ db.proofVersions.rows, row.milestoneId = milestoneId → row.status = .submitted →
    row.versionNumber = (numbers db milestoneId).length

theorem orderedUnique (ordered : Ordered milestoneId db) {v w : MilestoneProofVersion} (mine : v ∈ db.proofVersions.rows)
    (its : w ∈ db.proofVersions.rows) (here : v.milestoneId = milestoneId) (there : w.milestoneId = milestoneId)
    (same : v.versionNumber = w.versionNumber) : v = w := by
  have nodup : (numbers db milestoneId).Nodup := ordered.numbered.nodup_iff.mpr List.nodup_range'
  exact List.inj_on_of_nodup_map nodup (List.mem_filter.mpr ⟨mine,decide_eq_true here⟩) (List.mem_filter.mpr ⟨its,decide_eq_true there⟩) same

theorem soundOrdered (ordered : Ordered milestoneId db) : Sound milestoneId db := by
  refine ⟨ordered.numbered,?_,ordered.last⟩
  rw [Table.count,List.countP_eq_length_filter]
  have distinct : (db.proofVersions.rows.filter fun row => row.milestoneId = milestoneId && row.status = .submitted).Nodup :=
    (List.Nodup.of_map _ db.proofVersions.unique).filter _
  have alone : ∀ v w, v ∈ db.proofVersions.rows.filter (fun row => row.milestoneId = milestoneId && row.status = .submitted) →
      w ∈ db.proofVersions.rows.filter (fun row => row.milestoneId = milestoneId && row.status = .submitted) → v = w := by
    intro v w mine its
    simp only [List.mem_filter,Bool.and_eq_true,decide_eq_true_eq] at mine its
    refine orderedUnique ordered mine.1 its.1 mine.2.1 its.2.1 ?_
    rw [ordered.last v mine.1 mine.2.1 mine.2.2,ordered.last w its.1 its.2.1 its.2.2]
  generalize db.proofVersions.rows.filter _ = waiting at distinct alone ⊢
  rcases waiting with _ | ⟨v,_ | ⟨w,rest⟩⟩
  · exact Nat.zero_le 1
  · exact Nat.le_refl 1
  · have same := alone v w (by simp) (by simp)
    subst same
    simp at distinct

theorem numbersUpdated {p : MilestoneProofVersion → Bool} {f : MilestoneProofVersion → MilestoneProofVersion} {keys : ∀ v, (f v).id = v.id}
    (place : ∀ v, (f v).milestoneId = v.milestoneId ∧ (f v).versionNumber = v.versionNumber)
    (versions : db'.proofVersions = db.proofVersions.updateMany p f keys) (milestoneId : String) :
    numbers db' milestoneId = numbers db milestoneId := by
  have kept : ∀ v : MilestoneProofVersion, (if p v then f v else v).milestoneId = v.milestoneId ∧
      (if p v then f v else v).versionNumber = v.versionNumber := by
    intro v
    split
    · exact place v
    · exact ⟨rfl,rfl⟩
  simp only [numbers,versions,Table.findMany,Table.updateMany,List.filter_map,List.map_map,Function.comp_def,kept]

/-- What a call leaves behind. -/
structure Leaves (db db' : Db) : Prop where
  follows : Follows db db'
  ordered : (∀ milestoneId, Ordered milestoneId db) → ∀ milestoneId, Ordered milestoneId db'

theorem leavesUpdated {p : MilestoneProofVersion → Bool} {f : MilestoneProofVersion → MilestoneProofVersion} {keys : ∀ v, (f v).id = v.id}
    (place : ∀ v, (f v).milestoneId = v.milestoneId ∧ (f v).versionNumber = v.versionNumber)
    (status : ∀ v, p v = true → (f v).status = .submitted → v.status = .submitted)
    (versions : db'.proofVersions = db.proofVersions.updateMany p f keys) : Leaves db db' := by
  constructor
  · intro id row found
    refine ⟨if p row then f row else row,?_,?_⟩
    · rw [versions,Table.getUpdateMany,found]
      rfl
    · split
      · rename_i matched
        exact ⟨(place row).1,(place row).2,status row matched⟩
      · exact ⟨rfl,rfl,fun waits => waits⟩
  · intro ordered milestoneId
    have same := numbersUpdated place versions milestoneId
    refine ⟨by rw [same]; exact (ordered milestoneId).numbered,fun row inside mine waits => ?_⟩
    rw [versions] at inside
    obtain ⟨old,there,rfl⟩ := (Table.memUpdateMany keys).mp inside
    rw [same]
    by_cases matched : p old = true
    · rw [if_pos matched] at mine waits ⊢
      rw [(place old).2]
      exact (ordered milestoneId).last old there ((place old).1.symm.trans mine) (status old matched waits)
    · rw [if_neg matched] at mine waits ⊢
      exact (ordered milestoneId).last old there mine waits

theorem numberListed {row : MilestoneProofVersion} (inside : row ∈ db.proofVersions.rows) (mine : row.milestoneId = milestoneId) :
    row.versionNumber ∈ numbers db milestoneId :=
  List.mem_map.mpr ⟨row,List.mem_filter.mpr ⟨inside,decide_eq_true mine⟩,rfl⟩

theorem numberUsed {row : MilestoneProofVersion}
    (free : (db.proofVersions.findFirst fun v => v.milestoneId = row.milestoneId && v.versionNumber = row.versionNumber) = none) :
    row.versionNumber ∉ numbers db row.milestoneId := by
  intro used
  obtain ⟨other,listed,same⟩ := List.mem_map.mp used
  obtain ⟨inside,mine⟩ := List.mem_filter.mp listed
  have unused := List.find?_eq_none.mp free other inside
  simp [same,of_decide_eq_true mine] at unused

/-- The new version has the next number, and no earlier one of its milestone awaits review. -/
theorem createdNext {past : Db} {row : MilestoneProofVersion} (since : Follows past db) (ordered : Ordered row.milestoneId db)
    (free : (db.proofVersions.findFirst fun v => v.milestoneId = row.milestoneId && v.versionNumber = row.versionNumber) = none)
    (next : row.versionNumber = ((latestVersion past row.milestoneId).map MilestoneProofVersion.versionNumber).getD 0 + 1)
    (reviewed : ∀ latest ∈ latestVersion past row.milestoneId, latest.status ≠ .submitted) :
    row.versionNumber = (numbers db row.milestoneId).length + 1 ∧
    ∀ old ∈ db.proofVersions.rows, old.milestoneId = row.milestoneId → old.status ≠ .submitted := by
  have unused := numberUsed free
  have within : ∀ k, k ∈ numbers db row.milestoneId ↔ 1 ≤ k ∧ k < 1 + (numbers db row.milestoneId).length :=
    fun k => ordered.numbered.mem_iff.trans List.mem_range'_1
  rw [within] at unused
  cases latest : latestVersion past row.milestoneId with
  | none =>
    rw [latest] at next
    simp only [Option.map_none,Option.getD_none] at next
    refine ⟨by omega,fun old inside mine _ => ?_⟩
    have listed := (within _).mp (numberListed inside mine)
    omega
  | some v =>
    rw [latest] at next
    simp only [Option.map_some,Option.getD_some] at next
    obtain ⟨stored,mine,_⟩ := latestMost latest
    obtain ⟨v',there,milestone,number,status⟩ := since v.id v (Table.memGet stored)
    have listed := (within _).mp (number ▸ numberListed (Table.getMem there) (milestone.trans mine))
    refine ⟨by omega,fun old inside its waits => ?_⟩
    have last := ordered.last old inside its waits
    have same : v' = old := orderedUnique ordered (Table.getMem there) inside (milestone.trans mine) its (by omega)
    exact reviewed v latest (status (same ▸ waits))

theorem leavesCreated {past : Db} {row : MilestoneProofVersion} (since : Follows past db)
    (free : (db.proofVersions.findFirst fun v => v.milestoneId = row.milestoneId && v.versionNumber = row.versionNumber) = none)
    (next : row.versionNumber = ((latestVersion past row.milestoneId).map MilestoneProofVersion.versionNumber).getD 0 + 1)
    (reviewed : ∀ latest ∈ latestVersion past row.milestoneId, latest.status ≠ .submitted)
    (made : db.proofVersions.create row = some db'.proofVersions) : Leaves db db' := by
  obtain ⟨_,rows,gets⟩ := Table.createGet made
  constructor
  · intro id old found
    refine ⟨old,?_,rfl,rfl,fun waits => waits⟩
    have key : old.id = id := Table.getKey found
    exact key ▸ Table.memGet ((Table.memCreate made).mpr (Or.inl (Table.getMem found)))
  · intro ordered milestoneId
    have listed : numbers db' milestoneId = numbers db milestoneId ++ if row.milestoneId = milestoneId then [row.versionNumber] else [] := by
      simp only [numbers,Table.findMany,rows,List.filter_append,List.map_append]
      by_cases mine : row.milestoneId = milestoneId <;> simp [mine]
    by_cases mine : row.milestoneId = milestoneId
    · subst mine
      obtain ⟨number,none⟩ := createdNext since (ordered row.milestoneId) free next reviewed
      rw [if_pos rfl] at listed
      refine ⟨?_,?_⟩
      · rw [listed,number,List.length_append,List.length_singleton,List.range'_1_concat,Nat.add_comm 1]
        exact (ordered row.milestoneId).numbered.append_right _
      · intro other inside its waits
        rcases (Table.memCreate made).mp inside with old | rfl
        · exact absurd waits (none other old its)
        · rw [listed,number,List.length_append,List.length_singleton]
    · rw [if_neg mine,List.append_nil] at listed
      refine ⟨by rw [listed]; exact (ordered milestoneId).numbered,fun other inside its waits => ?_⟩
      rw [listed]
      rcases (Table.memCreate made).mp inside with old | rfl
      · exact (ordered milestoneId).last other old its waits
      · exact absurd its mine

theorem leavesSame (same : db'.proofVersions = db.proofVersions) : Leaves db db' := by
  constructor
  · intro id row found
    exact ⟨row,by rwa [same],rfl,rfl,fun waits => waits⟩
  · intro ordered milestoneId
    obtain ⟨numbered,last⟩ := ordered milestoneId
    unfold numbers at numbered last
    exact ⟨by rw [numbers,same]; exact numbered,by rw [numbers,same]; exact last⟩

theorem leavesStep (mine : ∀ d ∈ own, Follows d.before e.before) (changes : Changes request own e) : Leaves e.before e.after := by
  cases changes with
  | same same quiet => exact leavesSame same
  | rewritten quiet p f keys place status versions =>
    refine leavesUpdated place (fun v matched waits => ?_) versions
    rcases status v matched with same | ⟨_,reviewed⟩
    · exact same.symm.trans waits
    · exact absurd waits reviewed
  | created quiet d inside row free next reviewed made => exact leavesCreated (mine d inside) free next reviewed made
  | approved id named accepted f keys place status row stored versions =>
    refine leavesUpdated place (fun v _ waits => ?_) versions
    rw [status v] at waits
    cases waits

theorem reviewedUpdated {p : MilestoneProofVersion → Bool} {f : MilestoneProofVersion → MilestoneProofVersion} {keys : ∀ v, (f v).id = v.id}
    (status : ∀ v ∈ db.proofVersions.rows, p v = true → v.status ≠ .submitted → (f v).status = v.status)
    (versions : db'.proofVersions = db.proofVersions.updateMany p f keys) : Reviewed db db' := by
  intro id row found reviewed
  rw [versions,Table.getUpdateMany,found]
  simp only [Option.map_some,Option.some.injEq]
  split
  · rename_i matched
    exact status row (Table.getMem found) matched reviewed
  · rfl

/-- A call changes no reviewed status unless it approves a version that is rejected. -/
theorem reviewedIff (changes : Changes request own e) : Reviewed e.before e.after ↔
    (e.answer.fails = false → ∀ id ∈ approves request own e, ∀ row ∈ e.before.proofVersions.get? id, row.status ≠ .rejected) := by
  cases changes with
  | same same quiet =>
    refine iff_of_true (fun id row found _ => by rw [same,found]; rfl) fun accepted id named row found => ?_
    rcases quiet id named with failed | missing
    · cases accepted.symm.trans failed
    · cases missing.symm.trans found
  | rewritten quiet p f keys place status versions =>
    refine iff_of_true (reviewedUpdated (fun v _ matched reviewed => ?_) versions) fun _ id named => ?_
    · exact (status v matched).resolve_right fun waits => reviewed waits.1
    · cases quiet.symm.trans named
  | created quiet d inside row free next reviewed made =>
    refine iff_of_true (fun id old found _ => ?_) fun _ id named => by cases quiet.symm.trans named
    have stored : e.after.proofVersions.get? old.id = some old :=
      Table.memGet ((Table.memCreate made).mpr (Or.inl (Table.getMem found)))
    rw [← show old.id = id from Table.getKey found,stored]
    rfl
  | approved id named accepted f keys place status row stored versions =>
    constructor
    · intro reviewed _ id' named' row' stored' rejected
      cases named.symm.trans named'
      cases stored.symm.trans stored'
      have after := reviewed id row stored (by rw [rejected]; nofun)
      rw [versions,Table.getUpdate,if_pos rfl,stored,Option.map_some,Option.map_some,status,rejected] at after
      cases after
    · intro timely
      refine reviewedUpdated (fun v inside matched reviewed => ?_) versions
      have found := Table.memGet inside
      rw [of_decide_eq_true matched] at found
      have unrejected := timely accepted id named v found
      rw [status]
      cases h : v.status with
      | submitted => exact absurd h reviewed
      | approved => rfl
      | rejected => exact absurd h unrejected

end Steps

section Walks

variable {α β : Type} {request : Request} {own : List EscrowEvent} {site : Site}

def Site.writesVersion : Site → Bool
  | .writeProofVersion _ => true
  | _ => false

theorem approvesElsewhere (elsewhere : Site.writesVersion site = false) {thread : Nat} {i : Answer} {db db' : Db} :
    approves request own ⟨thread,site,i,db,db'⟩ = none := by
  cases site <;> first
    | cases elsewhere; done
    | cases request <;> rfl

theorem changesElsewhere (elsewhere : Site.writesVersion site = false) {thread : Nat} {i : Answer} {db db' : Db}
    (same : db'.proofVersions = db.proofVersions) : Changes request own ⟨thread,site,i,db,db'⟩ := by
  refine .same same fun id named => ?_
  rw [approvesElsewhere elsewhere] at named
  cases named

theorem guardedReads {p : Op α} (reads : Reads Site.reads p) : Guarded (Changes request) anyOutcome p own := by
  refine guardedAny (guardedActs (fun later e _ here => ?_) (actsSteps reads))
  obtain ⟨thread,site,i,db,db'⟩ := e
  obtain ⟨read,same⟩ := here
  refine changesElsewhere ?_ (congrArg Db.proofVersions same.symm)
  cases site <;> first | rfl | cases read

theorem guardedElsewhere {f : Answer → Db → Except Exception (α × Db)} (elsewhere : Site.writesVersion site = false)
    (same : ∀ i db value db', f i db = .ok (value,db') → db'.proofVersions = db.proofVersions) :
    Guarded (Changes request) anyOutcome (write site f) own := by
  refine guardedTransact (fun thread i db value db' ok => ⟨changesElsewhere elsewhere ?_,trivial⟩)
    fun thread i db error _ => ⟨changesElsewhere elsewhere rfl,trivial⟩
  split at ok
  · contradiction
  · exact same i db value db' ok

/-- A request that approves nothing. -/
def Plain (request : Request) : Prop := ∀ own e, approves request own e = none

theorem guardedWhere {p : MilestoneProofVersion → Bool} {f : MilestoneProofVersion → MilestoneProofVersion} {keys : ∀ v, (f v).id = v.id}
    (quiet : ∀ e : EscrowEvent, e.site = site → approves request own e = none)
    (place : ∀ v, (f v).milestoneId = v.milestoneId ∧ (f v).versionNumber = v.versionNumber)
    (status : ∀ v, p v = true → (f v).status = v.status ∨ v.status = .submitted ∧ (f v).status ≠ .submitted) :
    Guarded (Changes request) anyOutcome (write site fun _ db => .ok (db.updateVersionsWhere p f keys)) own := by
  refine guardedTransact (fun thread i db value db' ok => ⟨?_,trivial⟩) fun thread i db error _ => ⟨?_,trivial⟩
  · split at ok
    · contradiction
    · cases ok
      exact .rewritten (quiet _ rfl) p f keys place status rfl
  · exact .same rfl fun id named => by cases (quiet _ rfl).symm.trans named

theorem guardedRewrite {milestoneId id : String} {f : MilestoneProofVersion → MilestoneProofVersion} {keys : ∀ v, (f v).id = v.id}
    (quiet : ∀ e : EscrowEvent, e.site = .writeProofVersion milestoneId → approves request own e = none)
    (same : ∀ v, (f v).milestoneId = v.milestoneId ∧ (f v).versionNumber = v.versionNumber ∧ (f v).status = v.status) :
    Guarded (Changes request) anyOutcome (updateVersion milestoneId id f keys) own := by
  refine guardedTransact (fun thread i db value db' ok => ⟨?_,trivial⟩) fun thread i db error _ => ⟨?_,trivial⟩
  · split at ok
    · contradiction
    · obtain ⟨_,found,rest⟩ := exceptBind.mp ok
      obtain ⟨row,stored,rfl⟩ := Db.requiredModify found
      cases rest
      exact .rewritten (quiet _ rfl) _ f keys (fun v => ⟨(same v).1,(same v).2.1⟩) (fun v _ => Or.inl (same v).2.2) rfl
  · exact .same rfl fun id named => by cases (quiet _ rfl).symm.trans named

/-- The approval of a version that was read, or claimed, before. -/
theorem guardedApprove {milestoneId id : String} {f : MilestoneProofVersion → MilestoneProofVersion} {keys : ∀ v, (f v).id = v.id}
    (named : ∀ e : EscrowEvent, e.site = .writeProofVersion milestoneId → approves request own e = some id)
    (place : ∀ v, (f v).milestoneId = v.milestoneId ∧ (f v).versionNumber = v.versionNumber) (status : ∀ v, (f v).status = .approved) :
    Guarded (Changes request) anyOutcome (updateVersion milestoneId id f keys) own := by
  refine guardedTransact (fun thread i db value db' ok => ⟨?_,trivial⟩) fun thread i db error failed => ⟨.same rfl fun id' named' => ?_,trivial⟩
  · split at ok
    · contradiction
    · rename_i accepted
      obtain ⟨_,found,rest⟩ := exceptBind.mp ok
      obtain ⟨row,stored,rfl⟩ := Db.requiredModify found
      cases rest
      exact .approved id (named _ rfl) (Bool.eq_false_of_not_eq_true accepted) f keys place status row stored rfl
  · cases (named _ rfl).symm.trans named'
    split at failed
    · rename_i fails
      exact Or.inl fails
    · refine Or.inr ?_
      cases found : db.proofVersions.get? id with
      | none => rfl
      | some row =>
        simp [Table.modify,found,required] at failed

theorem guardedCreateVersion {milestoneId : String} {versionNumber : Nat} {input : ProofInput} {d : EscrowEvent} (plain : Plain request)
    (inside : d ∈ own)
    (next : versionNumber = ((latestVersion d.before milestoneId).map MilestoneProofVersion.versionNumber).getD 0 + 1)
    (reviewed : ∀ latest ∈ latestVersion d.before milestoneId, latest.status ≠ .submitted) :
    Guarded (Changes request) anyOutcome (createVersion milestoneId versionNumber input) own := by
  refine guardedTransact (fun thread i db value db' ok => ⟨?_,trivial⟩) fun thread i db error _ => ⟨?_,trivial⟩
  · split at ok
    · contradiction
    · dsimp only at ok
      split at ok
      · contradiction
      · rename_i free
        split at ok
        · contradiction
        · rename_i versions made
          cases ok
          exact .created (plain _ _) d inside _ (Option.not_isSome_iff_eq_none.mp free) next reviewed made
  · exact .same rfl fun id named => by cases (plain _ _).symm.trans named

theorem guardedAttempt {milestoneId : String} {input : ProofInput} {lost : Exception → Op MilestoneProofVersion} (plain : Plain request)
    (rest : ∀ error own, Guarded (Changes request) anyOutcome (lost error) own) :
    Guarded (Changes request) anyOutcome (attemptVersion milestoneId input lost) own := by
  refine guardedBind (guardedQuery fun thread i db => ⟨changesElsewhere rfl rfl,?_⟩)
  split
  · rename_i value found
    split at found
    · contradiction
    · cases found
      dsimp only
      split
      · rename_i absent
        have absent : latestVersion db milestoneId = none := absent
        refine guardedElse (guardedCreateVersion plain List.mem_cons_self ?_ ?_) rest
        · rw [absent]
          rfl
        · rw [absent]
          exact fun latest found => absurd found (Option.not_mem_none latest)
      · rename_i version latest
        have latest : latestVersion db milestoneId = some version := latest
        split
        · split
          · refine guardedRewrite (fun e _ => plain _ e) ?_
            exact fun _ => ⟨rfl,rfl,rfl⟩
          · trivial
        · rename_i reviewed
          refine guardedElse (guardedCreateVersion plain List.mem_cons_self ?_ ?_) rest
          · rw [latest]
            rfl
          · rw [latest]
            rintro _ ⟨⟩
            exact reviewed
  · trivial

theorem guardedRecordVersion {milestoneId : String} {input : ProofInput} (plain : Plain request) :
    Guarded (Changes request) anyOutcome (recordVersion milestoneId input) own := by
  refine guardedAttempt plain fun error own => ?_
  split
  · exact guardedAttempt plain fun error own => trivial
  · trivial

theorem guardedPartyRole (engagement : Engagement) (user : PartyUser) (allowed : List PartyRole) (message : String) :
    Guarded (Changes request) anyOutcome (requirePartyRole engagement user allowed message) own := by
  unfold requirePartyRole
  split
  · split <;> trivial
  · trivial

theorem guardedSubmitProof (engagementId : String) (milestoneIndex : Nat) (user : PartyUser) (input : ProofInput) (plain : Plain request) :
    Guarded (Changes request) anyOutcome (submitProof engagementId milestoneIndex user input) own := by
  refine guardedThen (guardedReads (readsFindOr _ _)) fun found own => ?_
  obtain ⟨m,engagement⟩ := found
  refine guardedThen (guardedPartyRole _ _ _ _) fun role own => ?_
  split
  · trivial
  · split
    · trivial
    · refine guardedThen (guardedReads readsNow) fun at' own => guardedThen (guardedWhere (fun e _ => plain _ e) ?_ ?_) fun count own => ?_
      · exact fun _ => ⟨rfl,rfl⟩
      · exact fun v matched => Or.inr ⟨of_decide_eq_true (Bool.and_eq_true_iff.mp matched).2,(by simp)⟩
      · refine guardedThen (guardedRecordVersion plain) fun version own => guardedThen (guardedElsewhere rfl ?_) fun updated own => ?_
        · intro i db value db' ok
          obtain ⟨_,_,_,_,_,rfl⟩ := Db.updateMilestoneCases ok
          rfl
        · exact guardedThen (guardedReads readsNotify) fun _ _ => trivial

theorem guardedRejectProof (engagementId : String) (milestoneIndex : Nat) (user : PartyUser) (reason : String)
    (versionNumber : Option Nat) (plain : Plain request) :
    Guarded (Changes request) anyOutcome (rejectProof engagementId milestoneIndex user reason versionNumber) own := by
  refine guardedThen (guardedReads (readsFindOr _ _)) fun found own => ?_
  obtain ⟨m,engagement⟩ := found
  refine guardedThen (guardedPartyRole _ _ _ _) fun role own => ?_
  split
  · trivial
  · refine guardedThen (guardedReads (readsAssertReviewable _)) fun latest own => ?_
    split
    · trivial
    · refine guardedThen (guardedReads readsNow) fun at' own => guardedThen (guardedWhere (fun e _ => plain _ e) ?_ ?_) fun count own => ?_
      · exact fun _ => ⟨rfl,rfl⟩
      · exact fun v matched => Or.inr ⟨of_decide_eq_true (Bool.and_eq_true_iff.mp matched).2,(by simp)⟩
      · split
        · trivial
        · refine guardedThen (guardedElsewhere rfl ?_) fun updated own => guardedThen (guardedElsewhere rfl ?_) fun _ own => ?_
          · intro i db value db' ok
            obtain ⟨_,_,_,_,_,rfl⟩ := Db.updateMilestoneCases ok
            rfl
          · intro i db value db' ok
            cases ok
            rfl
          · exact guardedThen (guardedReads readsNotify) fun _ _ => trivial

theorem guardedMarkApproved (milestoneId : String) (reviewedById : Option String) :
    Guarded (Changes (.markApproved milestoneId reviewedById)) anyOutcome (markApproved milestoneId reviewedById) own := by
  refine guardedBind (guardedQuery fun thread i db => ⟨changesElsewhere rfl rfl,?_⟩)
  split
  · rename_i value found
    split at found
    · contradiction
    · cases found
      dsimp only
      split
      · trivial
      · rename_i version latest
        have latest : latestVersion db milestoneId = some version := latest
        split
        · trivial
        · refine guardedBind (guardedQuery fun thread' i' db' => ⟨changesElsewhere rfl rfl,?_⟩)
          refine guardedThen (guardedApprove (fun e here => ?_) ?_ fun _ => rfl) fun _ _ => trivial
          · have last : lastRead .proofVersion (⟨thread',.clock,i',db',db'⟩ :: ⟨thread,.find .proofVersion,i,db,db⟩ :: own) = some db :=
              (lastReadCons fun same => by cases same).trans (lastReadSelf rfl)
            obtain ⟨thread₂,_,i₂,before,after⟩ := e
            cases here
            simp only [approves,last,Option.bind_some,latest,Option.map_some]
          · exact fun _ => ⟨rfl,rfl⟩
  · trivial

/-- A step of the job is taken by the version's own row; what follows knows the row. -/
theorem guardedClaim {id : String} {free : MilestoneProofVersion → Bool} {data : MilestoneProofVersion → MilestoneProofVersion}
    {keys : ∀ v, (data v).id = v.id} {k : Bool → Op β}
    (same : ∀ v, (data v).milestoneId = v.milestoneId ∧ (data v).versionNumber = v.versionNumber ∧ (data v).status = v.status)
    (rest : ∀ won (e : EscrowEvent), e.site = .claimProofSla id → Guarded (Changes request) anyOutcome (k won) (e :: own)) :
    Guarded (Changes request) anyOutcome (MilestoneProofSlaService.claim id free data keys >>= k) own := by
  refine guardedBind (guardedTransact (fun thread i db value db' ok => ?_) fun thread i db error _ => ⟨changesElsewhere rfl rfl,trivial⟩)
  split at ok
  · contradiction
  · cases ok
    refine ⟨.rewritten (approvesElsewhere rfl) _ data keys (fun v => ⟨(same v).1,(same v).2.1⟩) (fun v _ => Or.inl (same v).2.2) rfl,?_⟩
    exact rest _ _ rfl

theorem guardedAutoApprove (pending : PendingVersion) (at' : Nat) {claim : EscrowEvent} (here : claim.site = .claimProofSla pending.version.id) :
    Guarded (Changes .runProofSlaChecks) anyOutcome (autoApprove pending at') (claim :: own) := by
  refine guardedBind (guardedHandle (guardedQuery fun thread i db => ⟨changesElsewhere rfl rfl,?_⟩))
  split
  · refine guardedBind (guardedBind (guardedQuery fun thread' i' db' => ⟨changesElsewhere rfl rfl,?_⟩))
    refine guardedTransact (fun thread'' i'' db'' m db₂ ok => ?_) fun _ _ _ _ _ => ⟨changesElsewhere rfl rfl,trivial⟩
    split at ok
    · contradiction
    · have same : db₂.proofVersions = db''.proofVersions := by
        obtain ⟨m,_,updated⟩ := exceptBind.mp ok
        obtain ⟨_,_,_,_,_,rfl⟩ := Db.updateMilestoneCases updated
        rfl
      refine ⟨changesElsewhere rfl same,guardedThen (guardedApprove (fun e written => ?_) ?_ fun _ => rfl) fun _ own => ?_⟩
      · obtain ⟨thread₂,_,i₂,before,after⟩ := e
        cases written
        simp [approves,claimed,here]
      · exact fun _ => ⟨rfl,rfl⟩
      · exact guardedReads (readsBind readsNotify fun _ => readsNotify)
  · refine guardedBind (guardedMono ?_ (guardedRewrite (fun e written => ?_) ?_))
    · intro own out _
      cases out <;> trivial
    · obtain ⟨thread₂,_,i₂,before,after⟩ := e
      cases written
      rfl
    · exact fun _ => ⟨rfl,rfl,rfl⟩

theorem guardedCheck (at' : Nat) (summary : ProofSlaRunSummary) (pending : PendingVersion) :
    Guarded (Changes .runProofSlaChecks) anyOutcome (check at' summary pending) own := by
  refine guardedElse ?_ fun _ _ => trivial
  unfold evaluate
  split
  · refine guardedClaim ?_ fun won claim here => ?_
    · exact fun _ => ⟨rfl,rfl,rfl⟩
    · split
      · trivial
      · split
        · exact guardedThen (guardedAutoApprove pending at' here) fun _ _ => trivial
        · refine guardedReads (readsBind ?_ fun _ => trivial)
          exact readsBind (readsFind _ _) fun admins => readsBind (stepsForEach (fun _ => readsNotify) _) fun _ => readsNotify
  · split
    · refine guardedClaim ?_ fun won claim here => ?_
      · exact fun _ => ⟨rfl,rfl,rfl⟩
      · split
        · trivial
        · exact guardedReads (readsBind readsNotify fun _ => trivial)
    · split
      · refine guardedClaim ?_ fun won claim here => ?_
        · exact fun _ => ⟨rfl,rfl,rfl⟩
        · split
          · trivial
          · exact guardedReads (readsBind readsNotify fun _ => trivial)
      · trivial

theorem guardedRunProofSlaChecks : Guarded (Changes .runProofSlaChecks) anyOutcome runProofSlaChecks own := by
  refine guardedThen (guardedReads readsNow) fun at' own => guardedThen (guardedReads (readsQuery rfl _)) fun locked own => ?_
  split
  · trivial
  · refine guardedThen (guardedElse ?_ fun error own => ?_) fun _ own => guardedReads (readsBind (readsQuery rfl _) fun _ => trivial)
    · refine guardedThen (guardedReads (readsFind _ _)) fun pending own => ?_
      exact guardedFoldEach (fun summary version own => guardedCheck at' summary version) {} pending own
    · exact guardedReads (readsBind (readsQuery rfl _) fun _ => trivial)

theorem guardedHandler (request : Request) : Guarded (Changes request) anyOutcome (handler request) [] := by
  cases request with
  | submitProof => exact guardedThen (guardedSubmitProof _ _ _ _ fun _ _ => rfl) fun _ _ => trivial
  | recordVersion => exact guardedThen (guardedRecordVersion fun _ _ => rfl) fun _ _ => trivial
  | rejectProof => exact guardedThen (guardedRejectProof _ _ _ _ _ fun _ _ => rfl) fun _ _ => trivial
  | markApproved => exact guardedThen (guardedMarkApproved _ _) fun _ _ => trivial
  | runProofSlaChecks => exact guardedThen guardedRunProofSlaChecks fun _ _ => trivial

end Walks

section Runs

/-- The versions are in order, and every one that was ever there is still in its place. -/
structure Kept (c : EscrowSnapshot) : Prop where
  ordered : ∀ milestoneId, Ordered milestoneId c.world
  follows : ∀ d ∈ c.history, Follows d.before c.world

theorem keptRecord {request : Request} {c : EscrowSnapshot} {thread : Nat} {site : Site} {i : Answer} {db' : Db} (kept : Kept c)
    (changes : Changes request (c.history.filter fun e => e.thread = thread) (c.event thread site i db')) :
    Kept (c.record thread site i db') := by
  have leaves : Leaves c.world db' := leavesStep (fun d inside => kept.follows d (List.mem_of_mem_filter inside)) changes
  refine ⟨leaves.ordered kept.ordered,fun d inside => ?_⟩
  rcases List.mem_cons.mp inside with rfl | earlier
  · exact leaves.follows
  · exact followsTrans (kept.follows d earlier) leaves.follows

/-- In every run the versions of each milestone are numbered from one on and only the
last may await review; a reviewed version changes its status in exactly those runs in
which some approval finds its version rejected. -/
theorem soundHistory (db : Db) (sound : ∀ milestoneId, Sound milestoneId db) (moves : List HistoryMove) :
    (∀ milestoneId, Sound milestoneId (service.run (Pool.initial db) moves).world) ∧
    ((∀ e ∈ (service.run (Pool.initial db) moves).history, Reviewed e.before e.after) ↔
      Meets Timely (service.run (Pool.initial db) moves)) := by
  have begin : GuardedPool Changes Kept (Pool.initial db : Pool Request Site Answer Db Exception Unit) := by
    refine guardedInitial ⟨fun milestoneId => ⟨(sound milestoneId).numbered,(sound milestoneId).last⟩,?_⟩
    exact fun d inside => absurd inside List.not_mem_nil
  have run : GuardedPool Changes Kept (service.run (Pool.initial db) moves) := by
    refine guardedRun (P := fun _ _ _ => True) ?_ ?_ guardedHandler begin moves (meetsAlways (fun _ _ _ _ => trivial) _)
    · exact fun request c thread site i db' kept changes _ => keptRecord kept changes
    · exact fun elapsed c kept => ⟨fun id => ⟨(kept.ordered id).numbered,(kept.ordered id).last⟩,kept.follows⟩
  refine ⟨fun milestoneId => soundOrdered (run.holds.ordered milestoneId),fun reviewed => ?_,fun timely e inside => ?_⟩
  · refine meetsIff.mpr fun earlier e suffix t there accepted => ?_
    have changes := meetsIff.mp run.seen earlier e suffix t there
    exact (reviewedIff changes).mp (reviewed e (suffix.subset List.mem_cons_self)) accepted
  · obtain ⟨recent,earlier,split⟩ := List.append_of_mem inside
    have suffix : e :: earlier <:+ (service.run (Pool.initial db) moves).history := ⟨recent,split.symm⟩
    obtain ⟨t,there⟩ : ∃ t, (service.run (Pool.initial db) moves).threads[e.thread]? = some t :=
      ⟨_,List.getElem?_eq_getElem (run.known e inside)⟩
    exact (reviewedIff (meetsIff.mp run.seen earlier e suffix t there)).mpr (meetsIff.mp timely earlier e suffix t there)

def placement : Db where
  engagements := .single { id := "e", companyAddress := "GC", recruiterAddress := "GR", arbiterAddress := "GA", totalAmount := 1000 }
  milestones := .single { id := "m", engagementId := "e", milestoneIndex := 0, name := "placed", kind := .placement, paymentPercent := 100 }

theorem placementSound (milestoneId : String) : Sound milestoneId placement :=
  ⟨.nil,Nat.zero_le 1,fun _ inside => absurd inside List.not_mem_nil⟩

def submit (content : String) : Request := .submitProof "e" 0 { stellarAddress := some "GR" } { content := some content }

def reject : Request := .rejectProof "e" 0 { stellarAddress := some "GC" } "unsigned" none

def granted (id : String) (count : Nat) : List Answer := .replicate count { text := id }

def submittedOnce : List HistoryMove := [.start (submit "report")] ++ answered 0 (granted "v" 7)

def submittedAgain : List HistoryMove :=
  submittedOnce ++ [.start reject] ++ answered 1 (granted "" 7) ++ [.start (submit "contract")] ++ answered 2 (granted "w" 7) ++
  [.start (.markApproved "m" (some "u"))] ++ answered 3 (granted "" 3)

theorem soundHistoryApproved :
    Sound "m" (service.run (Pool.initial placement) submittedAgain).world ∧
    (∀ e ∈ (service.run (Pool.initial placement) submittedAgain).history, Reviewed e.before e.after) ∧
    (service.run (Pool.initial placement) submittedAgain).world.proofVersions.rows.map MilestoneProofVersion.status = [.rejected,.approved] := by
  have history := soundHistory placement placementSound submittedAgain
  exact ⟨history.1 "m",history.2.mpr (by decide +kernel),by decide +kernel⟩

/-- The approval has read the version when the company rejects it. -/
def crossed : List HistoryMove :=
  submittedOnce ++ [.start (.markApproved "m" (some "u"))] ++ answered 1 (granted "" 1) ++ [.start reject] ++ answered 2 (granted "" 7)

theorem rejectedApproved :
    ¬ Reviewed (service.run (Pool.initial placement) crossed).world
      (service.run (Pool.initial placement) (crossed ++ answered 1 (granted "" 2))).world ∧
    (service.run (Pool.initial placement) crossed).world.proofVersions.rows.map MilestoneProofVersion.status = [.rejected] ∧
    (service.run (Pool.initial placement) (crossed ++ answered 1 (granted "" 2))).world.proofVersions.rows.map
      MilestoneProofVersion.status = [.approved] := by
  have before : ((service.run (Pool.initial placement) crossed).world.proofVersions.get? "v").map MilestoneProofVersion.status =
      some .rejected := by decide +kernel
  have after : ((service.run (Pool.initial placement) (crossed ++ answered 1 (granted "" 2))).world.proofVersions.get? "v").map
      MilestoneProofVersion.status = some .approved := by decide +kernel
  refine ⟨fun reviewed => ?_,by decide +kernel,by decide +kernel⟩
  obtain ⟨row,found,rejected⟩ := Option.map_eq_some_iff.mp before
  have same := after.symm.trans (reviewed "v" row found (by rw [rejected]; nofun))
  rw [rejected] at same
  cases same

end Runs

end HireSettle.Escrow.ProofHistory
