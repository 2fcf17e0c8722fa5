import HireSettle.Escrow.ProofApprovals

/-! The latest proof version of a milestone: the one with the greatest number. An
update that leaves the numbers alone keeps it, a version with a greater number
takes its place, and the versions of other milestones have no say. -/
namespace HireSettle.Escrow.LatestVersions
open Workflow ProofApprovals

variable {db : Db} {id : String}

instance : Std.Total latestFirst := ⟨fun a b => Nat.le_total b.versionNumber a.versionNumber⟩

instance : IsTrans MilestoneProofVersion latestFirst := ⟨fun _ _ _ first second => Nat.le_trans second first⟩

theorem latestMost {v : MilestoneProofVersion} (found : latestVersion db id = some v) :
    v ∈ db.proofVersions.rows ∧ v.milestoneId = id ∧
      ∀ row ∈ db.proofVersions.rows, row.milestoneId = id → row.versionNumber ≤ v.versionNumber := by
  unfold latestVersion at found
  have inside := (List.mem_insertionSort latestFirst).mp (List.mem_of_head? found)
  obtain ⟨stored,its⟩ := List.mem_filter.mp inside
  refine ⟨stored,of_decide_eq_true its,fun row there mine => ?_⟩
  have sorted := List.pairwise_insertionSort latestFirst (db.proofVersions.findMany fun row => row.milestoneId = id)
  obtain ⟨rest,split⟩ := List.head?_eq_some_iff.mp found
  have listed : row ∈ (db.proofVersions.findMany fun row => row.milestoneId = id).insertionSort latestFirst :=
    (List.mem_insertionSort latestFirst).mpr (List.mem_filter.mpr ⟨there,decide_eq_true mine⟩)
  rw [split] at sorted listed
  rcases List.mem_cons.mp listed with rfl | later
  · exact Nat.le_refl _
  · exact (List.pairwise_cons.mp sorted).1 row later

theorem latestNone (missing : latestVersion db id = none) : ∀ row ∈ db.proofVersions.rows, row.milestoneId ≠ id := by
  intro row there mine
  have empty := List.head?_eq_none_iff.mp missing
  have listed : row ∈ (db.proofVersions.findMany fun row => row.milestoneId = id).insertionSort latestFirst :=
    (List.mem_insertionSort latestFirst).mpr (List.mem_filter.mpr ⟨there,decide_eq_true mine⟩)
  rw [empty] at listed
  cases listed

/-- What has been found to have the greatest number is the latest version. -/
theorem latestIs {v : MilestoneProofVersion} (stored : v ∈ db.proofVersions.rows) (its : v.milestoneId = id)
    (most : ∀ row ∈ db.proofVersions.rows, row.milestoneId = id → row ≠ v → row.versionNumber < v.versionNumber) :
    latestVersion db id = some v := by
  cases found : latestVersion db id with
  | none => exact absurd its (latestNone found v stored)
  | some w =>
    obtain ⟨there,mine,greatest⟩ := latestMost found
    by_cases same : w = v
    · rw [same]
    · have less := most w there mine same
      have more := greatest v stored its
      omega

theorem latestMapped {db' : Db} {g : MilestoneProofVersion → MilestoneProofVersion}
    (keeps : ∀ row, (g row).milestoneId = row.milestoneId ∧ (g row).versionNumber = row.versionNumber)
    (rows : db'.proofVersions.rows = db.proofVersions.rows.map g) : latestVersion db' id = (latestVersion db id).map g := by
  have kept : (db.proofVersions.rows.map g).filter (fun row => row.milestoneId = id) =
      (db.proofVersions.rows.filter fun row => row.milestoneId = id).map g := by
    rw [List.filter_map]
    simp only [Function.comp_def,keeps]
  rw [latestVersion,latestVersion,Table.findMany,Table.findMany,rows,kept,← List.map_insertionSort latestFirst latestFirst g _
    (fun a _ b _ => by simp only [latestFirst,keeps]),List.head?_map]

theorem latestUpdated {p : MilestoneProofVersion → Bool} {f : MilestoneProofVersion → MilestoneProofVersion}
    {keys : ∀ v, (f v).id = v.id} (keeps : ∀ row, (f row).milestoneId = row.milestoneId ∧ (f row).versionNumber = row.versionNumber) :
    latestVersion (db.updateVersionsWhere p f keys).2 id = (latestVersion db id).map fun row => if p row then f row else row := by
  refine latestMapped (fun row => ?_) rfl
  split
  · exact keeps row
  · exact ⟨rfl,rfl⟩

theorem latestUpdate {versionId : String} {f : MilestoneProofVersion → MilestoneProofVersion} {keys : ∀ v, (f v).id = v.id}
    (keeps : ∀ row, (f row).milestoneId = row.milestoneId ∧ (f row).versionNumber = row.versionNumber) (id : String) :
    latestVersion { db with proofVersions := db.proofVersions.update versionId f keys } id =
      (latestVersion db id).map fun row => if row.id = versionId then f row else row := by
  refine latestMapped (fun row => ?_) ?_
  · split
    · exact keeps row
    · exact ⟨rfl,rfl⟩
  · exact List.map_congr_left fun row _ => if_congr decide_eq_true_iff rfl rfl

theorem latestUpdateElsewhere {version : MilestoneProofVersion} {f : MilestoneProofVersion → MilestoneProofVersion}
    {keys : ∀ v, (f v).id = v.id} (keeps : ∀ row, (f row).milestoneId = row.milestoneId ∧ (f row).versionNumber = row.versionNumber)
    (stored : version ∈ db.proofVersions.rows) (other : version.milestoneId ≠ id) :
    latestVersion { db with proofVersions := db.proofVersions.update version.id f keys } id = latestVersion db id := by
  rw [latestUpdate keeps]
  cases found : latestVersion db id with
  | none => rfl
  | some row =>
    obtain ⟨there,its,_⟩ := latestMost found
    have apart : ¬ row.id = version.id := by
      intro same
      have found' : db.proofVersions.get? version.id = some row := same ▸ Table.memGet there
      cases found'.symm.trans (Table.memGet stored)
      exact other its
    rw [Option.map_some,if_neg apart]

theorem latestCreated {row : MilestoneProofVersion} {versions : Table MilestoneProofVersion}
    (made : db.proofVersions.create row = some versions)
    (most : ∀ old ∈ db.proofVersions.rows, old.milestoneId = row.milestoneId → old.versionNumber < row.versionNumber) :
    latestVersion { db with proofVersions := versions } row.milestoneId = some row := by
  refine latestIs ((Table.memCreate made).mpr (Or.inr rfl)) rfl fun other there mine differs => ?_
  rcases (Table.memCreate made).mp there with old | rfl
  · exact most other old mine
  · exact absurd rfl differs

theorem latestElsewhere {row : MilestoneProofVersion} {versions : Table MilestoneProofVersion}
    (made : db.proofVersions.create row = some versions) (other : row.milestoneId ≠ id) :
    latestVersion { db with proofVersions := versions } id = latestVersion db id := by
  have same : versions.rows.filter (fun row => row.milestoneId = id) = db.proofVersions.rows.filter fun row => row.milestoneId = id := by
    rw [(Table.createGet made).2.1,List.filter_append]
    simp [other]
  rw [latestVersion,latestVersion,Table.findMany,Table.findMany,same]

theorem latestRows {db' : Db} (same : db'.proofVersions = db.proofVersions) (id : String) :
    latestVersion db' id = latestVersion db id := by
  rw [latestVersion,latestVersion,same]

end HireSettle.Escrow.LatestVersions
