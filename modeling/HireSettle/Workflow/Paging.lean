import Mathlib

/-! A list merged from several sources and read page by page, when each page skips
and cuts every source and then the merged list again. Each request may arrange
the rows of a source in an order of its own. -/
namespace Workflow.Paging

section Pages
variable {α : Type} (time : α → Int)

def newestFirst (rows : List α) : List α := rows.insertionSort fun a b => time b ≤ time a

def merged (sources : List (List α)) (skip limit : Nat) : List α :=
  newestFirst time (sources.flatMap fun rows => (rows.drop skip).take limit)

def page (sources : List (List α)) (skip limit : Nat) : List α := ((merged time sources skip limit).drop skip).take limit

def pageCount (total limit : Nat) : Nat := (total + limit - 1) / limit

/-- What a reader of the first page and then of every page it announces has seen. -/
def readAll (sources : Nat → List (List α)) (limit : Nat) : List α :=
  (List.range (pageCount (merged time (sources 1) 0 limit).length limit)).flatMap fun i =>
    page time (sources (i + 1)) (i * limit) limit

structure Partition (sources : Nat → List (List α)) (limit : Nat) (rows : List α) : Prop where
  total : ∀ i, i = 0 ∨ i < pageCount (merged time (sources 1) 0 limit).length limit →
    (merged time (sources (i + 1)) (i * limit) limit).length = rows.length
  pages : (readAll time sources limit).Perm rows
  newest : (readAll time sources limit).Pairwise fun a b => time b ≤ time a

end Pages

section Sorted
variable {α : Type} {time : α → Int}

theorem newestFirstPerm (rows : List α) : (newestFirst time rows).Perm rows := List.perm_insertionSort _ rows

theorem newestFirstSorted (rows : List α) : (newestFirst time rows).Pairwise fun a b => time b ≤ time a := by
  have : Std.Total fun a b : α => time b ≤ time a := ⟨fun a b => le_total (time b) (time a)⟩
  have : IsTrans α fun a b => time b ≤ time a := ⟨fun _ _ _ first second => second.trans first⟩
  exact List.pairwise_insertionSort _ rows

theorem mergedLength (sources : List (List α)) (skip limit : Nat) :
    (merged time sources skip limit).length = (sources.map fun rows => min limit (rows.length - skip)).sum := by
  rw [merged,(newestFirstPerm _).length_eq,List.length_flatMap]
  simp only [List.length_take,List.length_drop]

end Sorted

section Sources
variable {α : Type} {time : α → Int} {whole arranged : List (List α)} {sources : Nat → List (List α)} {limit : Nat}

theorem arrangedLengths (same : List.Forall₂ List.Perm arranged whole) : arranged.map List.length = whole.map List.length := by
  induction same with
  | nil => rfl
  | cons first rest ih => rw [List.map_cons,List.map_cons,first.length_eq,ih]

theorem arrangedFlatten (same : List.Forall₂ List.Perm arranged whole) : arranged.flatten.Perm whole.flatten := by
  induction same with
  | nil => exact List.Perm.refl _
  | cons first rest ih => exact first.append ih

theorem mergedTotal (same : List.Forall₂ List.Perm arranged whole) (skip : Nat) :
    (merged time arranged skip limit).length = (whole.map fun rows => min limit (rows.length - skip)).sum := by
  have lengths := congrArg (List.map fun n => min limit (n - skip)) (arrangedLengths same)
  simp only [List.map_map,Function.comp_def] at lengths
  rw [mergedLength,lengths]

theorem cutSum (whole : List (List α)) : (whole.map fun rows => min limit rows.length).sum ≤ whole.flatten.length := by
  induction whole with
  | nil => exact Nat.le_refl _
  | cons rows rest ih =>
      rw [List.map_cons,List.sum_cons,List.flatten_cons,List.length_append]
      omega

-- a total that leaves nothing out has cut no source
theorem uncut (total : (whole.map fun rows => min limit rows.length).sum = whole.flatten.length) :
    ∀ rows ∈ whole, rows.length ≤ limit := by
  induction whole with
  | nil => simp
  | cons rows rest ih =>
      rw [List.map_cons,List.sum_cons,List.flatten_cons,List.length_append] at total
      have bound : (rest.map fun rows => min limit rows.length).sum ≤ rest.flatten.length := cutSum rest
      exact List.forall_mem_cons.mpr ⟨by omega,ih (by omega)⟩

theorem skippedEmpty (same : List.Forall₂ List.Perm arranged whole) (short : ∀ rows ∈ whole, rows.length ≤ limit) {skip : Nat}
    (past : limit ≤ skip) : page time arranged skip limit = [] := by
  have none : (merged time arranged skip limit).length = 0 := by
    rw [mergedTotal same]
    refine List.sum_eq_zero fun n inside => ?_
    obtain ⟨rows,here,rfl⟩ := List.mem_map.mp inside
    have := short rows here
    omega
  rw [page,List.eq_nil_of_length_eq_zero none,List.drop_nil,List.take_nil]

theorem pageLength (sources : List (List α)) (skip limit : Nat) : (page time sources skip limit).length ≤ limit := by
  rw [page,List.length_take]
  exact Nat.min_le_left _ _

theorem pageCountOne {total : Nat} (some : 0 < total) (few : total ≤ limit) : pageCount total limit = 1 := by
  rw [pageCount]
  exact Nat.div_eq_of_lt_le (by omega) (by omega)

theorem firstMerged (same : List.Forall₂ List.Perm arranged whole) (few : whole.flatten.length ≤ limit) :
    (merged time arranged 0 limit).Perm whole.flatten := by
  refine (newestFirstPerm _).trans (.trans (.of_eq ?_) (arrangedFlatten same))
  rw [List.flatten_eq_flatMap]
  refine List.flatMap_congr fun rows inside => ?_
  have part := (List.sublist_flatten_of_mem inside).length_le
  rw [(arrangedFlatten same).length_eq] at part
  rw [List.drop_zero,List.take_of_length_le (part.trans few),id]

/-- The pages are the rows only when they fit on one page. -/
theorem partitionIff (arranged : ∀ request, List.Forall₂ List.Perm (sources request) whole) (positive : 0 < limit) :
    Partition time sources limit whole.flatten ↔ whole.flatten.length ≤ limit := by
  constructor
  · intro parts
    have first := parts.total 0 (.inl rfl)
    rw [Nat.zero_mul,mergedTotal (arranged 1)] at first
    have short := uncut first
    have seen := parts.pages.length_eq
    rw [readAll] at seen
    cases announced : pageCount (merged time (sources 1) 0 limit).length limit with
    | zero =>
        rw [announced,List.range_zero,List.flatMap_nil,List.length_nil] at seen
        omega
    | succ more =>
        have rest : (List.range more).flatMap (fun i => page time (sources (i + 1 + 1)) ((i + 1) * limit) limit) = [] := by
          refine List.flatMap_eq_nil_iff.mpr fun i _ => skippedEmpty (arranged _) short ?_
          rw [Nat.succ_mul]
          exact Nat.le_add_left limit (i * limit)
        rw [announced,List.range_succ_eq_map,List.flatMap_cons,List.flatMap_map,rest,List.append_nil] at seen
        exact seen ▸ pageLength _ _ _
  · intro few
    have first : (merged time (sources 1) 0 limit).Perm whole.flatten := firstMerged (arranged 1) few
    have one : readAll time sources limit = merged time (sources 1) 0 limit := by
      rw [readAll,first.length_eq]
      cases size : whole.flatten.length with
      | zero =>
          rw [pageCount,Nat.div_eq_of_lt (by omega),List.range_zero,List.flatMap_nil]
          exact (List.eq_nil_of_length_eq_zero (first.length_eq.trans size)).symm
      | succ n =>
          rw [pageCountOne (by omega) (by omega),List.range_one,List.flatMap_singleton,page,Nat.zero_mul,List.drop_zero,
            List.take_of_length_le (first.length_eq.trans_le few)]
    refine ⟨fun i announced => ?_,one ▸ first,one ▸ newestFirstSorted _⟩
    rw [first.length_eq] at announced
    have none : i = 0 := by
      obtain here | inside := announced
      · exact here
      · obtain empty | some := Nat.eq_zero_or_pos whole.flatten.length
        · rw [empty,pageCount,Nat.div_eq_of_lt (by omega)] at inside
          cases inside
        · rw [pageCountOne some few] at inside
          omega
    rw [none,Nat.zero_mul]
    exact first.length_eq

end Sources
end Workflow.Paging
