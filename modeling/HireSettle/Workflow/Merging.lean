import Mathlib

/-! Merging sorted lists by taking, again and again, the least of their heads. Of
equal heads the first list's is taken. -/
namespace Workflow.Merging

section Choose
variable {α : Type} (before : α → α → Bool)

def choose : List (Option α) → Nat → Option (Nat × α) → Option (Nat × α)
  | [], _, selected => selected
  | none :: heads, i, selected => choose heads (i + 1) selected
  | some row :: heads, i, none => choose heads (i + 1) (some (i,row))
  | some row :: heads, i, some (j,least) => choose heads (i + 1) (some (if before row least then (i,row) else (j,least)))

def merge : Nat → List (List α) → Option (List α)
  | 0, _ => none
  | fuel + 1, lists =>
      match choose before (lists.map List.head?) 0 none with
      | none => some []
      | some (i,row) => (merge fuel (lists.modify i List.tail)).map (row :: ·)

/-- The head chosen of those from the index `k` on, or the one selected before them. -/
structure Least (heads : List (Option α)) (k : Nat) (selected : Option (Nat × α)) (chosen : Nat × α) : Prop where
  place : (k ≤ chosen.1 ∧ heads[chosen.1 - k]? = some (some chosen.2)) ∨ selected = some chosen
  heads : ∀ other, some other ∈ heads → before other chosen.2 = false
  kept : ∀ other, selected = some other → before other.2 chosen.2 = false

theorem placeShifted {head : Option α} {heads : List (Option α)} {i k : Nat} {row : Option α}
    (place : k + 1 ≤ i ∧ heads[i - (k + 1)]? = some row) : k ≤ i ∧ (head :: heads)[i - k]? = some row := by
  refine ⟨Nat.le_of_succ_le place.1,?_⟩
  rw [← Nat.sub_add_cancel (Nat.le_sub_of_add_le' place.1),List.getElem?_cons_succ,Nat.sub_sub]
  exact place.2

theorem placeHere (head : Option α) (heads : List (Option α)) (k : Nat) : k ≤ k ∧ (head :: heads)[k - k]? = some head := by
  rw [Nat.sub_self]
  exact ⟨Nat.le_refl k,rfl⟩

theorem chooseNone {heads : List (Option α)} (empty : ∀ head ∈ heads, head = none) (k : Nat) : choose before heads k none = none := by
  induction heads generalizing k with
  | nil => rfl
  | cons head heads ih =>
      obtain ⟨rfl,rest⟩ := List.forall_mem_cons.mp empty
      exact ih rest (k + 1)

variable {before} (later : ∀ a b c, before b a = false → before c b = false → before c a = false)
  (asymmetric : ∀ a b, before a b = true → before b a = false)
include later asymmetric

theorem leastNext {row : α} {first : Nat × α} {heads : List (Option α)} {k : Nat} {chosen : Nat × α}
    (least : Least before heads (k + 1) (some (if before row first.2 then (k,row) else first)) chosen) :
    Least before (some row :: heads) k (some first) chosen := by
  have both : before row chosen.2 = false ∧ before first.2 chosen.2 = false := by
    have above := least.kept _ rfl
    cases earlier : before row first.2 with
    | true =>
        rw [earlier] at above
        exact ⟨above,later _ _ _ above (asymmetric _ _ earlier)⟩
    | false =>
        rw [earlier] at above
        exact ⟨later _ _ _ above earlier,above⟩
  constructor
  · obtain place | same := least.place
    · exact .inl (placeShifted place)
    · cases earlier : before row first.2 with
      | true =>
          rw [earlier] at same
          cases same
          exact .inl (placeHere _ heads k)
      | false =>
          rw [earlier] at same
          exact .inr same
  · intro other inside
    obtain same | inside := List.mem_cons.mp inside
    · cases same
      exact both.1
    · exact least.heads other inside
  · intro other same
    cases same
    exact both.2

theorem chooseLeast (heads : List (Option α)) (k : Nat) (selected : Option (Nat × α)) :
    (choose before heads k selected).elim (selected = none ∧ ∀ head ∈ heads, head = none) (Least before heads k selected) := by
  have irreflexive : ∀ a, before a a = false := fun a => by
    cases same : before a a with
    | false => rfl
    | true => exact same.symm.trans (asymmetric a a same)
  fun_induction choose before heads k selected with
  | case1 k selected =>
      cases selected with
      | none => exact ⟨rfl,nofun⟩
      | some chosen => exact ⟨.inr rfl,nofun,fun other same => by cases same; exact irreflexive _⟩
  | case2 heads k selected ih =>
      revert ih
      cases choose before heads (k + 1) selected with
      | none => exact fun ⟨fresh,empty⟩ => ⟨fresh,List.forall_mem_cons.mpr ⟨rfl,empty⟩⟩
      | some chosen =>
          intro least
          exact ⟨least.place.imp_left placeShifted,fun other inside => least.heads other ((List.mem_cons.mp inside).resolve_left nofun),
            least.kept⟩
  | case3 row heads k ih =>
      revert ih
      cases choose before heads (k + 1) (some (k,row)) with
      | none => exact fun ⟨fresh,_⟩ => nomatch fresh
      | some chosen =>
          intro least
          constructor
          · obtain place | same := least.place
            · exact .inl (placeShifted place)
            · cases same
              exact .inl (placeHere _ heads _)
          · intro other inside
            obtain same | inside := List.mem_cons.mp inside
            · cases same
              exact least.kept _ rfl
            · exact least.heads other inside
          · exact nofun
  | case4 row heads k j first ih =>
      revert ih
      cases choose before heads (k + 1) (some (if before row first then (k,row) else (j,first))) with
      | none => exact fun ⟨fresh,_⟩ => nomatch fresh
      | some chosen =>
          intro least
          have next : Least before heads (k + 1) (some (if before row (j,first).2 then (k,row) else (j,first))) chosen := least
          exact leastNext later asymmetric next

end Choose

section Merge
variable {α : Type} {before : α → α → Bool}

def Sorted (before : α → α → Bool) (rows : List α) : Prop := rows.Pairwise fun a b => before b a = false

theorem takenHead {lists : List (List α)} {i : Nat} {row : α} (place : (lists.map List.head?)[i]? = some (some row)) :
    lists.flatten.Perm (row :: (lists.modify i List.tail).flatten) := by
  induction lists generalizing i with
  | nil => cases place
  | cons list lists ih =>
      cases i with
      | zero =>
          rw [List.map_cons,List.getElem?_cons_zero,Option.some_inj,List.head?_eq_some_iff] at place
          obtain ⟨rest,rfl⟩ := place
          exact List.Perm.refl _
      | succ i =>
          rw [List.map_cons,List.getElem?_cons_succ] at place
          rw [List.modify_succ_cons,List.flatten_cons,List.flatten_cons]
          exact ((ih place).append_left list).trans List.perm_middle

theorem tailsSorted {lists : List (List α)} (sorted : ∀ list ∈ lists, Sorted before list) (i : Nat) :
    ∀ list ∈ lists.modify i List.tail, Sorted before list := by
  induction lists generalizing i with
  | nil =>
      intro list inside
      rw [List.modify_nil] at inside
      cases inside
  | cons first lists ih =>
      obtain ⟨here,there⟩ := List.forall_mem_cons.mp sorted
      cases i with
      | zero => exact List.forall_mem_cons.mpr ⟨here.sublist (List.tail_sublist first),there⟩
      | succ i => exact List.forall_mem_cons.mpr ⟨here,ih there i⟩

theorem headsEmpty {lists : List (List α)} (empty : ∀ head ∈ lists.map List.head?, head = none) : lists.flatten = [] := by
  rw [List.flatten_eq_nil_iff]
  exact fun list inside => List.head?_eq_none_iff.mp (empty _ (List.mem_map_of_mem inside))

theorem mergeMore {lists : List (List α)} {rows : List α} {fuel more : Nat} (merged : merge before fuel lists = some rows)
    (enough : fuel ≤ more) : merge before more lists = some rows := by
  induction fuel generalizing lists rows more with
  | zero => cases merged
  | succ fuel ih =>
      obtain ⟨more,rfl⟩ := Nat.exists_eq_succ_of_ne_zero (Nat.ne_of_gt (Nat.lt_of_lt_of_le (Nat.succ_pos fuel) enough))
      rw [merge] at merged ⊢
      cases chosen : choose before (lists.map List.head?) 0 none with
      | none =>
          rw [chosen] at merged
          exact merged
      | some found =>
          rw [chosen] at merged
          obtain ⟨rest,onwards,joined⟩ := Option.map_eq_some_iff.mp merged
          exact Option.map_eq_some_iff.mpr ⟨rest,ih onwards (Nat.le_of_succ_le_succ enough),joined⟩

variable (later : ∀ a b c, before b a = false → before c b = false → before c a = false)
  (asymmetric : ∀ a b, before a b = true → before b a = false)
include later asymmetric

theorem mergeSorted {lists : List (List α)} (sorted : ∀ list ∈ lists, Sorted before list) {fuel : Nat}
    (enough : lists.flatten.length < fuel) :
    ∃ rows, merge before fuel lists = some rows ∧ rows.Perm lists.flatten ∧ Sorted before rows := by
  induction fuel generalizing lists with
  | zero => cases enough
  | succ fuel ih =>
      have least := chooseLeast later asymmetric (lists.map List.head?) 0 none
      rw [merge]
      cases chosen : choose before (lists.map List.head?) 0 none with
      | none =>
          rw [chosen] at least
          rw [headsEmpty least.2]
          exact ⟨[],rfl,List.Perm.refl _,List.Pairwise.nil⟩
      | some found =>
          obtain ⟨i,row⟩ := found
          rw [chosen] at least
          have taken := takenHead (least.place.resolve_right nofun).2
          obtain ⟨rest,merged,same,inOrder⟩ := ih (tailsSorted sorted i) (by
            rw [taken.length_eq,List.length_cons] at enough
            exact Nat.lt_of_succ_lt_succ enough)
          refine ⟨row :: rest,congrArg (Option.map (row :: ·)) merged,(same.cons row).trans taken.symm,.cons (fun x inside => ?_) inOrder⟩
          obtain ⟨list,here,there⟩ := List.mem_flatten.mp (taken.mem_iff.mpr (List.mem_cons_of_mem row (same.mem_iff.mp inside)))
          cases list with
          | nil => cases there
          | cons head tail =>
              have above := least.heads head (List.mem_map_of_mem here)
              obtain rfl | behind := List.mem_cons.mp there
              · exact above
              · exact later _ _ _ above (List.rel_of_pairwise_cons (sorted _ here) behind)

end Merge
end Workflow.Merging
