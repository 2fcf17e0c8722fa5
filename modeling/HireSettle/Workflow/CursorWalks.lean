import HireSettle.Workflow.Keyset

/-! Reading a sorted list page by page after a cursor, the last row of the page before, while
rows are added to it. What was there at the beginning is read, and nothing twice. -/
namespace Workflow

section Growing

variable {α : Type} {lt : α → α → Prop} [DecidableRel lt] {rows : Nat → List α} {take : Nat} {cursor : Option α}

def onwards (lt : α → α → Prop) [DecidableRel lt] (rows : List α) (cursor : Option α) : List α :=
  rows.filter fun x => cursor.all fun c => lt c x

def fetchOnwards (lt : α → α → Prop) [DecidableRel lt] (rows : Nat → List α) (take request : Nat) (cursor : Option α) : List α :=
  (onwards lt (rows request) cursor).take (take + 1)

theorem memOnwards {list : List α} {x : α} : x ∈ onwards lt list cursor ↔ x ∈ list ∧ ∀ c ∈ cursor, lt c x := by
  cases cursor <;> simp [onwards]

/-- The first page of what is left, and what is left after it. -/
theorem pageSplits {list : List α} (sorted : (onwards lt list cursor).Pairwise lt) (some : 0 < take)
    (more : take < (onwards lt list cursor).length) : ∃ last,
      ((onwards lt list cursor).take take).getLast? = .some last ∧ last ∈ onwards lt list cursor ∧
      (∀ x ∈ (onwards lt list cursor).take take, x = last ∨ lt x last) ∧
      ∀ x ∈ onwards lt list cursor, x ∈ (onwards lt list cursor).take take ∨ lt last x := by
  generalize onwards lt list cursor = left at *
  obtain none | ⟨front,last,page⟩ := List.eq_nil_or_concat (left.take take)
  · have wide := congrArg List.length none
    simp only [List.length_take,List.length_nil] at wide
    omega
  rw [List.concat_eq_append] at page
  have whole : left = front ++ last :: left.drop take := by
    rw [List.append_cons,← page,List.take_append_drop]
  rw [page]
  rw [whole] at sorted
  obtain ⟨_,later,early⟩ := List.pairwise_append.mp sorted
  refine ⟨last,List.getLast?_concat,?_,?_,?_⟩
  · rw [whole]
    simp
  · intro x inside
    rcases List.mem_append.mp inside with before | its
    · exact .inr (early x before last List.mem_cons_self)
    · exact .inl (List.mem_singleton.mp its)
  · intro x inside
    rw [whole] at inside
    rcases List.mem_append.mp inside with before | rest
    · exact .inl (List.mem_append_left _ before)
    · rcases List.mem_cons.mp rest with rfl | after
      · exact .inl (List.mem_append_right _ List.mem_cons_self)
      · exact .inr ((List.pairwise_cons.mp later).1 x after)

/-- What a walk that has ended has read. -/
structure Walked (lt : α → α → Prop) [DecidableRel lt] (rows : Nat → List α) (request : Nat) (cursor : Option α) (items : List α) : Prop where
  sorted : items.Pairwise lt
  after : ∀ x ∈ items, ∀ c ∈ cursor, lt c x
  complete : ∀ x ∈ onwards lt (rows request) cursor, x ∈ items
  stored : ∀ x ∈ items, ∃ later, request ≤ later ∧ x ∈ rows later

theorem growingWalk (trans : ∀ a b c, lt a b → lt b c → lt a c) (sorted : ∀ request, (rows request).Pairwise lt)
    (grows : ∀ request, rows request ⊆ rows (request + 1)) (some : 0 < take) {fuel request : Nat} {items : List α}
    (walked : pages (fetchOnwards lt rows take) take fuel request cursor = .some items) : Walked lt rows request cursor items := by
  induction fuel generalizing request cursor items with
  | zero => cases walked
  | succ fuel ih =>
    have left : (onwards lt (rows request) cursor).Pairwise lt := (sorted request).sublist List.filter_sublist
    have page : (fetchOnwards lt rows take request cursor).take take = (onwards lt (rows request) cursor).take take := by
      rw [fetchOnwards,List.take_take,Nat.min_eq_left (Nat.le_succ take)]
    have subset : ∀ x ∈ (onwards lt (rows request) cursor).take take, x ∈ rows request ∧ ∀ c ∈ cursor, lt c x :=
      fun x inside => memOnwards.mp (List.mem_of_mem_take inside)
    rw [pages,page] at walked
    split at walked
    · rename_i more
      have longer : take < (onwards lt (rows request) cursor).length := by
        rw [fetchOnwards,List.length_take] at more
        omega
      obtain ⟨last,ends,its,upTo,beyond⟩ := pageSplits left some longer
      rw [ends] at walked
      obtain ⟨rest,next,rfl⟩ := Option.map_eq_some_iff.mp walked
      have read := ih next
      have past : ∀ x ∈ rest, lt last x := fun x inside => read.after x inside last rfl
      refine ⟨List.pairwise_append.mpr ⟨left.sublist (List.take_sublist _ _),read.sorted,?_⟩,?_,?_,?_⟩
      · intro x inside y later
        rcases upTo x inside with rfl | before
        · exact past y later
        · exact trans x last y before (past y later)
      · intro x inside c given
        rcases List.mem_append.mp inside with here | later
        · exact (subset x here).2 c given
        · exact trans c last x ((memOnwards.mp its).2 c given) (past x later)
      · intro x inside
        rcases beyond x inside with here | after
        · exact List.mem_append_left _ here
        · refine List.mem_append_right _ (read.complete x (memOnwards.mpr ⟨grows request (memOnwards.mp inside).1,?_⟩))
          intro c same
          cases same
          exact after
      · intro x inside
        rcases List.mem_append.mp inside with here | later
        · exact ⟨request,le_refl _,(subset x here).1⟩
        · obtain ⟨request',after,stored⟩ := read.stored x later
          exact ⟨request',by omega,stored⟩
    · rename_i last
      cases walked
      have short : (onwards lt (rows request) cursor).take take = onwards lt (rows request) cursor := by
        rw [fetchOnwards,List.length_take] at last
        exact List.take_of_length_le (by omega)
      rw [short]
      exact ⟨left,fun x inside => (memOnwards.mp inside).2,fun x inside => inside,fun x inside => ⟨request,le_refl _,(memOnwards.mp inside).1⟩⟩

theorem fewerOnwards (trans : ∀ a b c, lt a b → lt b c → lt a c) (irrefl : ∀ a, ¬ lt a a) {whole : List α} {last : α}
    (inside : last ∈ onwards lt whole cursor) : (onwards lt whole (.some last)).length < (onwards lt whole cursor).length := by
  obtain ⟨stored,after⟩ := memOnwards.mp inside
  have both : (onwards lt whole cursor).filter (fun x => lt last x) = onwards lt whole (.some last) := by
    rw [onwards,onwards,List.filter_filter]
    refine List.filter_congr fun x _ => ?_
    simp only [Option.all_some,Bool.and_eq_left_iff_imp,decide_eq_true_eq]
    intro past
    cases cursor with
    | none => rfl
    | some c => simpa using trans c last x (after c rfl) past
  rw [← both]
  refine List.length_filter_lt_length_iff_exists.mpr ⟨last,inside,by simpa using irrefl last⟩

/-- A walk ends when no more rows are added than there are places for. -/
theorem growingEnds (trans : ∀ a b c, lt a b → lt b c → lt a c) (irrefl : ∀ a, ¬ lt a a) (sorted : ∀ request, (rows request).Pairwise lt)
    {whole : List α} (bounded : ∀ request, rows request ⊆ whole) (some : 0 < take) {fuel request : Nat}
    (enough : (onwards lt whole cursor).length < fuel) : ∃ items, pages (fetchOnwards lt rows take) take fuel request cursor = .some items := by
  induction fuel generalizing request cursor with
  | zero => omega
  | succ fuel ih =>
    have left : (onwards lt (rows request) cursor).Pairwise lt := (sorted request).sublist List.filter_sublist
    have page : (fetchOnwards lt rows take request cursor).take take = (onwards lt (rows request) cursor).take take := by
      rw [fetchOnwards,List.take_take,Nat.min_eq_left (Nat.le_succ take)]
    rw [pages,page]
    split
    · rename_i more
      have longer : take < (onwards lt (rows request) cursor).length := by
        rw [fetchOnwards,List.length_take] at more
        omega
      obtain ⟨last,ends,its,_,_⟩ := pageSplits left some longer
      have there : last ∈ onwards lt whole cursor := memOnwards.mpr ⟨bounded request (memOnwards.mp its).1,(memOnwards.mp its).2⟩
      have fewer := fewerOnwards trans irrefl there
      obtain ⟨rest,next⟩ : ∃ items, pages (fetchOnwards lt rows take) take fuel (request + 1) (.some last) = .some items := ih (by omega)
      rw [ends,next]
      exact ⟨_,rfl⟩
    · exact ⟨_,rfl⟩

end Growing

end Workflow
