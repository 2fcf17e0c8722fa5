import Mathlib

/-! The first entries of a list in order: an entry is among the first `n` exactly when
fewer than `n` are before it. -/
namespace Workflow.Listings

variable {α : Type} {before : α → α → Bool} {l : List α} {a : α}

theorem memTakeIff (sorted : l.Pairwise fun x y => before x y = true) (asymm : ∀ x y, before x y = true → before y x = false)
    (inside : a ∈ l) (n : Nat) : a ∈ l.take n ↔ (l.filter fun x => before x a).length < n := by
  induction l generalizing n with
  | nil => cases inside
  | cons x l ih =>
      obtain ⟨first,sorted⟩ := List.pairwise_cons.mp sorted
      obtain same | later := List.mem_cons.mp inside
      · subst same
        have irreflexive : before a a = false := Bool.eq_false_iff.mpr fun self => by
          have turned := asymm a a self
          rw [self] at turned
          cases turned
        have none : l.filter (fun x => before x a) = [] :=
          List.filter_eq_nil_iff.mpr fun y found => by rw [asymm a y (first y found)]; exact nofun
        cases n with
        | zero => simp
        | succ n => simp [irreflexive,none]
      · have earlier : before x a = true := first a later
        have other : a ≠ x := by
          rintro rfl
          have turned := asymm a a earlier
          rw [earlier] at turned
          cases turned
        cases n with
        | zero => simp
        | succ n =>
            have counted : (x :: l).filter (fun x => before x a) = x :: l.filter fun x => before x a :=
              List.filter_cons_of_pos (by simpa using earlier)
            rw [List.take_succ_cons,List.mem_cons,or_iff_right other,ih sorted later n,counted,List.length_cons,
              Nat.add_lt_add_iff_right]

end Workflow.Listings
