import Mathlib

/-! Rounding to the nearest integer where a tie goes away from zero, and its
computation by a truncating division of the absolute value. -/
namespace Workflow.Rounding

section Nearest

variable {α : Type} [Field α] [LinearOrder α] {x y : α} {q k : Int}

/-- No integer is nearer, and one as near is not farther from zero. -/
structure Nearest (x : α) (q : Int) : Prop where
  near : ∀ k : Int, |x - q| ≤ |x - k|
  away : ∀ k : Int, |x - k| = |x - q| → |k| ≤ |q|

theorem Nearest.neg (nearest : Nearest x q) : Nearest (-x) (-q) := by
  have turned (k : Int) : |-x - k| = |x - (-k : Int)| := by
    rw [← abs_neg]
    congr 1
    push_cast
    ring
  constructor
  · intro k
    rw [turned,turned,neg_neg]
    exact nearest.near (-k)
  · intro k same
    rw [turned,turned,neg_neg] at same
    have shorter := nearest.away (-k) same
    rwa [abs_neg] at shorter ⊢

variable [IsStrictOrderedRing α]

theorem castBelow (less : k < q) : (k : α) + 1 ≤ q := by
  have below : k + 1 ≤ q := less
  exact_mod_cast below

-- of two integers, the nearer one is on the number's side of their middle
theorem belowMiddle (less : k < q) : |x - k| ≤ |x - q| ↔ 2 * x ≤ q + k := by
  have apart : (0 : α) < q - k := sub_pos.mpr (Int.cast_lt.mpr less)
  have squares : (x - q) ^ 2 - (x - k) ^ 2 = (q - k) * (q + k - 2 * x) := by ring
  rw [← sq_le_sq,← sub_nonneg,squares,mul_nonneg_iff_of_pos_left apart,sub_nonneg]

theorem aboveMiddle (less : k < q) : |x - q| ≤ |x - k| ↔ (q : α) + k ≤ 2 * x := by
  have apart : (0 : α) < q - k := sub_pos.mpr (Int.cast_lt.mpr less)
  have squares : (x - k) ^ 2 - (x - q) ^ 2 = (q - k) * (2 * x - (q + k)) := by ring
  rw [← sq_le_sq,← sub_nonneg,squares,mul_nonneg_iff_of_pos_left apart,sub_nonneg]

/-- The rounded values are in the order of the numbers. -/
theorem Nearest.mono (first : Nearest x q) (second : Nearest y k) (le : x ≤ y) : q ≤ k := by
  by_contra above
  have less : k < q := not_le.mp above
  have upper : (q : α) + k ≤ 2 * x := (aboveMiddle less).mp (first.near k)
  have lower : 2 * y ≤ (q : α) + k := (belowMiddle less).mp (second.near q)
  have same : x = y := by linarith
  subst same
  have tie : |x - k| = |x - q| := le_antisymm (second.near q) (first.near k)
  have opposite : |k| = |q| := le_antisymm (first.away k tie) (second.away q tie.symm)
  -- the two are opposite, so the number is zero, which is its own nearest
  obtain same | turned := abs_eq_abs.mp opposite
  · omega
  · have zero : x = 0 := by
      subst turned
      push_cast at upper lower
      linarith
    have near := first.near 0
    rw [zero,zero_sub,abs_neg,Int.cast_zero,sub_zero,abs_zero] at near
    have none : (q : α) = 0 := abs_nonpos_iff.mp near
    have : q = 0 := Int.cast_eq_zero.mp none
    omega

theorem Nearest.unique (first : Nearest x q) (second : Nearest x k) : q = k :=
  le_antisymm (first.mono second le_rfl) (second.mono first le_rfl)

/-- The nearest of a number that is not negative is the floor of its sum with a half. -/
theorem nearestFloor (positive : 0 ≤ x) (below : (q : α) ≤ x + 1 / 2) (above : x + 1 / 2 < q + 1) : Nearest x q := by
  have error : |x - q| ≤ 1 / 2 := abs_le.mpr ⟨by linarith,by linarith⟩
  have farther (k : Int) (less : q < k) : 1 / 2 < |x - k| := by
    have apart : (q : α) + 1 ≤ k := castBelow less
    exact lt_abs.mpr (.inr (by linarith))
  constructor
  · intro k
    obtain less | same | less := lt_trichotomy k q
    · have apart : (k : α) + 1 ≤ q := castBelow less
      exact error.trans (le_abs.mpr (.inl (by linarith)))
    · rw [same]
    · exact error.trans (farther k less).le
  · intro k same
    have most : k ≤ q := not_lt.mp fun less => absurd same (error.trans_lt (farther k less)).ne'
    have least : 0 ≤ k := by
      by_contra negative
      have apart : (k : α) + 1 ≤ (0 : Int) := castBelow (not_le.mp negative)
      rw [Int.cast_zero] at apart
      have far : x + 1 ≤ |x - k| := le_abs.mpr (.inl (by linarith))
      linarith
    exact abs_le_abs_of_nonneg least most

theorem Nearest.error (nearest : Nearest x q) : |x - q| ≤ 1 / 2 := by
  by_contra far
  obtain right | left := lt_abs.mp (not_le.mp far)
  · have near := (belowMiddle (lt_add_one q)).mp (nearest.near (q + 1))
    push_cast at near
    linarith
  · have near := (aboveMiddle (sub_one_lt q)).mp (nearest.near (q - 1))
    push_cast at near
    linarith

end Nearest

/-- The absolute value of `n` over `2 * h`, with a half added and the fraction cut off, under the sign of `n`. -/
def awayFromZero (n h : Int) : Int :=
  let sign : Int := if n < 0 then -1 else 1
  sign * ((n * sign + h).tdiv (2 * h))

section Computed

variable {n h : Int}

theorem awayNonneg (whole : 0 ≤ n) : awayFromZero n h = (n + h).tdiv (2 * h) := by
  simp [awayFromZero,not_lt.mpr whole]

theorem awayNegative (less : n < 0) : awayFromZero n h = -(-n + h).tdiv (2 * h) := by
  simp [awayFromZero,less]

theorem awayNearest {α : Type} [Field α] [LinearOrder α] [IsStrictOrderedRing α] (positive : 0 < h) :
    Nearest ((n : α) / (2 * h)) (awayFromZero n h) := by
  have divisor : (0 : α) < 2 * h := mul_pos two_pos (Int.cast_pos.mpr positive)
  have floored (n : Int) (whole : 0 ≤ n) : Nearest ((n : α) / (2 * h)) ((n + h).tdiv (2 * h)) := by
    have moved : (n : α) / (2 * h) + 1 / 2 = (n + h) / (2 * h) := by
      field_simp
    have quotient : (n + h).tdiv (2 * h) = (n + h) / (2 * h) := Int.tdiv_eq_ediv_of_nonneg (by omega)
    have least : (n + h) / (2 * h) * (2 * h) ≤ n + h := Int.ediv_mul_le _ (by omega)
    have most : n + h < ((n + h) / (2 * h) + 1) * (2 * h) := Int.lt_ediv_add_one_mul_self _ (by omega)
    rw [quotient]
    refine nearestFloor (div_nonneg (Int.cast_nonneg whole) divisor.le) ?_ ?_
    · rw [moved,le_div_iff₀ divisor]
      exact_mod_cast least
    · rw [moved,div_lt_iff₀ divisor]
      exact_mod_cast most
  obtain less | whole := lt_or_ge n 0
  · have turned := (floored (-n) (by omega)).neg
    rw [← awayNegative less] at turned
    convert turned using 1
    push_cast
    ring
  · rw [awayNonneg whole]
    exact floored n whole

end Computed

end Workflow.Rounding
