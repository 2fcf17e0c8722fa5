import Mathlib

/-! Shares of a total by integer weights. Each share is rounded down, and one more share
takes what the others leave, which is at most one unit for each of them above its own
rounded part. -/
namespace Workflow.Shares

variable {total whole : Int} {weights : List Int}

def floors (total whole : Int) (weights : List Int) : List Int := weights.map fun weight => total * weight / whole

theorem floorsBelow (positive : 0 < whole) : whole * (floors total whole weights).sum ≤ total * weights.sum := by
  induction weights with
  | nil => simp [floors]
  | cons weight weights ih =>
      have one : total * weight / whole * whole ≤ total * weight := Int.ediv_mul_le _ positive.ne'
      simp only [floors,List.map_cons,List.sum_cons] at ih ⊢
      linarith

/-- Each share loses less than one unit. -/
theorem floorsAbove (positive : 0 < whole) :
    total * weights.sum ≤ whole * (floors total whole weights).sum + weights.length * (whole - 1) := by
  induction weights with
  | nil => simp [floors]
  | cons weight weights ih =>
      have one : total * weight < (total * weight / whole + 1) * whole := Int.lt_ediv_add_one_mul_self _ positive
      simp only [floors,List.map_cons,List.sum_cons,List.length_cons,Nat.cast_succ] at ih ⊢
      linarith

section Rest

variable {last : Int}

theorem restAbove (positive : 0 < whole) (sums : weights.sum + last = whole) :
    total * last / whole ≤ total - (floors total whole weights).sum := by
  have below : whole * (floors total whole weights).sum ≤ total * weights.sum := floorsBelow positive
  have parts : total * whole = total * weights.sum + total * last := by rw [← sums,mul_add]
  refine Int.ediv_le_of_le_mul positive ?_
  linarith

theorem restBelow (positive : 0 < whole) (sums : weights.sum + last = whole) :
    total - (floors total whole weights).sum ≤ total * last / whole + weights.length := by
  have above : total * weights.sum ≤ whole * (floors total whole weights).sum + weights.length * (whole - 1) :=
    floorsAbove positive
  have parts : total * whole = total * weights.sum + total * last := by rw [← sums,mul_add]
  have scaled : (total - (floors total whole weights).sum - weights.length) * whole ≤ total * last := by
    have whole : (0 : Int) ≤ weights.length := Int.natCast_nonneg _
    linarith
  have quotient : total - (floors total whole weights).sum - weights.length ≤ total * last / whole :=
    (Int.le_ediv_iff_mul_le positive).mpr scaled
  linarith

end Rest

end Workflow.Shares
