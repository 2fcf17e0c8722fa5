import HireSettle.Escrow.EngagementInvites
import HireSettle.Workflow.Shares

/-! How the amount of an engagement and its platform fee are shared out among the
milestones, and the totals that a preview shows of the two. -/
namespace HireSettle.Escrow.PercentSplits
open Workflow.Shares EngagementsService EngagementInvites

variable {total : Int}

/-- Every share but the last is rounded down, and the last is above its own rounded part by
less than one unit for each share. -/
structure Split (total : Int) (percents shares : List Int) : Prop where
  length : shares.length = percents.length
  nonneg : ∀ share ∈ shares, 0 ≤ share
  sum : shares.sum = total
  floors : shares.dropLast = percents.dropLast.map fun percent => total * percent / 100
  last : ∃ percent share, percents.getLast? = some percent ∧ shares.getLast? = some share ∧
    total * percent / 100 ≤ share ∧ share ≤ total * percent / 100 + (percents.length - 1)

theorem splitAmountsLast (front : List Int) (last : Int) (allocated : Int) :
    splitAmounts total allocated (front ++ [last]) = (front.map fun percent => (total * percent).tdiv 100) ++
      [total - (allocated + (front.map fun percent => (total * percent).tdiv 100).sum)] := by
  induction front generalizing allocated with
  | nil => simp [splitAmounts]
  | cons percent front ih =>
      obtain ⟨next,rest,same⟩ := List.exists_cons_of_ne_nil (List.concat_ne_nil last front)
      have split := ih (allocated + (total * percent).tdiv 100)
      rw [same] at split
      rw [List.cons_append,same,splitAmounts.eq_3 _ _ _ _ (List.cons_ne_nil next rest),split,List.map_cons,List.sum_cons,
        add_assoc,List.cons_append]

theorem splitFloors {front : List Int} {last : Int} (whole : 0 ≤ total) (positive : ∀ percent ∈ front, 0 < percent) :
    splitByPercent total (front ++ [last]) = floors total 100 front ++ [total - (floors total 100 front).sum] := by
  have quotients : (front.map fun percent => (total * percent).tdiv 100) = floors total 100 front :=
    List.map_congr_left fun percent inside =>
      Int.tdiv_eq_ediv_of_nonneg (mul_nonneg whole (positive percent inside).le)
  rw [splitByPercent,splitAmountsLast,quotients,zero_add]

theorem splitSplit {percents : List Int} (whole : 0 ≤ total) (filled : percents ≠ [])
    (positive : ∀ percent ∈ percents, 0 < percent) (sums : percents.sum = 100) :
    Split total percents (splitByPercent total percents) := by
  obtain ⟨front,last,rfl⟩ : ∃ front last, percents = front ++ [last] :=
    ⟨_,_,(List.dropLast_append_getLast filled).symm⟩
  obtain ⟨fronts,lasts⟩ := List.forall_mem_append.mp positive
  have shares : splitByPercent total (front ++ [last]) = floors total 100 front ++ [total - (floors total 100 front).sum] :=
    splitFloors whole fronts
  rw [List.sum_append,List.sum_singleton] at sums
  have above : total * last / 100 ≤ total - (floors total 100 front).sum := restAbove (by decide) sums
  have below : total - (floors total 100 front).sum ≤ total * last / 100 + front.length := restBelow (by decide) sums
  have rounded : ∀ percent, 0 < percent → 0 ≤ total * percent / 100 := fun percent more =>
    Int.ediv_nonneg (mul_nonneg whole more.le) (by decide)
  refine ⟨splitLength total _,?_,splitSum total filled,?_,⟨last,_,by simp,by rw [shares]; simp,above,?_⟩⟩
  · rw [shares]
    refine List.forall_mem_append.mpr ⟨List.forall_mem_map.mpr fun percent inside => rounded percent (fronts percent inside),?_⟩
    exact List.forall_mem_singleton.mpr ((rounded last (lasts last (by simp))).trans above)
  · rw [shares,List.dropLast_concat,List.dropLast_concat]
    rfl
  · simpa using below

section Preview

/-- The shares of the amount and of the fee, with their totals. -/
structure Shown (percents : List Int) (preview : Preview) : Prop where
  amounts : preview.milestones.map MilestoneCost.amount = splitByPercent preview.totalAmount percents
  platformFees : preview.milestones.map MilestoneCost.platformFee =
    splitByPercent ((preview.totalAmount * preview.platformFeeBps).tdiv 10000) percents
  each : ∀ cost ∈ preview.milestones, cost.total = cost.amount + cost.platformFee
  totalAmount : (preview.milestones.map MilestoneCost.amount).sum = preview.totalAmount
  platformFee : (preview.milestones.map MilestoneCost.platformFee).sum = preview.platformFee
  totalCost : (preview.milestones.map MilestoneCost.total).sum = preview.totalCost

theorem costShares (networkFee : Int) {data : List Milestone} {amounts fees : List Int} (filled : amounts.length = data.length)
    (paired : fees.length = data.length) {costs : List MilestoneCost}
    (made : costs = (data.zip (amounts.zip fees)).map fun (m,amount,fee) => milestoneCost networkFee m amount fee) :
    costs.map MilestoneCost.amount = amounts ∧ costs.map MilestoneCost.platformFee = fees := by
  have zipped : (data.zip (amounts.zip fees)).map Prod.snd = amounts.zip fees :=
    List.map_snd_zip (by rw [List.length_zip,filled,paired,Nat.min_self])
  have first : (amounts.zip fees).map Prod.fst = amounts := List.map_fst_zip (by omega)
  have second : (amounts.zip fees).map Prod.snd = fees := List.map_snd_zip (by omega)
  subst made
  rw [← zipped,List.map_map] at first second
  rw [List.map_map,List.map_map]
  exact ⟨first,second⟩

theorem breakdownShown (tokenAddress : String) (plan : Option Plan) (total networkFee : Int) {data : List Milestone}
    (filled : data ≠ []) : Shown (data.map Milestone.paymentPercent) (breakdown tokenAddress plan total networkFee data) := by
  have some : data.map Milestone.paymentPercent ≠ [] := by simpa using filled
  have lengths (total : Int) : (splitByPercent total (data.map Milestone.paymentPercent)).length = data.length :=
    (splitLength total _).trans (List.length_map _)
  obtain ⟨amounts,platformFees⟩ := costShares networkFee (lengths total)
    (lengths ((total * (plan.map Plan.platformFeeBps).getD 0).tdiv 10000)) rfl
  obtain ⟨amountSum,feeSum,totalSum⟩ := costSums networkFee (lengths total)
    (lengths ((total * (plan.map Plan.platformFeeBps).getD 0).tdiv 10000)) _ rfl
  refine ⟨amounts,platformFees,List.forall_mem_map.mpr fun _ _ => rfl,amountSum.trans (splitSum total some),feeSum,?_⟩
  exact totalSum.trans (congrArg (· + _) (splitSum total some))

/-- The shares add up to the total, and so do the shares that a preview shows. -/
theorem splitLosesNothing (total : Int) (percents : List Int) (whole : 0 ≤ total) (filled : percents ≠ [])
    (positive : ∀ percent ∈ percents, 0 < percent) (sums : percents.sum = 100) :
    Split total percents (splitByPercent total percents) ∧
      ∀ tokenAddress plan networkFee, ∀ data : List Milestone, data.map Milestone.paymentPercent = percents →
        Shown percents (breakdown tokenAddress plan total networkFee data) := by
  refine ⟨splitSplit whole filled positive sums,fun tokenAddress plan networkFee data same => ?_⟩
  subst same
  exact breakdownShown tokenAddress plan total networkFee (by simpa using filled)

theorem thirdsSplit : splitByPercent 101 [33,33,34] = [33,33,35] ∧
    (Split 101 [33,33,34] (splitByPercent 101 [33,33,34]) ∧
      ∀ tokenAddress plan networkFee, ∀ data : List Milestone, data.map Milestone.paymentPercent = [33,33,34] →
        Shown [33,33,34] (breakdown tokenAddress plan 101 networkFee data)) :=
  ⟨by decide,splitLosesNothing 101 [33,33,34] (by decide) (by decide) (by decide) (by decide)⟩

end Preview

end HireSettle.Escrow.PercentSplits
