import HireSettle.Escrow.PartialReleases

/-! The arithmetic of partial releases: what one split takes from the escrow, and
what a series of them on one milestone adds up to. `BigInt` of the requested amount
is taken as already read. -/
namespace HireSettle.Escrow.PartialReleaseService

-- the amount the terms ask for, where exactly one of the two ways is used
def requested (remaining : Int) (terms : PartialReleaseTerms) : Option Int :=
  match terms.releaseAmount,terms.releasePercent with
  | some amount, none => some amount
  | none, some percent => some ((remaining * percent).tdiv 100)
  | _, _ => none

theorem checkedSplit {remaining amount : Int} {refusal : Exception} {split : Split} :
    (if amount ≤ 0 ∨ remaining ≤ amount then .error refusal else .ok ⟨amount,remaining - amount⟩) =
        (.ok split : Except Exception Split) ↔
      some amount = some split.releaseAmount ∧ 0 < split.releaseAmount ∧ split.releaseAmount < remaining ∧
      split.remainderAmount = remaining - split.releaseAmount := by
  obtain ⟨part,rest⟩ := split
  dsimp only
  split
  · constructor
    · nofun
    · intro ⟨same,positive,less,_⟩
      cases same
      omega
  · constructor
    · intro same
      cases same
      exact ⟨rfl,by omega,by omega,rfl⟩
    · intro ⟨same,_,_,left⟩
      cases same
      rw [left]

theorem computedSplit {total released : Int} {terms : PartialReleaseTerms} {split : Split} :
    computeSplit total released terms = .ok split ↔
      requested (total - released) terms = some split.releaseAmount ∧
      0 < split.releaseAmount ∧ split.releaseAmount < total - released ∧
      split.remainderAmount = total - released - split.releaseAmount := by
  unfold computeSplit requested
  dsimp only
  split
  · constructor
    · nofun
    · intro ⟨_,positive,less,_⟩
      omega
  · cases terms.releaseAmount with
    | none =>
        cases terms.releasePercent with
        | none => exact ⟨nofun,fun unasked => nomatch unasked.1⟩
        | some percent => exact checkedSplit
    | some amount =>
        cases terms.releasePercent with
        | none => exact checkedSplit
        | some percent => exact ⟨nofun,fun unasked => nomatch unasked.1⟩

theorem splitParts {total released : Int} {terms : PartialReleaseTerms} {split : Split}
    (ok : computeSplit total released terms = .ok split) :
    split.releaseAmount + split.remainderAmount = total - released ∧
      0 < split.releaseAmount ∧ split.releaseAmount < total - released := by
  obtain ⟨_,positive,less,left⟩ := computedSplit.mp ok
  exact ⟨by omega,positive,less⟩

-- the splits of one milestone, a refused one leaving the released total as it is
def running (total : Int) : Int → List PartialReleaseTerms → List Split
  | _, [] => []
  | released, terms :: rest =>
      match computeSplit total released terms with
      | .ok split => split :: running total (released + split.releaseAmount) rest
      | .error _ => running total released rest

theorem runningTotal (total released : Int) (requests : List PartialReleaseTerms) {last : Split}
    (ends : (running total released requests).getLast? = some last) :
    released + ((running total released requests).map Split.releaseAmount).sum + last.remainderAmount = total := by
  induction requests generalizing released with
  | nil => cases ends
  | cons terms rest ih =>
      rw [running] at ends ⊢
      cases ok : computeSplit total released terms with
      | error _ =>
          simp only [ok] at ends ⊢
          exact ih released ends
      | ok split =>
          simp only [ok] at ends ⊢
          have parts := (splitParts ok).1
          cases later : running total (released + split.releaseAmount) rest with
          | nil =>
              rw [later] at ends
              obtain rfl : split = last := Option.some.inj ends
              simp only [List.map_cons,List.map_nil,List.sum_cons,List.sum_nil]
              omega
          | cons next others =>
              rw [later,List.getLast?_cons_cons,← later] at ends
              have settled := ih (released + split.releaseAmount) ends
              rw [later] at settled
              rw [List.map_cons,List.sum_cons]
              omega

theorem percentBelow {remaining percent : Int} (held : 0 < remaining) (least : 1 ≤ percent) (most : percent ≤ 99) :
    (remaining * percent).tdiv 100 = remaining * percent / 100 ∧ 0 ≤ remaining * percent / 100 ∧
      remaining * percent / 100 < remaining := by
  have positive : 0 ≤ remaining * percent := Int.mul_nonneg (by omega) (by omega)
  have bounded : remaining * percent ≤ remaining * 99 := Int.mul_le_mul_of_nonneg_left most (by omega)
  exact ⟨Int.tdiv_eq_ediv_of_nonneg positive,by omega,by omega⟩

theorem percentSplit {total released percent : Int} {terms : PartialReleaseTerms}
    (share : terms.releasePercent = some percent) (only : terms.releaseAmount = none)
    (least : 1 ≤ percent) (most : percent ≤ 99) (split : Split) :
    computeSplit total released terms = .ok split ↔
      0 < total - released ∧ (total - released) * percent / 100 ≠ 0 ∧
      split.releaseAmount = (total - released) * percent / 100 ∧
      split.remainderAmount = total - released - (total - released) * percent / 100 := by
  rw [computedSplit]
  simp only [requested,share,only,Option.some.injEq]
  constructor
  · intro ⟨same,positive,less,left⟩
    have rounded := (percentBelow (show 0 < total - released by omega) least most).1
    rw [rounded] at same
    rw [← same] at positive left
    exact ⟨by omega,by omega,same.symm,left⟩
  · intro ⟨held,nonzero,same,left⟩
    obtain ⟨rounded,nonneg,less⟩ := percentBelow held least most
    rw [rounded,same]
    exact ⟨rfl,by omega,less,left⟩

/-- A split divides what is left in escrow into two positive parts; a percentage is
rounded down and is refused only when nothing is left or it rounds to nothing; and
however many splits follow one another, nothing of the milestone's amount is lost. -/
theorem splitsExact (total released : Int) (terms : PartialReleaseTerms) (requests : List PartialReleaseTerms) :
    (∀ split, computeSplit total released terms = .ok split →
      split.releaseAmount + split.remainderAmount = total - released ∧
        0 < split.releaseAmount ∧ split.releaseAmount < total - released) ∧
    (∀ percent, terms.releasePercent = some percent → terms.releaseAmount = none → 1 ≤ percent → percent ≤ 99 →
      (∀ split, computeSplit total released terms = .ok split →
        split.releaseAmount = (total - released) * percent / 100) ∧
      ((∃ error, computeSplit total released terms = .error error) ↔
        total - released ≤ 0 ∨ (total - released) * percent / 100 = 0)) ∧
    (∀ last, (running total released requests).getLast? = some last →
      released + ((running total released requests).map Split.releaseAmount).sum + last.remainderAmount = total) := by
  refine ⟨fun split ok => splitParts ok,fun percent share only least most => ⟨fun split ok => ?_,?_⟩,
    fun last ends => runningTotal total released requests ends⟩
  · exact ((percentSplit share only least most split).mp ok).2.2.1
  · constructor
    · intro ⟨error,failed⟩
      by_contra possible
      have ok : computeSplit total released terms =
          .ok ⟨(total - released) * percent / 100,total - released - (total - released) * percent / 100⟩ :=
        (percentSplit share only least most _).mpr ⟨by omega,fun zero => possible (.inr zero),rfl,rfl⟩
      rw [failed] at ok
      cases ok
    · intro refused
      cases ok : computeSplit total released terms with
      | error error => exact ⟨error,rfl⟩
      | ok split =>
          obtain ⟨left,nonzero,_⟩ := (percentSplit share only least most split).mp ok
          omega

theorem splitsThirds :
    let third : PartialReleaseTerms := { releasePercent := some 33, remainderAction := .retain }
    (computeSplit 1000 0 third).toOption.map Split.releaseAmount = some (1000 * 33 / 100) ∧
      (¬ ∃ error, computeSplit 1000 0 third = .error error) ∧
      0 + ((running 1000 0 [third,third]).map Split.releaseAmount).sum + 449 = 1000 := by
  intro third
  obtain ⟨_,percent,sums⟩ := splitsExact 1000 0 third [third,third]
  obtain ⟨rounded,refused⟩ := percent 33 rfl rfl (by decide) (by decide)
  refine ⟨congrArg some (rounded ⟨330,670⟩ rfl),fun failed => ?_,sums ⟨221,449⟩ rfl⟩
  exact absurd (refused.mp failed) (by decide)

end HireSettle.Escrow.PartialReleaseService
