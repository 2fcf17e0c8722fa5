import HireSettle.Workflow.Effects

/-! A process over one part of a larger world. It makes the same calls, under sites of the
larger system, and leaves everything beside its part as it is. -/
namespace Workflow

variable {κ κ' ι σ τ ε α : Type}

namespace Process

def embed (label : κ → κ') (part : τ → σ) (put : σ → τ → τ) : Process κ ι σ ε α → Process κ' ι τ ε α
  | .ret value => .ret value
  | .raise error => .raise error
  | .call site update next =>
      .call (label site) (fun i t => put (update i (part t)) t) (fun i t => (next i (part t)).embed label part put)

end Process

variable {label : κ → κ'} {part : τ → σ} {put : σ → τ → τ}

/-- What a call does to the part, it does to the whole. -/
theorem actsEmbed {E : κ → σ → σ → Prop} {E' : κ' → τ → τ → Prop} (lifts : ∀ site t out, E site (part t) out → E' (label site) t (put out t))
    {p : Process κ ι σ ε α} (acts : Acts E p) : Acts E' (p.embed label part put) := by
  induction p with
  | ret value => trivial
  | raise error => trivial
  | call site update next ih => exact fun i t => ⟨lifts site t _ (acts i (part t)).1,ih i (part t) (acts i (part t)).2⟩

end Workflow
