import HireSettle.Workflow.Pool

/-! Contracts whose resource is a token and what a thread knows. Tokens are counted:
they are created, handed over and spent. Facts are not: a thread learns them from
the snapshot it meets and relies on them later, and every call of every thread
must keep every fact that is true. -/
namespace Workflow

structure Knowledge (κ ι σ τ φ : Type) where
  base : Snapshot κ ι σ → τ → Prop
  holds : Snapshot κ ι σ → φ → Prop
  admits : List (Event κ ι σ) → Event κ ι σ → Prop

namespace Knowledge

variable {ρ η κ ι σ ε α β τ φ : Type}

def contract [AddCommMonoid τ] (N : Knowledge κ ι σ τ φ) : Contract κ ι σ (τ × Multiset φ) where
  inv c g := N.base c g.1 ∧ ∀ fact ∈ g.2, N.holds c fact
  admits := N.admits

def Remembers (N : Knowledge κ ι σ τ φ) (c c' : Snapshot κ ι σ) : Prop := ∀ fact, N.holds c fact → N.holds c' fact

def Learns (N : Knowledge κ ι σ τ φ) (c : Snapshot κ ι σ) (known : Multiset φ) (done : Multiset φ → Prop) : Prop :=
  ∃ learnt, (∀ fact ∈ learnt, N.holds c fact) ∧ done (learnt + known)

variable {N : Knowledge κ ι σ τ φ} {mine : τ} {known : Multiset φ}

theorem learnsNothing {c : Snapshot κ ι σ} {done : Multiset φ → Prop} (fin : done known) :
    N.Learns c known done := ⟨0,by simp,by rwa [zero_add]⟩

theorem learnsFact {c : Snapshot κ ι σ} {done : Multiset φ → Prop} (fact : φ) (true : N.holds c fact)
    (fin : done (fact ::ₘ known)) : N.Learns c known done := by
  refine ⟨{fact},?_,?_⟩
  · intro other same
    rwa [Multiset.mem_singleton.mp same]
  · rwa [Multiset.singleton_add]

variable [AddCommMonoid τ]

/-- A thread that leaves the snapshot at `c'` has kept the base with the tokens of
the others, every fact, and goes on with its own tokens and what it has learnt. -/
def Leaves (N : Knowledge κ ι σ τ φ) (c c' : Snapshot κ ι σ) (frame : τ) (known : Multiset φ)
    (done : τ → Multiset φ → Prop) : Prop :=
  ∃ mine, N.base c' (mine + frame) ∧ N.Remembers c c' ∧ N.Learns c' known (done mine)

theorem safeCall {site : κ} {update : ι → σ → σ} {next : ι → σ → Process κ ι σ ε α}
    {done : Except ε α → τ × Multiset φ → Prop}
    (answered : ∀ c frame thread i, N.base c (mine + frame) → (∀ fact ∈ known, N.holds c fact) →
      N.admits c.history (c.event thread site i (update i c.world)) →
      N.Leaves c (c.record thread site i (update i c.world)) frame known
        (fun mine known => Safe N.contract done (next i c.world) (mine,known))) :
    Safe N.contract done (.call site update next) (mine,known) := by
  rintro c ⟨frame,others⟩ thread i ⟨base,facts⟩ meets
  have mineKnown : ∀ fact ∈ known, N.holds c fact := fun fact inside => facts fact (Multiset.mem_add.mpr (Or.inl inside))
  obtain ⟨mine',base',remembers,learnt,hold,fin⟩ := answered c frame thread i base mineKnown meets
  refine ⟨(mine',learnt + known),⟨base',fun fact inside => ?_⟩,fin⟩
  have inside : fact ∈ learnt + (known + others) := by rwa [← add_assoc]
  rcases Multiset.mem_add.mp inside with new | old
  · exact hold fact new
  · exact remembers fact (facts fact old)

theorem safeQuery {site : κ} {f : ι → σ → Except ε α} {done : Except ε α → τ × Multiset φ → Prop}
    (answered : ∀ c frame thread i, N.base c (mine + frame) → (∀ fact ∈ known, N.holds c fact) →
      N.admits c.history (c.event thread site i c.world) →
      N.Leaves c (c.record thread site i c.world) frame known (fun mine known => done (f i c.world) (mine,known))) :
    Safe N.contract done (Process.query site f) (mine,known) := by
  refine safeCall fun c frame thread i base facts meets => ?_
  obtain ⟨mine',base',remembers,learnt,hold,fin⟩ := answered c frame thread i base facts meets
  refine ⟨mine',base',remembers,learnt,hold,?_⟩
  cases h : f i c.world with
  | ok value => simpa only [Process.ofExcept,Safe,h] using fin
  | error error => simpa only [Process.ofExcept,Safe,h] using fin

theorem safeTransact {site : κ} {f : ι → σ → Except ε (α × σ)} {done : Except ε α → τ × Multiset φ → Prop}
    (commits : ∀ c frame thread i value after, N.base c (mine + frame) → (∀ fact ∈ known, N.holds c fact) →
      f i c.world = .ok (value,after) → N.admits c.history (c.event thread site i after) →
      N.Leaves c (c.record thread site i after) frame known (fun mine known => done (.ok value) (mine,known)))
    (throws : ∀ c frame thread i error, N.base c (mine + frame) → (∀ fact ∈ known, N.holds c fact) →
      f i c.world = .error error → N.admits c.history (c.event thread site i c.world) →
      N.Leaves c (c.record thread site i c.world) frame known (fun mine known => done (.error error) (mine,known))) :
    Safe N.contract done (Process.transact site f) (mine,known) := by
  refine safeCall fun c frame thread i base facts meets => ?_
  cases h : f i c.world with
  | ok out =>
    simp only [Process.applied,h] at meets ⊢
    simpa only [Except.map,Process.ofExcept,Safe] using commits c frame thread i out.1 out.2 base facts h meets
  | error error =>
    simp only [Process.applied,h] at meets ⊢
    simpa only [Except.map,Process.ofExcept,Safe] using throws c frame thread i error base facts h meets

/-- A known fact may be used any number of times. -/
theorem safeKnown {p : Process κ ι σ ε α} {fact : φ} (inside : fact ∈ known)
    (safe : Safe N.contract anyEnd p (mine,fact ::ₘ known)) : Safe N.contract anyEnd p (mine,known) := by
  cases p with
  | ret value => trivial
  | raise error => trivial
  | call site update next =>
    rintro c ⟨frame,others⟩ thread i ⟨base,facts⟩ meets
    refine safe c (frame,others) thread i ⟨base,fun other there => ?_⟩ meets
    rw [Prod.mk_add_mk,Multiset.cons_add] at there
    rcases Multiset.mem_cons.mp there with rfl | there
    · exact facts other (Multiset.mem_add.mpr (Or.inl inside))
    · exact facts other there

/-- Harmless for every thread that knows the fact. -/
def Given (N : Knowledge κ ι σ τ φ) (fact : φ) (p : Process κ ι σ ε α) : Prop :=
  ∀ mine known, fact ∈ known → Safe N.contract anyEnd p (mine,known)

/-- The fact is still known when the process has ended. -/
theorem givenStill {p : Process κ ι σ ε α} {fact : φ} (given : N.Given fact p) (inside : fact ∈ known) :
    Safe N.contract (fun _ held => fact ∈ held.2) p (mine,fact ::ₘ known) := by
  have twice : (mine,fact ::ₘ known) = (mine,known) + (0,{fact}) := by
    rw [Prod.mk_add_mk,add_zero,add_comm known,Multiset.singleton_add]
  rw [twice]
  refine safeMono ?_ (safeFrame (0,{fact}) (given mine known inside))
  rintro out held ⟨rest,rfl,_⟩
  exact Multiset.mem_add.mpr (Or.inr (Multiset.mem_singleton_self fact))

theorem givenBind {p : Process κ ι σ ε α} {k : α → Process κ ι σ ε β} {fact : φ} (first : N.Given fact p)
    (rest : ∀ value, N.Given fact (k value)) : N.Given fact (p >>= k) := by
  intro mine known inside
  refine safeKnown inside (safeBind (safeMono ?_ (givenStill first inside)))
  intro out held still
  cases out with
  | ok value => exact rest value held.1 held.2 still
  | error error => trivial

theorem givenHandle {p : Process κ ι σ ε α} {h : ε → Process κ ι σ ε α} {fact : φ} (first : N.Given fact p)
    (rest : ∀ error, N.Given fact (h error)) : N.Given fact (p.handle h) := by
  intro mine known inside
  refine safeKnown inside (safeHandle (safeMono ?_ (givenStill first inside)))
  intro out held still
  cases out with
  | ok value => trivial
  | error error => exact rest error held.1 held.2 still

theorem givenHarmless {p : Process κ ι σ ε α} {fact : φ} (harmless : Harmless N.contract p) : N.Given fact p :=
  fun mine known _ => harmless (mine,known)

theorem givenFoldEach {δ : Type} {body : α → δ → Process κ ι σ ε α} {fact : φ} (each : ∀ acc x, N.Given fact (body acc x))
    (acc : α) (xs : List δ) : N.Given fact (Process.foldEach body acc xs) := by
  induction xs generalizing acc with
  | nil => exact givenHarmless fun _ => trivial
  | cons x xs ih => exact givenBind (each acc x) ih

theorem securedBase {done : ρ → Except ε α → τ × Multiset φ → Prop} {pool : Pool ρ κ ι σ ε α}
    (secured : Secured N.contract done pool) : ∃ tokens, N.base pool.snapshot tokens := by
  obtain ⟨shares,_,base,_⟩ := secured
  exact ⟨_,base⟩

/-- What a finished thread knows is true of the pool it is seen in. -/
theorem endedKnows {done : ρ → Except ε α → τ × Multiset φ → Prop} {pool : Pool ρ κ ι σ ε α}
    (secured : Secured N.contract done pool) {k : Nat} {request : ρ} {out : Except ε α}
    (ended : pool.threads[k]? = some ⟨request,Process.ofExcept out⟩) :
    ∃ mine known, done request out (mine,known) ∧ ∀ fact ∈ known, N.holds pool.snapshot fact := by
  obtain ⟨⟨mine,known⟩,⟨frame,others⟩,fin,base,facts⟩ := securedEnded secured ended
  exact ⟨mine,known,fin,fun fact inside => facts fact (Multiset.mem_add.mpr (Or.inl inside))⟩

end Knowledge

end Workflow
