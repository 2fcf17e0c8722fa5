import HireSettle.Workflow.Effects

/-! What a method can say of its own calls when it ends. Between two of them the
other threads move the world, by steps of a relation that all of them guarantee
and that the method relies on. Its own calls are listed newest first. -/
namespace Workflow

variable {ρ η κ ι σ ε α β : Type} {R : σ → σ → Prop}

def Traced (R : σ → σ → Prop) (done : List (Event κ ι σ) → Except ε α → Prop) :
    Process κ ι σ ε α → List (Event κ ι σ) → Prop
  | .ret value, own => done own (.ok value)
  | .raise error, own => done own (.error error)
  | .call site update next, own => ∀ thread i s, (∀ e ∈ own, R e.after s) →
      Traced R done (next i s) (⟨thread,site,i,s,update i s⟩ :: own)

theorem tracedMono {done done' : List (Event κ ι σ) → Except ε α → Prop}
    (weaken : ∀ own out, done own out → done' own out) {p : Process κ ι σ ε α} {own : List (Event κ ι σ)}
    (traced : Traced R done p own) : Traced R done' p own := by
  induction p generalizing own with
  | ret value => exact weaken _ _ traced
  | raise error => exact weaken _ _ traced
  | call site update next ih => exact fun thread i s relies => ih i s (traced thread i s relies)

theorem tracedBind {done : List (Event κ ι σ) → Except ε β → Prop} {k : α → Process κ ι σ ε β}
    {p : Process κ ι σ ε α} {own : List (Event κ ι σ)}
    (traced : Traced R (fun own out => match out with
      | .ok value => Traced R done (k value) own
      | .error error => done own (.error error)) p own) :
    Traced R done (p >>= k) own := by
  induction p generalizing own with
  | ret value => exact traced
  | raise error => exact traced
  | call site update next ih => exact fun thread i s relies => ih i s (traced thread i s relies)

theorem tracedOfExcept {done : List (Event κ ι σ) → Except ε α → Prop} {out : Except ε α} {own : List (Event κ ι σ)}
    (fin : done own out) : Traced R done (Process.ofExcept out) own := by
  cases out <;> exact fin

theorem tracedQuery {done : List (Event κ ι σ) → Except ε α → Prop} {site : κ} {f : ι → σ → Except ε α}
    {own : List (Event κ ι σ)}
    (answered : ∀ thread i s, (∀ e ∈ own, R e.after s) → done (⟨thread,site,i,s,s⟩ :: own) (f i s)) :
    Traced R done (Process.query site f) own :=
  fun thread i s relies => tracedOfExcept (answered thread i s relies)

theorem tracedTransact {done : List (Event κ ι σ) → Except ε α → Prop} {site : κ} {f : ι → σ → Except ε (α × σ)}
    {own : List (Event κ ι σ)}
    (commits : ∀ thread i s value after, (∀ e ∈ own, R e.after s) → f i s = .ok (value,after) →
      done (⟨thread,site,i,s,after⟩ :: own) (.ok value))
    (throws : ∀ thread i s error, (∀ e ∈ own, R e.after s) → f i s = .error error →
      done (⟨thread,site,i,s,s⟩ :: own) (.error error)) :
    Traced R done (Process.transact site f) own := by
  intro thread i s relies
  refine tracedOfExcept ?_
  cases h : f i s with
  | ok out => simpa only [Process.applied,Except.map,h] using commits thread i s out.1 out.2 relies h
  | error error => simpa only [Process.applied,Except.map,h] using throws thread i s error relies h

theorem tracedAny {p : Process κ ι σ ε α} (own : List (Event κ ι σ)) : Traced R (fun _ _ => True) p own := by
  induction p generalizing own with
  | ret value => trivial
  | raise error => trivial
  | call site update next ih => exact fun thread i s _ => ih i s _

def Pool.own (pool : Pool ρ κ ι σ ε α) (k : Nat) : List (Event κ ι σ) := pool.history.filter (fun e => e.thread = k)

structure TracedPool (R : σ → σ → Prop) (done : ρ → List (Event κ ι σ) → Except ε α → Prop) (pool : Pool ρ κ ι σ ε α) :
    Prop where
  steps : AllStep anySite R pool
  known : ∀ e ∈ pool.history, e.thread < pool.threads.length
  past : ∀ e ∈ pool.history, R e.before e.after ∧ R e.after pool.world
  each : ∀ k t, pool.threads[k]? = some t → Traced R (done t.request) t.process (pool.own k)

section Runs

variable {sys : System ρ η κ ι σ ε α} {done : ρ → List (Event κ ι σ) → Except ε α → Prop}

theorem tracedDeliver (stays : ∀ s, R s s) (follows : ∀ {a b c}, R a b → R b c → R a c) {pool : Pool ρ κ ι σ ε α}
    (traced : TracedPool R done pool) (k : Nat) (i : ι) (steps : AllStep anySite R (pool.deliver k i)) :
    TracedPool R done (pool.deliver k i) := by
  unfold Pool.deliver at steps ⊢
  split at steps
  · rename_i request site update next found
    have bound : k < pool.threads.length := (List.getElem?_eq_some_iff.mp found).1
    have step : R pool.world (update i pool.world) := ((traced.steps _ (List.mem_of_getElem? found)).2 i _).1
    have own : ∀ l, Pool.own ⟨pool.snapshot.record k site i (update i pool.world),
        pool.threads.set k ⟨request,next i pool.world⟩⟩ l =
          if k = l then ⟨k,site,i,pool.world,update i pool.world⟩ :: pool.own l else pool.own l := by
      intro l
      simp only [Pool.own,Pool.history,Snapshot.recordHistory,List.filter_cons,decide_eq_true_eq]
      rfl
    refine ⟨steps,?_,?_,?_⟩
    · intro e inside
      rcases List.mem_cons.mp inside with rfl | earlier
      · simpa [Snapshot.event] using bound
      · simpa using traced.known e earlier
    · intro e inside
      rcases List.mem_cons.mp inside with rfl | earlier
      · exact ⟨step,stays _⟩
      · exact ⟨(traced.past e earlier).1,follows (traced.past e earlier).2 step⟩
    · intro l t there
      rw [own l]
      by_cases same : k = l
      · subst same
        have moved : t = ⟨request,next i pool.world⟩ := by simpa [bound] using there.symm
        subst t
        rw [if_pos rfl]
        exact traced.each k _ found k i pool.world fun e inside => (traced.past e (List.mem_filter.mp inside).1).2
      · rw [if_neg same]
        exact traced.each l t (by simpa [List.getElem?_set,same] using there)
  · exact traced

theorem tracedMove (stays : ∀ s, R s s) (follows : ∀ {a b c}, R a b → R b c → R a c)
    (guarantees : ∀ r, Steps anySite R (sys.handler r)) (environment : ∀ change s, R s (sys.environment change s))
    (starts : ∀ r, Traced R (done r) (sys.handler r) []) (pool : Pool ρ κ ι σ ε α) (m : Move ρ η ι)
    (traced : TracedPool R done pool) : TracedPool R done (sys.move pool m) := by
  have steps := (stepsMove stays guarantees environment pool m traced.steps).2
  cases m with
  | start request =>
    refine ⟨steps,?_,traced.past,?_⟩
    · intro e inside
      have bound := traced.known e inside
      simp only [System.move,List.length_append]
      omega
    · intro k t there
      rcases Nat.lt_or_ge k pool.threads.length with old | new
      · exact traced.each k t (by rwa [System.move,List.getElem?_append_left old] at there)
      · have found : [Thread.mk request (sys.handler request)][k - pool.threads.length]? = some t := by
          rwa [System.move,List.getElem?_append_right new] at there
        have single := List.mem_singleton.mp (List.mem_of_getElem? found)
        subst t
        have unborn : pool.own k = [] := by
          refine List.filter_eq_nil_iff.mpr fun e inside => ?_
          have bound := traced.known e inside
          simp only [decide_eq_true_eq]
          omega
        show Traced R _ _ (pool.own k)
        rw [unborn]
        exact starts request
  | answer k i => exact tracedDeliver stays follows traced k i steps
  | environment change =>
    exact ⟨steps,traced.known,
      fun e inside => ⟨(traced.past e inside).1,follows (traced.past e inside).2 (environment change _)⟩,traced.each⟩

theorem tracedRun (stays : ∀ s, R s s) (follows : ∀ {a b c}, R a b → R b c → R a c)
    (guarantees : ∀ r, Steps anySite R (sys.handler r)) (environment : ∀ change s, R s (sys.environment change s))
    (starts : ∀ r, Traced R (done r) (sys.handler r) []) (world : σ) (moves : List (Move ρ η ι)) :
    TracedPool R done (sys.run (Pool.initial world) moves) := by
  refine sys.runKeeps (tracedMove stays follows guarantees environment starts) ?_ moves
  exact ⟨fun t inside => absurd inside List.not_mem_nil,fun e inside => absurd inside List.not_mem_nil,
    fun e inside => absurd inside List.not_mem_nil,fun k t there => by simp [Pool.initial] at there⟩

theorem tracedEnded {pool : Pool ρ κ ι σ ε α} (traced : TracedPool R done pool) {k : Nat} {request : ρ} {out : Except ε α}
    (ended : pool.threads[k]? = some ⟨request,Process.ofExcept out⟩) : done request (pool.own k) out := by
  have fin := traced.each k _ ended
  cases out <;> exact fin

end Runs

end Workflow
