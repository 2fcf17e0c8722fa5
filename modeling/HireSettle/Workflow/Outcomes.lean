import HireSettle.Workflow.Effects
import HireSettle.Workflow.Sequential

/-! How a process can end that is served alone: the environment acts before each of its
calls and each call is answered in any way. The rules hold in both directions, so that
the condition under which every end is as wanted can be read off the process. -/
namespace Workflow

variable {ρ η κ ι σ ε α β : Type} (environment : η → σ → σ)

/-- Every end of the process is one that `done` allows. -/
def Concludes (done : Except ε α → σ → Prop) : Process κ ι σ ε α → σ → Prop
  | .ret value, s => done (.ok value) s
  | .raise error, s => done (.error error) s
  | .call _ update next, s => ∀ change i, Concludes done (next i (environment change s)) (update i (environment change s))

/-- The end of the first part of a process is one from which the rest concludes. -/
def Leads (done : Except ε β → σ → Prop) (k : α → Process κ ι σ ε β) : Except ε α → σ → Prop
  | .ok value, s => Concludes environment done (k value) s
  | .error error, s => done (.error error) s

/-- The end of a guarded process is one from which the handler concludes. -/
def Recovers (done : Except ε α → σ → Prop) (h : ε → Process κ ι σ ε α) : Except ε α → σ → Prop
  | .ok value, s => done (.ok value) s
  | .error error, s => Concludes environment done (h error) s

variable {environment} {done : Except ε α → σ → Prop} {s : σ}

theorem concludesCall {site : κ} {update : ι → σ → σ} {next : ι → σ → Process κ ι σ ε α} :
    Concludes environment done (.call site update next) s ↔
      ∀ change i, Concludes environment done (next i (environment change s)) (update i (environment change s)) := Iff.rfl

theorem concludesMono {done' : Except ε α → σ → Prop} (weaken : ∀ out s, done out s → done' out s) {p : Process κ ι σ ε α}
    (concludes : Concludes environment done p s) : Concludes environment done' p s := by
  induction p generalizing s with
  | ret value => exact weaken _ _ concludes
  | raise error => exact weaken _ _ concludes
  | call site update next ih => exact fun change i => ih i _ (concludes change i)

theorem concludesCongr {done' : Except ε α → σ → Prop} (same : ∀ out s, done out s ↔ done' out s) {p : Process κ ι σ ε α} :
    Concludes environment done p s ↔ Concludes environment done' p s :=
  ⟨concludesMono fun out s => (same out s).mp,concludesMono fun out s => (same out s).mpr⟩

theorem concludesBind {done : Except ε β → σ → Prop} {k : α → Process κ ι σ ε β} {p : Process κ ι σ ε α} :
    Concludes environment done (p >>= k) s ↔ Concludes environment (Leads environment done k) p s := by
  induction p generalizing s with
  | ret value => exact Iff.rfl
  | raise error => exact Iff.rfl
  | call site update next ih =>
    simp only [Process.callBind,concludesCall]
    exact forall_congr' fun change => forall_congr' fun i => ih i _

theorem concludesHandle {h : ε → Process κ ι σ ε α} {p : Process κ ι σ ε α} :
    Concludes environment done (p.handle h) s ↔ Concludes environment (Recovers environment done h) p s := by
  induction p generalizing s with
  | ret value => exact Iff.rfl
  | raise error => exact Iff.rfl
  | call site update next ih =>
    simp only [Process.callHandle,concludesCall]
    exact forall_congr' fun change => forall_congr' fun i => ih i _

theorem concludesExcept {out : Except ε α} : Concludes environment done (Process.ofExcept out : Process κ ι σ ε α) s ↔ done out s := by
  cases out <;> exact Iff.rfl

theorem concludesQuery {site : κ} {f : ι → σ → Except ε α} :
    Concludes environment done (Process.query site f) s ↔ ∀ change i, done (f i (environment change s)) (environment change s) := by
  simp only [Process.query,concludesCall,concludesExcept]

/-- What a call returns and leaves behind. -/
def outcome (f : ι → σ → Except ε (α × σ)) (i : ι) (s : σ) : Except ε α × σ :=
  match f i s with
  | .ok (value,s') => (.ok value,s')
  | .error error => (.error error,s)

theorem concludesTransact {site : κ} {f : ι → σ → Except ε (α × σ)} :
    Concludes environment done (Process.transact site f) s ↔
      ∀ change i, done (outcome f i (environment change s)).1 (outcome f i (environment change s)).2 := by
  simp only [Process.transact,concludesCall,concludesExcept]
  refine forall_congr' fun change => forall_congr' fun i => ?_
  cases called : f i (environment change s) with
  | ok out => simp only [outcome,Process.applied,called]; rfl
  | error error => simp only [outcome,Process.applied,called]; rfl

theorem concludesForEach {δ : Type} {body : δ → Process κ ι σ ε Unit} {done : Except ε Unit → σ → Prop} {x : δ} {xs : List δ} :
    Concludes environment done (Process.forEach body (x :: xs)) s ↔
      Concludes environment (Leads environment done fun _ => Process.forEach body xs) (body x) s := concludesBind

theorem concludesAsk {done : Except ε β → σ → Prop} {site : κ} {f : ι → σ → Except ε α} {k : α → Process κ ι σ ε β} {value : α}
    (every : Concludes environment done (Process.query site f >>= k) s) (change : η) (i : ι)
    (found : f i (environment change s) = .ok value) : Concludes environment done (k value) (environment change s) := by
  have next := concludesQuery.mp (concludesBind.mp every) change i
  rwa [found] at next

theorem concludesCommit {done : Except ε α → σ → Prop} {site : κ} {f : ι → σ → Except ε (α × σ)} {value : α} {s' : σ}
    (every : Concludes environment done (Process.transact site f) s) (change : η) (i : ι)
    (committed : f i (environment change s) = .ok (value,s')) : done (.ok value) s' := by
  have next := concludesTransact.mp every change i
  rwa [outcome,committed] at next

/-- What no call changes is so at every end. -/
theorem concludesActs (environment : η → σ → σ) {E : κ → σ → σ → Prop} {I : σ → Prop} (stays : ∀ change s, I s → I (environment change s))
    (keeps : ∀ site s s', E site s s' → I s → I s') {p : Process κ ι σ ε α} (acts : Acts E p) (holds : I s) :
    Concludes environment (fun _ s => I s) p s := by
  induction p generalizing s with
  | ret value => exact holds
  | raise error => exact holds
  | call site update next ih =>
    exact fun change i => ih i _ (acts i _).2 (keeps _ _ _ (acts i _).1 (stays change s holds))

theorem concludesTimed {p : Process κ ι σ ε α} (stays : ∀ out change s, done out s → done out (environment change s)) :
    Concludes environment done p s ↔ ∀ answers out, (p.timed environment answers s).1 = Process.ofExcept out →
      done out (p.timed environment answers s).2 := by
  have waits : ∀ out (answers : List (η × ι)) s, done out s → done out ((Process.ofExcept out : Process κ ι σ ε α).timed environment answers s).2 ∧
      ((Process.ofExcept out : Process κ ι σ ε α).timed environment answers s).1 = Process.ofExcept out := by
    intro out answers
    induction answers with
    | nil => exact fun s holds => by cases out <;> exact ⟨holds,rfl⟩
    | cons answer rest ih => exact fun s holds => by cases out <;> exact ih _ (stays _ _ _ holds)
  have ended : ∀ out out' : Except ε α, (Process.ofExcept out : Process κ ι σ ε α) = Process.ofExcept out' → out = out' := by
    intro out out' same
    cases out <;> cases out' <;> cases same <;> rfl
  induction p generalizing s with
  | ret value =>
    refine ⟨fun holds answers out same => ?_,fun every => every [] (.ok value) rfl⟩
    obtain ⟨still,its⟩ := waits (.ok value) answers s holds
    exact ended _ _ (its.symm.trans same) ▸ still
  | raise error =>
    refine ⟨fun holds answers out same => ?_,fun every => every [] (.error error) rfl⟩
    obtain ⟨still,its⟩ := waits (.error error) answers s holds
    exact ended _ _ (its.symm.trans same) ▸ still
  | call site update next ih =>
    refine ⟨fun concludes answers out same => ?_,fun every change i => (ih i _).mpr fun answers => every ((change,i) :: answers)⟩
    cases answers with
    | nil => cases out <;> cases same
    | cons answer rest => exact (ih answer.2 _).mp (concludes answer.1 answer.2) rest out same

/-- What holds of every end of a request is seen in the pool that serves it. -/
theorem concludesServed (sys : System ρ η κ ι σ ε α) (stays : ∀ out change s, done out s → done out (sys.environment change s))
    (pool : Pool ρ κ ι σ ε α) (request : ρ) :
    Concludes sys.environment done (sys.handler request) pool.world ↔ ∀ answers out,
      (sys.serveTimed pool request answers).threads[pool.threads.length]? = some ⟨request,Process.ofExcept out⟩ →
        done out (sys.serveTimed pool request answers).world := by
  rw [concludesTimed stays]
  refine forall_congr' fun answers => forall_congr' fun out => ?_
  rw [(servedTimed sys pool request answers).1,(servedTimed sys pool request answers).2,List.getElem?_concat_length]
  simp only [Option.some.injEq,Thread.mk.injEq,true_and]

end Workflow
