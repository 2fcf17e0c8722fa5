import HireSettle.Workflow.Traces

/-! What a method has seen before each of its calls. A guarded process makes a call
only if it stands in the given relation to the calls it has made before, whatever
the other threads do in between. An invariant of the run may then use, at each
event, what its own thread has seen and what is asked of the run. -/
namespace Workflow

variable {ρ η κ ι σ ε α β : Type}

def Guarded (Q : List (Event κ ι σ) → Event κ ι σ → Prop) (done : List (Event κ ι σ) → Except ε α → Prop) :
    Process κ ι σ ε α → List (Event κ ι σ) → Prop
  | .ret value, own => done own (.ok value)
  | .raise error, own => done own (.error error)
  | .call site update next, own => ∀ thread i s, Q own ⟨thread,site,i,s,update i s⟩ ∧
      Guarded Q done (next i s) (⟨thread,site,i,s,update i s⟩ :: own)

section Rules

variable {Q : List (Event κ ι σ) → Event κ ι σ → Prop} {own : List (Event κ ι σ)}

theorem guardedMono {done done' : List (Event κ ι σ) → Except ε α → Prop} (weaken : ∀ own out, done own out → done' own out)
    {p : Process κ ι σ ε α} (guarded : Guarded Q done p own) : Guarded Q done' p own := by
  induction p generalizing own with
  | ret value => exact weaken _ _ guarded
  | raise error => exact weaken _ _ guarded
  | call site update next ih => exact fun thread i s => ⟨(guarded thread i s).1,ih i s (guarded thread i s).2⟩

theorem guardedBind {done : List (Event κ ι σ) → Except ε β → Prop} {k : α → Process κ ι σ ε β} {p : Process κ ι σ ε α}
    (guarded : Guarded Q (fun own out => match out with
      | .ok value => Guarded Q done (k value) own
      | .error error => done own (.error error)) p own) :
    Guarded Q done (p >>= k) own := by
  induction p generalizing own with
  | ret value => exact guarded
  | raise error => exact guarded
  | call site update next ih => exact fun thread i s => ⟨(guarded thread i s).1,ih i s (guarded thread i s).2⟩

theorem guardedHandle {done : List (Event κ ι σ) → Except ε α → Prop} {h : ε → Process κ ι σ ε α} {p : Process κ ι σ ε α}
    (guarded : Guarded Q (fun own out => match out with
      | .ok value => done own (.ok value)
      | .error error => Guarded Q done (h error) own) p own) :
    Guarded Q done (p.handle h) own := by
  induction p generalizing own with
  | ret value => exact guarded
  | raise error => exact guarded
  | call site update next ih => exact fun thread i s => ⟨(guarded thread i s).1,ih i s (guarded thread i s).2⟩

theorem guardedOfExcept {done : List (Event κ ι σ) → Except ε α → Prop} {out : Except ε α} (fin : done own out) :
    Guarded Q done (Process.ofExcept out) own := by
  cases out <;> exact fin

theorem guardedQuery {done : List (Event κ ι σ) → Except ε α → Prop} {site : κ} {f : ι → σ → Except ε α}
    (answered : ∀ thread i s, Q own ⟨thread,site,i,s,s⟩ ∧ done (⟨thread,site,i,s,s⟩ :: own) (f i s)) :
    Guarded Q done (Process.query site f) own :=
  fun thread i s => ⟨(answered thread i s).1,guardedOfExcept (answered thread i s).2⟩

theorem guardedTransact {done : List (Event κ ι σ) → Except ε α → Prop} {site : κ} {f : ι → σ → Except ε (α × σ)}
    (commits : ∀ thread i s value after, f i s = .ok (value,after) →
      Q own ⟨thread,site,i,s,after⟩ ∧ done (⟨thread,site,i,s,after⟩ :: own) (.ok value))
    (throws : ∀ thread i s error, f i s = .error error →
      Q own ⟨thread,site,i,s,s⟩ ∧ done (⟨thread,site,i,s,s⟩ :: own) (.error error)) :
    Guarded Q done (Process.transact site f) own := by
  intro thread i s
  cases h : f i s with
  | ok out =>
    simpa only [Process.applied,Except.map,Process.ofExcept,Guarded,h] using commits thread i s out.1 out.2 h
  | error error =>
    simpa only [Process.applied,Except.map,Process.ofExcept,Guarded,h] using throws thread i s error h

/-- A process whose calls are all admitted, whichever of them it has made since. -/
theorem guardedActs {E : κ → σ → σ → Prop}
    (free : ∀ later e, (∀ e' ∈ later, E e'.site e'.before e'.after) → E e.site e.before e.after → Q (later ++ own) e)
    {p : Process κ ι σ ε α} (acts : Acts E p) :
    Guarded Q (fun own' _ => ∃ later, own' = later ++ own ∧ ∀ e' ∈ later, E e'.site e'.before e'.after) p own := by
  have grown : ∀ later, (∀ e' ∈ later, E e'.site e'.before e'.after) →
      Guarded Q (fun own' _ => ∃ later, own' = later ++ own ∧ ∀ e' ∈ later, E e'.site e'.before e'.after) p (later ++ own) := by
    induction p with
    | ret value => exact fun later each => ⟨later,rfl,each⟩
    | raise error => exact fun later each => ⟨later,rfl,each⟩
    | call site update next ih =>
      intro later each thread i s
      refine ⟨free later _ each (acts i s).1,ih i s (acts i s).2 (⟨thread,site,i,s,update i s⟩ :: later) ?_⟩
      intro e' inside
      rcases List.mem_cons.mp inside with rfl | earlier
      · exact (acts i s).1
      · exact each e' earlier
  exact grown [] (fun _ inside => absurd inside List.not_mem_nil)

/-- Nothing is asked of the end. -/
def anyOutcome (_ : List (Event κ ι σ)) (_ : Except ε α) : Prop := True

theorem guardedAny {done : List (Event κ ι σ) → Except ε α → Prop} {p : Process κ ι σ ε α} (guarded : Guarded Q done p own) :
    Guarded Q anyOutcome p own := guardedMono (fun _ _ _ => trivial) guarded

theorem guardedRemembers {e : Event κ ι σ} {p : Process κ ι σ ε α} (guarded : Guarded Q anyOutcome p own) (inside : e ∈ own) :
    Guarded Q (fun own' _ => e ∈ own') p own := by
  induction p generalizing own with
  | ret value => exact inside
  | raise error => exact inside
  | call site update next ih =>
    exact fun thread i s => ⟨(guarded thread i s).1,ih i s (guarded thread i s).2 (List.mem_cons_of_mem _ inside)⟩

/-- The calls that a process has made before stay made. -/
theorem guardedGrows {done : List (Event κ ι σ) → Except ε α → Prop} {p : Process κ ι σ ε α} (guarded : Guarded Q done p own) :
    Guarded Q (fun own' out => done own' out ∧ own ⊆ own') p own := by
  suffices grown : ∀ before, before ⊆ own → Guarded Q (fun own' out => done own' out ∧ before ⊆ own') p own from grown own fun _ inside => inside
  induction p generalizing own with
  | ret value => exact fun before earlier => ⟨guarded,earlier⟩
  | raise error => exact fun before earlier => ⟨guarded,earlier⟩
  | call site update next ih =>
    exact fun before earlier thread i s => ⟨(guarded thread i s).1,
      ih i s (guarded thread i s).2 before fun _ inside => List.mem_cons_of_mem _ (earlier inside)⟩

theorem guardedThen {k : α → Process κ ι σ ε β} {p : Process κ ι σ ε α} (first : Guarded Q anyOutcome p own)
    (rest : ∀ value own, Guarded Q anyOutcome (k value) own) : Guarded Q anyOutcome (p >>= k) own := by
  refine guardedBind (guardedMono ?_ first)
  intro own out _
  cases out with
  | ok value => exact rest value own
  | error error => trivial

theorem guardedElse {h : ε → Process κ ι σ ε α} {p : Process κ ι σ ε α} (first : Guarded Q anyOutcome p own)
    (rest : ∀ error own, Guarded Q anyOutcome (h error) own) : Guarded Q anyOutcome (p.handle h) own := by
  refine guardedHandle (guardedMono ?_ first)
  intro own out _
  cases out with
  | ok value => trivial
  | error error => exact rest error own

theorem guardedForEach {δ : Type} {body : δ → Process κ ι σ ε Unit} (each : ∀ x own, Guarded Q anyOutcome (body x) own)
    (xs : List δ) (own : List (Event κ ι σ)) : Guarded Q anyOutcome (Process.forEach body xs) own := by
  induction xs generalizing own with
  | nil => trivial
  | cons x xs ih => exact guardedThen (each x own) fun _ own => ih own

/-- A loop over rows that keeps what is known of the calls made so far. -/
theorem guardedForKeeps {δ : Type} {body : δ → Process κ ι σ ε Unit} {I : List (Event κ ι σ) → Prop} {xs : List δ}
    (each : ∀ x ∈ xs, ∀ own, I own → Guarded Q (fun own' _ => I own') (body x) own) (known : I own) :
    Guarded Q (fun own' _ => I own') (Process.forEach body xs) own := by
  induction xs generalizing own with
  | nil => exact known
  | cons x xs ih =>
    refine guardedBind (guardedMono ?_ (each x List.mem_cons_self own known))
    intro own' out keeps
    cases out with
    | ok value => exact ih (fun y inside => each y (List.mem_cons_of_mem _ inside)) keeps
    | error error => exact keeps

/-- What each pass of a loop has established holds of all its rows at the end. -/
theorem guardedForAll {δ : Type} {body : δ → Process κ ι σ ε Unit} {R : δ → List (Event κ ι σ) → Prop} {xs : List δ}
    (grows : ∀ x own own', own ⊆ own' → R x own → R x own')
    (each : ∀ x ∈ xs, ∀ own, Guarded Q (fun own' out => out = .ok () → R x own') (body x) own) (own : List (Event κ ι σ)) :
    Guarded Q (fun own' out => out = .ok () → ∀ x ∈ xs, R x own') (Process.forEach body xs) own := by
  induction xs generalizing own with
  | nil => exact fun _ _ inside => absurd inside List.not_mem_nil
  | cons x xs ih =>
    refine guardedBind (guardedMono ?_ (each x List.mem_cons_self own))
    intro own' out first
    cases out with
    | error error => exact nofun
    | ok value =>
      refine guardedMono ?_ (guardedGrows (ih (fun y inside => each y (List.mem_cons_of_mem _ inside)) own'))
      intro own'' out ⟨rest,later⟩ fine y inside
      rcases List.mem_cons.mp inside with rfl | there
      · exact grows y own' own'' later (first rfl)
      · exact rest fine y there

theorem guardedFoldEach {δ : Type} {body : α → δ → Process κ ι σ ε α} (each : ∀ acc x own, Guarded Q anyOutcome (body acc x) own)
    (acc : α) (xs : List δ) (own : List (Event κ ι σ)) : Guarded Q anyOutcome (Process.foldEach body acc xs) own := by
  induction xs generalizing acc own with
  | nil => trivial
  | cons x xs ih => exact guardedThen (each acc x own) ih

theorem guardedFoldKeeps {δ : Type} {body : α → δ → Process κ ι σ ε α} {I : List (Event κ ι σ) → Prop} {xs : List δ}
    (each : ∀ acc, ∀ x ∈ xs, ∀ own, I own → Guarded Q (fun own' out => ∀ acc', out = .ok acc' → I own') (body acc x) own) (acc : α)
    (known : I own) : Guarded Q anyOutcome (Process.foldEach body acc xs) own := by
  induction xs generalizing acc own with
  | nil => trivial
  | cons x xs ih =>
    refine guardedBind (guardedMono ?_ (each acc x List.mem_cons_self own known))
    intro own' out keeps
    cases out with
    | ok acc' => exact ih (fun acc y inside => each acc y (List.mem_cons_of_mem _ inside)) acc' (keeps acc' rfl)
    | error error => trivial

end Rules

section Runs

variable {sys : System ρ η κ ι σ ε α}

theorem movedThread (pool : Pool ρ κ ι σ ε α) (m : Move ρ η ι) {k : Nat} {t : Thread ρ κ ι σ ε α}
    (there : pool.threads[k]? = some t) : ∃ t', (sys.move pool m).threads[k]? = some t' ∧ t'.request = t.request := by
  cases m with
  | start request => exact ⟨t,List.getElem?_append_left (List.getElem?_eq_some_iff.mp there).1 ▸ there,rfl⟩
  | answer l i =>
    simp only [System.move,Pool.deliver]
    split
    · rename_i request site update next found
      by_cases same : l = k
      · subst same
        cases found.symm.trans there
        exact ⟨_,List.getElem?_set_self (List.getElem?_eq_some_iff.mp found).1,rfl⟩
      · exact ⟨t,by rwa [List.getElem?_set_ne same],rfl⟩
    · exact ⟨t,there,rfl⟩
  | environment change => exact ⟨t,there,rfl⟩

theorem meetsMoved {P : ρ → List (Event κ ι σ) → Event κ ι σ → Prop} {pool : Pool ρ κ ι σ ε α} {m : Move ρ η ι}
    (meets : Meets P (sys.move pool m)) : Meets P pool := by
  refine meetsMono ?_ (meetsSuffix (sys.moveHistory pool m) meets)
  intro earlier e its t there
  obtain ⟨t',there',same⟩ : ∃ t', (sys.move pool m).threads[e.thread]? = some t' ∧ t'.request = t.request := movedThread pool m there
  exact same ▸ its t' there'

theorem meetsRun {P : ρ → List (Event κ ι σ) → Event κ ι σ → Prop} {pool : Pool ρ κ ι σ ε α} {moves : List (Move ρ η ι)}
    (meets : Meets P (sys.run pool moves)) : Meets P pool := by
  induction moves generalizing pool with
  | nil => exact meets
  | cons m rest ih => exact meetsMoved (ih meets)

structure GuardedEnds (Q : ρ → List (Event κ ι σ) → Event κ ι σ → Prop) (D : ρ → List (Event κ ι σ) → Except ε α → Prop)
    (J : Snapshot κ ι σ → Prop) (pool : Pool ρ κ ι σ ε α) : Prop where
  known : ∀ e ∈ pool.history, e.thread < pool.threads.length
  each : ∀ k t, pool.threads[k]? = some t → Guarded (Q t.request) (D t.request) t.process (pool.own k)
  seen : Meets (fun request earlier e => Q request (earlier.filter fun e' => e'.thread = e.thread) e) pool
  holds : J pool.snapshot

abbrev GuardedPool (Q : ρ → List (Event κ ι σ) → Event κ ι σ → Prop) (J : Snapshot κ ι σ → Prop) (pool : Pool ρ κ ι σ ε α) : Prop :=
  GuardedEnds Q (fun _ => anyOutcome) J pool

variable {Q P : ρ → List (Event κ ι σ) → Event κ ι σ → Prop} {D : ρ → List (Event κ ι σ) → Except ε α → Prop}
  {J : Snapshot κ ι σ → Prop}

theorem guardedDeliver
    (keeps : ∀ request c thread site i s', J c → Q request (c.history.filter fun e => e.thread = thread) (c.event thread site i s') →
      P request c.history (c.event thread site i s') → J (c.record thread site i s'))
    {pool : Pool ρ κ ι σ ε α} (guarded : GuardedEnds Q D J pool) (k : Nat) (i : ι) (meets : Meets P (pool.deliver k i)) :
    GuardedEnds Q D J (pool.deliver k i) := by
  unfold Pool.deliver at meets ⊢
  split
  · rename_i request site update next found
    simp only [found] at meets
    have bound : k < pool.threads.length := (List.getElem?_eq_some_iff.mp found).1
    obtain ⟨guard,rest⟩ := guarded.each k _ found k i pool.world
    have own : ∀ l, Pool.own ⟨pool.snapshot.record k site i (update i pool.world),
        pool.threads.set k ⟨request,next i pool.world⟩⟩ l =
          if k = l then ⟨k,site,i,pool.world,update i pool.world⟩ :: pool.own l else pool.own l := by
      intro l
      simp only [Pool.own,Pool.history,Snapshot.recordHistory,List.filter_cons,decide_eq_true_eq]
      rfl
    refine ⟨?_,?_,⟨?_,?_⟩,?_⟩
    · intro e inside
      rcases List.mem_cons.mp inside with rfl | earlier
      · simpa [Snapshot.event] using bound
      · simpa using guarded.known e earlier
    · intro l t there
      rw [own l]
      by_cases same : k = l
      · subst same
        have moved : t = ⟨request,next i pool.world⟩ := by simpa [bound] using there.symm
        subst t
        rw [if_pos rfl]
        exact rest
      · rw [if_neg same]
        exact guarded.each l t (by simpa [List.getElem?_set,same] using there)
    · intro t there
      have single : t = ⟨request,next i pool.world⟩ := by
        rw [show (Snapshot.event pool.snapshot k site i (update i pool.world)).thread = k from rfl,List.getElem?_set_self bound] at there
        exact (Option.some.inj there).symm
      subst t
      exact guard
    · refine meetsMono ?_ guarded.seen
      intro earlier e its t there
      by_cases same : k = e.thread
      · subst same
        rw [List.getElem?_set_self bound] at there
        cases there
        have old := its ⟨request,.call site update next⟩ found
        exact old
      · exact its t (by rwa [List.getElem?_set_ne same] at there)
    · exact keeps request pool.snapshot k site i _ guarded.holds guard
        (meets.1 ⟨request,next i pool.world⟩ (List.getElem?_set_self bound))
  · exact guarded

theorem guardedMove
    (keeps : ∀ request c thread site i s', J c → Q request (c.history.filter fun e => e.thread = thread) (c.event thread site i s') →
      P request c.history (c.event thread site i s') → J (c.record thread site i s'))
    (environment : ∀ change c, J c → J { c with world := sys.environment change c.world })
    (starts : ∀ r, Guarded (Q r) (D r) (sys.handler r) []) {pool : Pool ρ κ ι σ ε α} (guarded : GuardedEnds Q D J pool)
    (m : Move ρ η ι) (meets : Meets P (sys.move pool m)) : GuardedEnds Q D J (sys.move pool m) := by
  cases m with
  | start request =>
    refine ⟨?_,?_,?_,guarded.holds⟩
    · intro e inside
      have bound := guarded.known e inside
      simp only [System.move,List.length_append]
      omega
    · intro k t there
      rcases Nat.lt_or_ge k pool.threads.length with old | new
      · exact guarded.each k t (by rwa [System.move,List.getElem?_append_left old] at there)
      · have found : [Thread.mk request (sys.handler request)][k - pool.threads.length]? = some t := by
          rwa [System.move,List.getElem?_append_right new] at there
        have single := List.mem_singleton.mp (List.mem_of_getElem? found)
        subst t
        have unborn : pool.own k = [] := by
          refine List.filter_eq_nil_iff.mpr fun e inside => ?_
          have bound := guarded.known e inside
          simp only [decide_eq_true_eq]
          omega
        show Guarded _ _ _ (pool.own k)
        rw [unborn]
        exact starts request
    · refine meetsWithin ?_ guarded.seen
      intro earlier e inside its t there
      exact its t (by rwa [System.move,List.getElem?_append_left (guarded.known e inside)] at there)
  | answer k i => exact guardedDeliver keeps guarded k i meets
  | environment change => exact ⟨guarded.known,guarded.each,guarded.seen,environment change _ guarded.holds⟩

/-- An invariant that each event keeps, given what its thread has seen. -/
theorem guardedRun
    (keeps : ∀ request c thread site i s', J c → Q request (c.history.filter fun e => e.thread = thread) (c.event thread site i s') →
      P request c.history (c.event thread site i s') → J (c.record thread site i s'))
    (environment : ∀ change c, J c → J { c with world := sys.environment change c.world })
    (starts : ∀ r, Guarded (Q r) (D r) (sys.handler r) []) {pool : Pool ρ κ ι σ ε α} (guarded : GuardedEnds Q D J pool)
    (moves : List (Move ρ η ι)) (meets : Meets P (sys.run pool moves)) : GuardedEnds Q D J (sys.run pool moves) := by
  induction moves generalizing pool with
  | nil => exact guarded
  | cons m rest ih => exact ih (guardedMove keeps environment starts guarded m (meetsRun meets)) meets

theorem guardedEnded {pool : Pool ρ κ ι σ ε α} (guarded : GuardedEnds Q D J pool) {k : Nat} {request : ρ} {out : Except ε α}
    (ended : pool.threads[k]? = some ⟨request,Process.ofExcept out⟩) : D request (pool.own k) out := by
  have fin := guarded.each k _ ended
  cases out <;> exact fin

theorem guardedReturned {pool : Pool ρ κ ι σ ε α} (guarded : GuardedEnds Q D J pool) {k : Nat} {request : ρ} {x : α}
    (ended : pool.threads[k]? = some ⟨request,.ret x⟩) : D request (pool.own k) (.ok x) := guarded.each k _ ended

theorem guardedInitial {world : σ} (holds : J ⟨world,[]⟩) : GuardedEnds Q D J (Pool.initial world : Pool ρ κ ι σ ε α) :=
  ⟨fun _ inside => absurd inside List.not_mem_nil,fun k t there => by simp [Pool.initial] at there,trivial,holds⟩

/-- What is known of the calls of one thread, from the earlier ones of its own. -/
theorem guardedOwn {pool : Pool ρ κ ι σ ε α} (guarded : GuardedEnds Q D J pool) {k : Nat} {t : Thread ρ κ ι σ ε α}
    (there : pool.threads[k]? = some t) : AllMeet (Q t.request) (pool.own k) := by
  have seen : AllMeet (fun earlier e => e.thread = k → Q t.request (earlier.filter fun e' => e'.thread = k) e) pool.history := by
    refine meetsMono (fun earlier e its same => ?_) guarded.seen
    subst same
    exact its t there
  rw [Pool.own]
  generalize pool.history = history at seen
  induction history with
  | nil => trivial
  | cons e earlier ih =>
    rw [List.filter_cons]
    split
    · rename_i same
      exact ⟨seen.1 (of_decide_eq_true same),ih seen.2⟩
    · exact ih seen.2

/-- Of two calls one was made before the other. -/
theorem meetsPair {A : List (Event κ ι σ) → Event κ ι σ → Prop} {history : List (Event κ ι σ)} (meets : AllMeet A history)
    {a b : Event κ ι σ} (here : a ∈ history) (there : b ∈ history) :
    a = b ∨ (∃ earlier, b ∈ earlier ∧ A earlier a) ∨ ∃ earlier, a ∈ earlier ∧ A earlier b := by
  induction history with
  | nil => exact absurd here List.not_mem_nil
  | cons e earlier ih =>
    rcases List.mem_cons.mp here with rfl | before
    · rcases List.mem_cons.mp there with rfl | before'
      · exact Or.inl rfl
      · exact Or.inr (Or.inl ⟨earlier,before',meets.1⟩)
    · rcases List.mem_cons.mp there with rfl | before'
      · exact Or.inr (Or.inr ⟨earlier,before,meets.1⟩)
      · exact ih meets.2 before before'

end Runs

section Since

variable {quiet : Event κ ι σ → Prop} {R : σ → σ → Prop} {c : Snapshot κ ι σ}

/-- From an event after which all were quiet, the world has moved by the relation. -/
def Since (quiet : Event κ ι σ → Prop) (R : σ → σ → Prop) (c : Snapshot κ ι σ) : Prop :=
  ∀ recent e older, c.history = recent ++ e :: older → (∀ e' ∈ recent, quiet e') → R e.after c.world

theorem sinceInitial {world : σ} : Since quiet R ⟨world,[]⟩ := by
  intro recent e older same
  simp at same

theorem sinceRecord (stays : ∀ s, R s s) (follows : ∀ {a b c}, R a b → R b c → R a c) {thread : Nat} {site : κ} {i : ι} {s' : σ}
    (step : quiet (c.event thread site i s') → R c.world s') (since : Since quiet R c) : Since quiet R (c.record thread site i s') := by
  intro recent e older same calm
  cases recent with
  | nil =>
    obtain ⟨rfl,_⟩ := List.cons.inj same
    exact stays _
  | cons newest rest =>
    obtain ⟨rfl,past⟩ := List.cons.inj same
    exact follows (since rest e older past fun e' inside => calm e' (List.mem_cons_of_mem _ inside)) (step (calm _ List.mem_cons_self))

/-- The last event of a kind, after which all were quiet. -/
theorem sinceFound {p : Event κ ι σ → Bool} (since : Since quiet R c) {e : Event κ ι σ} (found : c.history.find? p = some e)
    (calm : ∀ e' ∈ c.history.takeWhile (fun e' => !p e'), quiet e') : R e.after c.world := by
  obtain ⟨_,recent,older,same,before⟩ := List.find?_eq_some_iff_append.mp found
  refine since recent e older same fun e' inside => calm e' ?_
  rw [same,List.takeWhile_append_of_pos before]
  exact List.mem_append_left _ inside

/-- Every event has found the world where the earlier ones left it, or further on. -/
structure Advances (R : σ → σ → Prop) (c : Snapshot κ ι σ) : Prop where
  since : Since (fun _ => True) R c
  found : AllMeet (fun earlier e => ∀ d ∈ earlier, R d.after e.before) c.history

theorem sinceMem (since : Since (fun _ => True) R c) {e : Event κ ι σ} (inside : e ∈ c.history) : R e.after c.world := by
  obtain ⟨recent,older,same⟩ := List.append_of_mem inside
  exact since recent e older same fun _ _ => trivial

theorem advancesRecord (stays : ∀ s, R s s) (follows : ∀ {a b c}, R a b → R b c → R a c) {thread : Nat} {site : κ} {i : ι} {s' : σ}
    (step : R c.world s') (advances : Advances R c) : Advances R (c.record thread site i s') :=
  ⟨sinceRecord stays follows (fun _ => step) advances.since,fun _ inside => sinceMem advances.since inside,advances.found⟩

theorem advancesInitial {world : σ} : Advances R (⟨world,[]⟩ : Snapshot κ ι σ) := ⟨sinceInitial,trivial⟩

/-- At most one event of a kind, where none comes after another. -/
theorem countOnce {p : Event κ ι σ → Bool} {history : List (Event κ ι σ)}
    (alone : AllMeet (fun earlier e => p e = true → ∀ d ∈ earlier, p d = false) history) : history.countP p ≤ 1 := by
  induction history with
  | nil => exact Nat.zero_le 1
  | cons e earlier ih =>
    rw [List.countP_cons]
    split
    · rename_i here
      have none : earlier.countP p = 0 := List.countP_eq_zero.mpr fun d inside => by simp [alone.1 here d inside]
      rw [none]
    · exact ih alone.2

theorem advancesMono {R' : σ → σ → Prop} (weaker : ∀ s s', R s s' → R' s s') (advances : Advances R c) : Advances R' c :=
  ⟨fun recent e older same calm => weaker _ _ (advances.since recent e older same calm),
    meetsMono (fun _ _ each d inside => weaker _ _ (each d inside)) advances.found⟩

/-- What stays spent is spent at most once. -/
theorem spentOnce {spent : σ → Prop} {p : Event κ ι σ → Bool} (advances : Advances (fun s s' => spent s → spent s') c)
    (spends : ∀ e ∈ c.history, p e = true → ¬ spent e.before ∧ spent e.after) : c.history.countP p ≤ 1 := by
  refine countOnce (meetsIff.mpr fun earlier e suffix its d inside => ?_)
  have here : ∀ e' ∈ e :: earlier, e' ∈ c.history := fun _ there => suffix.subset there
  cases marked : p d with
  | false => rfl
  | true =>
    have still := (meetsIff.mp advances.found earlier e suffix) d inside (spends d (here d (List.mem_cons_of_mem _ inside)) marked).2
    exact absurd still (spends e (here e List.mem_cons_self) its).1

end Since

section Once

variable {history : List (Event κ ι σ)}

/-- The call that the thread of an event has made before it. -/
def previous (earlier : List (Event κ ι σ)) (e : Event κ ι σ) : Option (Event κ ι σ) :=
  (earlier.filter fun d => d.thread = e.thread).head?

/-- No event of a kind comes after another of it. -/
def AtMostOnce (p : List (Event κ ι σ) → Event κ ι σ → Prop) (history : List (Event κ ι σ)) : Prop :=
  AllMeet (fun earlier e => p earlier e → ∀ older d, d :: older <:+ earlier → ¬ p older d) history

theorem onceSame {p : Event κ ι σ → Bool} (once : history.countP p ≤ 1) {a b : Event κ ι σ} (here : a ∈ history) (there : b ∈ history)
    (first : p a = true) (second : p b = true) : a = b := by
  have mine : a ∈ history.filter p := List.mem_filter.mpr ⟨here,first⟩
  have its : b ∈ history.filter p := List.mem_filter.mpr ⟨there,second⟩
  rw [List.countP_eq_length_filter] at once
  match found : history.filter p with
  | [] => simp [found] at mine
  | [c] =>
    rw [found] at mine its
    rw [List.mem_singleton.mp mine,List.mem_singleton.mp its]
  | _ :: _ :: _ => simp [found] at once

/-- Two events of a kind are one, where none comes after another. -/
theorem aloneSame {P : Event κ ι σ → Prop} (alone : AllMeet (fun earlier e => P e → ∀ d ∈ earlier, ¬ P d) history) {a b : Event κ ι σ}
    (here : a ∈ history) (there : b ∈ history) (first : P a) (second : P b) : a = b := by
  rcases meetsPair alone here there with same | ⟨earlier,before,single⟩ | ⟨earlier,before,single⟩
  · exact same
  · exact absurd second (single first b before)
  · exact absurd first (single second a before)

/-- A call that happens once is followed once by the next call of its thread. -/
theorem onceFollowing {p : Event κ ι σ → Bool} (once : history.countP p ≤ 1) :
    AtMostOnce (fun earlier e => ∃ d ∈ previous earlier e, p d = true) history := by
  refine meetsIff.mpr fun earlier e suffix ⟨first,mine,marked⟩ older d below ⟨second,its,marked'⟩ => ?_
  have fewer : earlier.countP p ≤ 1 := (((List.suffix_cons e earlier).trans suffix).sublist.countP_le).trans once
  obtain ⟨recent,rfl⟩ := below
  have stored : second ∈ older := (List.mem_filter.mp (List.mem_of_head? its)).1
  have same : first = second := by
    refine onceSame fewer (List.mem_filter.mp (List.mem_of_head? mine)).1 ?_ marked marked'
    exact List.mem_append_right _ (List.mem_cons_of_mem _ stored)
  have thread : d.thread = e.thread := by
    have first' := (List.mem_filter.mp (List.mem_of_head? mine)).2
    have second' := (List.mem_filter.mp (List.mem_of_head? its)).2
    simp only [decide_eq_true_eq] at first' second'
    rw [← first',← second',same]
  -- the thread has made the call `d` in between
  have later : first ∈ recent ++ [d] := by
    rw [previous,List.filter_append,List.filter_cons_of_pos (by simpa using thread)] at mine
    cases calls : recent.filter fun d => d.thread = e.thread with
    | nil =>
      rw [calls] at mine
      cases mine
      exact List.mem_append_right _ (List.mem_singleton_self _)
    | cons c rest =>
      rw [calls] at mine
      cases mine
      exact List.mem_append_left _ (List.mem_of_mem_filter (calls ▸ List.mem_cons_self))
  have counted : 0 < (recent ++ [d]).countP p := List.countP_pos_iff.mpr ⟨first,later,marked⟩
  have counted' : 0 < older.countP p := List.countP_pos_iff.mpr ⟨second,stored,marked'⟩
  rw [List.append_cons,List.countP_append] at fewer
  omega

end Once

end Workflow
