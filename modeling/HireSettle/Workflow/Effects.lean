import HireSettle.Workflow.Pool

/-! What calls can change, without regard to any invariant. The flag of a tracked
process says whether a call of its own has changed the world so far; the steps of
a process relate the worlds before and after each of its calls. -/
namespace Workflow

variable {ρ η κ ι σ ε α β : Type}

def Tracks (changes : σ → σ → Prop) (done : Prop → Except ε α → Prop) :
    Process κ ι σ ε α → Prop → Prop
  | .ret value, changed => done changed (.ok value)
  | .raise error, changed => done changed (.error error)
  | .call _ update next, changed => ∀ i s, Tracks changes done (next i s) (changed ∨ changes s (update i s))

variable {changes : σ → σ → Prop}

theorem tracksBind {done : Prop → Except ε β → Prop} {k : α → Process κ ι σ ε β}
    {p : Process κ ι σ ε α} {changed : Prop}
    (tracks : Tracks changes (fun b out => match out with
      | .ok value => Tracks changes done (k value) b
      | .error error => done b (.error error)) p changed) :
    Tracks changes done (p >>= k) changed := by
  induction p generalizing changed with
  | ret value => exact tracks
  | raise error => exact tracks
  | call site update next ih => exact fun i s => ih i s (tracks i s)

theorem tracksHandle {done : Prop → Except ε α → Prop} {h : ε → Process κ ι σ ε α}
    {p : Process κ ι σ ε α} {changed : Prop}
    (tracks : Tracks changes (fun b out => match out with
      | .ok value => done b (.ok value)
      | .error error => Tracks changes done (h error) b) p changed) :
    Tracks changes done (p.handle h) changed := by
  induction p generalizing changed with
  | ret value => exact tracks
  | raise error => exact tracks
  | call site update next ih => exact fun i s => ih i s (tracks i s)

theorem tracksMono {done done' : Prop → Except ε α → Prop}
    (weaken : ∀ b out, done b out → done' b out) {p : Process κ ι σ ε α} {changed : Prop}
    (tracks : Tracks changes done p changed) : Tracks changes done' p changed := by
  induction p generalizing changed with
  | ret value => exact weaken _ _ tracks
  | raise error => exact weaken _ _ tracks
  | call site update next ih => exact fun i s => ih i s (tracks i s)

theorem tracksQuery {done : Prop → Except ε α → Prop} {site : κ} {f : ι → σ → Except ε α}
    {changed : Prop} (still : ∀ s, ¬ changes s s) (outcome : ∀ i s, done changed (f i s)) :
    Tracks changes done (Process.query site f) changed := by
  intro i s
  have same : (changed ∨ changes s s) = changed := by simp [still s]
  rw [same]
  cases h : f i s with
  | ok value => simpa only [Process.ofExcept,Tracks,h] using outcome i s
  | error error => simpa only [Process.ofExcept,Tracks,h] using outcome i s

theorem tracksTransact {done : Prop → Except ε α → Prop} {site : κ} {f : ι → σ → Except ε (α × σ)}
    {changed : Prop} (still : ∀ s, ¬ changes s s)
    (commits : ∀ i s value after, f i s = .ok (value,after) → done (changed ∨ changes s after) (.ok value))
    (throws : ∀ error, done changed (.error error)) :
    Tracks changes done (Process.transact site f) changed := by
  intro i s
  cases h : f i s with
  | ok out => simpa only [Process.applied,Process.ofExcept,Tracks,h,Except.map] using commits i s out.1 out.2 h
  | error error =>
    simpa only [Process.applied,Process.ofExcept,Tracks,h,Except.map,still s,or_false] using throws error

def Tracked (changes : σ → σ → Prop) (done : ρ → Prop → Except ε α → Prop)
    (pool : Pool ρ κ ι σ ε α) : Prop :=
  (∀ e ∈ pool.history, e.thread < pool.threads.length) ∧
  ∀ k t, pool.threads[k]? = some t → ∃ changed,
    Tracks changes (done t.request) t.process changed ∧
    ∀ e ∈ pool.history, e.thread = k → changes e.before e.after → changed

theorem trackedDeliver {done : ρ → Prop → Except ε α → Prop} {pool : Pool ρ κ ι σ ε α}
    (tracked : Tracked changes done pool) (k : Nat) (i : ι) : Tracked changes done (pool.deliver k i) := by
  unfold Pool.deliver
  split
  · rename_i request site update next found
    obtain ⟨known,each⟩ := tracked
    have bound : k < pool.threads.length := (List.getElem?_eq_some_iff.mp found).1
    refine ⟨?_,?_⟩
    · intro e inside
      rcases List.mem_cons.mp inside with rfl | earlier
      · simpa [Snapshot.event] using bound
      · simpa using known e earlier
    · intro l t at'
      by_cases same : k = l
      · subst same
        obtain ⟨changed,tracks,covers⟩ := each k _ found
        have eq : t = ⟨request,next i pool.world⟩ := by simpa [bound] using at'.symm
        subst t
        refine ⟨_,tracks i pool.world,?_⟩
        intro e inside mine change
        rcases List.mem_cons.mp inside with rfl | earlier
        · exact Or.inr change
        · exact Or.inl (covers e earlier mine change)
      · obtain ⟨changed,tracks,covers⟩ := each l t (by simpa [List.getElem?_set,same] using at')
        refine ⟨changed,tracks,?_⟩
        intro e inside mine change
        rcases List.mem_cons.mp inside with rfl | earlier
        · exact absurd mine same
        · exact covers e earlier mine change
  · exact tracked

theorem trackedMove {sys : System ρ η κ ι σ ε α} {done : ρ → Prop → Except ε α → Prop}
    (starts : ∀ r, Tracks changes (done r) (sys.handler r) False)
    (pool : Pool ρ κ ι σ ε α) (m : Move ρ η ι) (tracked : Tracked changes done pool) :
    Tracked changes done (sys.move pool m) := by
  cases m with
  | start request =>
    obtain ⟨known,each⟩ := tracked
    refine ⟨fun e inside => ?_,fun k t at' => ?_⟩
    · have := known e inside
      simp only [System.move,List.length_append]
      omega
    · rcases Nat.lt_or_ge k pool.threads.length with old | new
      · exact each k t (by rwa [System.move,List.getElem?_append_left old] at at')
      · have found : [Thread.mk request (sys.handler request)][k - pool.threads.length]? = some t := by
          rwa [System.move,List.getElem?_append_right new] at at'
        have single := List.mem_singleton.mp (List.mem_of_getElem? found)
        subst t
        refine ⟨False,starts request,fun e inside mine _ => ?_⟩
        have := known e inside
        omega
  | answer k i => exact trackedDeliver tracked k i
  | environment change => exact tracked

theorem trackedRaised {sys : System ρ η κ ι σ ε α} {done : ρ → Prop → Except ε α → Prop}
    (starts : ∀ r, Tracks changes (done r) (sys.handler r) False) (world : σ)
    (moves : List (Move ρ η ι)) {k : Nat} {request : ρ} {error : ε}
    (ended : (sys.run (Pool.initial world) moves).threads[k]? = some ⟨request,.raise error⟩) :
    ∃ changed, done request changed (.error error) ∧
      ∀ e ∈ (sys.run (Pool.initial world) moves).history, e.thread = k → changes e.before e.after → changed := by
  have begin : Tracked changes done (Pool.initial world : Pool ρ κ ι σ ε α) :=
    ⟨fun e inside => by simp [Pool.history,Pool.initial] at inside,fun k t at' => by simp [Pool.initial] at at'⟩
  exact (sys.runKeeps (trackedMove starts) begin moves).2 k _ ended

section Steps

variable {at' : κ → Bool} {R : σ → σ → Prop}

/-- Every call of the process is at one of these sites and changes the world by `R`. -/
def Steps (at' : κ → Bool) (R : σ → σ → Prop) : Process κ ι σ ε α → Prop
  | .ret _ => True
  | .raise _ => True
  | .call site update next => at' site = true ∧ ∀ i s, R s (update i s) ∧ Steps at' R (next i s)

def anySite (_ : κ) : Bool := true

theorem stepsBind {k : α → Process κ ι σ ε β} {p : Process κ ι σ ε α}
    (first : Steps at' R p) (rest : ∀ value, Steps at' R (k value)) : Steps at' R (p >>= k) := by
  induction p with
  | ret value => exact rest value
  | raise error => trivial
  | call site update next ih => exact ⟨first.1,fun i s => ⟨(first.2 i s).1,ih i s (first.2 i s).2⟩⟩

theorem stepsHandle {h : ε → Process κ ι σ ε α} {p : Process κ ι σ ε α}
    (first : Steps at' R p) (rest : ∀ error, Steps at' R (h error)) : Steps at' R (p.handle h) := by
  induction p with
  | ret value => trivial
  | raise error => exact rest error
  | call site update next ih => exact ⟨first.1,fun i s => ⟨(first.2 i s).1,ih i s (first.2 i s).2⟩⟩

theorem stepsMono {at'' : κ → Bool} {R' : σ → σ → Prop} (sites : ∀ site, at' site = true → at'' site = true)
    (changes : ∀ s s', R s s' → R' s s') {p : Process κ ι σ ε α} (steps : Steps at' R p) : Steps at'' R' p := by
  induction p with
  | ret value => trivial
  | raise error => trivial
  | call site update next ih =>
    exact ⟨sites site steps.1,fun i s => ⟨changes _ _ (steps.2 i s).1,ih i s (steps.2 i s).2⟩⟩

theorem stepsForEach {δ : Type} {body : δ → Process κ ι σ ε Unit} (each : ∀ x, Steps at' R (body x)) (xs : List δ) :
    Steps at' R (Process.forEach body xs) := by
  induction xs with
  | nil => trivial
  | cons x xs ih => exact stepsBind (each x) fun _ => ih

theorem stepsOfExcept (out : Except ε α) : Steps at' R (Process.ofExcept out : Process κ ι σ ε α) := by
  cases out <;> trivial

theorem stepsQuery {site : κ} (here : at' site = true) (stays : ∀ s, R s s) (f : ι → σ → Except ε α) :
    Steps at' R (Process.query site f) := ⟨here,fun _ s => ⟨stays s,stepsOfExcept _⟩⟩

theorem stepsTransact {site : κ} (here : at' site = true) (stays : ∀ s, R s s) {f : ι → σ → Except ε (α × σ)}
    (commits : ∀ i s value after, f i s = .ok (value,after) → R s after) :
    Steps at' R (Process.transact site f) := by
  refine ⟨here,fun i s => ⟨?_,stepsOfExcept _⟩⟩
  unfold Process.applied
  split
  · rename_i out ok
    exact commits i s out.1 out.2 ok
  · exact stays s

def AllStep (at' : κ → Bool) (R : σ → σ → Prop) (pool : Pool ρ κ ι σ ε α) : Prop :=
  ∀ t ∈ pool.threads, Steps at' R t.process

variable {sys : System ρ η κ ι σ ε α}

theorem stepsMove (stays : ∀ s, R s s) (starts : ∀ r, Steps at' R (sys.handler r))
    (environment : ∀ change s, R s (sys.environment change s))
    (pool : Pool ρ κ ι σ ε α) (m : Move ρ η ι) (all : AllStep at' R pool) :
    R pool.world (sys.move pool m).world ∧ AllStep at' R (sys.move pool m) := by
  cases m with
  | start request =>
    refine ⟨stays _,fun t inside => ?_⟩
    rcases List.mem_append.mp inside with old | new
    · exact all t old
    · rw [List.mem_singleton.mp new]
      exact starts request
  | answer k i =>
    simp only [System.move,Pool.deliver]
    split
    · rename_i request site update next found
      have here := (all _ (List.mem_of_getElem? found)).2 i pool.world
      refine ⟨here.1,fun t inside => ?_⟩
      rcases List.mem_or_eq_of_mem_set inside with old | rfl
      · exact all t old
      · exact here.2
    · exact ⟨stays _,all⟩
  | environment change => exact ⟨environment change _,all⟩

theorem stepsRun (stays : ∀ s, R s s) (follows : ∀ {a b c}, R a b → R b c → R a c)
    (starts : ∀ r, Steps at' R (sys.handler r)) (environment : ∀ change s, R s (sys.environment change s))
    {pool : Pool ρ κ ι σ ε α} (all : AllStep at' R pool) (moves : List (Move ρ η ι)) :
    R pool.world (sys.run pool moves).world ∧ AllStep at' R (sys.run pool moves) := by
  induction moves generalizing pool with
  | nil => exact ⟨stays _,all⟩
  | cons m rest ih =>
    obtain ⟨first,all'⟩ := stepsMove stays starts environment pool m all
    obtain ⟨later,all''⟩ := ih all'
    exact ⟨follows first later,all''⟩

end Steps

section Acts

variable {E : κ → σ → σ → Prop}

/-- Every call of the process changes the world as its site allows. -/
def Acts (E : κ → σ → σ → Prop) : Process κ ι σ ε α → Prop
  | .ret _ => True
  | .raise _ => True
  | .call site update next => ∀ i s, E site s (update i s) ∧ Acts E (next i s)

theorem actsBind {k : α → Process κ ι σ ε β} {p : Process κ ι σ ε α}
    (first : Acts E p) (rest : ∀ value, Acts E (k value)) : Acts E (p >>= k) := by
  induction p with
  | ret value => exact rest value
  | raise error => trivial
  | call site update next ih => exact fun i s => ⟨(first i s).1,ih i s (first i s).2⟩

theorem actsHandle {h : ε → Process κ ι σ ε α} {p : Process κ ι σ ε α}
    (first : Acts E p) (rest : ∀ error, Acts E (h error)) : Acts E (p.handle h) := by
  induction p with
  | ret value => trivial
  | raise error => exact rest error
  | call site update next ih => exact fun i s => ⟨(first i s).1,ih i s (first i s).2⟩

theorem actsMono {E' : κ → σ → σ → Prop} (weaker : ∀ site s s', E site s s' → E' site s s') {p : Process κ ι σ ε α}
    (acts : Acts E p) : Acts E' p := by
  induction p with
  | ret value => trivial
  | raise error => trivial
  | call site update next ih => exact fun i s => ⟨weaker _ _ _ (acts i s).1,ih i s (acts i s).2⟩

theorem actsBoth {E' : κ → σ → σ → Prop} {p : Process κ ι σ ε α} (acts : Acts E p) (acts' : Acts E' p) :
    Acts (fun site s s' => E site s s' ∧ E' site s s') p := by
  induction p with
  | ret value => trivial
  | raise error => trivial
  | call site update next ih => exact fun i s => ⟨⟨(acts i s).1,(acts' i s).1⟩,ih i s (acts i s).2 (acts' i s).2⟩

theorem actsForEach {δ : Type} {body : δ → Process κ ι σ ε Unit} (each : ∀ x, Acts E (body x)) (xs : List δ) :
    Acts E (Process.forEach body xs) := by
  induction xs with
  | nil => trivial
  | cons x xs ih => exact actsBind (each x) fun _ => ih

theorem actsFoldEach {δ : Type} {body : α → δ → Process κ ι σ ε α} (each : ∀ acc x, Acts E (body acc x))
    (acc : α) (xs : List δ) : Acts E (Process.foldEach body acc xs) := by
  induction xs generalizing acc with
  | nil => trivial
  | cons x xs ih => exact actsBind (each acc x) ih

theorem actsOfExcept (out : Except ε α) : Acts E (Process.ofExcept out : Process κ ι σ ε α) := by
  cases out <;> trivial

theorem actsQuery {site : κ} (stays : ∀ s, E site s s) (f : ι → σ → Except ε α) : Acts E (Process.query site f) :=
  fun _ s => ⟨stays s,actsOfExcept _⟩

theorem actsTransact {site : κ} (stays : ∀ s, E site s s) {f : ι → σ → Except ε (α × σ)}
    (commits : ∀ i s value after, f i s = .ok (value,after) → E site s after) : Acts E (Process.transact site f) := by
  refine fun i s => ⟨?_,actsOfExcept _⟩
  unfold Process.applied
  split
  · rename_i out ok
    exact commits i s out.1 out.2 ok
  · exact stays s

theorem actsSteps {at' : κ → Bool} {R : σ → σ → Prop} {p : Process κ ι σ ε α} (steps : Steps at' R p) :
    Acts (fun site s s' => at' site = true ∧ R s s') p := by
  induction p with
  | ret value => trivial
  | raise error => trivial
  | call site update next ih => exact fun i s => ⟨⟨steps.1,(steps.2 i s).1⟩,ih i s (steps.2 i s).2⟩

/-- Each event is one that the request it serves may cause, after what happened before. -/
def Meets (P : ρ → List (Event κ ι σ) → Event κ ι σ → Prop) (pool : Pool ρ κ ι σ ε α) : Prop :=
  AllMeet (fun earlier e => ∀ t ∈ pool.threads[e.thread]?, P t.request earlier e) pool.history

instance {P : ρ → List (Event κ ι σ) → Event κ ι σ → Prop} [∀ request earlier e, Decidable (P request earlier e)]
    (pool : Pool ρ κ ι σ ε α) : Decidable (Meets P pool) := by
  unfold Meets
  infer_instance

structure ActingPool (E : ρ → κ → σ → σ → Prop) (pool : Pool ρ κ ι σ ε α) : Prop where
  threads : ∀ t ∈ pool.threads, Acts (E t.request) t.process
  known : ∀ e ∈ pool.history, e.thread < pool.threads.length
  events : Meets (fun request _ e => E request e.site e.before e.after) pool

theorem actsDeliver {E : ρ → κ → σ → σ → Prop} {pool : Pool ρ κ ι σ ε α} (acting : ActingPool E pool) (k : Nat) (i : ι) :
    ActingPool E (pool.deliver k i) := by
  unfold Pool.deliver
  split
  · rename_i request site update next found
    have here := acting.threads _ (List.mem_of_getElem? found) i pool.world
    have bound := (List.getElem?_eq_some_iff.mp found).1
    have same : ∀ l : Nat, ∀ t : Thread ρ κ ι σ ε α, t ∈ (pool.threads.set k ⟨request,next i pool.world⟩)[l]? →
        ∃ t' : Thread ρ κ ι σ ε α, t' ∈ pool.threads[l]? ∧ t'.request = t.request := by
      intro l t there
      by_cases mine : k = l
      · subst mine
        rw [List.getElem?_set_self bound] at there
        cases there
        exact ⟨_,found,rfl⟩
      · rw [List.getElem?_set_ne mine] at there
        exact ⟨t,there,rfl⟩
    refine ⟨?_,?_,⟨?_,?_⟩⟩
    · intro t inside
      rcases List.mem_or_eq_of_mem_set inside with old | rfl
      · exact acting.threads t old
      · exact here.2
    · intro e inside
      rcases List.mem_cons.mp inside with rfl | earlier
      · simpa [Snapshot.event] using bound
      · simpa using acting.known e earlier
    · intro t there
      obtain ⟨t',there',request'⟩ := same _ t there
      cases found.symm.trans there'
      exact request' ▸ here.1
    · refine meetsMono ?_ acting.events
      intro earlier e its t there
      obtain ⟨t',there',request'⟩ := same _ t there
      exact request' ▸ its t' there'
  · exact acting

theorem actsMove {E : ρ → κ → σ → σ → Prop} {sys : System ρ η κ ι σ ε α} (starts : ∀ r, Acts (E r) (sys.handler r))
    (pool : Pool ρ κ ι σ ε α) (m : Move ρ η ι) (acting : ActingPool E pool) : ActingPool E (sys.move pool m) := by
  cases m with
  | start request =>
    refine ⟨?_,?_,?_⟩
    · intro t inside
      rcases List.mem_append.mp inside with old | new
      · exact acting.threads t old
      · rw [List.mem_singleton.mp new]
        exact starts request
    · intro e inside
      have bound := acting.known e inside
      simp only [System.move,List.length_append]
      omega
    · have known : ∀ e ∈ pool.history, ∀ t,
          t ∈ (pool.threads ++ [⟨request,sys.handler request⟩])[e.thread]? → t ∈ pool.threads[e.thread]? :=
        fun e inside t there => by rwa [List.getElem?_append_left (acting.known e inside)] at there
      exact meetsWithin (fun earlier e inside its t there => its t (known e inside t there)) acting.events
  | answer k i => exact actsDeliver acting k i
  | environment change => exact ⟨acting.threads,acting.known,acting.events⟩

/-- In a run each event changes the world as its request may. -/
theorem actsRun {E : ρ → κ → σ → σ → Prop} {sys : System ρ η κ ι σ ε α} (starts : ∀ r, Acts (E r) (sys.handler r)) (world : σ)
    (moves : List (Move ρ η ι)) : Meets (fun request _ e => E request e.site e.before e.after) (sys.run (Pool.initial world) moves) := by
  have begin : ActingPool E (Pool.initial world : Pool ρ κ ι σ ε α) :=
    ⟨fun t inside => absurd inside List.not_mem_nil,fun e inside => absurd inside List.not_mem_nil,trivial⟩
  exact (sys.runKeeps (actsMove starts) begin moves).events

end Acts

section Ignored

variable {γ : Type} {quiet : κ → Bool} {R : σ → σ → Prop} {K : Contract κ ι σ γ}

/-- A contract that steps of this kind keep, whoever holds what. -/
def Contract.Spares (K : Contract κ ι σ γ) (quiet : κ → Bool) (R : σ → σ → Prop) : Prop :=
  ∀ site s', quiet site = true → ∀ c g thread i, R c.world s' → K.inv c g → K.inv (c.record thread site i s') g

theorem sparesReads (ignores : ∀ site, quiet site = true → K.Ignores site) : K.Spares quiet Eq := by
  rintro site s' here c g thread i rfl inv
  exact ignores site here c g thread i inv

variable [AddCommMonoid γ]

theorem safeSteps (spares : K.Spares quiet R) {done : Except ε α → γ → Prop} {p : Process κ ι σ ε α}
    (steps : Steps quiet R p) {held : γ} (fin : ∀ out, done out held) : Safe K done p held := by
  induction p with
  | ret value => exact fin _
  | raise error => exact fin _
  | call site update next ih =>
    intro c frame thread i inv _
    obtain ⟨step,rest⟩ := steps.2 i c.world
    exact ⟨held,spares site _ steps.1 c _ thread i step inv,ih i c.world rest⟩

theorem harmlessSteps (spares : K.Spares quiet R) {p : Process κ ι σ ε α} (steps : Steps quiet R p) : Harmless K p :=
  fun _ => safeSteps spares steps fun _ => trivial

theorem safeStepsThen (spares : K.Spares quiet R) {done : Except ε β → γ → Prop} {p : Process κ ι σ ε α}
    {k : α → Process κ ι σ ε β} (steps : Steps quiet R p) {held : γ} (rest : ∀ value, Safe K done (k value) held)
    (failed : ∀ error, done (.error error) held) : Safe K done (p >>= k) held := by
  refine safeBind (safeSteps spares steps ?_)
  intro out
  cases out with
  | ok value => exact rest value
  | error error => exact failed error

theorem safeActs {E : κ → σ → σ → Prop}
    (keeps : ∀ site s' c g thread i, E site c.world s' → K.admits c.history (c.event thread site i s') →
      K.inv c g → K.inv (c.record thread site i s') g)
    {done : Except ε α → γ → Prop} {p : Process κ ι σ ε α} (acts : Acts E p) {held : γ} (fin : ∀ out, done out held) :
    Safe K done p held := by
  induction p with
  | ret value => exact fin _
  | raise error => exact fin _
  | call site update next ih =>
    intro c frame thread i inv meets
    obtain ⟨step,rest⟩ := acts i c.world
    exact ⟨held,keeps site _ c _ thread i step meets inv,ih i c.world rest⟩

abbrev Reads (quiet : κ → Bool) : Process κ ι σ ε α → Prop := Steps quiet Eq

theorem readsBind {k : α → Process κ ι σ ε β} {p : Process κ ι σ ε α}
    (first : Reads quiet p) (rest : ∀ value, Reads quiet (k value)) : Reads quiet (p >>= k) := stepsBind first rest

theorem readsQuery {site : κ} (here : quiet site = true) (f : ι → σ → Except ε α) :
    Reads quiet (Process.query site f) := stepsQuery here (fun _ => rfl) f

theorem safeReads (ignores : ∀ site, quiet site = true → K.Ignores site)
    {done : Except ε α → γ → Prop} {p : Process κ ι σ ε α} (reads : Reads quiet p) {held : γ}
    (fin : ∀ out, done out held) : Safe K done p held := safeSteps (sparesReads ignores) reads fin

theorem safeReadsThen (ignores : ∀ site, quiet site = true → K.Ignores site)
    {done : Except ε β → γ → Prop} {p : Process κ ι σ ε α} {k : α → Process κ ι σ ε β} (reads : Reads quiet p)
    {held : γ} (rest : ∀ value, Safe K done (k value) held) (failed : ∀ error, done (.error error) held) :
    Safe K done (p >>= k) held := safeStepsThen (sparesReads ignores) reads rest failed

end Ignored

end Workflow
