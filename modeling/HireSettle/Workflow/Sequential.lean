import HireSettle.Workflow.Pool

/-! Requests served one at a time. Serving a request alone is a run in which only
its thread is answered, so what holds of every interleaving holds here too; in
addition nothing moves between two calls of the request being served. `Ensures`
follows a process from the snapshot it starts in: every call keeps `inv` as long
as its event is admitted, and the end is what `done` asks for. -/
namespace Workflow

variable {ρ η κ ι σ ε α β : Type}

def System.serve (sys : System ρ η κ ι σ ε α) (pool : Pool ρ κ ι σ ε α) (request : ρ) (answers : List ι) :
    Pool ρ κ ι σ ε α :=
  sys.run pool (.start request :: answers.map (.answer pool.threads.length))

def System.Returns (sys : System ρ η κ ι σ ε α) (pool : Pool ρ κ ι σ ε α) (request : ρ) (answers : List ι)
    (value : α) : Prop :=
  (sys.serve pool request answers).threads[pool.threads.length]? = some ⟨request,.ret value⟩

def Ensures (admits : List (Event κ ι σ) → Event κ ι σ → Prop) (inv : Snapshot κ ι σ → Prop)
    (done : Except ε α → Snapshot κ ι σ → Prop) : Process κ ι σ ε α → Snapshot κ ι σ → Prop
  | .ret value, c => done (.ok value) c
  | .raise error, c => done (.error error) c
  | .call site update next, c => ∀ thread i,
      admits c.history (c.event thread site i (update i c.world)) →
      inv (c.record thread site i (update i c.world)) ∧
        Ensures admits inv done (next i c.world) (c.record thread site i (update i c.world))

section Rules

variable {admits : List (Event κ ι σ) → Event κ ι σ → Prop} {inv : Snapshot κ ι σ → Prop}

theorem ensuresMono {done done' : Except ε α → Snapshot κ ι σ → Prop}
    (weaken : ∀ out c, done out c → done' out c) {p : Process κ ι σ ε α} {c : Snapshot κ ι σ}
    (ensures : Ensures admits inv done p c) : Ensures admits inv done' p c := by
  induction p generalizing c with
  | ret value => exact weaken _ _ ensures
  | raise error => exact weaken _ _ ensures
  | call site update next ih =>
    intro thread i meets
    obtain ⟨kept,rest⟩ := ensures thread i meets
    exact ⟨kept,ih i c.world rest⟩

theorem ensuresBind {done : Except ε β → Snapshot κ ι σ → Prop} {k : α → Process κ ι σ ε β}
    {p : Process κ ι σ ε α} {c : Snapshot κ ι σ}
    (ensures : Ensures admits inv (fun out c => match out with
      | .ok value => Ensures admits inv done (k value) c
      | .error error => done (.error error) c) p c) :
    Ensures admits inv done (p >>= k) c := by
  induction p generalizing c with
  | ret value => exact ensures
  | raise error => exact ensures
  | call site update next ih =>
    intro thread i meets
    obtain ⟨kept,rest⟩ := ensures thread i meets
    exact ⟨kept,ih i c.world rest⟩

theorem ensuresHandle {done : Except ε α → Snapshot κ ι σ → Prop} {h : ε → Process κ ι σ ε α}
    {p : Process κ ι σ ε α} {c : Snapshot κ ι σ}
    (ensures : Ensures admits inv (fun out c => match out with
      | .ok value => done (.ok value) c
      | .error error => Ensures admits inv done (h error) c) p c) :
    Ensures admits inv done (p.handle h) c := by
  induction p generalizing c with
  | ret value => exact ensures
  | raise error => exact ensures
  | call site update next ih =>
    intro thread i meets
    obtain ⟨kept,rest⟩ := ensures thread i meets
    exact ⟨kept,ih i c.world rest⟩

theorem ensuresQuery {done : Except ε α → Snapshot κ ι σ → Prop} {site : κ} {f : ι → σ → Except ε α}
    {c : Snapshot κ ι σ}
    (step : ∀ thread i, admits c.history (c.event thread site i c.world) →
      inv (c.record thread site i c.world) ∧ done (f i c.world) (c.record thread site i c.world)) :
    Ensures admits inv done (Process.query site f) c := by
  intro thread i meets
  obtain ⟨kept,outcome⟩ := step thread i meets
  refine ⟨kept,?_⟩
  cases h : f i c.world with
  | ok value => simpa only [Process.ofExcept,Ensures,h] using outcome
  | error error => simpa only [Process.ofExcept,Ensures,h] using outcome

/-- A transaction whose failure is an event, too. -/
theorem ensuresAttempt {done : Except ε α → Snapshot κ ι σ → Prop} {site : κ} {f : ι → σ → Except ε (α × σ)} {c : Snapshot κ ι σ}
    (commits : ∀ thread i value after, f i c.world = .ok (value,after) → admits c.history (c.event thread site i after) →
      inv (c.record thread site i after) ∧ done (.ok value) (c.record thread site i after))
    (throws : ∀ thread i error, f i c.world = .error error → admits c.history (c.event thread site i c.world) →
      inv (c.record thread site i c.world) ∧ done (.error error) (c.record thread site i c.world)) :
    Ensures admits inv done (Process.transact site f) c := by
  intro thread i meets
  cases h : f i c.world with
  | ok out =>
    simp only [Process.applied,h] at meets
    simpa only [Process.applied,h,Except.map,Process.ofExcept,Ensures] using commits thread i out.1 out.2 h meets
  | error error =>
    simp only [Process.applied,h] at meets
    simpa only [Process.applied,h,Except.map,Process.ofExcept,Ensures] using throws thread i error h meets

theorem ensuresTransact {done : Except ε α → Snapshot κ ι σ → Prop} {site : κ}
    {f : ι → σ → Except ε (α × σ)} {c : Snapshot κ ι σ}
    (commits : ∀ thread i value after, f i c.world = .ok (value,after) →
      admits c.history (c.event thread site i after) →
      inv (c.record thread site i after) ∧ done (.ok value) (c.record thread site i after))
    (throws : ∀ thread i error, f i c.world = .error error →
      inv (c.record thread site i c.world) ∧ done (.error error) (c.record thread site i c.world)) :
    Ensures admits inv done (Process.transact site f) c :=
  ensuresAttempt commits fun thread i error failed _ => throws thread i error failed

variable {sys : System ρ η κ ι σ ε α} {done : Except ε α → Snapshot κ ι σ → Prop}

theorem ensuresDeliver {pool : Pool ρ κ ι σ ε α} {k : Nat} {request : ρ} {p : Process κ ι σ ε α}
    (here : pool.threads[k]? = some ⟨request,p⟩) (kept : inv pool.snapshot)
    (ensures : Ensures admits inv done p pool.snapshot) (i : ι)
    (meets : AllMeet (fun earlier e => e.thread = k → admits earlier e) (pool.deliver k i).history) :
    inv (pool.deliver k i).snapshot ∧ ∃ p', (pool.deliver k i).threads[k]? = some ⟨request,p'⟩ ∧
      Ensures admits inv done p' (pool.deliver k i).snapshot := by
  unfold Pool.deliver at meets ⊢
  split
  · rename_i request' site update next found
    simp only [found] at meets
    cases here.symm.trans found
    obtain ⟨kept',rest⟩ := ensures k i (meets.1 rfl)
    have bound := (List.getElem?_eq_some_iff.mp found).1
    exact ⟨kept',_,List.getElem?_set_self bound,rest⟩
  · exact ⟨kept,p,here,ensures⟩

theorem ensuresAnswers {request : ρ} (answers : List ι) {pool : Pool ρ κ ι σ ε α} {k : Nat}
    {p : Process κ ι σ ε α} (here : pool.threads[k]? = some ⟨request,p⟩) (kept : inv pool.snapshot)
    (ensures : Ensures admits inv done p pool.snapshot)
    (meets : AllMeet (fun earlier e => e.thread = k → admits earlier e) (sys.run pool (answers.map (.answer k))).history) :
    inv (sys.run pool (answers.map (.answer k))).snapshot ∧
    ∃ p', (sys.run pool (answers.map (.answer k))).threads[k]? = some ⟨request,p'⟩ ∧
      Ensures admits inv done p' (sys.run pool (answers.map (.answer k))).snapshot := by
  induction answers generalizing pool p with
  | nil => exact ⟨kept,p,here,ensures⟩
  | cons i rest ih =>
    have earlier : AllMeet (fun earlier e => e.thread = k → admits earlier e) (pool.deliver k i).history :=
      meetsSuffix (sys.runHistory (sys.move pool (.answer k i)) (rest.map (.answer k))) meets
    obtain ⟨kept',p',here',ensures'⟩ := ensuresDeliver here kept ensures i earlier
    exact ih here' kept' ensures' meets

theorem ensuresServe {pool : Pool ρ κ ι σ ε α} {request : ρ} (kept : inv pool.snapshot)
    (ensures : Ensures admits inv done (sys.handler request) pool.snapshot) (answers : List ι)
    (meets : AllMeet (fun earlier e => e.thread = pool.threads.length → admits earlier e)
      (sys.serve pool request answers).history) :
    inv (sys.serve pool request answers).snapshot ∧
    ∃ p', (sys.serve pool request answers).threads[pool.threads.length]? = some ⟨request,p'⟩ ∧
      Ensures admits inv done p' (sys.serve pool request answers).snapshot := by
  have begun : (sys.move pool (.start request)).threads[pool.threads.length]? =
      some ⟨request,sys.handler request⟩ := by simp [System.move]
  exact ensuresAnswers answers begun kept ensures meets

abbrev Ends (done : Except ε α → Snapshot κ ι σ → Prop) (p : Process κ ι σ ε α) (c : Snapshot κ ι σ) : Prop :=
  Ensures (fun _ _ => True) (fun _ => True) done p c

theorem endsServe {pool : Pool ρ κ ι σ ε α} {request : ρ} (ends : Ends done (sys.handler request) pool.snapshot)
    (answers : List ι) {value : α}
    (returned : sys.Returns pool request answers value) :
    done (.ok value) (sys.serve pool request answers).snapshot := by
  obtain ⟨_,p',here,rest⟩ := ensuresServe trivial ends answers (meetsAlways (fun _ _ _ => trivial) _)
  cases here.symm.trans returned
  exact rest

end Rules

section Attained

variable {P : Event κ ι σ → Prop} {thread : Nat}

/-- Served alone, the process comes to such an event under some answers. -/
def Attains (P : Event κ ι σ → Prop) (thread : Nat) : Process κ ι σ ε α → σ → Prop
  | .ret _, _ => False
  | .raise _, _ => False
  | .call site update next, s => ∃ i, P ⟨thread,site,i,s,update i s⟩ ∨ Attains P thread (next i s) (update i s)

theorem attainsBind {k : α → Process κ ι σ ε β} {p : Process κ ι σ ε α} {s : σ} (attains : Attains P thread p s) :
    Attains P thread (p >>= k) s := by
  induction p generalizing s with
  | ret value => exact attains.elim
  | raise error => exact attains.elim
  | call site update next ih =>
    obtain ⟨i,now | later⟩ := attains
    · exact ⟨i,Or.inl now⟩
    · exact ⟨i,Or.inr (ih i s later)⟩

theorem attainsAsk {site : κ} {f : ι → σ → Except ε α} {k : α → Process κ ι σ ε β} {s : σ} (i : ι) (value : α)
    (found : f i s = .ok value) (rest : Attains P thread (k value) s) : Attains P thread (Process.query site f >>= k) s := by
  refine ⟨i,Or.inr ?_⟩
  show Attains P thread (Process.ofExcept (f i s) >>= k) s
  rw [found]
  exact rest

theorem attainsTransact {site : κ} {f : ι → σ → Except ε (α × σ)} {s : σ} (i : ι) (value : α) (s' : σ)
    (committed : f i s = .ok (value,s')) (event : P ⟨thread,site,i,s,s'⟩) : Attains P thread (Process.transact site f) s := by
  refine ⟨i,Or.inl ?_⟩
  rwa [Process.applied,committed]

theorem attainsAnswers {sys : System ρ η κ ι σ ε α} {pool : Pool ρ κ ι σ ε α} {request : ρ} {p : Process κ ι σ ε α}
    (here : pool.threads[thread]? = some ⟨request,p⟩) (attains : Attains P thread p pool.world) :
    ∃ answers : List ι, ∃ e ∈ (sys.run pool (answers.map (.answer thread))).history, P e := by
  induction p generalizing pool with
  | ret value => exact attains.elim
  | raise error => exact attains.elim
  | call site update next ih =>
    obtain ⟨i,attains⟩ := attains
    have bound : thread < pool.threads.length := (List.getElem?_eq_some_iff.mp here).1
    have moved : sys.move pool (.answer thread i) =
        ⟨pool.snapshot.record thread site i (update i pool.world),pool.threads.set thread ⟨request,next i pool.world⟩⟩ := by
      simp only [System.move,Pool.deliver,here]
    rcases attains with now | later
    · refine ⟨[i],_,?_,now⟩
      show _ ∈ (sys.move pool (.answer thread i)).history
      rw [moved]
      exact List.mem_cons_self
    · have here' : (sys.move pool (.answer thread i)).threads[thread]? = some ⟨request,next i pool.world⟩ := by
        rw [moved]
        exact List.getElem?_set_self bound
      have later' : Attains P thread (next i pool.world) (sys.move pool (.answer thread i)).world := by
        rw [moved]
        exact later
      obtain ⟨answers,e,inside,holds⟩ := ih i pool.world here' later'
      exact ⟨i :: answers,e,inside,holds⟩

theorem attainsServe (sys : System ρ η κ ι σ ε α) (pool : Pool ρ κ ι σ ε α) {request : ρ}
    (attains : Attains P pool.threads.length (sys.handler request) pool.world) :
    ∃ answers : List ι, ∃ e ∈ (sys.serve pool request answers).history, P e :=
  have begun : (sys.move pool (.start request)).threads[pool.threads.length]? = some ⟨request,sys.handler request⟩ := by
    simp [System.move]
  attainsAnswers begun attains

end Attained

section Interpretation

variable {respond : κ → ι} {s : σ}

/-- A process alone, whose calls are answered by a fixed environment. -/
def Process.interpret (respond : κ → ι) : Process κ ι σ ε α → σ → Except ε α × σ
  | .ret value, s => (.ok value,s)
  | .raise error, s => (.error error,s)
  | .call site update next, s => (next (respond site) s).interpret respond (update (respond site) s)

theorem interpretBind (p : Process κ ι σ ε α) (k : α → Process κ ι σ ε β) : (p >>= k).interpret respond s =
    match p.interpret respond s with
    | (.ok value,s') => (k value).interpret respond s'
    | (.error error,s') => (.error error,s') := by
  induction p generalizing s with
  | ret value => rfl
  | raise error => rfl
  | call site update next ih => exact ih (respond site) s

theorem interpretHandle (p : Process κ ι σ ε α) (h : ε → Process κ ι σ ε α) : (p.handle h).interpret respond s =
    match p.interpret respond s with
    | (.ok value,s') => (.ok value,s')
    | (.error error,s') => (h error).interpret respond s' := by
  induction p generalizing s with
  | ret value => rfl
  | raise error => rfl
  | call site update next ih => exact ih (respond site) s

@[simp] theorem interpretOfExcept (out : Except ε α) : (Process.ofExcept out : Process κ ι σ ε α).interpret respond s = (out,s) := by
  cases out <;> rfl

@[simp] theorem interpretQuery (site : κ) (f : ι → σ → Except ε α) :
    (Process.query site f).interpret respond s = (f (respond site) s,s) :=
  interpretOfExcept _

@[simp] theorem interpretTransact (site : κ) (f : ι → σ → Except ε (α × σ)) :
    (Process.transact site f).interpret respond s = ((f (respond site) s).map Prod.fst,Process.applied f (respond site) s) :=
  interpretOfExcept _

/-- The sites that it calls, in order. -/
def Process.sites (respond : κ → ι) : Process κ ι σ ε α → σ → List κ
  | .ret _, _ => []
  | .raise _, _ => []
  | .call site update next, s => site :: (next (respond site) s).sites respond (update (respond site) s)

theorem sitesBind (p : Process κ ι σ ε α) (k : α → Process κ ι σ ε β) : (p >>= k).sites respond s =
    p.sites respond s ++ match p.interpret respond s with
      | (.ok value,s') => (k value).sites respond s'
      | (.error _,_) => [] := by
  induction p generalizing s with
  | ret value => rfl
  | raise error => rfl
  | call site update next ih => exact congrArg (site :: ·) (ih (respond site) s)

theorem sitesHandle (p : Process κ ι σ ε α) (h : ε → Process κ ι σ ε α) : (p.handle h).sites respond s =
    p.sites respond s ++ match p.interpret respond s with
      | (.ok _,_) => []
      | (.error error,s') => (h error).sites respond s' := by
  induction p generalizing s with
  | ret value => rfl
  | raise error => rfl
  | call site update next ih => exact congrArg (site :: ·) (ih (respond site) s)

@[simp] theorem sitesQuery (site : κ) (f : ι → σ → Except ε α) : (Process.query site f).sites respond s = [site] := by
  show site :: (Process.ofExcept (f (respond site) s)).sites respond s = [site]
  cases f (respond site) s <;> rfl

@[simp] theorem sitesTransact (site : κ) (f : ι → σ → Except ε (α × σ)) : (Process.transact site f).sites respond s = [site] := by
  show site :: (Process.ofExcept ((f (respond site) s).map Prod.fst)).sites respond _ = [site]
  cases f (respond site) s <;> rfl

theorem sitesThrow {other : κ} {p : Process κ ι σ ε α} {k : α → Process κ ι σ ε β} {error : ε}
    (thrown : ((p >>= k).interpret respond s).1 = .error error) (first : other ∉ p.sites respond s)
    (rest : ∀ value s', ((k value).interpret respond s').1 = .error error → other ∉ (k value).sites respond s') :
    other ∉ (p >>= k).sites respond s := by
  rw [sitesBind]
  rw [interpretBind] at thrown
  cases out : p.interpret respond s with
  | mk result s' =>
    rw [out] at thrown
    cases result with
    | ok value => exact fun inside => (List.mem_append.mp inside).elim first (rest value s' thrown)
    | error error => exact fun inside => (List.mem_append.mp inside).elim first List.not_mem_nil

@[simp] theorem interpretRet (value : α) : (.ret value : Process κ ι σ ε α).interpret respond s = (.ok value,s) := rfl

/-- From where `pre` holds, a process that returns ends where `post` holds. -/
def Yields (respond : κ → ι) (pre : σ → Prop) (p : Process κ ι σ ε α) (post : α → σ → Prop) : Prop :=
  ∀ s, pre s → ∀ value s', p.interpret respond s = (.ok value,s') → post value s'

section Yields

variable {pre : σ → Prop} {p : Process κ ι σ ε α} {post : α → σ → Prop}

theorem yieldsRet {value : α} (holds : ∀ s, pre s → post value s) : Yields respond pre (.ret value : Process κ ι σ ε α) post := by
  intro s before value' s' returned
  cases returned
  exact holds s before

theorem yieldsRaise {error : ε} : Yields respond pre (.raise error : Process κ ι σ ε α) post := by
  intro s _ value s' returned
  cases returned

theorem yieldsMono {pre' : σ → Prop} {post' : α → σ → Prop} (strengthen : ∀ s, pre' s → pre s)
    (weaken : ∀ value s, post value s → post' value s) (yields : Yields respond pre p post) : Yields respond pre' p post' :=
  fun s before value s' returned => weaken value s' (yields s (strengthen s before) value s' returned)

theorem yieldsThrough (post : α → σ → Prop) {k : α → Process κ ι σ ε β} {post' : β → σ → Prop} (first : Yields respond pre p post)
    (rest : ∀ value, Yields respond (post value) (k value) post') : Yields respond pre (p >>= k) post' := by
  intro s before value s' returned
  rw [interpretBind] at returned
  cases out : p.interpret respond s with
  | mk result middle =>
    rw [out] at returned
    cases result with
    | error error => cases returned
    | ok found => exact rest found middle (first s before found middle out) value s' returned

theorem yieldsBind {k : α → Process κ ι σ ε β} {post' : β → σ → Prop} (first : Yields respond pre p post)
    (rest : ∀ value, Yields respond (post value) (k value) post') : Yields respond pre (p >>= k) post' :=
  yieldsThrough post first rest

theorem yieldsHandle {h : ε → Process κ ι σ ε α} (first : Yields respond pre p post)
    (throws : ∀ error s value s', (h error).interpret respond s ≠ (.ok value,s')) : Yields respond pre (p.handle h) post := by
  intro s before value s' returned
  rw [interpretHandle] at returned
  cases out : p.interpret respond s with
  | mk result middle =>
    rw [out] at returned
    cases result with
    | error error => exact absurd returned (throws error middle value s')
    | ok found =>
      cases returned
      exact first s before value s' out

theorem yieldsQuery {site : κ} {f : ι → σ → Except ε α} (holds : ∀ i s value, pre s → f i s = .ok value → post value s) :
    Yields respond pre (Process.query site f) post := by
  intro s before value s' returned
  rw [interpretQuery] at returned
  obtain ⟨found,rfl⟩ := Prod.mk.inj returned
  exact holds _ s value before found

theorem yieldsTransact {site : κ} {f : ι → σ → Except ε (α × σ)}
    (holds : ∀ i s value s', pre s → f i s = .ok (value,s') → post value s') :
    Yields respond pre (Process.transact site f) post := by
  intro s before value s' returned
  rw [interpretTransact] at returned
  obtain ⟨found,rfl⟩ := Prod.mk.inj returned
  cases committed : f (respond site) s with
  | error error => rw [committed] at found; cases found
  | ok out =>
    rw [committed] at found
    cases found
    rw [Process.applied,committed]
    exact holds _ s _ _ before committed

end Yields

end Interpretation

section Timed

/-- A request served alone, while the environment acts before each of its calls. -/
def System.serveTimed (sys : System ρ η κ ι σ ε α) (pool : Pool ρ κ ι σ ε α) (request : ρ) (answers : List (η × ι)) : Pool ρ κ ι σ ε α :=
  sys.run pool (.start request :: answers.flatMap fun answer => [.environment answer.1,.answer pool.threads.length answer.2])

/-- What is left of a process, and the world, when its calls are answered so. -/
def Process.timed (environment : η → σ → σ) : Process κ ι σ ε α → List (η × ι) → σ → Process κ ι σ ε α × σ
  | p, [], s => (p,s)
  | .call _ update next, (change,i) :: rest, s => (next i (environment change s)).timed environment rest (update i (environment change s))
  | p, (change,_) :: rest, s => p.timed environment rest (environment change s)

variable {environment : η → σ → σ} {change : η} {i : ι} {rest : List (η × ι)} {s : σ}

theorem timedQuery {site : κ} {f : ι → σ → Except ε α} {k : α → Process κ ι σ ε β} {value : α}
    (found : f i (environment change s) = .ok value) :
    (Process.query site f >>= k).timed environment ((change,i) :: rest) s = (k value).timed environment rest (environment change s) := by
  show (Process.ofExcept (f i (environment change s)) >>= k).timed environment rest (environment change s) = _
  rw [found]
  rfl

theorem timedTransact {site : κ} {f : ι → σ → Except ε (α × σ)} {k : α → Process κ ι σ ε β} {value : α} {s' : σ}
    (committed : f i (environment change s) = .ok (value,s')) :
    (Process.transact site f >>= k).timed environment ((change,i) :: rest) s = (k value).timed environment rest s' := by
  show (Process.ofExcept ((f i (environment change s)).map Prod.fst) >>= k).timed environment rest
    (Process.applied f i (environment change s)) = _
  rw [Process.applied,committed]
  rfl

theorem timedThrows {site : κ} {f : ι → σ → Except ε (α × σ)} {k : α → Process κ ι σ ε β} {error : ε}
    (thrown : f i (environment change s) = .error error) :
    (Process.transact site f >>= k).timed environment [(change,i)] s = (.raise error,environment change s) := by
  show (Process.ofExcept ((f i (environment change s)).map Prod.fst) >>= k).timed environment []
    (Process.applied f i (environment change s)) = _
  rw [Process.applied,thrown]
  rfl

theorem timedAnswers {sys : System ρ η κ ι σ ε α} {threads : List (Thread ρ κ ι σ ε α)} {request : ρ} (answers : List (η × ι))
    {pool : Pool ρ κ ι σ ε α} {p : Process κ ι σ ε α} {s : σ} (here : pool.threads = threads ++ [⟨request,p⟩]) (world : pool.world = s) :
    (sys.run pool (answers.flatMap fun answer => [.environment answer.1,.answer threads.length answer.2])).threads =
        threads ++ [⟨request,(p.timed sys.environment answers s).1⟩] ∧
      (sys.run pool (answers.flatMap fun answer => [.environment answer.1,.answer threads.length answer.2])).world =
        (p.timed sys.environment answers s).2 := by
  induction answers generalizing pool p s with
  | nil => cases p <;> exact ⟨here,world⟩
  | cons answer rest ih =>
    obtain ⟨change,i⟩ := answer
    subst world
    have found : pool.threads[threads.length]? = some ⟨request,p⟩ := by rw [here,List.getElem?_concat_length]
    cases p with
    | ret value => exact ih (by simpa only [System.move,Pool.deliver,found] using here) (by simp only [System.move,Pool.deliver,found]; rfl)
    | raise error => exact ih (by simpa only [System.move,Pool.deliver,found] using here) (by simp only [System.move,Pool.deliver,found]; rfl)
    | call site update next =>
      refine ih (p := next i (sys.environment change pool.world)) ?_ ?_
      · simp only [System.move,Pool.deliver,here]
        simp [Pool.world]
      · simp only [System.move,Pool.deliver,found]
        rfl

theorem servedTimed (sys : System ρ η κ ι σ ε α) (pool : Pool ρ κ ι σ ε α) (request : ρ) (answers : List (η × ι)) :
    (sys.serveTimed pool request answers).threads =
        pool.threads ++ [⟨request,((sys.handler request).timed sys.environment answers pool.world).1⟩] ∧
      (sys.serveTimed pool request answers).world = ((sys.handler request).timed sys.environment answers pool.world).2 :=
  timedAnswers answers rfl rfl

end Timed

end Workflow
