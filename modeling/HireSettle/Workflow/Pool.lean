import HireSettle.Workflow.Process

/-! Concurrent executions of a family of service methods. Every interleaving of
single calls is a run: requests arrive at any time, any pending call may be
answered next, and the environment may act in between. A contract is an invariant
of the run so far and of a ghost resource that all threads hold together, with
the condition on events under which it is promised. The contract rule `securedRun`
reduces it to one obligation for each call of each method. -/
namespace Workflow

structure Thread (ρ κ ι σ ε α : Type) where
  request : ρ
  process : Process κ ι σ ε α

structure System (ρ η κ ι σ ε α : Type) where
  handler : ρ → Process κ ι σ ε α
  environment : η → σ → σ

inductive Move (ρ η ι : Type) where
  | start (request : ρ)
  | answer (thread : Nat) (value : ι)
  | environment (change : η)

structure Pool (ρ κ ι σ ε α : Type) where
  snapshot : Snapshot κ ι σ
  threads : List (Thread ρ κ ι σ ε α)

namespace Pool

variable {ρ κ ι σ ε α : Type}

def world (pool : Pool ρ κ ι σ ε α) : σ := pool.snapshot.world

def history (pool : Pool ρ κ ι σ ε α) : List (Event κ ι σ) := pool.snapshot.history

def initial (world : σ) : Pool ρ κ ι σ ε α := ⟨⟨world,[]⟩,[]⟩

def deliver (pool : Pool ρ κ ι σ ε α) (k : Nat) (i : ι) : Pool ρ κ ι σ ε α :=
  match pool.threads[k]? with
  | some ⟨request,.call site update next⟩ =>
      ⟨pool.snapshot.record k site i (update i pool.world),
        pool.threads.set k ⟨request,next i pool.world⟩⟩
  | _ => pool

end Pool

namespace System

variable {ρ η κ ι σ ε α : Type} (sys : System ρ η κ ι σ ε α)

def move (pool : Pool ρ κ ι σ ε α) : Move ρ η ι → Pool ρ κ ι σ ε α
  | .start request => { pool with threads := pool.threads ++ [⟨request,sys.handler request⟩] }
  | .answer thread value => pool.deliver thread value
  | .environment change =>
      { pool with snapshot := { pool.snapshot with world := sys.environment change pool.world } }

def run (pool : Pool ρ κ ι σ ε α) (moves : List (Move ρ η ι)) : Pool ρ κ ι σ ε α :=
  moves.foldl sys.move pool

theorem runAppend (pool : Pool ρ κ ι σ ε α) (moves more : List (Move ρ η ι)) :
    sys.run pool (moves ++ more) = sys.run (sys.run pool moves) more := by
  simp only [run,List.foldl_append]

theorem runKeeps {P : Pool ρ κ ι σ ε α → Prop} (step : ∀ pool m, P pool → P (sys.move pool m))
    {pool : Pool ρ κ ι σ ε α} (start : P pool) (moves : List (Move ρ η ι)) :
    P (sys.run pool moves) := by
  induction moves generalizing pool with
  | nil => exact start
  | cons m rest ih => exact ih (step pool m start)

theorem moveHistory (pool : Pool ρ κ ι σ ε α) (m : Move ρ η ι) :
    pool.history <:+ (sys.move pool m).history := by
  cases m with
  | start request => exact List.suffix_refl _
  | answer k i =>
    simp only [move,Pool.deliver]
    split
    · exact List.suffix_cons _ _
    · exact List.suffix_refl _
  | environment change => exact List.suffix_refl _

theorem runHistory (pool : Pool ρ κ ι σ ε α) (moves : List (Move ρ η ι)) :
    pool.history <:+ (sys.run pool moves).history := by
  induction moves generalizing pool with
  | nil => exact List.suffix_refl _
  | cons m rest ih => exact (sys.moveHistory pool m).trans (ih _)

theorem endedMove {pool : Pool ρ κ ι σ ε α} {k : Nat} {request : ρ} {out : Except ε α}
    (ended : pool.threads[k]? = some ⟨request,Process.ofExcept out⟩) (m : Move ρ η ι) :
    (sys.move pool m).threads[k]? = some ⟨request,Process.ofExcept out⟩ := by
  cases m with
  | start request' => exact List.getElem?_append_left (List.getElem?_eq_some_iff.mp ended).1 ▸ ended
  | answer l i =>
    simp only [move,Pool.deliver]
    split
    · rename_i request' site update next found
      by_cases same : l = k
      · subst same
        cases out <;> cases ended.symm.trans found
      · rwa [List.getElem?_set_ne same]
    · exact ended
  | environment change => exact ended

theorem endedRun {pool : Pool ρ κ ι σ ε α} {k : Nat} {request : ρ} {out : Except ε α}
    (ended : pool.threads[k]? = some ⟨request,Process.ofExcept out⟩) (moves : List (Move ρ η ι)) :
    (sys.run pool moves).threads[k]? = some ⟨request,Process.ofExcept out⟩ := by
  induction moves generalizing pool with
  | nil => exact ended
  | cons m rest ih => exact ih (sys.endedMove ended m)

end System

structure Contract (κ ι σ γ : Type) where
  inv : Snapshot κ ι σ → γ → Prop
  admits : List (Event κ ι σ) → Event κ ι σ → Prop

section Contracts

variable {ρ η κ ι σ ε α β γ : Type} [AddCommMonoid γ]

/-- A process that holds `held` keeps the invariant at each of its calls, whatever
the other threads hold and did in between, and ends with what `done` asks for. -/
def Safe (K : Contract κ ι σ γ) (done : Except ε α → γ → Prop) : Process κ ι σ ε α → γ → Prop
  | .ret value, held => done (.ok value) held
  | .raise error, held => done (.error error) held
  | .call site update next, held => ∀ (c : Snapshot κ ι σ) (frame : γ) (thread : Nat) (i : ι),
      K.inv c (held + frame) →
      K.admits c.history (c.event thread site i (update i c.world)) →
      ∃ keeps, K.inv (c.record thread site i (update i c.world)) (keeps + frame) ∧
        Safe K done (next i c.world) keeps

variable {K : Contract κ ι σ γ}

theorem safeMono {done done' : Except ε α → γ → Prop} (weaken : ∀ out held, done out held → done' out held)
    {p : Process κ ι σ ε α} {held : γ} (safe : Safe K done p held) : Safe K done' p held := by
  induction p generalizing held with
  | ret value => exact weaken _ _ safe
  | raise error => exact weaken _ _ safe
  | call site update next ih =>
    intro c frame thread i inv meets
    obtain ⟨keeps,inv',rest⟩ := safe c frame thread i inv meets
    exact ⟨keeps,inv',ih i c.world rest⟩

theorem safeBind {done : Except ε β → γ → Prop} {k : α → Process κ ι σ ε β}
    {p : Process κ ι σ ε α} {held : γ}
    (safe : Safe K (fun out h => match out with
      | .ok value => Safe K done (k value) h
      | .error error => done (.error error) h) p held) :
    Safe K done (p >>= k) held := by
  induction p generalizing held with
  | ret value => exact safe
  | raise error => exact safe
  | call site update next ih =>
    intro c frame thread i inv meets
    obtain ⟨keeps,inv',rest⟩ := safe c frame thread i inv meets
    exact ⟨keeps,inv',ih i c.world rest⟩

theorem safeHandle {done : Except ε α → γ → Prop} {h : ε → Process κ ι σ ε α}
    {p : Process κ ι σ ε α} {held : γ}
    (safe : Safe K (fun out g => match out with
      | .ok value => done (.ok value) g
      | .error error => Safe K done (h error) g) p held) :
    Safe K done (p.handle h) held := by
  induction p generalizing held with
  | ret value => exact safe
  | raise error => exact safe
  | call site update next ih =>
    intro c frame thread i inv meets
    obtain ⟨keeps,inv',rest⟩ := safe c frame thread i inv meets
    exact ⟨keeps,inv',ih i c.world rest⟩

/-- The end of a process from which nothing is asked. -/
def anyEnd (_ : Except ε α) (_ : γ) : Prop := True

theorem safeAnyEnd {done : Except ε α → γ → Prop} {p : Process κ ι σ ε α} {held : γ}
    (safe : Safe K done p held) : Safe K anyEnd p held := safeMono (fun _ _ _ => trivial) safe

theorem safeThen {k : α → Process κ ι σ ε β} {p : Process κ ι σ ε α} {held : γ}
    (first : Safe K anyEnd p held) (rest : ∀ value held, Safe K anyEnd (k value) held) :
    Safe K anyEnd (p >>= k) held := by
  refine safeBind (safeMono ?_ first)
  intro out h _
  cases out with
  | ok value => exact rest value h
  | error error => trivial

/-- What a process does not need it still holds in the end. -/
theorem safeFrame {done : Except ε α → γ → Prop} {p : Process κ ι σ ε α} {held : γ} (extra : γ)
    (safe : Safe K done p held) : Safe K (fun out h => ∃ h', h = h' + extra ∧ done out h') p (held + extra) := by
  induction p generalizing held with
  | ret value => exact ⟨held,rfl,safe⟩
  | raise error => exact ⟨held,rfl,safe⟩
  | call site update next ih =>
    intro c frame thread i inv meets
    obtain ⟨keeps,inv',rest⟩ := safe c (extra + frame) thread i (by rwa [add_assoc] at inv) meets
    exact ⟨keeps + extra,by rwa [add_assoc],ih i c.world rest⟩

/-- A process that is safe whatever it holds, and of whose end nothing is asked. -/
def Harmless (K : Contract κ ι σ γ) (p : Process κ ι σ ε α) : Prop := ∀ held, Safe K anyEnd p held

theorem harmlessBind {k : α → Process κ ι σ ε β} {p : Process κ ι σ ε α}
    (first : Harmless K p) (rest : ∀ value, Harmless K (k value)) : Harmless K (p >>= k) :=
  fun held => safeThen (first held) rest

theorem harmlessHandle {h : ε → Process κ ι σ ε α} {p : Process κ ι σ ε α}
    (first : Harmless K p) (rest : ∀ error, Harmless K (h error)) : Harmless K (p.handle h) := by
  intro held
  refine safeHandle (safeMono ?_ (first held))
  intro out h _
  cases out with
  | ok value => trivial
  | error error => exact rest error h

theorem harmlessFoldEach {δ : Type} {body : α → δ → Process κ ι σ ε α} (each : ∀ acc x, Harmless K (body acc x))
    (acc : α) (xs : List δ) : Harmless K (Process.foldEach body acc xs) := by
  induction xs generalizing acc with
  | nil => exact fun _ => trivial
  | cons x xs ih => exact harmlessBind (each acc x) ih

def Contract.Ignores (K : Contract κ ι σ γ) (site : κ) : Prop :=
  ∀ c g thread i, K.inv c g → K.inv (c.record thread site i c.world) g

theorem safeOfExcept {done : Except ε α → γ → Prop} {out : Except ε α} {held : γ} (fin : done out held) :
    Safe K done (Process.ofExcept out) held := by
  cases out <;> exact fin

theorem safeChecked {done : Except ε β → γ → Prop} {x : Except ε α} {k : α → Process κ ι σ ε β} {held : γ}
    (rest : ∀ value, x = .ok value → Safe K done (k value) held) (fails : ∀ error, done (.error error) held) :
    Safe K done (Process.ofExcept x >>= k) held := by
  cases x with
  | ok value => exact rest value rfl
  | error error => exact fails error

theorem safeQuery {done : Except ε α → γ → Prop} {site : κ} {f : ι → σ → Except ε α} {held : γ}
    (ignores : K.Ignores site)
    (step : ∀ c frame i, K.inv c (held + frame) →
      ∃ keeps, K.inv c (keeps + frame) ∧ done (f i c.world) keeps) :
    Safe K done (Process.query site f) held := by
  intro c frame thread i inv _
  obtain ⟨keeps,inv',outcome⟩ := step c frame i inv
  exact ⟨keeps,ignores c _ thread i inv',safeOfExcept outcome⟩

theorem safeAsk {done : Except ε β → γ → Prop} {site : κ} {f : ι → σ → Except ε α} {k : α → Process κ ι σ ε β} {held : γ}
    (ignores : K.Ignores site)
    (rest : ∀ c frame i value, K.inv c (held + frame) → f i c.world = .ok value → Safe K done (k value) held)
    (fails : ∀ error, done (.error error) held) : Safe K done (Process.query site f >>= k) held := by
  refine safeBind (safeQuery ignores fun c frame i inv => ⟨held,inv,?_⟩)
  split
  · rename_i value found
    exact rest c frame i value inv found
  · exact fails _

theorem safeTransact {done : Except ε α → γ → Prop} {site : κ} {f : ι → σ → Except ε (α × σ)} {held : γ}
    (commits : ∀ c frame thread i value after, K.inv c (held + frame) → f i c.world = .ok (value,after) →
      K.admits c.history (c.event thread site i after) →
      ∃ keeps, K.inv (c.record thread site i after) (keeps + frame) ∧ done (.ok value) keeps)
    (throws : ∀ c frame thread i error, K.inv c (held + frame) → f i c.world = .error error →
      K.inv (c.record thread site i c.world) (held + frame) ∧ done (.error error) held) :
    Safe K done (Process.transact site f) held := by
  intro c frame thread i inv meets
  cases h : f i c.world with
  | ok out =>
    simp only [Process.applied,h] at meets
    obtain ⟨keeps,inv',fin⟩ := commits c frame thread i out.1 out.2 inv h meets
    exact ⟨keeps,by simpa only [Process.applied,h] using inv',
      by simpa only [Except.map,Process.ofExcept,Safe,h] using fin⟩
  | error error =>
    obtain ⟨inv',fin⟩ := throws c frame thread i error inv h
    exact ⟨held,by simpa only [Process.applied,h] using inv',
      by simpa only [Except.map,Process.ofExcept,Safe,h] using fin⟩

def Secured (K : Contract κ ι σ γ) (done : ρ → Except ε α → γ → Prop) (pool : Pool ρ κ ι σ ε α) : Prop :=
  ∃ shares : List γ,
    List.Forall₂ (fun t share => Safe K (done t.request) t.process share) pool.threads shares ∧
    K.inv pool.snapshot shares.sum

theorem securedInitial {done : ρ → Except ε α → γ → Prop} {world : σ} (inv : K.inv ⟨world,[]⟩ 0) :
    Secured K done (Pool.initial world) := ⟨[],.nil,inv⟩

theorem focus {A : Type} {R : A → γ → Prop} {xs : List A} {shares : List γ}
    (all : List.Forall₂ R xs shares) {k : Nat} {x : A} (found : xs[k]? = some x) :
    ∃ share frame, R x share ∧ shares.sum = share + frame ∧
      ∀ x' share', R x' share' →
        ∃ shares', List.Forall₂ R (xs.set k x') shares' ∧ shares'.sum = share' + frame := by
  induction all generalizing k with
  | nil => simp at found
  | @cons y share ys shares head tail ih =>
    cases k with
    | zero =>
      have same : y = x := by simpa using found
      subst y
      exact ⟨share,shares.sum,head,List.sum_cons,
        fun x' share' swap => ⟨share' :: shares,.cons swap tail,List.sum_cons⟩⟩
    | succ k =>
      obtain ⟨mine,frame,here,whole,swap⟩ := ih (by simpa using found)
      refine ⟨mine,share + frame,here,?_,?_⟩
      · rw [List.sum_cons,whole,add_left_comm]
      · intro x' share' related
        obtain ⟨shares',all',whole'⟩ := swap x' share' related
        exact ⟨share :: shares',.cons head all',by rw [List.sum_cons,whole',add_left_comm]⟩

theorem securedDeliver {done : ρ → Except ε α → γ → Prop} {pool : Pool ρ κ ι σ ε α}
    (secured : Secured K done pool) (k : Nat) (i : ι)
    (meets : AllMeet K.admits (pool.deliver k i).history) : Secured K done (pool.deliver k i) := by
  unfold Pool.deliver at meets ⊢
  split
  · rename_i request site update next found
    simp only [found] at meets
    obtain ⟨shares,safes,inv⟩ := secured
    obtain ⟨share,frame,safe,whole,swap⟩ := focus safes found
    obtain ⟨keeps,inv',safe'⟩ := safe pool.snapshot frame k i (whole ▸ inv) meets.1
    obtain ⟨shares',safes',whole'⟩ := swap ⟨request,next i pool.world⟩ keeps safe'
    exact ⟨shares',safes',whole' ▸ inv'⟩
  · exact secured

section Soundness

variable {sys : System ρ η κ ι σ ε α} {done : ρ → Except ε α → γ → Prop}

theorem securedMove (starts : ∀ r, Safe K (done r) (sys.handler r) 0)
    (environment : ∀ change c g, K.inv c g →
      K.inv { c with world := sys.environment change c.world } g)
    {pool : Pool ρ κ ι σ ε α} (secured : Secured K done pool) (m : Move ρ η ι)
    (meets : AllMeet K.admits (sys.move pool m).history) : Secured K done (sys.move pool m) := by
  cases m with
  | start request =>
    obtain ⟨shares,safes,inv⟩ := secured
    exact ⟨shares ++ [0],List.rel_append safes (.cons (starts request) .nil),
      by simpa only [System.move,List.sum_append,List.sum_singleton,add_zero] using inv⟩
  | answer k i => exact securedDeliver secured k i meets
  | environment change =>
    obtain ⟨shares,safes,inv⟩ := secured
    exact ⟨shares,safes,environment change _ _ inv⟩

theorem meetsSuffix {admits : List (Event κ ι σ) → Event κ ι σ → Prop} {older newer : List (Event κ ι σ)}
    (suffix : older <:+ newer) (meets : AllMeet admits newer) : AllMeet admits older := by
  induction newer with
  | nil => rw [List.suffix_nil.mp suffix]; exact meets
  | cons e earlier ih =>
    rcases List.suffix_cons_iff.mp suffix with rfl | inside
    · exact meets
    · exact ih inside meets.2

theorem meetsEach {P : Event κ ι σ → Prop} {history : List (Event κ ι σ)} (each : ∀ e ∈ history, P e) :
    AllMeet (fun _ => P) history := by
  induction history with
  | nil => trivial
  | cons e earlier ih => exact ⟨each e List.mem_cons_self,ih fun d old => each d (List.mem_cons_of_mem e old)⟩

theorem meetsIff {admits : List (Event κ ι σ) → Event κ ι σ → Prop} {history : List (Event κ ι σ)} :
    AllMeet admits history ↔ ∀ earlier e, e :: earlier <:+ history → admits earlier e := by
  refine ⟨fun meets earlier e suffix => (meetsSuffix suffix meets).1,fun each => ?_⟩
  induction history with
  | nil => trivial
  | cons e earlier ih => exact ⟨each earlier e (List.suffix_refl _),ih fun older d suffix => each older d (suffix.trans (List.suffix_cons _ _))⟩

theorem meetsAt {admits : List (Event κ ι σ) → Event κ ι σ → Prop} {history : List (Event κ ι σ)} (meets : AllMeet admits history)
    {e : Event κ ι σ} (inside : e ∈ history) : ∃ earlier, e :: earlier <:+ history ∧ admits earlier e := by
  induction history with
  | nil => exact absurd inside List.not_mem_nil
  | cons latest older ih =>
    rcases List.mem_cons.mp inside with rfl | before
    · exact ⟨older,List.suffix_refl _,meets.1⟩
    · obtain ⟨earlier,suffix,its⟩ := ih meets.2 before
      exact ⟨earlier,suffix.trans (List.suffix_cons _ _),its⟩

theorem meetsMono {admits admits' : List (Event κ ι σ) → Event κ ι σ → Prop}
    (weaker : ∀ earlier e, admits earlier e → admits' earlier e) {history : List (Event κ ι σ)}
    (meets : AllMeet admits history) : AllMeet admits' history := by
  induction history with
  | nil => trivial
  | cons e earlier ih => exact ⟨weaker earlier e meets.1,ih meets.2⟩

theorem meetsWithin {admits admits' : List (Event κ ι σ) → Event κ ι σ → Prop} {history : List (Event κ ι σ)}
    (weaker : ∀ earlier, ∀ e ∈ history, admits earlier e → admits' earlier e) (meets : AllMeet admits history) :
    AllMeet admits' history := by
  induction history with
  | nil => trivial
  | cons e earlier ih =>
    exact ⟨weaker earlier e List.mem_cons_self meets.1,
      ih (fun older d inside => weaker older d (List.mem_cons_of_mem e inside)) meets.2⟩

theorem meetsBoth {admits admits' : List (Event κ ι σ) → Event κ ι σ → Prop} {history : List (Event κ ι σ)}
    (meets : AllMeet admits history) (meets' : AllMeet admits' history) :
    AllMeet (fun earlier e => admits earlier e ∧ admits' earlier e) history := by
  induction history with
  | nil => trivial
  | cons e earlier ih => exact ⟨⟨meets.1,meets'.1⟩,ih meets.2 meets'.2⟩

theorem meetsAlways {admits : List (Event κ ι σ) → Event κ ι σ → Prop} (always : ∀ earlier e, admits earlier e)
    (history : List (Event κ ι σ)) : AllMeet admits history := by
  induction history with
  | nil => trivial
  | cons e earlier ih => exact ⟨always earlier e,ih⟩

theorem securedRun (starts : ∀ r, Safe K (done r) (sys.handler r) 0)
    (environment : ∀ change c g, K.inv c g →
      K.inv { c with world := sys.environment change c.world } g)
    {pool : Pool ρ κ ι σ ε α} (secured : Secured K done pool) (moves : List (Move ρ η ι))
    (meets : AllMeet K.admits (sys.run pool moves).history) : Secured K done (sys.run pool moves) := by
  induction moves generalizing pool with
  | nil => exact secured
  | cons m rest ih =>
    have earlier := meetsSuffix (sys.runHistory (sys.move pool m) rest) meets
    exact ih (securedMove starts environment secured m earlier) meets

theorem securedEnded {pool : Pool ρ κ ι σ ε α} (secured : Secured K done pool)
    {k : Nat} {request : ρ} {out : Except ε α} (ended : pool.threads[k]? = some ⟨request,Process.ofExcept out⟩) :
    ∃ share frame, done request out share ∧ K.inv pool.snapshot (share + frame) := by
  obtain ⟨shares,safes,inv⟩ := secured
  obtain ⟨share,frame,safe,whole,_⟩ := focus safes ended
  refine ⟨share,frame,?_,whole ▸ inv⟩
  cases out <;> exact safe

theorem securedReturned {pool : Pool ρ κ ι σ ε α} (secured : Secured K done pool)
    {k : Nat} {request : ρ} {value : α} (returned : pool.threads[k]? = some ⟨request,.ret value⟩) :
    ∃ share frame, done request (.ok value) share ∧ K.inv pool.snapshot (share + frame) := by
  have ended : pool.threads[k]? = some ⟨request,Process.ofExcept (.ok value)⟩ := returned
  exact securedEnded secured ended

end Soundness

end Contracts

end Workflow
