import HireSettle.Workflow.Effects
import HireSettle.Workflow.Sequential

/-! Runs in which requests are served one after the other, each from the world the
one before has left, and the environment acts in between. A request whose answers
run out stops where it is. What a turn may do is asked of its events by the
request they serve. -/
namespace Workflow

variable {ρ η κ ι σ ε α : Type}

inductive Turn (ρ η ι : Type) where
  | serve (request : ρ) (answers : List ι)
  | environment (change : η)

namespace System

variable (sys : System ρ η κ ι σ ε α)

def turn (pool : Pool ρ κ ι σ ε α) : Turn ρ η ι → Pool ρ κ ι σ ε α
  | .serve request answers => sys.serve pool request answers
  | .environment change => sys.move pool (.environment change)

def turns (pool : Pool ρ κ ι σ ε α) (list : List (Turn ρ η ι)) : Pool ρ κ ι σ ε α := list.foldl sys.turn pool

theorem turnsAppend (pool : Pool ρ κ ι σ ε α) (list more : List (Turn ρ η ι)) :
    sys.turns pool (list ++ more) = sys.turns (sys.turns pool list) more := by
  simp only [turns,List.foldl_append]

theorem turnHistory (pool : Pool ρ κ ι σ ε α) (turn : Turn ρ η ι) : pool.history <:+ (sys.turn pool turn).history := by
  cases turn with
  | serve request answers => exact sys.runHistory pool _
  | environment change => exact sys.moveHistory pool _

theorem turnsHistory (pool : Pool ρ κ ι σ ε α) (list : List (Turn ρ η ι)) : pool.history <:+ (sys.turns pool list).history := by
  induction list generalizing pool with
  | nil => exact List.suffix_refl _
  | cons turn rest ih => exact (sys.turnHistory pool turn).trans (ih _)

theorem answersThreads {threads : List (Thread ρ κ ι σ ε α)} {request : ρ} (answers : List ι) {pool : Pool ρ κ ι σ ε α}
    {p : Process κ ι σ ε α} (here : pool.threads = threads ++ [⟨request,p⟩]) :
    ∃ p', (sys.run pool (answers.map (.answer threads.length))).threads = threads ++ [⟨request,p'⟩] := by
  induction answers generalizing pool p with
  | nil => exact ⟨p,here⟩
  | cons i rest ih =>
    have next : ∃ p', (sys.move pool (.answer threads.length i)).threads = threads ++ [⟨request,p'⟩] := by
      simp only [move,Pool.deliver]
      split
      · rename_i request' site update next found
        rw [here,List.getElem?_concat_length] at found
        cases found
        exact ⟨next i pool.world,by simp [here]⟩
      · exact ⟨p,here⟩
    obtain ⟨p',here'⟩ := next
    exact ih here'

theorem serveThreads (pool : Pool ρ κ ι σ ε α) (request : ρ) (answers : List ι) :
    ∃ p', (sys.serve pool request answers).threads = pool.threads ++ [⟨request,p'⟩] :=
  sys.answersThreads answers rfl

theorem turnThreads (pool : Pool ρ κ ι σ ε α) (turn : Turn ρ η ι) : pool.threads <+: (sys.turn pool turn).threads := by
  cases turn with
  | serve request answers =>
    obtain ⟨p',threads⟩ := sys.serveThreads pool request answers
    exact ⟨_,threads.symm⟩
  | environment change => exact List.prefix_refl _

theorem turnsThreads (pool : Pool ρ κ ι σ ε α) (list : List (Turn ρ η ι)) : pool.threads <+: (sys.turns pool list).threads := by
  induction list generalizing pool with
  | nil => exact List.prefix_refl _
  | cons turn rest ih => exact (sys.turnThreads pool turn).trans (ih _)

/-- The requests in the order in which they are served. -/
def requests (list : List (Turn ρ η ι)) : List ρ := list.filterMap fun turn =>
  match turn with
  | .serve request _ => some request
  | .environment _ => none

theorem turnsRequests (pool : Pool ρ κ ι σ ε α) (list : List (Turn ρ η ι)) :
    (sys.turns pool list).threads.map Thread.request = pool.threads.map Thread.request ++ requests list := by
  induction list generalizing pool with
  | nil => simp [turns,requests]
  | cons turn rest ih =>
    refine (ih (sys.turn pool turn)).trans ?_
    cases turn with
    | serve request answers =>
      obtain ⟨p',threads⟩ := sys.serveThreads pool request answers
      simp only [System.turn,threads]
      simp [requests]
    | environment change => rfl

end System

/-- What a finished computation has returned. -/
def Process.returned : Process κ ι σ ε α → Option α
  | .ret value => some value
  | _ => none

theorem Process.returnedEq {p : Process κ ι σ ε α} {value : α} (same : p.returned = some value) : p = .ret value := by
  cases p with
  | ret other => exact congrArg Process.ret (Option.some.inj same)
  | raise error => cases same
  | call site update next => cases same

theorem endedEq {threads : List (Thread ρ κ ι σ ε α)} {k : Nat} {request : ρ} {value : α}
    (same : (threads[k]?.map fun t => (t.request,t.process.returned)) = some (request,some value)) :
    threads[k]? = some ⟨request,.ret value⟩ := by
  obtain ⟨t,there,its⟩ := Option.map_eq_some_iff.mp same
  obtain ⟨served,ended⟩ := Prod.mk.inj its
  rw [there,← served,← Process.returnedEq ended]

section Rules

variable {sys : System ρ η κ ι σ ε α} {P : ρ → List (Event κ ι σ) → Event κ ι σ → Prop} {pool : Pool ρ κ ι σ ε α}

theorem meetsEarlier {list : List (Turn ρ η ι)} (meets : Meets P (sys.turns pool list)) : Meets P pool := by
  obtain ⟨later,threads⟩ := sys.turnsThreads pool list
  refine meetsMono ?_ (meetsSuffix (sys.turnsHistory pool list) meets)
  intro earlier e its t there
  refine its t ?_
  rw [← threads]
  exact List.getElem?_append_left (List.getElem?_eq_some_iff.mp there).1 ▸ there

theorem meetsServed {request : ρ} {answers : List ι} (meets : Meets P (sys.serve pool request answers)) :
    AllMeet (fun earlier e => e.thread = pool.threads.length → P request earlier e) (sys.serve pool request answers).history := by
  obtain ⟨p',threads⟩ := sys.serveThreads pool request answers
  refine meetsMono ?_ meets
  intro earlier e its mine
  refine its ⟨request,p'⟩ ?_
  rw [threads,mine]
  exact List.getElem?_concat_length

theorem turnsKeep {inv : Snapshot κ ι σ → Prop}
    (serves : ∀ request c, inv c → Ensures (P request) inv (fun _ _ => True) (sys.handler request) c)
    (environment : ∀ change c, inv c → inv { c with world := sys.environment change c.world })
    (start : inv pool.snapshot) (list : List (Turn ρ η ι)) (meets : Meets P (sys.turns pool list)) :
    inv (sys.turns pool list).snapshot := by
  induction list generalizing pool with
  | nil => exact start
  | cons turn rest ih =>
    cases turn with
    | serve request answers =>
      exact ih (ensuresServe start (serves request _ start) answers (meetsServed (meetsEarlier meets))).1 meets
    | environment change => exact ih (environment change _ start) meets

/-- What every request has established when it ends, if all of them end well. -/
theorem turnsEnd {J : List ρ → Snapshot κ ι σ → Prop} {well : Except ε α → Prop}
    (serves : ∀ served request c, J served c →
      Ensures (P request) (fun _ => True) (fun out c => well out → J (served ++ [request]) c) (sys.handler request) c)
    (environment : ∀ change served c, J served c → J served { c with world := sys.environment change c.world })
    (start : J (pool.threads.map Thread.request) pool.snapshot) (list : List (Turn ρ η ι))
    (meets : Meets P (sys.turns pool list))
    (ended : ∀ t ∈ (sys.turns pool list).threads, ∃ out, t.process = Process.ofExcept out ∧ well out) :
    J ((sys.turns pool list).threads.map Thread.request) (sys.turns pool list).snapshot := by
  induction list generalizing pool with
  | nil => exact start
  | cons turn rest ih =>
    cases turn with
    | serve request answers =>
      have earlier : Meets P (sys.serve pool request answers) := meetsEarlier meets
      obtain ⟨_,p,there,ensures⟩ := ensuresServe trivial (serves _ request _ start) answers (meetsServed earlier)
      obtain ⟨p',threads⟩ := sys.serveThreads pool request answers
      have last : (sys.serve pool request answers).threads[pool.threads.length]? = some ⟨request,p'⟩ := by
        rw [threads]
        exact List.getElem?_concat_length
      cases there.symm.trans last
      obtain ⟨out,finished,good⟩ := ended ⟨request,p⟩
        ((sys.turnsThreads (sys.serve pool request answers) rest).subset (List.mem_of_getElem? there))
      subst finished
      have fin : J (pool.threads.map Thread.request ++ [request]) (sys.serve pool request answers).snapshot := by
        cases out <;> exact ensures good
      refine ih ?_ meets ended
      show J ((sys.serve pool request answers).threads.map Thread.request) (sys.serve pool request answers).snapshot
      simpa only [threads,List.map_append,List.map_cons,List.map_nil] using fin
    | environment change => exact ih (environment change _ _ start) meets ended

end Rules

section Frames

variable {β : Type} {E : κ → σ → σ → Prop} {admits : List (Event κ ι σ) → Event κ ι σ → Prop} {inv J : Snapshot κ ι σ → Prop}

/-- What every call of this kind keeps, a process of such calls keeps. -/
theorem ensuresActs
    (keeps : ∀ site s' c thread i, E site c.world s' → admits c.history (c.event thread site i s') → J c → J (c.record thread site i s'))
    (weak : ∀ c, J c → inv c) {p : Process κ ι σ ε α} (acts : Acts E p) {c : Snapshot κ ι σ} (kept : J c) :
    Ensures admits inv (fun _ => J) p c := by
  induction p generalizing c with
  | ret value => exact kept
  | raise error => exact kept
  | call site update next ih =>
    intro thread i meets
    have step := keeps site _ c thread i (acts i c.world).1 meets kept
    exact ⟨weak _ step,ih i c.world (acts i c.world).2 step⟩

theorem ensuresReads {at' : κ → Bool} {p : Process κ ι σ ε α} (reads : Reads at' p) {c : Snapshot κ ι σ}
    (weak : ∀ c', c'.world = c.world → inv c') : Ensures admits inv (fun _ c' => c'.world = c.world) p c := by
  refine ensuresActs (fun site s' c' thread i here _ same => ?_) weak (actsSteps reads) rfl
  obtain ⟨_,rfl⟩ := here
  exact same

/-- What every call keeps, the process keeps when it runs alone. -/
theorem stepsInterpret {at' : κ → Bool} {R : σ → σ → Prop} {respond : κ → ι} (stays : ∀ s, R s s)
    (follows : ∀ {a b c}, R a b → R b c → R a c) {p : Process κ ι σ ε α} (steps : Steps at' R p) (s : σ) :
    R s (p.interpret respond s).2 := by
  induction p generalizing s with
  | ret value => exact stays s
  | raise error => exact stays s
  | call site update next ih =>
    obtain ⟨first,rest⟩ := steps.2 (respond site) s
    exact follows first (ih (respond site) s rest _)

theorem sitesSteps {at' : κ → Bool} {R : σ → σ → Prop} {respond : κ → ι} {p : Process κ ι σ ε α} (steps : Steps at' R p) (s : σ) :
    ∀ site ∈ p.sites respond s, at' site = true := by
  induction p generalizing s with
  | ret value => nofun
  | raise error => nofun
  | call site update next ih =>
    intro other inside
    rcases List.mem_cons.mp inside with rfl | later
    · exact steps.1
    · exact ih _ _ (steps.2 _ s).2 _ other later

theorem yieldsSteps {at' : κ → Bool} {R : σ → σ → Prop} {respond : κ → ι} {p : Process κ ι σ ε α} (steps : Steps at' R p)
    (stays : ∀ s, R s s) (follows : ∀ {a b c}, R a b → R b c → R a c) {pre post : σ → Prop} (keeps : ∀ s s', R s s' → pre s → post s') : Yields respond pre p fun _ => post := by
  intro s before value s' returned
  have kept : R s (p.interpret respond s).2 := stepsInterpret stays follows steps s
  rw [returned] at kept
  exact keeps s s' kept before

theorem ensuresAsk {done : Except ε β → Snapshot κ ι σ → Prop} {site : κ} {f : ι → σ → Except ε α} {k : α → Process κ ι σ ε β}
    {c : Snapshot κ ι σ} (weak : ∀ c', c'.world = c.world → inv c')
    (rest : ∀ i value c', f i c.world = .ok value → c'.world = c.world → Ensures admits inv done (k value) c')
    (fails : ∀ error c', c'.world = c.world → done (.error error) c') :
    Ensures admits inv done (Process.query site f >>= k) c := by
  refine ensuresBind (ensuresQuery fun thread i _ => ⟨weak _ rfl,?_⟩)
  split
  · rename_i value found
    exact rest i value _ found rfl
  · exact fails _ _ rfl

end Frames

end Workflow
