import Mathlib

/-! Service methods as the sequence of calls they await. A process is a finished
computation or one pending call to the outside (a database statement, a whole
transaction, a remote procedure); between two calls nothing else of the method
can be observed. The answer to a call is chosen by the environment. Of a pending
call, `site` names it, `update` is its effect on the shared world and `next`
continues with what it returned or threw. A `query` only reads; a `transact`
commits what its body wrote, or throws and leaves the world alone; the body may be
written as a state transformer over `Except`, whose writes a throw undoes. -/
namespace Workflow

inductive Process (κ ι σ ε α : Type) : Type where
  | ret (value : α)
  | raise (error : ε)
  | call (site : κ) (update : ι → σ → σ) (next : ι → σ → Process κ ι σ ε α)

namespace Process

variable {κ ι σ ε α β : Type}

def bind : Process κ ι σ ε α → (α → Process κ ι σ ε β) → Process κ ι σ ε β
  | .ret value, k => k value
  | .raise error, _ => .raise error
  | .call site update next, k => .call site update (fun i s => (next i s).bind k)

def handle : Process κ ι σ ε α → (ε → Process κ ι σ ε α) → Process κ ι σ ε α
  | .ret value, _ => .ret value
  | .raise error, h => h error
  | .call site update next, h => .call site update (fun i s => (next i s).handle h)

instance : Monad (Process κ ι σ ε) where
  pure := .ret
  bind := bind

@[simp] theorem pureRet (value : α) : (pure value : Process κ ι σ ε α) = .ret value := rfl

@[simp] theorem retBind (value : α) (k : α → Process κ ι σ ε β) :
    (Process.ret value >>= k) = k value := rfl

@[simp] theorem raiseBind (error : ε) (k : α → Process κ ι σ ε β) :
    ((Process.raise error : Process κ ι σ ε α) >>= k) = .raise error := rfl

@[simp] theorem callBind (site : κ) (update : ι → σ → σ) (next : ι → σ → Process κ ι σ ε α)
    (k : α → Process κ ι σ ε β) :
    (Process.call site update next >>= k) = .call site update (fun i s => next i s >>= k) := rfl

@[simp] theorem retHandle (value : α) (h : ε → Process κ ι σ ε α) :
    (Process.ret value : Process κ ι σ ε α).handle h = .ret value := rfl

@[simp] theorem raiseHandle (error : ε) (h : ε → Process κ ι σ ε α) :
    (Process.raise error : Process κ ι σ ε α).handle h = h error := rfl

@[simp] theorem callHandle (site : κ) (update : ι → σ → σ) (next : ι → σ → Process κ ι σ ε α)
    (h : ε → Process κ ι σ ε α) :
    (Process.call site update next).handle h =
      .call site update (fun i s => (next i s).handle h) := rfl

theorem bindAssoc {δ : Type} (p : Process κ ι σ ε α) (k : α → Process κ ι σ ε β)
    (l : β → Process κ ι σ ε δ) : (p >>= k >>= l) = (p >>= fun a => k a >>= l) := by
  induction p with
  | ret value => rfl
  | raise error => rfl
  | call site update next ih =>
    simp only [callBind]
    congr 1
    funext i s
    exact ih i s

def ofExcept : Except ε α → Process κ ι σ ε α
  | .ok value => .ret value
  | .error error => .raise error

def query (site : κ) (f : ι → σ → Except ε α) : Process κ ι σ ε α :=
  .call site (fun _ s => s) (fun i s => ofExcept (f i s))

def applied (f : ι → σ → Except ε (α × σ)) (i : ι) (s : σ) : σ :=
  match f i s with
  | .ok out => out.2
  | .error _ => s

def transact (site : κ) (f : ι → σ → Except ε (α × σ)) : Process κ ι σ ε α :=
  .call site (applied f) (fun i s => ofExcept ((f i s).map Prod.fst))

def throwWhen (condition : Bool) (error : ε) : Process κ ι σ ε Unit :=
  if condition then .raise error else .ret ()

def forEach {δ : Type} (body : δ → Process κ ι σ ε Unit) : List δ → Process κ ι σ ε Unit
  | [] => .ret ()
  | x :: xs => do
      body x
      forEach body xs

def foldEach {δ : Type} (body : α → δ → Process κ ι σ ε α) : α → List δ → Process κ ι σ ε α
  | acc, [] => .ret acc
  | acc, x :: xs => do
      let acc ← body acc x
      foldEach body acc xs

end Process

section Transactions

variable {σ ε α β : Type} {body : StateT σ (Except ε) α} {k : α → StateT σ (Except ε) β} {s : σ}

theorem exceptBind {x : Except ε α} {l : α → Except ε β} {b : β} :
    (x >>= l) = .ok b ↔ ∃ a, x = .ok a ∧ l a = .ok b := by
  cases x <;> simp [bind,Except.bind]

theorem bodyCommits {out : β × σ} :
    (body >>= k) s = .ok out ↔ ∃ value s', body s = .ok (value,s') ∧ k value s' = .ok out := by
  simp only [bind,StateT.bind,Except.bind]
  cases body s with
  | error error => simp
  | ok mid =>
    obtain ⟨value,s'⟩ := mid
    simp

theorem bodyThrows {error : ε} :
    (body >>= k) s = .error error ↔
      body s = .error error ∨ ∃ value s', body s = .ok (value,s') ∧ k value s' = .error error := by
  simp only [bind,StateT.bind,Except.bind]
  cases body s with
  | error error => simp
  | ok mid =>
    obtain ⟨value,s'⟩ := mid
    simp

end Transactions

structure Event (κ ι σ : Type) where
  thread : Nat
  site : κ
  answer : ι
  before : σ
  after : σ

structure Snapshot (κ ι σ : Type) where
  world : σ
  history : List (Event κ ι σ)

namespace Snapshot

variable {κ ι σ : Type}

def event (c : Snapshot κ ι σ) (thread : Nat) (site : κ) (answer : ι) (after : σ) : Event κ ι σ :=
  ⟨thread,site,answer,c.world,after⟩

def record (c : Snapshot κ ι σ) (thread : Nat) (site : κ) (answer : ι) (after : σ) : Snapshot κ ι σ :=
  ⟨after,c.event thread site answer after :: c.history⟩

@[simp] theorem recordWorld (c : Snapshot κ ι σ) (thread site answer after) :
    (c.record thread site answer after).world = after := rfl

@[simp] theorem recordHistory (c : Snapshot κ ι σ) (thread site answer after) :
    (c.record thread site answer after).history = c.event thread site answer after :: c.history := rfl

end Snapshot

def AllMeet {κ ι σ : Type} (admits : List (Event κ ι σ) → Event κ ι σ → Prop) :
    List (Event κ ι σ) → Prop
  | [] => True
  | e :: earlier => admits earlier e ∧ AllMeet admits earlier

instance decideAllMeet {κ ι σ : Type} {admits : List (Event κ ι σ) → Event κ ι σ → Prop}
    [∀ earlier e, Decidable (admits earlier e)] : DecidablePred (AllMeet admits)
  | [] => .isTrue trivial
  | _ :: earlier => @instDecidableAnd _ _ _ (decideAllMeet earlier)

end Workflow
