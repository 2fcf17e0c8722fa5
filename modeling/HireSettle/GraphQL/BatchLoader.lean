import Mathlib

/-! The loader of one GraphQL request: the loads of one tick become one call of the
batch function, and every key keeps the promise it was given. -/
namespace HireSettle.GraphQL

/-- An error of the batch function, for one key or for the whole call, or the one the
loader throws at an answer of the wrong length. -/
inductive LoadError (E : Type) where
  | given (error : E) | typeError (message : String)
  deriving DecidableEq, Repr

/-- A call of a promise's `resolve` or of its `reject`. -/
inductive Settlement (V E : Type) where
  | resolved (value : V) | rejected (error : LoadError E)
  deriving DecidableEq, Repr

structure PendingLoad (K : Type) where
  key : K
  promise : Nat
  deriving DecidableEq, Repr

/-- `requests` are the batches that the batch function was called for, oldest first, and
`running` the numbers of those it has not answered. A promise is the number of promises
there were before it. -/
structure BatchLoader (K V E : Type) where
  maxBatchSize : Option Int
  cache : K → Option Nat := fun _ => none
  queue : List (PendingLoad K) := []
  dispatches : Nat := 0
  requests : List (List (PendingLoad K)) := []
  running : List Nat := []
  settlements : List (Nat × Settlement V E) := []
  promises : Nat := 0

namespace BatchLoader
variable {K V E : Type} [DecidableEq K]

def load (loader : BatchLoader K V E) (key : K) : Nat × BatchLoader K V E :=
  match loader.cache key with
  | some cached => (cached, loader)
  | none =>
      let promise := loader.promises
      let queue := loader.queue ++ [⟨key,promise⟩]
      (promise, { loader with
        promises := promise + 1
        queue
        dispatches := if queue.length = 1 then loader.dispatches + 1 else loader.dispatches
        cache := Function.update loader.cache key (some promise) })

def loadMany : List K → BatchLoader K V E → List Nat × BatchLoader K V E
  | [], loader => ([], loader)
  | key :: keys, loader =>
      let (promise, loader) := loader.load key
      let (promises, loader) := loadMany keys loader
      (promise :: promises, loader)

def prime (loader : BatchLoader K V E) (key : K) (value : V) : BatchLoader K V E :=
  if (loader.cache key).isSome then loader
  else { loader with
    promises := loader.promises + 1
    settlements := loader.settlements ++ [(loader.promises, .resolved value)]
    cache := Function.update loader.cache key (some loader.promises) }

def clear (loader : BatchLoader K V E) (key : K) : BatchLoader K V E :=
  { loader with cache := Function.update loader.cache key none }

def clearAll (loader : BatchLoader K V E) : BatchLoader K V E :=
  { loader with cache := fun _ => none }

def batchSize (maxBatchSize : Option Int) (pending : List (PendingLoad K)) : Nat :=
  match maxBatchSize with
  | some max => if 0 < max then max.toNat else pending.length
  | none => pending.length

/-- `for (let i = 0; i < pending.length; i += size)`, each time with `pending.slice(i, i + size)`. -/
def slices (size : Nat) (pending : List (PendingLoad K)) : List (List (PendingLoad K)) :=
  (List.range' 0 ((pending.length + size - 1) / size) size).map fun i => (pending.drop i).take size

def dispatch (loader : BatchLoader K V E) : BatchLoader K V E :=
  let batches := slices (batchSize loader.maxBatchSize loader.queue) loader.queue
  { loader with
    queue := []
    dispatches := loader.dispatches - 1
    requests := loader.requests ++ batches
    running := loader.running ++ List.range' loader.requests.length batches.length }

def reject (loader : BatchLoader K V E) (item : PendingLoad K) (error : LoadError E) : BatchLoader K V E :=
  { loader with
    cache := Function.update loader.cache item.key none
    settlements := loader.settlements ++ [(item.promise, .rejected error)] }

def settleItem (loader : BatchLoader K V E) : PendingLoad K × (V ⊕ E) → BatchLoader K V E
  | (item, .inr error) => loader.reject item (.given error)
  | (item, .inl value) => { loader with settlements := loader.settlements ++ [(item.promise, .resolved value)] }

/-- What `runBatch` does once the batch function has answered. -/
def runBatch (loader : BatchLoader K V E) (batch : List (PendingLoad K)) (answer : Except E (List (V ⊕ E))) :
    BatchLoader K V E :=
  match answer with
  | .error error => batch.foldl (fun loader item => loader.reject item (.given error)) loader
  | .ok values =>
      if values.length ≠ batch.length then
        let message := s!"BatchLoader batch function returned {values.length} values for {batch.length} keys"
        batch.foldl (fun loader item => loader.reject item (.typeError message)) loader
      else (batch.zip values).foldl settleItem loader

end BatchLoader

/-- What happens to a loader, one synchronous piece of code after another: a call, the
dispatch that was scheduled, or the rest of `runBatch` for one request. -/
inductive LoaderStep (K V : Type) where
  | load (key : K)
  | loadMany (keys : List K)
  | prime (key : K) (value : V)
  | clear (key : K)
  | clearAll
  | dispatch
  | settle (request : Nat)
  deriving DecidableEq, Repr

namespace BatchLoader
variable {K V E : Type} [DecidableEq K]

/-- `batchLoadFn` is what the batch function answers, by the number of its call. -/
def step (batchLoadFn : Nat → List K → Except E (List (V ⊕ E))) (loader : BatchLoader K V E) :
    LoaderStep K V → Option (BatchLoader K V E)
  | .load key => some (loader.load key).2
  | .loadMany keys => some (loadMany keys loader).2
  | .prime key value => some (loader.prime key value)
  | .clear key => some (loader.clear key)
  | .clearAll => some loader.clearAll
  | .dispatch => if 0 < loader.dispatches then some loader.dispatch else none
  | .settle request =>
      match loader.requests[request]? with
      | some batch =>
          if request ∈ loader.running then
            some (runBatch { loader with running := loader.running.erase request } batch
              (batchLoadFn request (batch.map (·.key))))
          else none
      | none => none

def run (batchLoadFn : Nat → List K → Except E (List (V ⊕ E))) (maxBatchSize : Option Int)
    (steps : List (LoaderStep K V)) : Option (BatchLoader K V E) :=
  steps.foldlM (step batchLoadFn) { maxBatchSize }

end BatchLoader
end HireSettle.GraphQL
