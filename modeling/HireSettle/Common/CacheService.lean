import HireSettle.Workflow.Table

/-! The cache. A read deletes the entry it finds expired, a sweep deletes the others.
What is served is what the last write of the key has left, for as long as it lasts. -/
namespace HireSettle.CacheService
open Workflow

structure CacheEntry (α : Type) where
  key : String
  value : α
  expiresAt : Nat
  deriving DecidableEq, Repr

instance (α : Type) : Keyed (CacheEntry α) String := ⟨CacheEntry.key⟩

abbrev MemStore (α : Type) := Table (CacheEntry α)

variable {α : Type}

namespace MemStore

def del (store : MemStore α) (key : String) : MemStore α := store.deleteMany fun entry => entry.key = key

def get (store : MemStore α) (now : Nat) (key : String) : Option α × MemStore α :=
  match store.get? key with
  | none => (none,store)
  | some entry => if now > entry.expiresAt then (none,store.del key) else (some entry.value,store)

def set (store : MemStore α) (now : Nat) (key : String) (value : α) (ttlSeconds : Nat) : MemStore α :=
  store.upsert { key := key, value := value, expiresAt := now + ttlSeconds * 1000 }
    (fun entry => { entry with value := value, expiresAt := now + ttlSeconds * 1000 }) fun _ => rfl

def flush (_ : MemStore α) : MemStore α := .empty

def evictExpired (store : MemStore α) (now : Nat) : MemStore α := store.deleteMany fun entry => now > entry.expiresAt

end MemStore

inductive Write (α : Type) where
  | set (key : String) (value : α) (expiresAt : Nat)
  | del (key : String)
  | flush
  deriving DecidableEq, Repr

/-- What the writes, the last of them first, leave for a key. -/
def serves (now : Nat) (key : String) : List (Write α) → Option α
  | [] => none
  | .set other value expiresAt :: earlier => if other = key then if now > expiresAt then none else some value else serves now key earlier
  | .del other :: earlier => if other = key then none else serves now key earlier
  | .flush :: _ => none

/-- From now on the store serves what the writes have left. -/
def Agrees (store : MemStore α) (now : Nat) (writes : List (Write α)) : Prop :=
  ∀ key later, now ≤ later → ((store.get? key).filter fun entry => later ≤ entry.expiresAt).map CacheEntry.value = serves later key writes

section Rules

variable {store : MemStore α} {now : Nat} {writes : List (Write α)} {key : String} {value : α}

theorem agreesEmpty (now : Nat) : Agrees (.empty : MemStore α) now [] := fun _ _ _ => rfl

theorem agreesLater {later : Nat} (agrees : Agrees store now writes) (passed : now ≤ later) : Agrees store later writes :=
  fun key at' after => agrees key at' (passed.trans after)

/-- Deleting what has expired is not noticed. -/
theorem agreesExpired (agrees : Agrees store now writes) {p : CacheEntry α → Bool} (expired : ∀ entry ∈ store.rows, p entry = true → entry.expiresAt < now) :
    Agrees (store.deleteMany p) now writes := by
  intro key later passed
  rw [← agrees key later passed,Table.getDeleteMany]
  cases found : store.get? key with
  | none => rfl
  | some entry =>
    cases gone : p entry with
    | false => simp [Option.filter_some,gone]
    | true =>
      have past := expired entry (Table.getMem found) gone
      have stale : ¬ later ≤ entry.expiresAt := by omega
      simp [Option.filter_some,gone,stale]

theorem agreesEvict (agrees : Agrees store now writes) : Agrees (store.evictExpired now) now writes :=
  agreesExpired agrees fun entry _ past => by simpa using past

theorem agreesGet (agrees : Agrees store now writes) (key : String) :
    (store.get now key).1 = serves now key writes ∧ Agrees (store.get now key).2 now writes := by
  have here := agrees key now (Nat.le_refl now)
  unfold MemStore.get
  cases found : store.get? key with
  | none =>
    rw [found] at here
    exact ⟨here,agrees⟩
  | some entry =>
    rw [found] at here
    dsimp only
    split
    · rename_i past
      have stale : ¬ now ≤ entry.expiresAt := by omega
      refine ⟨by simpa [Option.filter_some,stale] using here,agreesExpired agrees fun other inside same => ?_⟩
      have its : store.get? other.key = some other := Table.memGet inside
      rw [of_decide_eq_true same,found] at its
      cases its
      exact past
    · rename_i valid
      exact ⟨by simpa [Option.filter_some,Nat.le_of_not_gt valid] using here,agrees⟩

theorem agreesSet (agrees : Agrees store now writes) (key : String) (value : α) (ttlSeconds : Nat) :
    Agrees (store.set now key value ttlSeconds) now (.set key value (now + ttlSeconds * 1000) :: writes) := by
  intro other later passed
  have gets : (store.set now key value ttlSeconds).get? other =
      if other = key then some ((store.get? other).elim ⟨key,value,now + ttlSeconds * 1000⟩ fun entry => { entry with value := value, expiresAt := now + ttlSeconds * 1000 })
      else store.get? other := Table.upsertGet _ _ _ _ other
  rw [gets,serves]
  by_cases same : key = other
  · subst same
    by_cases past : later > now + ttlSeconds * 1000
    · have stale : ¬ later ≤ now + ttlSeconds * 1000 := by omega
      cases store.get? key <;> simp [Option.filter_some,past,stale]
    · have lasts : later ≤ now + ttlSeconds * 1000 := by omega
      cases store.get? key <;> simp [Option.filter_some,past,lasts]
  · rw [if_neg (Ne.symm same),if_neg same]
    exact agrees other later passed

theorem agreesDel (agrees : Agrees store now writes) (key : String) : Agrees (store.del key) now (.del key :: writes) := by
  intro other later passed
  rw [MemStore.del,Table.getDeleteMany,serves]
  by_cases same : key = other
  · subst same
    cases found : store.get? key with
    | none => simp
    | some entry =>
      have its : entry.key = key := Table.getKey found
      simp [Option.filter_some,its]
  · rw [if_neg same,← agrees other later passed]
    cases found : store.get? other with
    | none => rfl
    | some entry =>
      have its : entry.key = other := Table.getKey found
      simp [Option.filter_some,its,Ne.symm same]

theorem agreesFlush (store : MemStore α) (now : Nat) (writes : List (Write α)) : Agrees store.flush now (.flush :: writes) := fun _ _ _ => rfl

end Rules

inductive Command (α : Type) where
  | get (key : String)
  | set (key : String) (value : α) (ttlSeconds : Nat)
  | del (key : String)
  | flush
  | evictExpired
  | pass (ms : Nat)
  deriving DecidableEq, Repr

structure Cache (α : Type) where
  memStore : MemStore α := .empty
  now : Nat := 0

def Cache.run (cache : Cache α) : List (Command α) → List (Option α)
  | [] => []
  | .get key :: rest => (cache.memStore.get cache.now key).1 :: { cache with memStore := (cache.memStore.get cache.now key).2 }.run rest
  | .set key value ttlSeconds :: rest => { cache with memStore := cache.memStore.set cache.now key value ttlSeconds }.run rest
  | .del key :: rest => { cache with memStore := cache.memStore.del key }.run rest
  | .flush :: rest => { cache with memStore := cache.memStore.flush }.run rest
  | .evictExpired :: rest => { cache with memStore := cache.memStore.evictExpired cache.now }.run rest
  | .pass ms :: rest => { cache with now := cache.now + ms }.run rest

/-- The answers that the writes alone call for. -/
def answers (now : Nat) (writes : List (Write α)) : List (Command α) → List (Option α)
  | [] => []
  | .get key :: rest => serves now key writes :: answers now writes rest
  | .set key value ttlSeconds :: rest => answers now (.set key value (now + ttlSeconds * 1000) :: writes) rest
  | .del key :: rest => answers now (.del key :: writes) rest
  | .flush :: rest => answers now (.flush :: writes) rest
  | .evictExpired :: rest => answers now writes rest
  | .pass ms :: rest => answers (now + ms) writes rest

theorem agreesRun (commands : List (Command α)) {cache : Cache α} {writes : List (Write α)} (agrees : Agrees cache.memStore cache.now writes) :
    cache.run commands = answers cache.now writes commands := by
  induction commands generalizing cache writes with
  | nil => rfl
  | cons command rest ih =>
    cases command with
    | get key =>
      obtain ⟨same,after⟩ := agreesGet agrees key
      exact List.cons_eq_cons.mpr ⟨same,ih after⟩
    | set key value ttlSeconds => exact ih (agreesSet agrees key value ttlSeconds)
    | del key => exact ih (agreesDel agrees key)
    | flush => exact ih (agreesFlush cache.memStore cache.now writes)
    | evictExpired => exact ih (agreesEvict agrees)
    | pass ms => exact ih (agreesLater agrees (Nat.le_add_right _ _))

theorem cacheServes (now : Nat) (commands : List (Command α)) : { now := now : Cache α }.run commands = answers now [] commands :=
  agreesRun commands (agreesEmpty now)

end HireSettle.CacheService
