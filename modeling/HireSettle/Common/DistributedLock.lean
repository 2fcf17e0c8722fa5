import HireSettle.Common.Calls
import HireSettle.Workflow.Guards
import HireSettle.Workflow.Table

/-! The locks of the scheduled jobs. Replicas share one Redis; a tick sets the key of its
job with a fresh token unless it is there, works, and deletes the key if the token is
still its own. Calls to Redis may be lost before or after Redis has run them, and a tick
that has lost its call works all the same. -/
namespace HireSettle.DistributedLock
open Workflow

inductive Cron where
  | stellarMergeDetector | nightlyReconciliation | incomingPaymentPoller | piiAnonymization
  | disputeSlaOverdue | disputeSlaEvidence | appealFinalize | pollEvents | horizonIndexer
  | chainEventRetry | placementReminder | milestoneProofSla | milestoneRetention
  | fileScanSweep | dataRetention | s3Cleanup
  deriving DecidableEq, Repr

def Cron.key : Cron → String
  | .stellarMergeDetector => "cron:stellar-merge-detector"
  | .nightlyReconciliation => "cron:nightly-reconciliation"
  | .incomingPaymentPoller => "cron:incoming-payment-poller"
  | .piiAnonymization => "cron:pii-anonymization"
  | .disputeSlaOverdue => "cron:dispute-sla-overdue"
  | .disputeSlaEvidence => "cron:dispute-sla-evidence"
  | .appealFinalize => "cron:appeal-finalize"
  | .pollEvents => "cron:poll-events"
  | .horizonIndexer => "cron:horizon-indexer"
  | .chainEventRetry => "cron:chain-event-retry"
  | .placementReminder => "cron:placement-reminder"
  | .milestoneProofSla => "cron:milestone-proof-sla"
  | .milestoneRetention => "cron:milestone-retention"
  | .fileScanSweep => "cron:file-scan-sweep"
  | .dataRetention => "cron:data-retention"
  | .s3Cleanup => "cron:s3-cleanup"

def Cron.ttlMs : Cron → Nat
  | .stellarMergeDetector => 300000
  | .nightlyReconciliation | .piiAnonymization | .dataRetention | .s3Cleanup => 3600000
  | .incomingPaymentPoller | .horizonIndexer | .chainEventRetry => 60000
  | .pollEvents => 10000
  | _ => 600000

structure Lock where
  key : String
  token : String
  expiresAt : Nat
  deriving DecidableEq, Repr

instance : Keyed Lock String := ⟨Lock.key⟩

structure Redis where
  rows : Table Lock := .empty
  clock : Nat := 0

namespace Redis

def get (redis : Redis) (key : String) : Option Lock := (redis.rows.get? key).filter fun row => redis.clock < row.expiresAt

-- SET key token PX ttlMs NX
def setNx (redis : Redis) (key token : String) (ttlMs : Nat) : Redis :=
  if (redis.get key).isSome then redis
  else { redis with
    rows := redis.rows.upsert { key := key, token := token, expiresAt := redis.clock + ttlMs }
      (fun row => { row with token := token, expiresAt := redis.clock + ttlMs }) fun _ => rfl }

-- RELEASE_SCRIPT
def compareAndDelete (redis : Redis) (key token : String) : Redis :=
  if ((redis.get key).map Lock.token) = some token then { redis with rows := redis.rows.deleteMany fun row => row.key = key } else redis

end Redis

inductive Site where
  | randomUUID
  | acquire (key token : String) (ttlMs : Nat)
  | work (cron : Cron)
  | release (key token : String)
  deriving DecidableEq, Repr

/-- Of a lost call, whether Redis has run it. -/
structure Answer where
  lost : Bool := false
  ran : Bool := true
  text : String := ""
  deriving DecidableEq, Repr

def Answer.lands (answer : Answer) : Bool := !answer.lost || answer.ran

abbrev Op := Process Site Answer Redis Exception

def randomUUID : Op String := .query .randomUUID fun answer _ => .ok answer.text

def tryAcquireLock (useRedis : Bool) (key : String) (ttlMs : Nat) : Op (Option String) := do
  if !useRedis then do
    let token ← randomUUID
    return some token
  else do
    let token ← randomUUID
    .call (.acquire key token ttlMs) (fun answer redis => if answer.lands then redis.setNx key token ttlMs else redis) fun answer redis =>
      -- Redis error: the lock is granted
      if answer.lost then do
        let token ← randomUUID
        return some token
      else if (redis.get key).isNone then return some token
      else return none

def releaseLock (useRedis : Bool) (key token : String) : Op Unit :=
  if !useRedis then return
  else .call (.release key token) (fun answer redis => if answer.lands then redis.compareAndDelete key token else redis) fun _ _ => return

/-- What runs under a lock: some calls, each of which may throw. -/
def work (cron : Cron) : Nat → Op Unit
  | 0 => return
  | calls + 1 => do
      .query (.work cron) fun answer _ => if answer.lost then .error .database else .ok ()
      work cron calls

def withLock (useRedis : Bool) (key : String) (ttlMs : Nat) (fn : Op Unit) : Op (Option Unit) := do
  let token ← tryAcquireLock useRedis key ttlMs
  match token with
  | none => return none
  | some token => do
      let out ← (do
        fn
        return Except.ok ()).handle fun error => return Except.error error
      releaseLock useRedis key token
      Process.ofExcept (out.map some)

structure Tick where
  cron : Cron
  useRedis : Bool := true
  calls : Nat
  deriving DecidableEq, Repr

def replicas : System Tick Nat Site Answer Redis Exception (Option Unit) where
  handler tick := withLock tick.useRedis tick.cron.key tick.cron.ttlMs (work tick.cron tick.calls)
  environment passed redis := { redis with clock := redis.clock + passed }

abbrev LockEvent := Event Site Answer Redis

abbrev LockSnapshot := Snapshot Site Answer Redis

/-- Redis has set the key for the call, which may have been lost since. -/
def places (e : LockEvent) : Option Lock :=
  match e.site with
  | .acquire key token ttlMs => if e.answer.lands && (e.before.get key).isNone then some ⟨key,token,e.before.clock + ttlMs⟩ else none
  | _ => none

def grants (e : LockEvent) : Option Lock := if e.answer.lost then none else places e

def releases (key token : String) (e : LockEvent) : Prop := e.site = .release key token ∧ e.answer.lands = true

instance (key token : String) (e : LockEvent) : Decidable (releases key token e) := inferInstanceAs (Decidable (_ ∧ _))

def draws (e : LockEvent) : Option String :=
  match e.site with
  | .randomUUID => some e.answer.text
  | _ => none

def Fresh (earlier : List LockEvent) (e : LockEvent) : Prop :=
  ∀ token ∈ draws e, ∀ e' ∈ earlier, draws e' ≠ some token

instance (earlier : List LockEvent) (e : LockEvent) : Decidable (Fresh earlier e) := inferInstanceAs (Decidable (∀ token ∈ _, ∀ e' ∈ _, _))

/-- A lock granted to a thread that has not released it, before its time is up. -/
structure Held (c : LockSnapshot) (e : LockEvent) (lock : Lock) : Prop where
  granted : grants e = some lock
  running : c.world.clock < lock.expiresAt
  working : ∀ r ∈ c.history, r.thread = e.thread → ¬ releases lock.key lock.token r

/-- The lock a call has met was set by an earlier one, and nobody has released it. -/
def Met (earlier : List LockEvent) (redis : Redis) (lock : Lock) : Prop :=
  ∃ e ∈ earlier, places e = some lock ∧ redis.clock < lock.expiresAt ∧ ∀ r ∈ earlier, ¬ releases lock.key lock.token r

abbrev LockPool := Pool Tick Site Answer Redis Exception (Option Unit)

structure Exclusive (pool : LockPool) : Prop where
  alone : ∀ a ∈ pool.history, ∀ b ∈ pool.history, ∀ lock lock', Held pool.snapshot a lock → Held pool.snapshot b lock' → lock.key = lock'.key → a = b
  -- a tick works if it was granted the lock, has lost its call or has no Redis
  worked : Meets (fun tick earlier e => ∀ cron, e.site = .work cron → tick.useRedis = true → ∃ a ∈ earlier, a.thread = e.thread ∧
    (∃ token, a.site = .acquire cron.key token cron.ttlMs) ∧ (a.answer.lost = true ∨ (grants a).isSome = true)) pool
  -- a lock that is refused is held
  refused : AllMeet (fun earlier e => ∀ key token ttlMs, e.site = .acquire key token ttlMs → e.answer.lost = false → grants e = none →
    ∃ lock, lock.key = key ∧ Met earlier e.before lock) pool.history
  -- nobody deletes the lock of another
  released : AllMeet (fun earlier e => ∀ key token, e.site = .release key token → e.after ≠ e.before →
    ∃ a ∈ earlier, a.thread = e.thread ∧ ∃ lock, places a = some lock ∧ lock.key = key ∧ lock.token = token) pool.history

section Rows

variable {redis : Redis} {key token other : String} {ttlMs : Nat} {lock : Lock}

theorem getLive (found : redis.get key = some lock) : redis.rows.get? key = some lock ∧ redis.clock < lock.expiresAt := by
  simpa [Redis.get,Option.filter_eq_some_iff] using found

theorem liveGet (found : redis.rows.get? key = some lock) (live : redis.clock < lock.expiresAt) : redis.get key = some lock := by
  simp [Redis.get,found,live]

theorem setGet (free : (redis.get key).isNone) (other : String) : (redis.setNx key token ttlMs).rows.get? other =
    if other = key then some ⟨key,token,redis.clock + ttlMs⟩ else redis.rows.get? other := by
  have absent : ¬ (redis.get key).isSome = true := by simpa using free
  rw [Redis.setNx,if_neg absent]
  refine (Table.upsertGet _ _ _ _ other).trans (ite_congr rfl (fun same => ?_) fun _ => rfl)
  cases found : redis.rows.get? other with
  | none => rfl
  | some row =>
    have its : row.key = key := (Table.getKey found).trans same
    simp [its]

theorem deleteGet (other : String) : (redis.compareAndDelete key token).rows.get? other =
    if other = key ∧ (redis.get key).map Lock.token = some token then none else redis.rows.get? other := by
  unfold Redis.compareAndDelete
  split
  · rename_i own
    refine (Table.getDeleteMany _ _ other).trans ?_
    cases found : redis.rows.get? other with
    | none => simp
    | some row =>
      have its : row.key = other := Table.getKey found
      by_cases same : other = key <;> simp [its,own,same]
  · rename_i foreign
    rw [if_neg (fun both => foreign both.2)]

end Rows

section Walks

variable {tick : Tick} {own : List LockEvent} {key token : String} {ttlMs : Nat}

/-- The calls of a tick use a token it has drawn, and it works once the lock is granted,
its call is lost or there is no Redis. -/
def Guard (tick : Tick) (own : List LockEvent) (e : LockEvent) : Prop :=
  match e.site with
  | .randomUUID => e.after = e.before
  | .acquire key token ttlMs => (key = tick.cron.key ∧ ttlMs = tick.cron.ttlMs) ∧ (∃ d ∈ own, draws d = some token) ∧
      (∀ r ∈ own, ∀ key token, r.site ≠ .release key token) ∧
      e.after = if e.answer.lands then e.before.setNx key token ttlMs else e.before
  | .work cron => (cron = tick.cron ∧ e.after = e.before) ∧
      (tick.useRedis = true → ∃ a ∈ own, (∃ token, a.site = .acquire tick.cron.key token tick.cron.ttlMs) ∧ (a.answer.lost = true ∨ (grants a).isSome = true))
  | .release key token => (∃ d ∈ own, draws d = some token) ∧
      e.after = if e.answer.lands then e.before.compareAndDelete key token else e.before

structure Entered (tick : Tick) (token : String) (own : List LockEvent) : Prop where
  drawn : ∃ d ∈ own, draws d = some token
  entitled : tick.useRedis = true → ∃ a ∈ own, (∃ token, a.site = .acquire tick.cron.key token tick.cron.ttlMs) ∧ (a.answer.lost = true ∨ (grants a).isSome = true)

theorem enteredGrows {own' : List LockEvent} (entered : Entered tick token own) (later : own ⊆ own') : Entered tick token own' := by
  obtain ⟨⟨d,inside,drawn⟩,entitled⟩ := entered
  refine ⟨⟨d,later inside,drawn⟩,fun uses => ?_⟩
  obtain ⟨a,inside,its⟩ := entitled uses
  exact ⟨a,later inside,its⟩

theorem guardedAcquire : Guarded (Guard tick) (fun own out => ∀ token, out = .ok (some token) → Entered tick token own)
    (tryAcquireLock tick.useRedis tick.cron.key tick.cron.ttlMs) [] := by
  unfold tryAcquireLock
  split
  · rename_i single
    refine guardedBind (guardedQuery fun thread i redis => ⟨rfl,?_⟩)
    intro token same
    cases same
    exact ⟨⟨_,List.mem_cons_self,rfl⟩,fun uses => by simp [uses] at single⟩
  · refine guardedBind (guardedQuery fun thread i redis => ⟨rfl,fun thread' i' redis' => ⟨?_,?_⟩⟩)
    · refine ⟨⟨rfl,rfl⟩,⟨_,List.mem_cons_self,rfl⟩,fun r inside => ?_,rfl⟩
      cases List.mem_singleton.mp inside
      simp
    · dsimp only
      split
      · rename_i lost
        refine guardedBind (guardedQuery fun thread'' i'' redis'' => ⟨rfl,?_⟩)
        intro token same
        cases same
        exact ⟨⟨_,List.mem_cons_self,rfl⟩,fun _ => ⟨_,List.mem_cons_of_mem _ List.mem_cons_self,⟨_,rfl⟩,Or.inl lost⟩⟩
      · rename_i answered
        split
        · rename_i free
          intro token same
          cases same
          refine ⟨⟨_,List.mem_cons_of_mem _ List.mem_cons_self,rfl⟩,fun _ => ⟨_,List.mem_cons_self,⟨_,rfl⟩,Or.inr ?_⟩⟩
          simp [grants,places,Answer.lands,answered,free]
        · intro token same
          cases same

theorem guardedWork (calls : Nat) (entered : Entered tick token own) :
    Guarded (Guard tick) (fun own _ => Entered tick token own) (work tick.cron calls) own := by
  induction calls generalizing own with
  | zero => exact entered
  | succ calls ih =>
    refine guardedBind (guardedQuery fun thread i redis => ⟨⟨⟨rfl,rfl⟩,entered.entitled⟩,?_⟩)
    have later : Entered tick token (⟨thread,.work tick.cron,i,redis,redis⟩ :: own) := enteredGrows entered (List.subset_cons_self _ _)
    split
    · rename_i found
      split at found
      · cases found
      · exact ih later
    · exact later

theorem guardedHandler (tick : Tick) : Guarded (Guard tick) anyOutcome (replicas.handler tick) [] := by
  refine guardedBind (guardedMono (fun own out entered => ?_) guardedAcquire)
  cases out with
  | error error => trivial
  | ok granted =>
    dsimp only
    split
    · trivial
    · rename_i token
      have enters := entered token rfl
      refine guardedBind (guardedHandle (guardedBind (guardedMono (fun own out entered => ?_) (guardedWork _ enters))))
      have ends : ∀ out : Except Exception Unit, Guarded (Guard tick) anyOutcome
          (releaseLock tick.useRedis tick.cron.key token >>= fun _ => Process.ofExcept (out.map some)) own := by
        intro out
        unfold releaseLock
        split
        · exact guardedOfExcept trivial
        · exact fun thread i redis => ⟨⟨entered.drawn,rfl⟩,guardedOfExcept trivial⟩
      cases out with
      | error error => exact ends (.error error)
      | ok value => exact ends (.ok ())

end Walks

section Steps

/-- A lock set by the call, before its time is up and released by nobody. -/
structure Live (c : LockSnapshot) (e : LockEvent) (lock : Lock) : Prop where
  placed : places e = some lock
  running : c.world.clock < lock.expiresAt
  unreleased : ∀ r ∈ c.history, ¬ releases lock.key lock.token r

def Site.token : Site → Option String
  | .acquire _ token _ => some token
  | .release _ token => some token
  | _ => none

/-- Redis holds the live locks, and no two of one key. -/
structure Holds (c : LockSnapshot) : Prop where
  placed : ∀ key lock, c.world.get key = some lock → ∃ e ∈ c.history, Live c e lock
  kept : ∀ e ∈ c.history, ∀ lock, Live c e lock → c.world.get lock.key = some lock
  alone : ∀ a ∈ c.history, ∀ b ∈ c.history, ∀ lock lock', Live c a lock → Live c b lock' → lock.key = lock'.key → a = b

structure Inv (c : LockSnapshot) : Prop where
  holds : Holds c
  single : ∀ a ∈ c.history, ∀ b ∈ c.history, ∀ token, draws a = some token → draws b = some token → a = b
  drawn : ∀ e ∈ c.history, ∀ token, e.site.token = some token → ∃ d ∈ c.history, d.thread = e.thread ∧ draws d = some token
  refused : AllMeet (fun earlier e => ∀ key token ttlMs, e.site = .acquire key token ttlMs → e.answer.lost = false → grants e = none →
    ∃ lock, lock.key = key ∧ Met earlier e.before lock) c.history
  released : AllMeet (fun earlier e => ∀ key token, e.site = .release key token → e.after ≠ e.before →
    ∃ a ∈ earlier, a.thread = e.thread ∧ ∃ lock, places a = some lock ∧ lock.key = key ∧ lock.token = token) c.history

variable {c : LockSnapshot} {e : LockEvent} {lock : Lock} {key token : String}

theorem placesSite (placed : places e = some lock) : (∃ ttlMs, e.site = .acquire lock.key lock.token ttlMs) ∧ (e.before.get lock.key).isNone ∧ e.answer.lands = true := by
  obtain ⟨thread,site,answer,before,after⟩ := e
  cases site with
  | acquire key token ttlMs =>
    simp only [places,Bool.and_eq_true,Option.ite_none_right_eq_some,Option.some.injEq] at placed
    obtain ⟨⟨lands,free⟩,rfl⟩ := placed
    exact ⟨⟨_,rfl⟩,free,lands⟩
  | randomUUID => cases placed
  | work cron => cases placed
  | release key token => cases placed

theorem sameThread (inv : Inv c) {a b : LockEvent} (here : a ∈ c.history) (there : b ∈ c.history) (first : a.site.token = some token)
    (second : b.site.token = some token) : a.thread = b.thread := by
  obtain ⟨d,inside,mine,drawn⟩ := inv.drawn a here token first
  obtain ⟨d',inside',mine',drawn'⟩ := inv.drawn b there token second
  rw [← mine,← mine',inv.single d inside d' inside' token drawn drawn']

variable {thread : Nat} {site : Site} {i : Answer} {after : Redis}

theorem liveBefore {a : LockEvent} (live : Live (c.record thread site i after) a lock) (clock : after.clock = c.world.clock) : Live c a lock :=
  ⟨live.placed,clock ▸ live.running,fun r inside => live.unreleased r (List.mem_cons_of_mem _ inside)⟩

theorem liveAfter {a : LockEvent} (live : Live c a lock) (clock : after.clock = c.world.clock)
    (other : ¬ releases lock.key lock.token (c.event thread site i after)) : Live (c.record thread site i after) a lock :=
  ⟨live.placed,clock.symm ▸ live.running,List.forall_mem_cons.mpr ⟨other,live.unreleased⟩⟩

theorem singleRecord (inv : Inv c) (fresh : Fresh c.history (c.event thread site i after)) :
    ∀ a ∈ (c.record thread site i after).history, ∀ b ∈ (c.record thread site i after).history, ∀ token,
      draws a = some token → draws b = some token → a = b := by
  intro a here b there token first second
  rcases List.mem_cons.mp here with rfl | before <;> rcases List.mem_cons.mp there with rfl | before'
  · rfl
  · exact absurd second (fresh token first b before')
  · exact absurd first (fresh token second a before)
  · exact inv.single a before b before' token first second

theorem drawnRecord (inv : Inv c) (uses : ∀ token, site.token = some token → ∃ d ∈ c.history, d.thread = thread ∧ draws d = some token) :
    ∀ e ∈ (c.record thread site i after).history, ∀ token, e.site.token = some token →
      ∃ d ∈ (c.record thread site i after).history, d.thread = e.thread ∧ draws d = some token := by
  intro e inside token used
  rcases List.mem_cons.mp inside with rfl | before
  · obtain ⟨d,there,its⟩ := uses token used
    exact ⟨d,List.mem_cons_of_mem _ there,its⟩
  · obtain ⟨d,there,its⟩ := inv.drawn e before token used
    exact ⟨d,List.mem_cons_of_mem _ there,its⟩

theorem holdsQuiet (holds : Holds c) (idle : places (c.event thread site i c.world) = none)
    (keeps : ∀ key token, ¬ releases key token (c.event thread site i c.world)) : Holds (c.record thread site i c.world) := by
  refine ⟨fun key lock found => ?_,fun e inside lock live => ?_,fun a here b there lock lock' first second same => ?_⟩
  · obtain ⟨e,inside,live⟩ := holds.placed key lock found
    exact ⟨e,List.mem_cons_of_mem _ inside,liveAfter live rfl (keeps _ _)⟩
  · rcases List.mem_cons.mp inside with rfl | before
    · cases idle.symm.trans live.placed
    · exact holds.kept e before lock (liveBefore live rfl)
  · rcases List.mem_cons.mp here with rfl | before
    · cases idle.symm.trans first.placed
    · rcases List.mem_cons.mp there with rfl | before'
      · cases idle.symm.trans second.placed
      · exact holds.alone a before b before' lock lock' (liveBefore first rfl) (liveBefore second rfl) same

theorem holdsPlaced (holds : Holds c) (placed : places (c.event thread site i after) = some lock) (clock : after.clock = c.world.clock)
    (lasts : c.world.clock < lock.expiresAt) (rows : ∀ other, after.rows.get? other = if other = lock.key then some lock else c.world.rows.get? other)
    (unused : ∀ r ∈ c.history, ¬ releases lock.key lock.token r) : Holds (c.record thread site i after) := by
  have free : c.world.get lock.key = none := Option.isNone_iff_eq_none.mp (placesSite placed).2.1
  have keeps : ∀ key token, ¬ releases key token (c.event thread site i after) := by
    rintro key token ⟨release,_⟩
    obtain ⟨ttlMs,acquire⟩ := (placesSite placed).1
    cases release.symm.trans acquire
  have found : after.get lock.key = some lock := liveGet ((rows _).trans (if_pos rfl)) (clock ▸ lasts)
  have mine : Live (c.record thread site i after) (c.event thread site i after) lock :=
    ⟨placed,clock.symm ▸ lasts,List.forall_mem_cons.mpr ⟨keeps _ _,unused⟩⟩
  have elsewhere : ∀ e ∈ c.history, ∀ lock', Live (c.record thread site i after) e lock' → lock'.key ≠ lock.key := by
    intro e before lock' live same
    have taken := holds.kept e before lock' (liveBefore live clock)
    rw [same,free] at taken
    cases taken
  have others : ∀ key, key ≠ lock.key → after.get key = c.world.get key := by
    intro key differs
    rw [Redis.get,Redis.get,rows,if_neg differs,clock]
  refine ⟨fun key lock' there => ?_,fun e inside lock' live => ?_,fun a here b there lock' lock'' first second same => ?_⟩
  · by_cases its : key = lock.key
    · cases (its ▸ found).symm.trans there
      exact ⟨_,List.mem_cons_self,mine⟩
    · obtain ⟨e,inside,live⟩ := holds.placed key lock' ((others key its).symm.trans there)
      exact ⟨e,List.mem_cons_of_mem _ inside,liveAfter live clock (keeps _ _)⟩
  · rcases List.mem_cons.mp inside with rfl | before
    · cases placed.symm.trans live.placed
      exact found
    · exact (others _ (elsewhere e before lock' live)).trans (holds.kept e before lock' (liveBefore live clock))
  · rcases List.mem_cons.mp here with rfl | before <;> rcases List.mem_cons.mp there with rfl | before'
    · rfl
    · cases placed.symm.trans first.placed
      exact absurd same.symm (elsewhere b before' lock'' second)
    · cases placed.symm.trans second.placed
      exact absurd same (elsewhere a before lock' first)
    · exact holds.alone a before b before' lock' lock'' (liveBefore first clock) (liveBefore second clock) same

theorem holdsReleased (holds : Holds c) (release : site = .release key token) (lands : i.lands = true) :
    Holds (c.record thread site i (c.world.compareAndDelete key token)) := by
  have clock : (c.world.compareAndDelete key token).clock = c.world.clock := by
    unfold Redis.compareAndDelete
    split <;> rfl
  have idle : places (c.event thread site i (c.world.compareAndDelete key token)) = none := by
    subst release
    rfl
  have others : ∀ lock, (lock.key ≠ key ∨ lock.token ≠ token) → c.world.get lock.key = some lock →
      (c.world.compareAndDelete key token).get lock.key = some lock := by
    intro lock differs there
    obtain ⟨found,lasts⟩ := getLive there
    refine liveGet ?_ (clock ▸ lasts)
    rw [deleteGet,if_neg]
    · exact found
    · rintro ⟨same,own⟩
      rw [← same,there] at own
      rcases differs with differs | differs
      · exact differs same
      · exact differs (Option.some.inj own)
  refine ⟨fun other lock there => ?_,fun e inside lock live => ?_,fun a here b there lock lock' first second same => ?_⟩
  · have found : (c.world.compareAndDelete key token).rows.get? other = some lock := (getLive there).1
    have lasts : (c.world.compareAndDelete key token).clock < lock.expiresAt := (getLive there).2
    rw [deleteGet] at found
    split at found
    · cases found
    · rename_i foreign
      have before := liveGet found (clock ▸ lasts)
      obtain ⟨e,inside,live⟩ := holds.placed other lock before
      refine ⟨e,List.mem_cons_of_mem _ inside,liveAfter live clock ?_⟩
      rintro ⟨same,_⟩
      cases release.symm.trans same
      have its : lock.key = other := Table.getKey found
      exact foreign ⟨its.symm,by rw [its,before]; rfl⟩
  · rcases List.mem_cons.mp inside with rfl | before
    · cases idle.symm.trans live.placed
    · refine others lock ?_ (holds.kept e before lock (liveBefore live clock))
      by_contra both
      rw [not_or,not_not,not_not] at both
      obtain ⟨rfl,rfl⟩ := both
      exact live.unreleased _ List.mem_cons_self ⟨release,lands⟩
  · rcases List.mem_cons.mp here with rfl | before
    · cases idle.symm.trans first.placed
    · rcases List.mem_cons.mp there with rfl | before'
      · cases idle.symm.trans second.placed
      · exact holds.alone a before b before' lock lock' (liveBefore first clock) (liveBefore second clock) same

theorem metLive (inv : Inv c) (found : c.world.get key = some lock) : Met c.history c.world lock := by
  obtain ⟨e,inside,live⟩ := inv.holds.placed key lock found
  exact ⟨e,inside,live.placed,live.running,live.unreleased⟩

theorem invQuiet (inv : Inv c) (quiet : site.token = none) (fresh : Fresh c.history (c.event thread site i c.world)) :
    Inv (c.record thread site i c.world) := by
  refine ⟨holdsQuiet inv.holds ?_ ?_,singleRecord inv fresh,drawnRecord inv fun token used => ?_,⟨?_,inv.refused⟩,⟨?_,inv.released⟩⟩
  · cases site with
    | acquire key token ttlMs => cases quiet
    | _ => rfl
  · rintro key token ⟨release,_⟩
    cases (show site = .release key token from release)
    cases quiet
  · cases quiet.symm.trans used
  · intro key token ttlMs acquire
    cases (show site = .acquire key token ttlMs from acquire)
    cases quiet
  · intro key token release
    cases (show site = .release key token from release)
    cases quiet

theorem invAcquire {ttlMs : Nat} (inv : Inv c) (drawn : ∃ d ∈ c.history, d.thread = thread ∧ draws d = some token)
    (first : ∀ r ∈ c.history, r.thread = thread → ∀ key token, r.site ≠ .release key token) (lasts : 0 < ttlMs)
    (fresh : Fresh c.history (c.event thread (.acquire key token ttlMs) i after))
    (step : after = if i.lands then c.world.setNx key token ttlMs else c.world) : Inv (c.record thread (.acquire key token ttlMs) i after) := by
  have uses : ∀ other, (Site.acquire key token ttlMs).token = some other → ∃ d ∈ c.history, d.thread = thread ∧ draws d = some other := by
    intro other used
    cases used
    exact drawn
  refine ⟨?_,singleRecord inv fresh,drawnRecord inv uses,⟨?_,inv.refused⟩,⟨?_,inv.released⟩⟩
  · by_cases lands : i.lands = true ∧ (c.world.get key).isNone = true
    · obtain ⟨runs,free⟩ := lands
      rw [if_pos runs] at step
      subst step
      have absent : ¬ (c.world.get key).isSome = true := by simpa using free
      have placed : places (c.event thread (.acquire key token ttlMs) i (c.world.setNx key token ttlMs)) = some ⟨key,token,c.world.clock + ttlMs⟩ := by
        simp [places,Snapshot.event,runs,free]
      refine holdsPlaced inv.holds placed ?_ (Nat.lt_add_of_pos_right lasts) (setGet free) ?_
      · rw [Redis.setNx,if_neg absent]
      · rintro r inside ⟨release,_⟩
        obtain ⟨d,there,mine,its⟩ := drawn
        obtain ⟨d',there',mine',its'⟩ := inv.drawn r inside token (by rw [release]; rfl)
        refine first r inside ?_ key token release
        rw [← mine,← mine',inv.single d there d' there' token its its']
    · have same : after = c.world := by
        rw [step]
        split
        · rename_i runs
          rw [Redis.setNx,if_pos]
          exact Option.isSome_iff_ne_none.mpr (by simpa [runs] using lands)
        · rfl
      subst same
      refine holdsQuiet inv.holds ?_ ?_
      · simpa [places,Snapshot.event] using lands
      · rintro key' token' ⟨release,_⟩
        cases release
  · intro key' token' ttlMs' acquire answered refused
    cases acquire
    cases found : c.world.get key with
    | none => simp [grants,places,Snapshot.event,Answer.lands,show i.lost = false from answered,found] at refused
    | some lock => exact ⟨lock,Table.getKey (getLive found).1,metLive inv found⟩
  · intro key' token' release
    cases release

theorem invRelease (inv : Inv c) (drawn : ∃ d ∈ c.history, d.thread = thread ∧ draws d = some token)
    (fresh : Fresh c.history (c.event thread (.release key token) i after))
    (step : after = if i.lands then c.world.compareAndDelete key token else c.world) : Inv (c.record thread (.release key token) i after) := by
  have uses : ∀ other, (Site.release key token).token = some other → ∃ d ∈ c.history, d.thread = thread ∧ draws d = some other := by
    intro other used
    cases used
    exact drawn
  refine ⟨?_,singleRecord inv fresh,drawnRecord inv uses,⟨?_,inv.refused⟩,⟨?_,inv.released⟩⟩
  · split at step
    · rename_i lands
      subst step
      exact holdsReleased inv.holds rfl lands
    · rename_i idle
      subst step
      exact holdsQuiet inv.holds rfl (fun key' token' released => idle released.2)
  · intro key' token' ttlMs' acquire
    cases acquire
  · intro key' token' release differs
    cases release
    have own : (c.world.get key).map Lock.token = some token := by
      by_contra foreign
      refine differs (step.trans ?_)
      rw [Redis.compareAndDelete,if_neg foreign,ite_self]
      rfl
    obtain ⟨lock,found,its⟩ := Option.map_eq_some_iff.mp own
    obtain ⟨a,inside,live⟩ := inv.holds.placed key lock found
    obtain ⟨ttlMs,acquire⟩ := (placesSite live.placed).1
    obtain ⟨d,there,mine,drew⟩ := drawn
    obtain ⟨d',there',mine',drew'⟩ := inv.drawn a inside token (by rw [acquire,← its]; rfl)
    refine ⟨a,inside,?_,lock,live.placed,Table.getKey (getLive found).1,its⟩
    rw [← mine',inv.single d' there' d there token drew' drew]
    exact mine

theorem invKeeps (tick : Tick) (inv : Inv c) (guard : Guard tick (c.history.filter fun e => e.thread = thread) (c.event thread site i after))
    (fresh : Fresh c.history (c.event thread site i after)) : Inv (c.record thread site i after) := by
  have owned : ∀ token, (∃ d ∈ c.history.filter fun e => e.thread = thread, draws d = some token) → ∃ d ∈ c.history, d.thread = thread ∧ draws d = some token := by
    rintro token ⟨d,inside,drawn⟩
    obtain ⟨there,mine⟩ := List.mem_filter.mp inside
    exact ⟨d,there,of_decide_eq_true mine,drawn⟩
  cases site with
  | randomUUID =>
    cases (show after = c.world from guard)
    exact invQuiet inv rfl fresh
  | work cron =>
    cases (show after = c.world from guard.1.2)
    exact invQuiet inv rfl fresh
  | acquire key token ttlMs =>
    obtain ⟨⟨_,its⟩,drawn,first,step⟩ := guard
    refine invAcquire inv (owned token drawn) (fun r inside mine => first r (List.mem_filter.mpr ⟨inside,decide_eq_true mine⟩)) ?_ fresh step
    rw [its]
    cases tick.cron <;> decide
  | release key token => exact invRelease inv (owned token guard.1) fresh guard.2

theorem invPassed (inv : Inv c) (passed : Nat) : Inv { c with world := { c.world with clock := c.world.clock + passed } } := by
  have before : ∀ e lock, Live { c with world := { c.world with clock := c.world.clock + passed } } e lock → Live c e lock :=
    fun e lock live => ⟨live.placed,Nat.lt_of_le_of_lt (Nat.le_add_right _ _) live.running,live.unreleased⟩
  refine ⟨⟨fun key lock found => ?_,fun e inside lock live => ?_,fun a here b there lock lock' first second =>
    inv.holds.alone a here b there lock lock' (before a lock first) (before b lock' second)⟩,inv.single,inv.drawn,inv.refused,inv.released⟩
  · obtain ⟨there,lasts⟩ := getLive found
    obtain ⟨e,inside,live⟩ := inv.holds.placed key lock (liveGet there (Nat.lt_of_le_of_lt (Nat.le_add_right _ _) lasts))
    exact ⟨e,inside,live.placed,lasts,live.unreleased⟩
  · exact liveGet (getLive (inv.holds.kept e inside lock (before e lock live))).1 live.running

end Steps

theorem heldLive {c : LockSnapshot} (inv : Inv c) {e : LockEvent} (inside : e ∈ c.history) {lock : Lock} (held : Held c e lock) : Live c e lock := by
  have placed : places e = some lock := (Option.ite_none_left_eq_some.mp held.granted).2
  refine ⟨placed,held.running,fun r there releases => held.working r there ?_ releases⟩
  obtain ⟨ttlMs,acquire⟩ := (placesSite placed).1
  exact sameThread inv there inside (by rw [releases.1]; rfl) (by rw [acquire]; rfl)

theorem ticksExclude {redis : Redis} (start : redis.rows.rows = []) (moves : List (Move Tick Nat Answer))
    (fresh : AllMeet Fresh (replicas.run (Pool.initial redis) moves).history) : Exclusive (replicas.run (Pool.initial redis) moves) := by
  have initial : Inv ⟨redis,[]⟩ := by
    refine ⟨⟨fun key lock found => ?_,by simp,by simp⟩,by simp,by simp,trivial,trivial⟩
    simp [Redis.get,Table.get?,start] at found
  obtain ⟨_,_,seen,inv⟩ := guardedRun (P := fun _ earlier e => Fresh earlier e) (fun tick c thread site i after inv guard its => invKeeps tick inv guard its)
    (fun passed c inv => invPassed inv passed) guardedHandler (guardedInitial initial) moves (meetsMono (fun _ _ its _ _ => its) fresh)
  refine ⟨fun a here b there lock lock' first second => inv.holds.alone a here b there lock lock' (heldLive inv here first) (heldLive inv there second),
    meetsMono (fun earlier e guard tick its cron working uses => ?_) seen,inv.refused,inv.released⟩
  have own : Guard tick.request (earlier.filter fun e' => e'.thread = e.thread) e := guard tick its
  simp only [Guard,working] at own
  obtain ⟨⟨rfl,_⟩,entitled⟩ := own
  obtain ⟨a,inside,granted⟩ := entitled uses
  obtain ⟨there,mine⟩ := List.mem_filter.mp inside
  exact ⟨a,there,of_decide_eq_true mine,granted⟩

/-- Of three ticks the second is refused, the third comes when the time of the first is up. -/
def ticks : List (Move Tick Nat Answer) :=
  [.start ⟨.pollEvents,true,2⟩,.start ⟨.pollEvents,true,1⟩,.start ⟨.pollEvents,true,1⟩,
    .answer 0 { text := "a" },.answer 0 {},.answer 0 {},.answer 1 { text := "b" },.answer 1 {},
    .environment 10000,.answer 2 { text := "c" },.answer 2 {},.answer 0 {},.answer 0 {},.answer 2 {}]

theorem lateTickExcludes : Exclusive (replicas.run (Pool.initial {}) ticks) ∧
    (replicas.run (Pool.initial {}) ticks).history.filterMap grants = [⟨"cron:poll-events","c",20000⟩,⟨"cron:poll-events","a",10000⟩] ∧
    ((replicas.run (Pool.initial {}) ticks).world.get "cron:poll-events").isSome := by
  exact ⟨@ticksExclude {} rfl ticks (by decide +kernel),by decide +kernel,by decide +kernel⟩

end HireSettle.DistributedLock
