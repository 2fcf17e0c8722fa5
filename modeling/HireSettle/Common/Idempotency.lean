import HireSettle.Common.Calls
import HireSettle.Common.Json
import HireSettle.Workflow.Guards
import HireSettle.Workflow.Table

/-! The responses of a route, cached under a key that the client sends. The lookup,
the handler and the store are separate calls and nothing is reserved in between. A
response is emitted when the handler completes, and stored afterwards; `null` is
also what a lookup returns that finds nothing. -/
namespace HireSettle.Idempotency
open Workflow

structure IdempotencyKey where
  key : String
  userId : String
  response : Json
  expiresAt : Nat

instance : Keyed IdempotencyKey (String × String) := ⟨fun row => (row.key,row.userId)⟩

structure World where
  keys : Table IdempotencyKey := .empty
  clock : Nat := 0

structure Request where
  -- whether the route carries `@Idempotent()`
  idempotent : Bool := true
  route : String
  idempotencyKey : Option String
  userId : Option String
  deriving DecidableEq

inductive Site where
  | find (request : Request)
  | handle (request : Request)
  | store (request : Request)
  deriving DecidableEq

/-- A call throws or returns; `none` is the response `undefined`. -/
structure Reply where
  throws : Option Exception := none
  response : Option Json := none

abbrev Op := Process Site Reply World Exception

def IDEMPOTENCY_KEY_TTL_MS : Nat := 24 * 60 * 60 * 1000

/-- The key and the user under which a response is cached. -/
def Request.entry (request : Request) : Option (String × String) :=
  if !request.idempotent then none
  else match present request.idempotencyKey,present request.userId with
    | some key, some userId => some (key,userId)
    | _, _ => none

def cachedResponse (w : World) (entry : String × String) : Json :=
  match w.keys.get? entry with
  | some existing => if w.clock < existing.expiresAt then existing.response else .null
  | none => .null

def checkAndReturn (request : Request) (entry : String × String) : Op Json :=
  .query (.find request) fun reply w =>
    match reply.throws with
    | some error => .error error
    | none => .ok (cachedResponse w entry)

def handle (request : Request) : Op (Option Json) :=
  .query (.handle request) fun reply _ =>
    match reply.throws with
    | some error => .error error
    | none => .ok reply.response

-- the column is required: the client refuses `undefined` and `null` for it
def store (request : Request) (entry : String × String) (response : Option Json) : Op Unit :=
  .transact (.store request) fun reply w =>
    match reply.throws,response with
    | some error, _ => .error error
    | none, none | none, some .null => .error .database
    | none, some response =>
        let expiresAt := w.clock + IDEMPOTENCY_KEY_TTL_MS
        .ok ((),{ w with
          keys := w.keys.upsert { key := entry.1, userId := entry.2, response := response, expiresAt := expiresAt }
            fun row => { row with response := response, expiresAt := expiresAt } })

def intercept (request : Request) : Op (Option Json) :=
  match request.entry with
  | none => handle request
  | some entry => do
      let cached ← checkAndReturn request entry
      if cached ≠ .null then return some cached
      else do
        let result ← handle request
        (store request entry result).handle fun _ => return
        return result

def service : System Request Nat Site Reply World Exception (Option Json) where
  handler := intercept
  environment elapsed w := { w with clock := w.clock + elapsed }

abbrev CacheEvent := Event Site Reply World

abbrev CacheMove := Move Request Nat Reply

def Site.request : Site → Request
  | .find request | .handle request | .store request => request

def entryOf (e : CacheEvent) : Option (String × String) := e.site.request.entry

/-- The handler completes. -/
def Ran (e : CacheEvent) : Prop :=
  match e.site with
  | .handle _ => e.answer.throws = none
  | _ => False

def Threw (e : CacheEvent) : Prop :=
  match e.site with
  | .handle _ => e.answer.throws ≠ none
  | _ => False

/-- A lookup finds no response. -/
def Misses (e : CacheEvent) : Prop :=
  match e.site with
  | .find _ => e.answer.throws = none ∧ ∀ entry ∈ entryOf e, cachedResponse e.before entry = .null
  | _ => False

/-- What a call answers to its client. -/
def responded (e : CacheEvent) : Option (Option Json) :=
  match e.site with
  | .handle _ => if e.answer.throws = none then some e.answer.response else none
  | .find _ =>
      match e.answer.throws,(entryOf e).map (cachedResponse e.before) with
      | some _, _ | none, none | none, some .null => none
      | none, some cached => some (some cached)
  | .store _ => none

instance (e : CacheEvent) : Decidable (Ran e) := by unfold Ran; split <;> infer_instance

instance (e : CacheEvent) : Decidable (Threw e) := by unfold Threw; split <;> infer_instance

instance (e : CacheEvent) : Decidable (Misses e) := by unfold Misses; split <;> infer_instance

/-- Under one key the handler completes once, and a route answers the same. -/
def Once (earlier : List CacheEvent) (e : CacheEvent) : Prop :=
  ∀ e' ∈ earlier, (entryOf e).isSome → entryOf e' = entryOf e → e'.site.request.route = e.site.request.route →
    (Ran e → ¬ Ran e') ∧ ∀ response ∈ responded e, ∀ first ∈ responded e', response = first

instance (earlier : List CacheEvent) (e : CacheEvent) : Decidable (Once earlier e) := by
  unfold Once
  infer_instance

/-- When a lookup misses, every request of the key that has missed before has thrown or
has left a cached response. -/
def Settled (earlier : List CacheEvent) (e : CacheEvent) : Prop :=
  Misses e → ∀ e' ∈ earlier, Misses e' → entryOf e' = entryOf e →
    ∃ e'' ∈ earlier, e''.thread = e'.thread ∧ (Threw e'' ∨ ∀ entry ∈ entryOf e, cachedResponse e''.after entry ≠ .null)

instance (earlier : List CacheEvent) (e : CacheEvent) : Decidable (Settled earlier e) := by
  unfold Settled
  infer_instance

section Entries

variable {w w' : World} {entry : String × String} {start : Nat}

/-- A response of this run is cached, for as long as the run lasts. -/
def Cached (start : Nat) (w : World) (entry : String × String) (response : Json) : Prop :=
  ∃ row, w.keys.get? entry = some row ∧ start + IDEMPOTENCY_KEY_TTL_MS ≤ row.expiresAt ∧ row.response = response ∧ response ≠ .null

/-- Other rows have expired before the run. -/
def Lasting (start : Nat) (w : World) : Prop :=
  ∀ entry row, w.keys.get? entry = some row → row.expiresAt ≤ start ∨ Cached start w entry row.response

theorem cachedFound (lasting : Lasting start w) (started : start ≤ w.clock) (found : cachedResponse w entry ≠ .null) :
    Cached start w entry (cachedResponse w entry) := by
  unfold cachedResponse at found ⊢
  split at found
  · rename_i row there
    split at found
    · rename_i live
      simp only [if_pos live]
      rcases lasting entry row there with expired | cached
      · omega
      · exact cached
    · exact absurd rfl found
  · exact absurd rfl found

theorem cachedResponded {response : Json} (cached : Cached start w entry response) (window : w.clock < start + IDEMPOTENCY_KEY_TTL_MS) :
    cachedResponse w entry = response := by
  obtain ⟨row,there,lasts,same,_⟩ := cached
  have live : w.clock < row.expiresAt := by omega
  simp only [cachedResponse,there,if_pos live,same]

/-- The world after a response is stored. -/
def stored (w : World) (entry : String × String) (response : Json) : World :=
  { w with
    keys := w.keys.upsert
      { key := entry.1, userId := entry.2, response := response, expiresAt := w.clock + IDEMPOTENCY_KEY_TTL_MS }
      fun row => { row with response := response, expiresAt := w.clock + IDEMPOTENCY_KEY_TTL_MS } }

theorem cachedStored {response : Json} (started : start ≤ w.clock) (given : response ≠ .null) :
    Cached start (stored w entry response) entry response := by
  refine ⟨_,(Table.upsertGet _ _ _ _ _).trans (if_pos rfl),?_,?_,given⟩
  · cases w.keys.get? entry <;> exact Nat.add_le_add_right started _
  · cases w.keys.get? entry <;> rfl

theorem cachedElsewhere {other : String × String} {response answer : Json} (differs : other ≠ entry) :
    Cached start (stored w entry response) other answer ↔ Cached start w other answer := by
  have same : (stored w entry response).keys.get? other = w.keys.get? other :=
    (Table.upsertGet _ _ _ _ _).trans (if_neg differs)
  simp only [Cached,same]

theorem cachedUnique {response answer : Json} (cached : Cached start w entry response) (cached' : Cached start w entry answer) :
    response = answer := by
  obtain ⟨row,there,_,same,_⟩ := cached
  obtain ⟨row',there',_,same',_⟩ := cached'
  cases there.symm.trans there'
  exact same.symm.trans same'

theorem lastingStored {response : Json} (lasting : Lasting start w) (started : start ≤ w.clock) (given : response ≠ .null) :
    Lasting start (stored w entry response) := by
  intro other row there
  by_cases same : other = entry
  · subst same
    have cached : Cached start (stored w other response) other response := cachedStored started given
    have ⟨row',there',_,its,_⟩ := cached
    cases there.symm.trans there'
    exact Or.inr (its ▸ cached)
  · have elsewhere : (stored w entry response).keys.get? other = w.keys.get? other :=
      (Table.upsertGet _ _ _ _ _).trans (if_neg same)
    rw [cachedElsewhere same]
    exact lasting other row (elsewhere ▸ there)

end Entries

section Guards

variable {request : Request} {own : List CacheEvent}

/-- The handler runs after a lookup that missed, and its response is stored after it. -/
def Guard (request : Request) (own : List CacheEvent) (e : CacheEvent) : Prop :=
  match e.site with
  | .find r => r = request ∧ own = [] ∧ e.after = e.before
  | .handle r => r = request ∧ e.after = e.before ∧
      (own = [] ∧ request.entry = none ∨ ∃ l, own = [l] ∧ l.site = .find request ∧ Misses l)
  | .store r => r = request ∧ (e.after = e.before ∨ ∃ h l entry response, own = [h,l] ∧ h.site = .handle request ∧
      h.answer.throws = none ∧ h.answer.response = some response ∧ response ≠ .null ∧ request.entry = some entry ∧
      e.after = stored e.before entry response)

theorem guardedHandle {done : List CacheEvent → Except Exception (Option Json) → Prop}
    (before : own = [] ∧ request.entry = none ∨ ∃ l, own = [l] ∧ l.site = .find request ∧ Misses l)
    (completes : ∀ h : CacheEvent, h.site = .handle request → h.answer.throws = none → done (h :: own) (.ok h.answer.response))
    (throws : ∀ own error, done own (.error error)) : Guarded (Guard request) done (handle request) own := by
  refine guardedQuery fun thread reply w => ⟨⟨rfl,rfl,before⟩,?_⟩
  split
  · exact throws _ _
  · rename_i none
    exact completes ⟨thread,.handle request,reply,w,w⟩ rfl none

theorem guardedIntercept (request : Request) : Guarded (Guard request) anyOutcome (intercept request) [] := by
  unfold intercept
  split
  · rename_i plain
    exact guardedHandle (Or.inl ⟨rfl,plain⟩) (fun _ _ _ => trivial) fun _ _ => trivial
  · rename_i entry named
    refine guardedBind (guardedQuery fun thread reply w => ⟨⟨rfl,rfl,rfl⟩,?_⟩)
    split
    · rename_i cached out
      split at out
      · contradiction
      · rename_i returned
        cases out
        split
        · trivial
        · rename_i missed
          have misses : Misses ⟨thread,.find request,reply,w,w⟩ := by
            refine ⟨returned,fun entry' its => ?_⟩
            cases named.symm.trans its
            exact not_not.mp missed
          refine guardedBind (guardedHandle (Or.inr ⟨_,rfl,rfl,misses⟩) ?_ fun _ _ => trivial)
          intro h site completed
          refine guardedThen (guardedElse (guardedTransact ?_ fun _ _ _ _ _ => ⟨⟨rfl,Or.inl rfl⟩,trivial⟩) fun _ _ => trivial) fun _ _ => trivial
          intro thread reply w value after ok
          refine ⟨⟨rfl,Or.inr ?_⟩,trivial⟩
          split at ok
          · contradiction
          · contradiction
          · contradiction
          · rename_i response given _ found
            cases ok
            exact ⟨h,_,entry,response,rfl,site,completed,found,given,named,rfl⟩
    · trivial

end Guards

section Runs

/-- What holds at every point of a run that began at `start`. -/
structure Kept (start : Nat) (c : Snapshot Site Reply World) : Prop where
  started : start ≤ c.world.clock
  lasting : Lasting start c.world
  -- a cached response stays, and is that of a handler
  cached : ∀ e ∈ c.history, ∀ entry, cachedResponse e.after entry ≠ .null → ∃ response, Cached start c.world entry response
  ran : ∀ entry response, Cached start c.world entry response →
    ∃ h ∈ c.history, Ran h ∧ entryOf h = some entry ∧ h.answer.response = some response
  hit : ∀ e ∈ c.history, ∀ response ∈ responded e, Ran e ∨ ∃ h ∈ c.history, Ran h ∧ entryOf h = entryOf e ∧ responded h = some response
  -- a completed handler has missed, and its thread has not thrown
  missed : ∀ h ∈ c.history, Ran h → (entryOf h).isSome →
    (∃ l ∈ c.history, Misses l ∧ l.thread = h.thread ∧ entryOf l = entryOf h) ∧ ∀ e ∈ c.history, e.thread = h.thread → ¬ Threw e
  alone : ∀ l ∈ c.history, ∀ l' ∈ c.history, Misses l → Misses l' → entryOf l = entryOf l' → (entryOf l).isSome →
    (∀ e ∈ c.history, e.thread = l.thread → ¬ Threw e) → (∀ e ∈ c.history, e.thread = l'.thread → ¬ Threw e) → l.thread = l'.thread
  single : ∀ h ∈ c.history, ∀ h' ∈ c.history, Ran h → Ran h' → (entryOf h).isSome → entryOf h' = entryOf h → h' = h
  once : AllMeet Once c.history

variable {start : Nat} {c : Snapshot Site Reply World} {request : Request} {e : CacheEvent}

theorem quietStore {r : Request} (site : e.site = .store r) : ¬ Ran e ∧ ¬ Threw e ∧ ¬ Misses e ∧ responded e = none := by
  simp [Ran,Threw,Misses,responded,site]

theorem quietFind {r : Request} (site : e.site = .find r) : ¬ Ran e ∧ ¬ Threw e := by
  simp [Ran,Threw,site]

theorem ranResponded (ran : Ran e) : responded e = some e.answer.response := by
  unfold Ran at ran
  split at ran
  · rename_i site
    simp [responded,site,ran]
  · exact ran.elim

theorem hitCached {r : Request} (site : e.site = .find r) {response : Option Json} (answered : responded e = some response) :
    ∃ entry, entryOf e = some entry ∧ cachedResponse e.before entry ≠ .null ∧ response = some (cachedResponse e.before entry) := by
  simp only [responded,site] at answered
  cases thrown : e.answer.throws with
  | some error => simp [thrown] at answered
  | none =>
    cases named : entryOf e with
    | none => simp [thrown,named] at answered
    | some entry =>
      cases found : cachedResponse e.before entry with
      | null => simp [thrown,named,found] at answered
      | _ => exact ⟨entry,rfl,by simp [found],by simpa [thrown,named,found] using answered.symm⟩

/-- What a handler has answered under a key, every earlier call of the key has answered. -/
theorem keptAnswer (kept : Kept start c) {h : CacheEvent} (inside : h ∈ c.history) (ran : Ran h) (named : (entryOf h).isSome)
    {e' : CacheEvent} (earlier : e' ∈ c.history) (same : entryOf e' = entryOf h) {first : Option Json} (answered : responded e' = some first) :
    responded h = some first := by
  rcases kept.hit e' earlier first answered with ran' | ⟨h',inside',ran',same',answered'⟩
  · rw [← kept.single h inside e' earlier ran ran' named same]
    exact answered
  · rw [← kept.single h inside h' inside' ran ran' named (same'.trans same)]
    exact answered'

theorem keptFind {r : Request} {reply : Reply} {thread : Nat} (kept : Kept start c)
    (settled : Settled c.history (c.event thread (.find r) reply c.world)) (window : c.world.clock < start + IDEMPOTENCY_KEY_TTL_MS) :
    Kept start (c.record thread (.find r) reply c.world) := by
  have quiet : ¬ Ran (c.event thread (.find r) reply c.world) ∧ ¬ Threw (c.event thread (.find r) reply c.world) := quietFind rfl
  have answers : ∀ response ∈ responded (c.event thread (.find r) reply c.world),
      ∃ h ∈ c.history, Ran h ∧ entryOf h = entryOf (c.event thread (.find r) reply c.world) ∧ responded h = some response := by
    intro response answered
    obtain ⟨entry,named,found,rfl⟩ := hitCached rfl answered
    obtain ⟨h,inside,ran,its,same⟩ := kept.ran entry _ (cachedFound kept.lasting kept.started found)
    exact ⟨h,inside,ran,its.trans named.symm,by rw [ranResponded ran,same]; rfl⟩
  -- whoever has missed before has thrown, or the lookup would have found a response
  have others : ∀ l ∈ c.history, Misses (c.event thread (.find r) reply c.world) → Misses l →
      entryOf l = entryOf (c.event thread (.find r) reply c.world) → (entryOf l).isSome → ∃ e ∈ c.history, e.thread = l.thread ∧ Threw e := by
    intro l inside misses missed same named
    obtain ⟨e,there,thread',threw | found⟩ := settled misses l inside missed same
    · exact ⟨e,there,thread',threw⟩
    · obtain ⟨entry,its⟩ := Option.isSome_iff_exists.mp named
      have mine := same.symm.trans its
      obtain ⟨response,cached⟩ := kept.cached e there entry (found entry mine)
      have nothing : cachedResponse c.world entry = .null := misses.2 entry mine
      have ⟨_,_,_,_,given⟩ := cached
      exact absurd ((cachedResponded cached window).symm.trans nothing) given
  refine ⟨kept.started,kept.lasting,?_,?_,?_,?_,?_,?_,⟨?_,kept.once⟩⟩
  · intro e inside entry found
    rcases List.mem_cons.mp inside with rfl | earlier
    · exact ⟨_,cachedFound kept.lasting kept.started found⟩
    · exact kept.cached e earlier entry found
  · intro entry response cached
    obtain ⟨h,inside,rest⟩ := kept.ran entry response cached
    exact ⟨h,List.mem_cons_of_mem _ inside,rest⟩
  · intro e inside response answered
    rcases List.mem_cons.mp inside with rfl | earlier
    · obtain ⟨h,there,rest⟩ := answers response answered
      exact Or.inr ⟨h,List.mem_cons_of_mem _ there,rest⟩
    · rcases kept.hit e earlier response answered with ran | ⟨h,there,rest⟩
      · exact Or.inl ran
      · exact Or.inr ⟨h,List.mem_cons_of_mem _ there,rest⟩
  · intro h inside ran named
    rcases List.mem_cons.mp inside with rfl | earlier
    · exact absurd ran quiet.1
    · obtain ⟨⟨l,there,rest⟩,unthrown⟩ := kept.missed h earlier ran named
      refine ⟨⟨l,List.mem_cons_of_mem _ there,rest⟩,fun e inside same => ?_⟩
      rcases List.mem_cons.mp inside with rfl | before
      · exact quiet.2
      · exact unthrown e before same
  · intro l inside l' inside' misses misses' same named open' open''
    have older : ∀ e ∈ c.history, e.thread = l.thread → ¬ Threw e := fun e there => open' e (List.mem_cons_of_mem _ there)
    have older' : ∀ e ∈ c.history, e.thread = l'.thread → ¬ Threw e := fun e there => open'' e (List.mem_cons_of_mem _ there)
    rcases List.mem_cons.mp inside with rfl | earlier
    · rcases List.mem_cons.mp inside' with rfl | earlier'
      · rfl
      · obtain ⟨e,there,thread',threw⟩ := others l' earlier' misses misses' same.symm (same ▸ named)
        exact absurd threw (older' e there thread')
    · rcases List.mem_cons.mp inside' with rfl | earlier'
      · obtain ⟨e,there,thread',threw⟩ := others l earlier misses' misses same named
        exact absurd threw (older e there thread')
      · exact kept.alone l earlier l' earlier' misses misses' same named older older'
  · intro h inside h' inside' ran ran' named same
    rcases List.mem_cons.mp inside with rfl | earlier
    · exact absurd ran quiet.1
    · rcases List.mem_cons.mp inside' with rfl | earlier'
      · exact absurd ran' quiet.1
      · exact kept.single h earlier h' earlier' ran ran' named same
  · intro e' earlier named same _
    refine ⟨fun ran => absurd ran quiet.1,fun response answered first before => ?_⟩
    obtain ⟨h,inside,ran,its,here⟩ := answers response answered
    have agrees := keptAnswer kept inside ran (its ▸ named) earlier (same.trans its.symm) before
    exact Option.some.inj (here.symm.trans agrees)

theorem keptHandle {reply : Reply} {thread : Nat} (kept : Kept start c)
    (before : c.history.filter (fun e => e.thread = thread) = [] ∧ request.entry = none ∨
      ∃ l, c.history.filter (fun e => e.thread = thread) = [l] ∧ l.site = .find request ∧ Misses l) :
    Kept start (c.record thread (.handle request) reply c.world) := by
  have notMisses : ¬ Misses (c.event thread (.handle request) reply c.world) := fun misses => misses
  have own : ∀ e ∈ c.history, e.thread = thread → request.entry.isSome → ¬ Ran e ∧ ¬ Threw e := by
    intro e inside mine named
    have there : e ∈ c.history.filter fun e => e.thread = thread := List.mem_filter.mpr ⟨inside,decide_eq_true mine⟩
    rcases before with ⟨_,unnamed⟩ | ⟨l,alone,site,_⟩
    · simp [unnamed] at named
    · rw [alone,List.mem_singleton] at there
      subst there
      exact quietFind site
  have missed : request.entry.isSome → ∃ l ∈ c.history, Misses l ∧ l.thread = thread ∧ entryOf l = request.entry := by
    intro named
    rcases before with ⟨_,unnamed⟩ | ⟨l,alone,site,misses⟩
    · simp [unnamed] at named
    · have there : l ∈ c.history.filter fun e => e.thread = thread := alone ▸ List.mem_singleton_self l
      obtain ⟨inside,mine⟩ := List.mem_filter.mp there
      exact ⟨l,inside,misses,of_decide_eq_true mine,by simp [entryOf,site,Site.request]⟩
  -- nobody else has completed the handler of this key: he would have missed, too
  have first : ∀ h ∈ c.history, Ran h → entryOf h = request.entry → request.entry.isSome → False := by
    intro h inside ran same named
    obtain ⟨⟨l,there,misses,thread',entry⟩,unthrown⟩ := kept.missed h inside ran (same ▸ named)
    obtain ⟨l',there',misses',thread'',entry'⟩ := missed named
    have together : l.thread = l'.thread := by
      refine kept.alone l there l' there' misses misses' ?_ ?_ ?_ ?_
      · exact (entry.trans same).trans entry'.symm
      · exact (entry.trans same) ▸ named
      · exact fun e inside same => unthrown e inside (same.trans thread')
      · exact fun e inside same => (own e inside (same.trans thread'') named).2
    exact (own h inside (thread'.symm.trans (together.trans thread'')) named).1 ran
  refine ⟨kept.started,kept.lasting,?_,?_,?_,?_,?_,?_,⟨?_,kept.once⟩⟩
  · intro e inside entry found
    rcases List.mem_cons.mp inside with rfl | earlier
    · exact ⟨_,cachedFound kept.lasting kept.started found⟩
    · exact kept.cached e earlier entry found
  · intro entry response cached
    obtain ⟨h,inside,rest⟩ := kept.ran entry response cached
    exact ⟨h,List.mem_cons_of_mem _ inside,rest⟩
  · intro e inside response answered
    rcases List.mem_cons.mp inside with rfl | earlier
    · refine Or.inl (by_contra fun thrown => ?_)
      have nothing : responded (c.event thread (.handle request) reply c.world) = none := if_neg thrown
      rw [nothing] at answered
      cases answered
    · rcases kept.hit e earlier response answered with ran | ⟨h,there,rest⟩
      · exact Or.inl ran
      · exact Or.inr ⟨h,List.mem_cons_of_mem _ there,rest⟩
  · intro h inside ran named
    rcases List.mem_cons.mp inside with rfl | earlier
    · obtain ⟨l,there,rest⟩ := missed named
      refine ⟨⟨l,List.mem_cons_of_mem _ there,rest⟩,fun e inside same => ?_⟩
      rcases List.mem_cons.mp inside with rfl | before
      · exact fun threw => threw ran
      · exact (own e before same named).2
    · obtain ⟨⟨l,there,rest⟩,unthrown⟩ := kept.missed h earlier ran named
      refine ⟨⟨l,List.mem_cons_of_mem _ there,rest⟩,fun e inside same => ?_⟩
      rcases List.mem_cons.mp inside with rfl | before
      · intro threw
        -- the thread of `h` has missed once, so this is not the same thread
        rcases before with ⟨none,_⟩ | ⟨l',alone,site,_⟩
        · exact List.filter_eq_nil_iff.mp none h earlier (decide_eq_true same.symm)
        · have mine : h ∈ c.history.filter fun e => e.thread = thread := List.mem_filter.mpr ⟨earlier,decide_eq_true same.symm⟩
          rw [alone,List.mem_singleton] at mine
          subst mine
          exact (quietFind site).1 ran
      · exact unthrown e before same
  · intro l inside l' inside' misses misses' same named open' open''
    rcases List.mem_cons.mp inside with rfl | earlier
    · exact absurd misses notMisses
    · rcases List.mem_cons.mp inside' with rfl | earlier'
      · exact absurd misses' notMisses
      · exact kept.alone l earlier l' earlier' misses misses' same named (fun e there => open' e (List.mem_cons_of_mem _ there))
          fun e there => open'' e (List.mem_cons_of_mem _ there)
  · intro h inside h' inside' ran ran' named same
    rcases List.mem_cons.mp inside with rfl | earlier
    · rcases List.mem_cons.mp inside' with rfl | earlier'
      · rfl
      · exact (first h' earlier' ran' same named).elim
    · rcases List.mem_cons.mp inside' with rfl | earlier'
      · have mine : entryOf h = request.entry := same.symm
        exact (first h earlier ran mine (mine ▸ named)).elim
      · exact kept.single h earlier h' earlier' ran ran' named same
  · intro e' earlier named same _
    refine ⟨fun _ ran' => first e' earlier ran' same named,fun response answered response' before => ?_⟩
    rcases kept.hit e' earlier response' before with ran | ⟨h,inside,ran,its,_⟩
    · exact (first e' earlier ran same named).elim
    · exact (first h inside ran (its.trans same) named).elim

theorem keptStore {r : Request} {reply : Reply} {thread : Nat} {w' : World} (kept : Kept start c)
    (world : w' = c.world ∨ ∃ h ∈ c.history, ∃ entry response, Ran h ∧ entryOf h = some entry ∧ h.answer.response = some response ∧
      response ≠ .null ∧ w' = stored c.world entry response) : Kept start (c.record thread (.store r) reply w') := by
  obtain ⟨notRan,notThrew,notMisses,silent⟩ := quietStore (e := c.event thread (.store r) reply w') rfl
  have after : start ≤ w'.clock ∧ Lasting start w' ∧
      (∀ entry response, Cached start c.world entry response → ∃ response, Cached start w' entry response) ∧
      ∀ entry response, Cached start w' entry response →
        ∃ h ∈ c.history, Ran h ∧ entryOf h = some entry ∧ h.answer.response = some response := by
    rcases world with rfl | ⟨h,inside,entry,response,ran,named,its,given,rfl⟩
    · exact ⟨kept.started,kept.lasting,fun _ response cached => ⟨response,cached⟩,kept.ran⟩
    · refine ⟨kept.started,lastingStored kept.lasting kept.started given,fun other answer cached => ?_,fun other answer cached => ?_⟩
      · by_cases same : other = entry
        · exact same ▸ ⟨response,cachedStored kept.started given⟩
        · exact ⟨answer,(cachedElsewhere same).mpr cached⟩
      · by_cases same : other = entry
        · subst same
          rw [cachedUnique cached (cachedStored kept.started given)]
          exact ⟨h,inside,ran,named,its⟩
        · exact kept.ran other answer ((cachedElsewhere same).mp cached)
  obtain ⟨started,lasting,stays,ran⟩ := after
  refine ⟨started,lasting,?_,?_,?_,?_,?_,?_,⟨?_,kept.once⟩⟩
  · intro e inside entry found
    rcases List.mem_cons.mp inside with rfl | earlier
    · exact ⟨_,cachedFound lasting started found⟩
    · obtain ⟨response,cached⟩ := kept.cached e earlier entry found
      exact stays entry response cached
  · intro entry response cached
    obtain ⟨h,inside,rest⟩ := ran entry response cached
    exact ⟨h,List.mem_cons_of_mem _ inside,rest⟩
  · intro e inside response answered
    rcases List.mem_cons.mp inside with rfl | earlier
    · rw [silent] at answered
      cases answered
    · rcases kept.hit e earlier response answered with ran | ⟨h,there,rest⟩
      · exact Or.inl ran
      · exact Or.inr ⟨h,List.mem_cons_of_mem _ there,rest⟩
  · intro h inside ran named
    rcases List.mem_cons.mp inside with rfl | earlier
    · exact absurd ran notRan
    · obtain ⟨⟨l,there,rest⟩,unthrown⟩ := kept.missed h earlier ran named
      refine ⟨⟨l,List.mem_cons_of_mem _ there,rest⟩,fun e inside same => ?_⟩
      rcases List.mem_cons.mp inside with rfl | before
      · exact notThrew
      · exact unthrown e before same
  · intro l inside l' inside' misses misses' same named open' open''
    rcases List.mem_cons.mp inside with rfl | earlier
    · exact absurd misses notMisses
    · rcases List.mem_cons.mp inside' with rfl | earlier'
      · exact absurd misses' notMisses
      · exact kept.alone l earlier l' earlier' misses misses' same named (fun e there => open' e (List.mem_cons_of_mem _ there))
          fun e there => open'' e (List.mem_cons_of_mem _ there)
  · intro h inside h' inside' ran ran' named same
    rcases List.mem_cons.mp inside with rfl | earlier
    · exact absurd ran notRan
    · rcases List.mem_cons.mp inside' with rfl | earlier'
      · exact absurd ran' notRan
      · exact kept.single h earlier h' earlier' ran ran' named same
  · intro e' earlier named same _
    refine ⟨fun ran => absurd ran notRan,fun response answered => ?_⟩
    rw [silent] at answered
    cases answered

theorem keptRecord {thread : Nat} {site : Site} {reply : Reply} {w' : World} (kept : Kept start c)
    (guard : Guard request (c.history.filter fun e => e.thread = thread) (c.event thread site reply w'))
    (settled : Settled c.history (c.event thread site reply w')) (window : c.world.clock < start + IDEMPOTENCY_KEY_TTL_MS) :
    Kept start (c.record thread site reply w') := by
  cases site with
  | find r =>
    obtain ⟨_,_,same⟩ := guard
    cases (show w' = c.world from same)
    exact keptFind kept settled window
  | handle r =>
    obtain ⟨mine,same,before⟩ := guard
    cases (show r = request from mine)
    cases (show w' = c.world from same)
    exact keptHandle kept before
  | store r =>
    refine keptStore kept ?_
    obtain ⟨_,same | ⟨h,l,entry,response,own,site,completed,given,some',named,after⟩⟩ := guard
    · exact Or.inl same
    · have there : h ∈ c.history.filter fun e => e.thread = thread := own ▸ List.mem_cons_self
      refine Or.inr ⟨h,(List.mem_filter.mp there).1,entry,response,?_,?_,given,some',after⟩
      · simpa [Ran,site] using completed
      · simpa [entryOf,site,Site.request] using named

theorem settledWithin {pool : Pool Request Site Reply World Exception (Option Json)} {bound : Nat} (settled : AllMeet Settled pool.history)
    (window : ∀ e ∈ pool.history, e.before.clock < bound) :
    Meets (fun _ earlier e => Settled earlier e ∧ e.before.clock < bound) pool :=
  meetsMono (fun _ _ its _ _ => its) (meetsBoth settled (meetsEach window))

theorem keptRun {sys : System Request Nat Site Reply World Exception (Option Json)} (its : sys = service)
    {pool : Pool Request Site Reply World Exception (Option Json)} (guarded : GuardedPool Guard (Kept start) pool) (moves : List CacheMove)
    (meets : Meets (fun _ earlier e => Settled earlier e ∧ e.before.clock < start + IDEMPOTENCY_KEY_TTL_MS) (sys.run pool moves)) :
    GuardedPool Guard (Kept start) (sys.run pool moves) := by
  have handles : ∀ request, Guarded (Guard request) anyOutcome (sys.handler request) [] := its ▸ guardedIntercept
  refine guardedRun ?_ ?_ handles guarded moves meets
  · exact fun request c thread site reply w' kept guard its => keptRecord kept guard its.1 its.2
  · intro elapsed c kept
    rw [its]
    exact ⟨kept.started.trans (Nat.le_add_right _ _),kept.lasting,kept.cached,kept.ran,kept.hit,kept.missed,kept.alone,kept.single,
      kept.once⟩

/-- In a run of less than a day in which a lookup misses only when all who have missed
before have thrown or stored their response, each key's handler completes once. -/
theorem handlerOnce (w : World) (expired : ∀ row ∈ w.keys.rows, row.expiresAt ≤ w.clock) (moves : List CacheMove)
    (window : ∀ e ∈ (service.run (Pool.initial w) moves).history, e.before.clock < w.clock + IDEMPOTENCY_KEY_TTL_MS)
    (settled : AllMeet Settled (service.run (Pool.initial w) moves).history) :
    ∀ earlier e, e :: earlier <:+ (service.run (Pool.initial w) moves).history → Once earlier e := by
  have begun : Kept w.clock ⟨w,[]⟩ := by
    refine ⟨le_refl _,fun entry row there => Or.inl (expired row (Table.getMem there)),fun _ inside => (List.not_mem_nil inside).elim,?_,
      fun _ inside => (List.not_mem_nil inside).elim,fun _ inside => (List.not_mem_nil inside).elim,
      fun _ inside => (List.not_mem_nil inside).elim,fun _ inside => (List.not_mem_nil inside).elim,trivial⟩
    intro entry response cached
    obtain ⟨row,there,lasts,_⟩ := cached
    have old := expired row (Table.getMem there)
    have positive : 0 < IDEMPOTENCY_KEY_TTL_MS := by decide
    omega
  have start : GuardedPool Guard (Kept w.clock) (Pool.initial w : Pool Request Site Reply World Exception (Option Json)) :=
    guardedInitial begun
  exact meetsIff.mp (keptRun rfl start moves (settledWithin settled window)).holds.once

def payment : Request := { route := "POST /milestones/bulk", idempotencyKey := some "k", userId := some "u" }

/-- The handler throws, completes, and the response is sent again. -/
def retried : List CacheMove :=
  [.start payment,.answer 0 {},.answer 0 { throws := some .database },.start payment,.answer 1 {},
    .answer 1 { response := some (.text "created") },.answer 1 {},.environment 1000,.start payment,.answer 2 {}]

theorem handlerOnceRetried :
    (∀ earlier e, e :: earlier <:+ (service.run (Pool.initial {}) retried).history → Once earlier e) ∧
    (service.run (Pool.initial {}) retried).history.filterMap responded = [some (.text "created"),some (.text "created")] :=
  ⟨handlerOnce {} nofun retried (by decide +kernel) (by decide +kernel),by decide +kernel⟩

/-- Two requests look before either has stored its response. -/
def overlapping : List CacheMove :=
  [.start payment,.start payment,.answer 0 {},.answer 1 {},.answer 0 { response := some (.text "created") },.answer 0 {},
    .answer 1 { response := some (.text "again") }]

/-- The handler returns `null`. -/
def returnsNull : List CacheMove :=
  [.start payment,.answer 0 {},.answer 0 { response := some .null },.answer 0 {},.start payment,.answer 1 {},
    .answer 1 { response := some .null }]

theorem handlerTwice :
    (¬ ∀ earlier e, e :: earlier <:+ (service.run (Pool.initial {}) overlapping).history → Once earlier e) ∧
    ¬ ∀ earlier e, e :: earlier <:+ (service.run (Pool.initial {}) returnsNull).history → Once earlier e := by
  rw [← meetsIff,← meetsIff]
  decide +kernel

end Runs

end HireSettle.Idempotency
