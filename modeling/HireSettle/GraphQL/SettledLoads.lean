import HireSettle.GraphQL.BatchLoader

/-! Over every run of a loader and whatever the batch function answers, each promise is
settled once, each load is in one request, and a load that failed is requested again. -/
namespace HireSettle.GraphQL

variable {K V E : Type}

namespace BatchLoader

def outcome : V ⊕ E → Settlement V E
  | .inl value => .resolved value
  | .inr error => .rejected (.given error)

/-- What each load of a batch ends with, by the answer of the batch function. -/
def given (batch : List (PendingLoad K)) : Except E (List (V ⊕ E)) → List (Settlement V E)
  | .error error => batch.map fun _ => .rejected (.given error)
  | .ok values =>
      if values.length ≠ batch.length then
        batch.map fun _ => .rejected (.typeError s!"BatchLoader batch function returned {values.length} values for {batch.length} keys")
      else values.map outcome

theorem sliced (size : Nat) (pending : List (PendingLoad K)) (count first : Nat) :
    ((List.range' first count size).map fun i => (pending.drop i).take size).flatten =
      (pending.drop first).take (count * size) := by
  induction count generalizing first with
  | zero => simp
  | succ count ih =>
      rw [List.range'_succ,List.map_cons,List.flatten_cons,ih,Nat.succ_mul,Nat.add_comm (count * size),
        List.take_add,List.drop_drop]

theorem slicesJoined {size : Nat} {pending : List (PendingLoad K)} (large : pending = [] ∨ 0 < size) :
    (slices size pending).flatten = pending := by
  rw [slices,sliced]
  obtain rfl | positive := large
  · simp
  · have enough : pending.length ≤ (pending.length + size - 1) / size * size := by
      have := Nat.lt_div_mul_add (a := pending.length + size - 1) positive
      omega
    simp [List.take_of_length_le enough]

theorem slicesShort {size : Nat} {pending batch : List (PendingLoad K)} (mem : batch ∈ slices size pending) :
    batch.length ≤ size := by
  obtain ⟨i,_,rfl⟩ := List.mem_map.mp mem
  exact List.length_take_le _ _

theorem batchSizePositive (maxBatchSize : Option Int) (pending : List (PendingLoad K)) :
    pending = [] ∨ 0 < batchSize maxBatchSize pending := by
  cases pending with
  | nil => exact .inl rfl
  | cons item rest =>
      refine .inr ?_
      unfold batchSize
      split
      · split
        · omega
        · simp
      · simp

/-- The requests that one dispatch adds are all under way. -/
theorem numbered (sent added : List (List (PendingLoad K))) :
    ((List.range' sent.length added.length).flatMap fun request => (sent ++ added)[request]?.getD []) = added.flatten := by
  induction added generalizing sent with
  | nil => rfl
  | cons batch added ih =>
    have later := ih (sent ++ [batch])
    rw [List.length_append,List.length_singleton,List.append_assoc] at later
    rw [List.length_cons,List.range'_succ,List.flatMap_cons,List.flatten_cons]
    simpa using later

theorem givenLength (batch : List (PendingLoad K)) (answer : Except E (List (V ⊕ E))) : (given batch answer).length = batch.length := by
  unfold given
  split
  · exact List.length_map _
  · split
    · exact List.length_map _
    · rename_i same
      rw [List.length_map]
      exact not_not.mp same

/-- What the loads of a batch end with when its request is answered. -/
def gives (batchLoadFn : Nat → List K → Except E (List (V ⊕ E))) (request : Nat) (batch : List (PendingLoad K)) :
    List (PendingLoad K × Settlement V E) :=
  batch.zip (given batch (batchLoadFn request (batch.map (·.key))))

theorem givesItems (batchLoadFn : Nat → List K → Except E (List (V ⊕ E))) (request : Nat) (batch : List (PendingLoad K)) :
    (gives batchLoadFn request batch).map Prod.fst = batch :=
  List.map_fst_zip (givenLength _ _).ge

section Invariant

variable (batchLoadFn : Nat → List K → Except E (List (V ⊕ E))) (primed : K → V → Nat → Prop) (maxBatchSize : Option Int)

/-- Where the load of a promise stands: it waits, or it was sent and is settled with
what its request gave it, or its value came from `prime`. -/
inductive Stands (loader : BatchLoader K V E) (key : K) (promise : Nat) : Prop where
  | queued (inside : ⟨key,promise⟩ ∈ loader.queue)
  | requested (request : Nat) (batch : List (PendingLoad K)) (sent : loader.requests[request]? = some batch)
      (inside : ⟨key,promise⟩ ∈ batch)
      (settled : request ∈ loader.running ∨
        ∃ settlement, (⟨key,promise⟩,settlement) ∈ gives batchLoadFn request batch ∧ (promise,settlement) ∈ loader.settlements)
  | primed (value : V) (given : primed key value promise) (settled : (promise,.resolved value) ∈ loader.settlements)

/-- The promises that are settled, those of the requests under way, and those that wait. -/
def promised (loader : BatchLoader K V E) : List Nat :=
  loader.settlements.map (·.1) ++
    ((loader.running.flatMap fun request => loader.requests[request]?.getD []) ++ loader.queue).map (·.promise)

structure Inv (loader : BatchLoader K V E) : Prop where
  size : loader.maxBatchSize = maxBatchSize
  scheduled : loader.dispatches = if loader.queue = [] then 0 else 1
  ordered : ((loader.requests.flatten ++ loader.queue).map (·.promise)).Pairwise (· < ·)
  issued : ∀ item ∈ loader.requests.flatten ++ loader.queue, item.promise < loader.promises
  once : (promised loader).Perm (List.range loader.promises)
  sent : ∀ request ∈ loader.running, request < loader.requests.length
  cached : ∀ key promise, loader.cache key = some promise → Stands batchLoadFn primed loader key promise
  short : ∀ size : Nat, maxBatchSize = some (size : Int) → 0 < size → ∀ batch ∈ loader.requests, batch.length ≤ size

variable {batchLoadFn primed maxBatchSize} {loader : BatchLoader K V E} {key : K} {promise : Nat}

theorem invStart (maxBatchSize : Option Int) : Inv batchLoadFn primed maxBatchSize ({ maxBatchSize } : BatchLoader K V E) :=
  ⟨rfl,rfl,by simp,by simp,by simp [promised],by simp,by simp,by simp⟩

theorem standsMore {more : K → V → Nat → Prop} (grows : ∀ key value promise, primed key value promise → more key value promise)
    (stands : Stands batchLoadFn primed loader key promise) : Stands batchLoadFn more loader key promise := by
  cases stands with
  | queued inside => exact .queued inside
  | requested request batch sent inside settled => exact .requested request batch sent inside settled
  | primed value given settled => exact .primed value (grows _ _ _ given) settled

theorem invMore {more : K → V → Nat → Prop} (grows : ∀ key value promise, primed key value promise → more key value promise)
    (inv : Inv batchLoadFn primed maxBatchSize loader) : Inv batchLoadFn more maxBatchSize loader :=
  { inv with cached := fun key promise held => standsMore grows (inv.cached key promise held) }

theorem standsSettled {more : List (Nat × Settlement V E)} (stands : Stands batchLoadFn primed loader key promise) (cache : K → Option Nat) (promises : Nat) :
    Stands batchLoadFn primed { loader with cache := cache, settlements := loader.settlements ++ more, promises := promises } key promise := by
  cases stands with
  | queued inside => exact .queued inside
  | requested request batch sent inside settled =>
    exact .requested request batch sent inside (settled.imp_right fun ⟨settlement,its,there⟩ => ⟨settlement,its,List.mem_append_left _ there⟩)
  | primed value given settled => exact .primed value given (List.mem_append_left _ settled)

theorem standsDispatch (stands : Stands batchLoadFn primed loader key promise) : Stands batchLoadFn primed loader.dispatch key promise := by
  cases stands with
  | queued inside =>
    rw [← slicesJoined (batchSizePositive loader.maxBatchSize loader.queue)] at inside
    obtain ⟨batch,mem,there⟩ := List.mem_flatten.mp inside
    obtain ⟨place,bound,same⟩ := List.getElem_of_mem mem
    refine .requested (loader.requests.length + place) batch ?_ there (.inl (List.mem_append_right _ ?_))
    · rw [dispatch,List.getElem?_append_right (Nat.le_add_right _ _),Nat.add_sub_cancel_left,List.getElem?_eq_getElem bound,same]
    · exact List.mem_range'_1.mpr ⟨Nat.le_add_right _ _,Nat.add_lt_add_left bound _⟩
  | requested request batch sent inside settled =>
    refine .requested request batch ?_ inside (settled.imp_left fun running => List.mem_append_left _ running)
    exact (List.getElem?_append_left (List.getElem?_eq_some_iff.mp sent).1).trans sent
  | primed value given settled => exact .primed value given settled

theorem invDispatch (inv : Inv batchLoadFn primed maxBatchSize loader) : Inv batchLoadFn primed maxBatchSize loader.dispatch := by
  have joined := slicesJoined (batchSizePositive loader.maxBatchSize loader.queue)
  refine ⟨inv.size,?_,?_,?_,?_,?_,fun key promise held => standsDispatch (inv.cached key promise held),?_⟩
  · have before := inv.scheduled
    simp only [dispatch,if_true]
    split at before <;> omega
  · simpa [dispatch,joined] using inv.ordered
  · simpa [dispatch,joined] using inv.issued
  · have older : (loader.running.flatMap fun request =>
        (loader.requests ++ slices (batchSize loader.maxBatchSize loader.queue) loader.queue)[request]?.getD []) =
        loader.running.flatMap fun request => loader.requests[request]?.getD [] :=
      List.flatMap_congr fun request running => by rw [List.getElem?_append_left (inv.sent request running)]
    have once := inv.once
    simpa [promised,dispatch,List.flatMap_append,older,numbered,joined] using once
  · intro request running
    rw [dispatch] at running ⊢
    rw [List.length_append]
    rcases List.mem_append.mp running with before | added
    · exact Nat.lt_add_right _ (inv.sent request before)
    · exact (List.mem_range'_1.mp added).2
  · intro size same positive batch inside
    rcases List.mem_append.mp inside with before | added
    · exact inv.short size same positive batch before
    · have sliced := slicesShort added
      have same : loader.maxBatchSize = some (size : Int) := inv.size.trans same
      simpa [batchSize,same,positive] using sliced

theorem standsSettle {request : Nat} {batch : List (PendingLoad K)} (sent : loader.requests[request]? = some batch)
    (stands : Stands batchLoadFn primed loader key promise) (cache : K → Option Nat) :
    Stands batchLoadFn primed { loader with
      running := loader.running.erase request
      cache := cache
      settlements := loader.settlements ++ (gives batchLoadFn request batch).map fun item => (item.1.promise,item.2) } key promise := by
  cases stands with
  | queued inside => exact .queued inside
  | requested other others sent' inside settled =>
    refine .requested other others sent' inside ?_
    by_cases same : other = request
    · subst same
      cases sent.symm.trans sent'
      rw [← givesItems batchLoadFn other batch] at inside
      obtain ⟨⟨item,settlement⟩,its,rfl⟩ := List.mem_map.mp inside
      exact .inr ⟨settlement,its,List.mem_append_right _ (List.mem_map.mpr ⟨_,its,rfl⟩)⟩
    · exact settled.imp (fun running => (List.mem_erase_of_ne same).mpr running)
        fun ⟨settlement,its,there⟩ => ⟨settlement,its,List.mem_append_left _ there⟩
  | primed value given settled => exact .primed value given (List.mem_append_left _ settled)

theorem invSettle (inv : Inv batchLoadFn primed maxBatchSize loader) {request : Nat} {batch : List (PendingLoad K)}
    (sent : loader.requests[request]? = some batch) (running : request ∈ loader.running) {cache : K → Option Nat}
    (fewer : ∀ key promise, cache key = some promise → loader.cache key = some promise) :
    Inv batchLoadFn primed maxBatchSize { loader with
      running := loader.running.erase request
      cache := cache
      settlements := loader.settlements ++ (gives batchLoadFn request batch).map fun item => (item.1.promise,item.2) } := by
  refine ⟨inv.size,inv.scheduled,inv.ordered,inv.issued,?_,fun other there => inv.sent other (List.mem_of_mem_erase there),
    fun other promise held => standsSettle sent (inv.cached other promise (fewer other promise held)) cache,inv.short⟩
  have moved := (List.perm_cons_erase running).flatMap_right fun request => loader.requests[request]?.getD []
  rw [List.flatMap_cons,sent,Option.getD_some] at moved
  have once := inv.once
  unfold promised at once
  have same := (((moved.append_right loader.queue).map (·.promise)).append_left (loader.settlements.map (·.1))).symm.trans once
  have promises : (gives batchLoadFn request batch).map (fun item => item.1.promise) = batch.map (·.promise) := by
    rw [← givesItems batchLoadFn request batch,List.map_map,givesItems]
    rfl
  simpa [promised,Function.comp_def,promises] using same

theorem standsCache (stands : Stands batchLoadFn primed loader key promise) (cache : K → Option Nat) :
    Stands batchLoadFn primed { loader with cache := cache } key promise := by
  cases stands with
  | queued inside => exact .queued inside
  | requested request batch sent inside settled => exact .requested request batch sent inside settled
  | primed value given settled => exact .primed value given settled

theorem invCache {cache : K → Option Nat} (fewer : ∀ key promise, cache key = some promise → loader.cache key = some promise)
    (inv : Inv batchLoadFn primed maxBatchSize loader) : Inv batchLoadFn primed maxBatchSize { loader with cache := cache } :=
  ⟨inv.size,inv.scheduled,inv.ordered,inv.issued,inv.once,inv.sent,
    fun key promise held => standsCache (inv.cached key promise (fewer key promise held)) cache,inv.short⟩

theorem settledSame (once : (loader.settlements.map (·.1)).Nodup) {first second : Settlement V E}
    (here : (promise,first) ∈ loader.settlements) (there : (promise,second) ∈ loader.settlements) : first = second :=
  congrArg Prod.snd (List.inj_on_of_nodup_map once here there rfl)

variable [DecidableEq K]

/-- One load ends. -/
def settleGiven (loader : BatchLoader K V E) : PendingLoad K × Settlement V E → BatchLoader K V E
  | (item,.rejected error) => loader.reject item error
  | (item,.resolved value) => { loader with settlements := loader.settlements ++ [(item.promise,.resolved value)] }

theorem rejectEach (batch : List (PendingLoad K)) (error : LoadError E) (loader : BatchLoader K V E) :
    batch.foldl (fun loader item => loader.reject item error) loader =
      (batch.zip (batch.map fun _ => (.rejected error : Settlement V E))).foldl settleGiven loader := by
  induction batch generalizing loader with
  | nil => rfl
  | cons item batch ih => exact ih (loader.reject item error)

theorem settleEach (batch : List (PendingLoad K)) (values : List (V ⊕ E)) (loader : BatchLoader K V E) :
    (batch.zip values).foldl settleItem loader = (batch.zip (values.map outcome)).foldl settleGiven loader := by
  induction batch generalizing values loader with
  | nil => rfl
  | cons item batch ih =>
    cases values with
    | nil => rfl
    | cons value values =>
      cases value with
      | inl value => exact ih values _
      | inr error => exact ih values _

theorem runBatchGiven (batch : List (PendingLoad K)) (answer : Except E (List (V ⊕ E))) (loader : BatchLoader K V E) :
    runBatch loader batch answer = (batch.zip (given batch answer)).foldl settleGiven loader := by
  unfold runBatch given
  cases answer with
  | error error => exact rejectEach batch (.given error) loader
  | ok values =>
    dsimp only
    split
    · exact rejectEach batch _ loader
    · exact settleEach batch values loader

theorem settledEach (items : List (PendingLoad K × Settlement V E)) (loader : BatchLoader K V E) :
    ∃ cache, items.foldl settleGiven loader = { loader with
        cache := cache
        settlements := loader.settlements ++ items.map fun item => (item.1.promise,item.2) } ∧
      (∀ key promise, cache key = some promise → loader.cache key = some promise) ∧
      ∀ item error, (item,.rejected error) ∈ items → cache item.key = none := by
  induction items generalizing loader with
  | nil => exact ⟨loader.cache,by simp,by simp,by simp⟩
  | cons item items ih =>
      obtain ⟨cache,same,kept,emptied⟩ := ih (settleGiven loader item)
      obtain ⟨pending,settlement⟩ := item
      refine ⟨cache,?_,?_,?_⟩
      · rw [List.foldl_cons,same]
        cases settlement <;> simp [settleGiven,reject]
      · intro key promise held
        have before := kept key promise held
        cases settlement with
        | resolved value => exact before
        | rejected error =>
          simp only [settleGiven,reject,Function.update_apply] at before
          split at before
          · cases before
          · exact before
      · intro item error inside
        rcases List.mem_cons.mp inside with first | later
        · cases first
          cases held : cache pending.key with
          | none => rfl
          | some promise => simpa [settleGiven,reject] using kept _ _ held
        · exact emptied item error later

theorem standsLoad (other : K) (stands : Stands batchLoadFn primed loader key promise) :
    Stands batchLoadFn primed (loader.load other).2 key promise := by
  unfold load
  cases loader.cache other with
  | some cached => exact stands
  | none =>
    cases stands with
    | queued inside => exact .queued (List.mem_append_left _ inside)
    | requested request batch sent inside settled => exact .requested request batch sent inside settled
    | primed value given settled => exact .primed value given settled

theorem loadStands (inv : Inv batchLoadFn primed maxBatchSize loader) (key : K) : Stands batchLoadFn primed (loader.load key).2 key (loader.load key).1 := by
  unfold load
  cases held : loader.cache key with
  | some cached => exact inv.cached key cached held
  | none => exact .queued (by simp)

theorem invLoad (inv : Inv batchLoadFn primed maxBatchSize loader) (key : K) : Inv batchLoadFn primed maxBatchSize (loader.load key).2 := by
  have stands := fun other promise held => standsLoad key (inv.cached other promise held)
  have own := loadStands inv key
  revert stands own
  unfold load
  cases held : loader.cache key with
  | some cached => exact fun _ _ => inv
  | none =>
    intro stands own
    refine ⟨inv.size,?_,?_,?_,?_,inv.sent,?_,inv.short⟩
    · have before := inv.scheduled
      cases waiting : loader.queue <;> simp_all
    · simp only [← List.append_assoc,List.map_append,List.map_cons,List.map_nil]
      rw [← List.map_append]
      refine List.pairwise_append.mpr ⟨inv.ordered,List.pairwise_singleton _ _,fun a inside b last => ?_⟩
      obtain ⟨item,there,rfl⟩ := List.mem_map.mp inside
      rw [List.mem_singleton.mp last]
      exact inv.issued item there
    · intro item inside
      rw [← List.append_assoc,List.mem_append,List.mem_singleton] at inside
      rcases inside with before | rfl
      · exact Nat.lt_succ_of_lt (inv.issued item before)
      · exact Nat.lt_succ_self _
    · have last := inv.once.append_right [loader.promises]
      simpa [promised,List.range_succ] using last
    · intro other promise there
      dsimp only at there stands own
      rw [Function.update_apply] at there
      split at there
      · rename_i same
        cases there
        exact same ▸ own
      · exact stands other promise there

theorem invLoadMany (keys : List K) (inv : Inv batchLoadFn primed maxBatchSize loader) : Inv batchLoadFn primed maxBatchSize (loadMany keys loader).2 := by
  induction keys generalizing loader with
  | nil => exact inv
  | cons key keys ih => exact ih (invLoad inv key)

theorem standsLoadMany (keys : List K) (stands : Stands batchLoadFn primed loader key promise) :
    Stands batchLoadFn primed (loadMany keys loader).2 key promise := by
  induction keys generalizing loader with
  | nil => exact stands
  | cons other keys ih => exact ih (standsLoad other stands)

theorem loadManyStands (keys : List K) (inv : Inv batchLoadFn primed maxBatchSize loader) (given : (key,promise) ∈ keys.zip (loadMany keys loader).1) :
    Stands batchLoadFn primed (loadMany keys loader).2 key promise := by
  induction keys generalizing loader with
  | nil => cases given
  | cons other keys ih =>
    rcases List.mem_cons.mp given with first | later
    · cases first
      exact standsLoadMany keys (loadStands inv _)
    · exact ih (invLoad inv other) later

theorem invPrime (inv : Inv batchLoadFn primed maxBatchSize loader) {value : V} (given : loader.cache key = none → primed key value loader.promises) :
    Inv batchLoadFn primed maxBatchSize (loader.prime key value) := by
  unfold prime
  split
  · exact inv
  · rename_i absent
    have free : loader.cache key = none := by simpa using absent
    refine ⟨inv.size,inv.scheduled,inv.ordered,fun item inside => Nat.lt_succ_of_lt (inv.issued item inside),?_,inv.sent,?_,inv.short⟩
    · have added := (List.perm_append_singleton loader.promises (promised loader)).symm.trans (inv.once.append_right [loader.promises])
      simpa [promised,List.range_succ] using List.perm_middle.trans added
    · intro other promise there
      dsimp only at there
      rw [Function.update_apply] at there
      split at there
      · rename_i same
        subst same
        cases there
        exact .primed value (given free) (by simp)
      · exact standsSettled (inv.cached other promise there) _ _

theorem standsPrime (other : K) (value : V) (stands : Stands batchLoadFn primed loader key promise) :
    Stands batchLoadFn primed (loader.prime other value) key promise := by
  unfold prime
  split
  · exact stands
  · exact standsSettled stands _ _

theorem sentLoad {item : PendingLoad K} (key : K) (inside : item ∈ loader.requests.flatten ++ loader.queue) :
    item ∈ (loader.load key).2.requests.flatten ++ (loader.load key).2.queue := by
  unfold load
  cases loader.cache key with
  | some cached => exact inside
  | none =>
    rw [← List.append_assoc]
    exact List.mem_append_left _ inside

theorem sentLoadMany {item : PendingLoad K} (keys : List K) (inside : item ∈ loader.requests.flatten ++ loader.queue) :
    item ∈ (loadMany keys loader).2.requests.flatten ++ (loadMany keys loader).2.queue := by
  induction keys generalizing loader with
  | nil => exact inside
  | cons key keys ih => exact ih (sentLoad key inside)

theorem emptyLoad {other : K} (differs : key ≠ other) (empty : loader.cache key = none) : (loader.load other).2.cache key = none := by
  unfold load
  cases loader.cache other with
  | some cached => exact empty
  | none => exact (Function.update_of_ne differs _ _).trans empty

theorem emptyLoadMany {keys : List K} (others : key ∉ keys) (empty : loader.cache key = none) :
    (loadMany keys loader).2.cache key = none := by
  induction keys generalizing loader with
  | nil => exact empty
  | cons other keys ih =>
    rw [List.mem_cons,not_or] at others
    exact ih others.2 (emptyLoad others.1 empty)

end Invariant

section Runs

variable [DecidableEq K] (batchLoadFn : Nat → List K → Except E (List (V ⊕ E))) (maxBatchSize : Option Int) (steps : List (LoaderStep K V))

/-- The run makes the step, from this state of the loader. -/
def Makes (op : LoaderStep K V) (loader : BatchLoader K V E) : Prop :=
  ∃ before after, steps = before ++ op :: after ∧ run batchLoadFn maxBatchSize before = some loader

/-- A load of the key returned the promise. -/
def Returned (key : K) (promise : Nat) : Prop :=
  (∃ loader, Makes batchLoadFn maxBatchSize steps (.load key) loader ∧ (loader.load key).1 = promise) ∨
  ∃ keys loader, Makes batchLoadFn maxBatchSize steps (.loadMany keys) loader ∧ (key,promise) ∈ keys.zip (loadMany keys loader).1

def Primed (key : K) (value : V) (promise : Nat) : Prop :=
  ∃ loader, Makes batchLoadFn maxBatchSize steps (.prime key value) loader ∧ loader.cache key = none ∧ promise = loader.promises

def Queued (item : PendingLoad K) : Prop :=
  ∃ before after loader, steps = before ++ after ∧ run batchLoadFn maxBatchSize before = some loader ∧ item ∈ loader.queue

/-- What the promise is to end with: what its request gave the key, or the primed value. -/
def Due (loader : BatchLoader K V E) (key : K) (promise : Nat) (settlement : Settlement V E) : Prop :=
  (∃ request batch, loader.requests[request]? = some batch ∧ (⟨key,promise⟩,settlement) ∈ gives batchLoadFn request batch) ∨
  ∃ value, Primed batchLoadFn maxBatchSize steps key value promise ∧ settlement = .resolved value

/-- The step may put a promise for the key into the cache. -/
def Fills (key : K) : LoaderStep K V → Prop
  | .load other => other = key
  | .loadMany keys => key ∈ keys
  | .prime other _ => other = key
  | _ => False

/-- A load of the key has failed, and the key was neither loaded nor primed since. -/
def Failed (key : K) : Prop :=
  ∃ before request later loader batch, steps = before ++ .settle request :: later ∧
    run batchLoadFn maxBatchSize before = some loader ∧ loader.requests[request]? = some batch ∧
    (∃ item error, (item,.rejected error) ∈ gives batchLoadFn request batch ∧ item.key = key) ∧ ∀ op ∈ later, ¬ Fills key op

/-- No dispatch is on its way and every request has been answered. -/
def Quiet (loader : BatchLoader K V E) : Prop := loader.dispatches = 0 ∧ loader.running = []

structure LoadsSettled (loader : BatchLoader K V E) : Prop where
  once : (loader.settlements.map (·.1)).Nodup
  due : ∀ key promise, Returned batchLoadFn maxBatchSize steps key promise →
    ∀ settlement, (promise,settlement) ∈ loader.settlements → Due batchLoadFn maxBatchSize steps loader key promise settlement
  ends : Quiet loader → ∀ key promise, Returned batchLoadFn maxBatchSize steps key promise → ∃ settlement, (promise,settlement) ∈ loader.settlements
  short : ∀ size : Nat, maxBatchSize = some (size : Int) → 0 < size → ∀ batch ∈ loader.requests, batch.length ≤ size
  apart : ((loader.requests.flatten ++ loader.queue).map (·.promise)).Nodup
  sent : ∀ item, Queued batchLoadFn maxBatchSize steps item → item ∈ loader.requests.flatten ++ loader.queue ∧ (Quiet loader → item ∈ loader.requests.flatten)
  again : ∀ key, Failed batchLoadFn maxBatchSize steps key →
    (loader.load key).1 = loader.promises ∧ (loader.load key).2.queue = loader.queue ++ [⟨key,loader.promises⟩]

variable {batchLoadFn maxBatchSize steps} {loader loader' : BatchLoader K V E} {op : LoaderStep K V} {key : K} {promise : Nat}

theorem runSnoc : run batchLoadFn maxBatchSize (steps ++ [op]) = some loader' ↔
    ∃ loader, run batchLoadFn maxBatchSize steps = some loader ∧ step batchLoadFn loader op = some loader' := by
  simp [run,List.foldlM_append,Option.bind_eq_some_iff]

theorem runSplit {before after : List (LoaderStep K V)} : run batchLoadFn maxBatchSize (before ++ after) = some loader' ↔
    ∃ loader, run batchLoadFn maxBatchSize before = some loader ∧ after.foldlM (step batchLoadFn) loader = some loader' := by
  simp [run,List.foldlM_append,Option.bind_eq_some_iff]

theorem primedMore (value : V) (primed : Primed batchLoadFn maxBatchSize steps key value promise) :
    Primed batchLoadFn maxBatchSize (steps ++ [op]) key value promise := by
  obtain ⟨loader,⟨before,after,rfl,ran⟩,free,same⟩ := primed
  exact ⟨loader,⟨before,after ++ [op],by simp,ran⟩,free,same⟩

/-- The request was under way, and its loads end with what it gives them. -/
theorem settleStep {request : Nat} (moved : step batchLoadFn loader (.settle request) = some loader') :
    ∃ batch cache, loader.requests[request]? = some batch ∧ request ∈ loader.running ∧ loader' = { loader with
        running := loader.running.erase request
        cache := cache
        settlements := loader.settlements ++ (gives batchLoadFn request batch).map fun item => (item.1.promise,item.2) } ∧
      (∀ key promise, cache key = some promise → loader.cache key = some promise) ∧
      ∀ item error, (item,.rejected error) ∈ gives batchLoadFn request batch → cache item.key = none := by
  simp only [step] at moved
  split at moved
  · rename_i batch sent
    split at moved
    · rename_i running
      obtain ⟨cache,same,fewer,emptied⟩ := settledEach (gives batchLoadFn request batch) { loader with running := loader.running.erase request }
      rw [runBatchGiven] at moved
      exact ⟨batch,cache,sent,running,(Option.some.inj moved).symm.trans same,fewer,emptied⟩
    · cases moved
  · cases moved

theorem dispatchStep (moved : step batchLoadFn loader .dispatch = some loader') : loader' = loader.dispatch := by
  simp only [step] at moved
  split at moved
  · exact (Option.some.inj moved).symm
  · cases moved

theorem invStep (ran : run batchLoadFn maxBatchSize steps = some loader) (moved : step batchLoadFn loader op = some loader')
    (inv : Inv batchLoadFn (Primed batchLoadFn maxBatchSize steps) maxBatchSize loader) :
    Inv batchLoadFn (Primed batchLoadFn maxBatchSize (steps ++ [op])) maxBatchSize loader' := by
  have grown : Inv batchLoadFn (Primed batchLoadFn maxBatchSize (steps ++ [op])) maxBatchSize loader := invMore (fun _ value _ => primedMore value) inv
  cases op with
  | load key => cases moved; exact invLoad grown key
  | loadMany keys => cases moved; exact invLoadMany keys grown
  | prime key value => cases moved; exact invPrime grown fun free => ⟨loader,⟨steps,[],rfl,ran⟩,free,rfl⟩
  | clear key =>
    cases moved
    refine invCache (fun other promise held => ?_) grown
    rw [Function.update_apply] at held
    split at held
    · cases held
    · exact held
  | clearAll => cases moved; exact invCache nofun grown
  | dispatch => rw [dispatchStep moved]; exact invDispatch grown
  | settle request =>
    obtain ⟨batch,cache,sent,running,rfl,fewer,_⟩ := settleStep moved
    exact invSettle grown sent running fewer

theorem invRun (ran : run batchLoadFn maxBatchSize steps = some loader) :
    Inv batchLoadFn (Primed batchLoadFn maxBatchSize steps) maxBatchSize loader := by
  induction steps using List.reverseRecOn generalizing loader with
  | nil => cases ran; exact invStart maxBatchSize
  | append_singleton steps op ih =>
    obtain ⟨before,ran,moved⟩ := runSnoc.mp ran
    exact invStep ran moved (ih ran)

theorem standsStep (moved : step batchLoadFn loader op = some loader') (stands : Stands batchLoadFn (Primed batchLoadFn maxBatchSize steps) loader key promise) :
    Stands batchLoadFn (Primed batchLoadFn maxBatchSize (steps ++ [op])) loader' key promise := by
  have grown : Stands batchLoadFn (Primed batchLoadFn maxBatchSize (steps ++ [op])) loader key promise := standsMore (fun _ value _ => primedMore value) stands
  cases op with
  | load key => cases moved; exact standsLoad key grown
  | loadMany keys => cases moved; exact standsLoadMany keys grown
  | prime key value => cases moved; exact standsPrime key value grown
  | clear key => cases moved; exact standsCache grown _
  | clearAll => cases moved; exact standsCache grown _
  | dispatch => rw [dispatchStep moved]; exact standsDispatch grown
  | settle request =>
    obtain ⟨batch,cache,sent,_,rfl,_,_⟩ := settleStep moved
    exact standsSettle sent grown cache

theorem standsRun {before after : List (LoaderStep K V)} (stands : Stands batchLoadFn (Primed batchLoadFn maxBatchSize before) loader key promise)
    (moved : after.foldlM (step batchLoadFn) loader = some loader') :
    Stands batchLoadFn (Primed batchLoadFn maxBatchSize (before ++ after)) loader' key promise := by
  induction after generalizing before loader with
  | nil => cases moved; simpa using stands
  | cons op after ih =>
    rw [List.foldlM_cons] at moved
    obtain ⟨next,first,rest⟩ := Option.bind_eq_some_iff.mp moved
    simpa using ih (standsStep first stands) rest

theorem standsAfter {before after : List (LoaderStep K V)} (ran : run batchLoadFn maxBatchSize (before ++ op :: after) = some loader')
    (given : run batchLoadFn maxBatchSize before = some loader) {next : BatchLoader K V E}
    (moved : step batchLoadFn loader op = some next)
    (stands : Stands batchLoadFn (Primed batchLoadFn maxBatchSize (before ++ [op])) next key promise) :
    Stands batchLoadFn (Primed batchLoadFn maxBatchSize (before ++ op :: after)) loader' key promise := by
  obtain ⟨middle,same,rest⟩ := runSplit.mp ran
  cases given.symm.trans same
  rw [List.foldlM_cons,moved] at rest
  simpa using standsRun stands rest

theorem returnedStands (ran : run batchLoadFn maxBatchSize steps = some loader) (returned : Returned batchLoadFn maxBatchSize steps key promise) :
    Stands batchLoadFn (Primed batchLoadFn maxBatchSize steps) loader key promise := by
  obtain ⟨old,⟨before,after,rfl,given⟩,rfl⟩ | ⟨keys,old,⟨before,after,rfl,given⟩,inside⟩ := returned
  · exact standsAfter ran given rfl (standsMore (fun _ value _ => primedMore value) (loadStands (invRun given) key))
  · exact standsAfter ran given rfl (standsMore (fun _ value _ => primedMore value) (loadManyStands keys (invRun given) inside))

theorem sentStep {item : PendingLoad K} (moved : step batchLoadFn loader op = some loader')
    (inside : item ∈ loader.requests.flatten ++ loader.queue) : item ∈ loader'.requests.flatten ++ loader'.queue := by
  cases op with
  | load key => cases moved; exact sentLoad key inside
  | loadMany keys => cases moved; exact sentLoadMany keys inside
  | prime key value =>
    cases moved
    unfold prime
    split <;> exact inside
  | clear key => cases moved; exact inside
  | clearAll => cases moved; exact inside
  | dispatch =>
    rw [dispatchStep moved]
    simpa [dispatch,slicesJoined (batchSizePositive loader.maxBatchSize loader.queue)] using inside
  | settle request =>
    obtain ⟨batch,cache,_,_,rfl,_,_⟩ := settleStep moved
    exact inside

theorem emptyStep (spares : ¬ Fills key op) (moved : step batchLoadFn loader op = some loader') (empty : loader.cache key = none) :
    loader'.cache key = none := by
  cases op with
  | load other => cases moved; exact emptyLoad (Ne.symm spares) empty
  | loadMany keys => cases moved; exact emptyLoadMany spares empty
  | prime other value =>
    cases moved
    unfold prime
    split
    · exact empty
    · exact (Function.update_of_ne (Ne.symm spares) _ _).trans empty
  | clear other =>
    cases moved
    by_cases same : key = other
    · simp [clear,same]
    · exact (Function.update_of_ne same _ _).trans empty
  | clearAll => cases moved; rfl
  | dispatch => rw [dispatchStep moved]; exact empty
  | settle request =>
    obtain ⟨batch,cache,_,_,rfl,fewer,_⟩ := settleStep moved
    cases held : cache key with
    | none => exact held
    | some promise => cases empty.symm.trans (fewer key promise held)

theorem queuedRun {before after : List (LoaderStep K V)} {item : PendingLoad K} (ran : run batchLoadFn maxBatchSize before = some loader)
    (inside : item ∈ loader.requests.flatten ++ loader.queue) (moved : after.foldlM (step batchLoadFn) loader = some loader') :
    item ∈ loader'.requests.flatten ++ loader'.queue := by
  induction after generalizing before loader with
  | nil => cases moved; exact inside
  | cons op after ih =>
    rw [List.foldlM_cons] at moved
    obtain ⟨next,first,rest⟩ := Option.bind_eq_some_iff.mp moved
    exact ih (runSnoc.mpr ⟨loader,ran,first⟩) (sentStep first inside) rest

theorem emptyRun {later : List (LoaderStep K V)} (empty : loader.cache key = none) (spares : ∀ op ∈ later, ¬ Fills key op)
    (moved : later.foldlM (step batchLoadFn) loader = some loader') : loader'.cache key = none := by
  induction later generalizing loader with
  | nil => cases moved; exact empty
  | cons op later ih =>
    rw [List.foldlM_cons] at moved
    obtain ⟨next,first,rest⟩ := Option.bind_eq_some_iff.mp moved
    exact ih (emptyStep (spares op List.mem_cons_self) first empty) (fun op inside => spares op (List.mem_cons_of_mem _ inside)) rest

theorem failedEmpty (ran : run batchLoadFn maxBatchSize steps = some loader) (failed : Failed batchLoadFn maxBatchSize steps key) :
    loader.cache key = none := by
  obtain ⟨before,request,later,old,batch,rfl,given,sent,⟨item,error,inside,rfl⟩,spares⟩ := failed
  obtain ⟨middle,same,rest⟩ := runSplit.mp ran
  cases given.symm.trans same
  rw [List.foldlM_cons] at rest
  obtain ⟨next,first,rest⟩ := Option.bind_eq_some_iff.mp rest
  obtain ⟨batch',cache,sent',_,rfl,_,emptied⟩ := settleStep first
  cases sent.symm.trans sent'
  exact emptyRun (emptied item error inside) spares rest

theorem settlesAll (primed : K → V → Nat → Prop) (inv : Inv batchLoadFn primed maxBatchSize loader) (idle : loader.dispatches = 0) :
    ∃ (more : List (LoaderStep K V)) (loader' : BatchLoader K V E), (∀ op ∈ more, ∃ request, op = .settle request) ∧
      more.foldlM (step batchLoadFn) loader = some loader' ∧ Quiet loader' := by
  induction waiting : loader.running.length generalizing loader with
  | zero => exact ⟨[],loader,by simp,rfl,idle,List.eq_nil_of_length_eq_zero waiting⟩
  | succ count ih =>
    obtain ⟨request,rest,running⟩ := List.exists_cons_of_length_eq_add_one waiting
    have inside : request ∈ loader.running := running ▸ List.mem_cons_self
    have sent := List.getElem?_eq_getElem (inv.sent request inside)
    have moved : ∃ next, step batchLoadFn loader (.settle request) = some next := by simp [step,sent,inside]
    obtain ⟨next,moved⟩ := moved
    obtain ⟨batch,cache,sent,_,rfl,fewer,_⟩ := settleStep moved
    obtain ⟨more,loader',each,ends,quiet⟩ := ih (invSettle inv sent inside fewer) idle (by simp [List.length_erase_of_mem inside,waiting])
    refine ⟨.settle request :: more,loader',?_,?_,quiet⟩
    · intro op there
      rcases List.mem_cons.mp there with rfl | later
      · exact ⟨request,rfl⟩
      · exact each op later
    · rw [List.foldlM_cons,moved]
      exact ends

/-- A dispatch and the answers that are missing bring the loader to rest. -/
theorem comesToRest (primed : K → V → Nat → Prop) (inv : Inv batchLoadFn primed maxBatchSize loader) :
    ∃ (more : List (LoaderStep K V)) (loader' : BatchLoader K V E), (∀ op ∈ more, op = .dispatch ∨ ∃ request, op = .settle request) ∧
      more.foldlM (step batchLoadFn) loader = some loader' ∧ Quiet loader' := by
  have scheduled := inv.scheduled
  split at scheduled
  · obtain ⟨more,loader',each,ends,quiet⟩ := settlesAll primed inv scheduled
    exact ⟨more,loader',fun op there => .inr (each op there),ends,quiet⟩
  · obtain ⟨more,loader',each,ends,quiet⟩ := settlesAll primed (invDispatch inv) (by simp [dispatch,scheduled])
    refine ⟨.dispatch :: more,loader',?_,?_,quiet⟩
    · intro op there
      rcases List.mem_cons.mp there with rfl | later
      · exact .inl rfl
      · exact .inr (each op later)
    · have moved : step batchLoadFn loader .dispatch = some loader.dispatch := by simp [step,scheduled]
      rw [List.foldlM_cons,moved]
      exact ends

theorem settledDue (inv : Inv batchLoadFn (Primed batchLoadFn maxBatchSize steps) maxBatchSize loader)
    (stands : Stands batchLoadFn (Primed batchLoadFn maxBatchSize steps) loader key promise) {settlement : Settlement V E}
    (settled : (promise,settlement) ∈ loader.settlements) : Due batchLoadFn maxBatchSize steps loader key promise settlement := by
  obtain ⟨once,_,apart⟩ := List.nodup_append.mp (inv.once.nodup_iff.mpr List.nodup_range)
  have here : promise ∈ loader.settlements.map (·.1) := List.mem_map_of_mem settled
  cases stands with
  | queued inside =>
    exact absurd rfl (apart _ here _ (List.mem_map.mpr ⟨_,List.mem_append_right _ inside,rfl⟩))
  | requested request batch sent inside given =>
    rcases given with running | ⟨given,its,there⟩
    · have waits : ⟨key,promise⟩ ∈ loader.running.flatMap fun request => loader.requests[request]?.getD [] :=
        List.mem_flatMap.mpr ⟨request,running,by rwa [sent]⟩
      exact absurd rfl (apart _ here _ (List.mem_map.mpr ⟨_,List.mem_append_left _ waits,rfl⟩))
    · exact .inl ⟨request,batch,sent,settledSame once settled there ▸ its⟩
  | primed value given there => exact .inr ⟨value,given,settledSame once settled there⟩

theorem quietEmpty (inv : Inv batchLoadFn (Primed batchLoadFn maxBatchSize steps) maxBatchSize loader) (quiet : Quiet loader) : loader.queue = [] := by
  have scheduled := quiet.1.symm.trans inv.scheduled
  split at scheduled
  · assumption
  · cases scheduled

theorem quietSettled (inv : Inv batchLoadFn (Primed batchLoadFn maxBatchSize steps) maxBatchSize loader) (quiet : Quiet loader)
    (stands : Stands batchLoadFn (Primed batchLoadFn maxBatchSize steps) loader key promise) : ∃ settlement, (promise,settlement) ∈ loader.settlements := by
  cases stands with
  | queued inside => rw [quietEmpty inv quiet] at inside; cases inside
  | requested request batch sent inside given =>
    rcases given with running | ⟨settlement,_,there⟩
    · rw [quiet.2] at running; cases running
    · exact ⟨_,there⟩
  | primed value given there => exact ⟨_,there⟩

end Runs

variable [DecidableEq K]

theorem loadsSettle (batchLoadFn : Nat → List K → Except E (List (V ⊕ E))) (maxBatchSize : Option Int) (steps : List (LoaderStep K V)) (loader : BatchLoader K V E)
    (ran : run batchLoadFn maxBatchSize steps = some loader) :
    LoadsSettled batchLoadFn maxBatchSize steps loader ∧
      ∃ (more : List (LoaderStep K V)) (loader' : BatchLoader K V E), (∀ op ∈ more, op = .dispatch ∨ ∃ request, op = .settle request) ∧
        run batchLoadFn maxBatchSize (steps ++ more) = some loader' ∧ Quiet loader' := by
  have inv := invRun ran
  refine ⟨?_,?_⟩
  · constructor
    case once => exact (List.nodup_append.mp (inv.once.nodup_iff.mpr List.nodup_range)).1
    case due => exact fun key promise returned settlement settled => settledDue inv (returnedStands ran returned) settled
    case ends => exact fun quiet key promise returned => quietSettled inv quiet (returnedStands ran returned)
    case short => exact inv.short
    case apart => exact inv.ordered.imp Nat.ne_of_lt
    case sent =>
      rintro item ⟨before,after,old,rfl,given,inside⟩
      obtain ⟨middle,same,rest⟩ := runSplit.mp ran
      cases given.symm.trans same
      have there := queuedRun given (List.mem_append_right _ inside) rest
      refine ⟨there,fun quiet => ?_⟩
      rwa [quietEmpty inv quiet,List.append_nil] at there
    case again =>
      intro key failed
      simp [load,failedEmpty ran failed]
  · obtain ⟨more,loader',each,ends,quiet⟩ := comesToRest _ inv
    exact ⟨more,loader',each,runSplit.mpr ⟨loader,ran,ends⟩,quiet⟩

/-- Doubles a key and knows nothing of 3 in its first call, and fails in its second. -/
def doubling (call : Nat) (keys : List Nat) : Except String (List (Nat ⊕ String)) :=
  if call = 1 then .error "offline" else .ok (keys.map fun key => if key = 3 then .inr "unknown" else .inl (2 * key))

def retried : List (LoaderStep Nat Nat) :=
  [.prime 5 1,.loadMany [1,3,5],.dispatch,.load 1,.settle 0,.load 3,.clear 1,.dispatch,.settle 1]

theorem loadsSettleRetried :
    ∃ loader, run doubling (some 2) retried = some loader ∧ LoadsSettled doubling (some 2) retried loader ∧
      loader.settlements = [(0,.resolved 1),(1,.resolved 2),(2,.rejected (.given "unknown")),(3,.rejected (.given "offline"))] := by
  have ran : (run doubling (some 2) retried).isSome := rfl
  obtain ⟨loader,same⟩ := Option.isSome_iff_exists.mp ran
  refine ⟨loader,same,(loadsSettle doubling (some 2) retried loader same).1,?_⟩
  have settled : (run doubling (some 2) retried).map (·.settlements) =
      some [(0,.resolved 1),(1,.resolved 2),(2,.rejected (.given "unknown")),(3,.rejected (.given "offline"))] := rfl
  simpa [same] using settled

end BatchLoader
end HireSettle.GraphQL
