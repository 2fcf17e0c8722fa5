import HireSettle.Escrow.Database
import HireSettle.GraphQL.SettledLoads

/-! The relation fields of an engagement. Their loaders ask for the users of many
addresses and for the milestones of many engagements at once; every field gets the
row or rows that a query of its own would have found. -/
namespace HireSettle.GraphQL

section Rows

variable {K R : Type} [DecidableEq K]

def alignByKey (keys : List K) (rows : List R) (keyOf : R → K) : List (Option R) :=
  let byKey : K → Option R := rows.foldl (fun byKey row => Function.update byKey (keyOf row) (some row)) fun _ => none
  keys.map byKey

def groupByKey (keys : List K) (rows : List R) (keyOf : R → K) : List (List R) :=
  let groups : K → List R := rows.foldl (fun groups row => Function.update groups (keyOf row) (groups (keyOf row) ++ [row])) fun _ => []
  keys.map groups

/-- Of rows with one key the last one stays. -/
theorem alignRows (keys : List K) (rows : List R) (keyOf : R → K) :
    alignByKey keys rows keyOf = keys.map fun key => rows.reverse.find? fun row => keyOf row = key := by
  refine List.map_congr_left fun key _ => ?_
  induction rows using List.reverseRecOn with
  | nil => rfl
  | append_singleton rows row ih =>
    rw [List.foldl_append,List.reverse_append,List.foldl_cons,List.foldl_nil,Function.update_apply,ih]
    by_cases same : keyOf row = key
    · simp [same]
    · simp [same,Ne.symm same]

theorem groupRows (keys : List K) (rows : List R) (keyOf : R → K) :
    groupByKey keys rows keyOf = keys.map fun key => rows.filter fun row => keyOf row = key := by
  refine List.map_congr_left fun key _ => ?_
  induction rows using List.reverseRecOn with
  | nil => rfl
  | append_singleton rows row ih =>
    rw [List.foldl_append,List.foldl_cons,List.foldl_nil,Function.update_apply,List.filter_append]
    by_cases same : keyOf row = key
    · subst same
      simp [ih]
    · simp [same,Ne.symm same,ih]

end Rows

structure GraphqlUser where
  id : String
  stellarAddress : Option String := none
  name : Option String := none
  company : Option String := none
  role : UserRole := .company
  verifiedAt : Option Nat := none
  deriving DecidableEq, Repr

structure GraphqlMilestone where
  id : String
  milestoneIndex : Nat
  name : String
  kind : Escrow.MilestoneKind
  paymentPercent : Int
  amount : Option String
  status : Escrow.MilestoneStatus
  proofHash : Option String
  confirmedAt : Option Nat
  deriving DecidableEq, Repr

/-- The rows of the users, as they are selected, and of the milestones. -/
structure Rows where
  users : List GraphqlUser
  milestones : List Escrow.Milestone
  addresses : (users.filterMap GraphqlUser.stellarAddress).Nodup
  indexes : (milestones.map fun row => (row.engagementId,row.milestoneIndex)).Nodup

def serializeMilestone (row : Escrow.Milestone) : GraphqlMilestone where
  id := row.id
  milestoneIndex := row.milestoneIndex
  name := row.name
  kind := row.kind
  paymentPercent := row.paymentPercent
  amount := row.amount.map toString
  status := row.status
  proofHash := row.proofHash
  confirmedAt := row.confirmedAt

def MAX_BATCH_SIZE : Int := 500

/-- What the database answers the calls of one loader: their rows, or an error, and the
order it gives them in where the query asks for none. -/
structure Answers (E : Type) where
  read : Nat → Except E Rows
  order : Nat → List GraphqlUser → List GraphqlUser
  sorted : Nat → List Escrow.Milestone → List Escrow.Milestone
  shuffles : ∀ call rows, (order call rows).Perm rows
  -- orderBy: [{ engagementId: 'asc' }, { milestoneIndex: 'asc' }]
  sorts : ∀ call rows, (sorted call rows).Perm rows ∧
    (sorted call rows).Pairwise fun a b => a.engagementId = b.engagementId → a.milestoneIndex ≤ b.milestoneIndex

variable {E : Type} (answers : Answers E)

def usersByStellarAddress (call : Nat) (addresses : List String) : Except E (List (Option GraphqlUser ⊕ E)) := do
  let db ← answers.read call
  let rows := answers.order call (db.users.filter fun row => ∃ address ∈ addresses, row.stellarAddress = some address)
  return (alignByKey (addresses.map some) rows GraphqlUser.stellarAddress).map .inl

def milestonesOf (call : Nat) (engagementIds : List String) : Except E (List (List GraphqlMilestone ⊕ E)) := do
  let db ← answers.read call
  let rows := answers.sorted call (db.milestones.filter fun row => row.engagementId ∈ engagementIds)
  return (groupByKey engagementIds rows Escrow.Milestone.engagementId).map fun group => .inl (group.map serializeMilestone)

/-- The user of one address. -/
def Rows.user (db : Rows) (address : String) : Option GraphqlUser := db.users.find? fun row => row.stellarAddress = some address

/-- The milestones of one engagement, by index. -/
def Rows.milestonesOf (db : Rows) (engagementId : String) : List GraphqlMilestone :=
  ((db.milestones.filter fun row => row.engagementId = engagementId).insertionSort fun a b => a.milestoneIndex ≤ b.milestoneIndex).map serializeMilestone

section Single

variable {answers} {call : Nat} {db : Rows}

theorem findPerm {α β : Type} [DecidableEq β] {f : α → β} {b : β} {l l' : List α} (perm : l.Perm l') (single : ∀ x ∈ l, ∀ y ∈ l, f x = b → f y = b → x = y) :
    l.find? (fun x => f x = b) = l'.find? fun x => f x = b := by
  cases first : l.find? fun x => f x = b with
  | none =>
    refine (List.find?_eq_none.mpr fun x inside => ?_).symm
    exact List.find?_eq_none.mp first x (perm.mem_iff.mpr inside)
  | some x =>
    have here := List.mem_of_find?_eq_some first
    have its : f x = b := by simpa using List.find?_some first
    cases second : l'.find? fun x => f x = b with
    | none => exact absurd (by simpa using its) (List.find?_eq_none.mp second x (perm.mem_iff.mp here))
    | some y =>
      have there := perm.mem_iff.mpr (List.mem_of_find?_eq_some second)
      exact congrArg some (single x here y there its (by simpa using List.find?_some second))

theorem addressOnce {a b : GraphqlUser} {address : String} (here : a ∈ db.users) (there : b ∈ db.users) (mine : a.stellarAddress = some address)
    (its : b.stellarAddress = some address) : a = b := by
  have apart := List.pairwise_filterMap.mp db.addresses
  have both : Std.Symm fun a b : GraphqlUser => ∀ x, a.stellarAddress = some x → ∀ y, b.stellarAddress = some y → x ≠ y :=
    ⟨fun _ _ apart x first y second => (apart y second x first).symm⟩
  by_contra differs
  exact apart.forall here there differs address mine address its rfl

theorem usersSingle (read : answers.read call = .ok db) (addresses : List String) :
    usersByStellarAddress answers call addresses = .ok (addresses.map fun address => .inl (db.user address)) := by
  rw [usersByStellarAddress,read]
  refine congrArg Except.ok ?_
  rw [alignRows,List.map_map,List.map_map]
  refine List.map_congr_left fun address inside => congrArg Sum.inl ?_
  have perm := (answers.shuffles call (db.users.filter fun row => ∃ address ∈ addresses, row.stellarAddress = some address))
  have single := findPerm (b := some address) ((List.reverse_perm _).trans perm).symm fun a here b there mine its =>
    addressOnce (List.mem_filter.mp here).1 (List.mem_filter.mp there).1 mine its
  refine single.symm.trans ?_
  rw [List.find?_filter,Rows.user]
  congr 1
  funext row
  by_cases its : row.stellarAddress = some address
  · simp [its,inside]
  · simp [its]

theorem milestonesSingle (read : answers.read call = .ok db) (engagementIds : List String) :
    milestonesOf answers call engagementIds = .ok (engagementIds.map fun engagementId => .inl (db.milestonesOf engagementId)) := by
  rw [milestonesOf,read]
  refine congrArg Except.ok ?_
  rw [groupRows,List.map_map]
  refine List.map_congr_left fun engagementId inside => congrArg Sum.inl (congrArg (List.map serializeMilestone) ?_)
  obtain ⟨perm,sorted⟩ := answers.sorts call (db.milestones.filter fun row => row.engagementId ∈ engagementIds)
  have own : ((answers.sorted call (db.milestones.filter fun row => row.engagementId ∈ engagementIds)).filter fun row => row.engagementId = engagementId).Perm
      (db.milestones.filter fun row => row.engagementId = engagementId) := by
    refine (perm.filter _).trans (List.Perm.of_eq ?_)
    rw [List.filter_filter]
    refine List.filter_congr fun row _ => ?_
    by_cases its : row.engagementId = engagementId
    · simp [its,inside]
    · simp [its]
  refine List.Perm.eq_of_pairwise ?_ ?_ (List.pairwise_insertionSort _ _) (own.trans (List.perm_insertionSort _ _).symm)
  · intro a b here there first second
    obtain ⟨inside',mine⟩ := List.mem_filter.mp (own.mem_iff.mp here)
    obtain ⟨there',its⟩ := List.mem_filter.mp ((List.perm_insertionSort _ _).mem_iff.mp there)
    refine List.inj_on_of_nodup_map db.indexes inside' there' (Prod.ext ?_ (Nat.le_antisymm first second))
    exact (of_decide_eq_true mine).trans (of_decide_eq_true its).symm
  · refine List.Pairwise.imp_of_mem ?_ (sorted.filter _)
    intro a b here there ordered
    exact ordered ((of_decide_eq_true (List.mem_filter.mp here).2).trans (of_decide_eq_true (List.mem_filter.mp there).2).symm)

end Single

section Runs
open BatchLoader

variable {K V : Type} [DecidableEq K]

/-- The settlement is what a query for the key alone finds where the batch was read, or
its error, or the primed value. -/
def Singly (find : Rows → K → V) (batchLoadFn : Nat → List K → Except E (List (V ⊕ E))) (steps : List (LoaderStep K V)) (key : K) (promise : Nat)
    (settlement : Settlement V E) : Prop :=
  (∃ request db, answers.read request = .ok db ∧ settlement = .resolved (find db key)) ∨
    (∃ request error, answers.read request = .error error ∧ settlement = .rejected (.given error)) ∨
    ∃ value, Primed batchLoadFn (some MAX_BATCH_SIZE) steps key value promise ∧ settlement = .resolved value

variable {answers} {find : Rows → K → V} {batchLoadFn : Nat → List K → Except E (List (V ⊕ E))} {steps : List (LoaderStep K V)} {loader : BatchLoader K V E}

theorem dueSingly (agrees : ∀ call keys, batchLoadFn call keys = (answers.read call).map fun db => keys.map fun key => .inl (find db key)) {key : K}
    {promise : Nat} {settlement : Settlement V E} (due : Due batchLoadFn (some MAX_BATCH_SIZE) steps loader key promise settlement) :
    Singly answers find batchLoadFn steps key promise settlement := by
  rcases due with ⟨request,batch,_,given⟩ | primed
  · rw [gives,agrees] at given
    cases read : answers.read request with
    | error error =>
      rw [read] at given
      obtain ⟨_,_,rfl⟩ := List.mem_map.mp (List.of_mem_zip given).2
      exact Or.inr (Or.inl ⟨request,error,read,rfl⟩)
    | ok db =>
      have each : BatchLoader.given batch (Except.ok (batch.map fun item => (.inl (find db item.key) : V ⊕ E))) = batch.map fun item => .resolved (find db item.key) := by
        simp [BatchLoader.given,outcome]
      rw [read,Except.map,List.map_map] at given
      have pairs : batch.zip (batch.map fun item => (.resolved (find db item.key) : Settlement V E)) = batch.map fun item => (item,.resolved (find db item.key)) := by
        have each := List.zip_map' (f := id) (g := fun item => (.resolved (find db item.key) : Settlement V E)) (l := batch)
        simpa using each
      have there := each ▸ given
      rw [pairs] at there
      obtain ⟨item,_,same⟩ := List.mem_map.mp there
      cases same
      exact Or.inl ⟨request,db,read,rfl⟩
  · exact Or.inr (Or.inr primed)

theorem loadsSingly (agrees : ∀ call keys, batchLoadFn call keys = (answers.read call).map fun db => keys.map fun key => .inl (find db key))
    (ran : run batchLoadFn (some MAX_BATCH_SIZE) steps = some loader) {key : K} {promise : Nat} (returned : Returned batchLoadFn (some MAX_BATCH_SIZE) steps key promise)
    {settlement : Settlement V E} (settled : (promise,settlement) ∈ loader.settlements) : Singly answers find batchLoadFn steps key promise settlement :=
  dueSingly agrees (settledDue (invRun ran) (returnedStands ran returned) settled)

variable (answers find batchLoadFn) in
/-- Whatever a run loads, its promises end with what single queries find. -/
def Agrees : Prop :=
  ∀ steps loader, run batchLoadFn (some MAX_BATCH_SIZE) steps = some loader → ∀ key promise, Returned batchLoadFn (some MAX_BATCH_SIZE) steps key promise →
    ∀ settlement, (promise,settlement) ∈ loader.settlements → Singly answers find batchLoadFn steps key promise settlement

/-- The loader after the loads of one tick. -/
structure Phase (loader : BatchLoader K V E) (keys : List K) : Prop where
  apart : (loader.queue.map PendingLoad.key).Nodup
  same : ∀ key, key ∈ loader.queue.map PendingLoad.key ↔ key ∈ keys
  cached : ∀ key, (loader.cache key).isSome ↔ key ∈ keys
  unsent : loader.requests = []
  bounded : loader.maxBatchSize = some MAX_BATCH_SIZE

theorem phaseLoad {keys : List K} (phase : Phase loader keys) (key : K) : Phase (loader.load key).2 (keys ++ [key]) := by
  unfold load
  cases cached : loader.cache key with
  | some promise =>
    have old : key ∈ keys := (phase.cached key).mp (by simp [cached])
    have same : ∀ other, other ∈ keys ++ [key] ↔ other ∈ keys := by
      intro other
      simp only [List.mem_append,List.mem_singleton,or_iff_left_iff_imp]
      rintro rfl
      exact old
    exact ⟨phase.apart,fun other => (phase.same other).trans (same other).symm,fun other => (phase.cached other).trans (same other).symm,phase.unsent,phase.bounded⟩
  | none =>
    have new : key ∉ keys := fun old => by simpa [cached] using (phase.cached key).mpr old
    refine ⟨?_,fun other => ?_,fun other => ?_,phase.unsent,phase.bounded⟩
    · simp only [List.map_append,List.map_cons,List.map_nil]
      exact List.nodup_append.mpr ⟨phase.apart,List.nodup_singleton _,fun a here b there same => new ((phase.same key).mp (by
        rw [List.mem_singleton.mp there] at same
        exact same ▸ here))⟩
    · simp only [List.map_append,List.map_cons,List.map_nil,List.mem_append,phase.same]
    · by_cases its : other = key
      · simp [its]
      · simp [phase.cached,its]

theorem phaseLoadMany (more : List K) {keys : List K} (phase : Phase loader keys) : Phase (loadMany more loader).2 (keys ++ more) := by
  induction more generalizing loader keys with
  | nil =>
    rw [List.append_nil]
    exact phase
  | cons key more ih =>
    have next := ih (phaseLoad phase key)
    rw [List.append_assoc] at next
    exact next

/-- Loads of one tick are sent in as few requests as the bound allows. -/
theorem phaseRequests {keys : List K} (phase : Phase loader keys) : loader.dispatch.requests.length = (keys.toFinset.card + 499) / 500 := by
  have card : loader.queue.length = keys.toFinset.card := by
    rw [← List.length_map PendingLoad.key,← List.toFinset_card_of_nodup phase.apart]
    congr 1
    ext key
    simp only [List.mem_toFinset,phase.same]
  have size : batchSize loader.maxBatchSize loader.queue = 500 := by
    rw [phase.bounded]
    rfl
  rw [dispatch,phase.unsent,size]
  simp [slices,card]

end Runs

section Pages
open BatchLoader

variable {E : Type}

def fresh {V : Type} : BatchLoader String V E := { maxBatchSize := some MAX_BATCH_SIZE }

/-- The loaders of one operation after the relation fields of a page were asked for. -/
structure GraphqlLoaders (E : Type) where
  users : BatchLoader String (Option GraphqlUser) E
  companies : BatchLoader String (Option GraphqlUser) E
  milestonesByEngagement : BatchLoader String (List GraphqlMilestone) E

def resolveFields (page : List Escrow.Engagement) : GraphqlLoaders E where
  users := (loadMany (page.flatMap fun engagement => [engagement.recruiterAddress,engagement.arbiterAddress]) fresh).2
  companies := (loadMany (page.map Escrow.Engagement.companyAddress) fresh).2
  milestonesByEngagement := (loadMany (page.map Escrow.Engagement.id) fresh).2

def GraphqlLoaders.queries (loaders : GraphqlLoaders E) : Nat :=
  loaders.users.dispatch.requests.length + loaders.companies.dispatch.requests.length + loaders.milestonesByEngagement.dispatch.requests.length

theorem phaseFresh {V : Type} : Phase (fresh : BatchLoader String V E) [] :=
  ⟨List.nodup_nil,by simp [fresh],by simp [fresh],rfl,rfl⟩

theorem freshRequests {V : Type} (keys : List String) : (loadMany keys (fresh : BatchLoader String V E)).2.dispatch.requests.length = (keys.toFinset.card + 499) / 500 :=
  phaseRequests (phaseLoadMany keys phaseFresh)

theorem oneRequest {keys : List String} (present : keys ≠ []) (few : keys.length ≤ 500) : (keys.toFinset.card + 499) / 500 = 1 := by
  have most := List.toFinset_card_le keys
  have least : 0 < keys.toFinset.card := Finset.card_pos.mpr (List.toFinset_nonempty_iff keys |>.mpr present)
  omega

/-- A page of some engagements asks for users, companies and milestones once each. -/
theorem pageQueries (page : List Escrow.Engagement) :
    (resolveFields page : GraphqlLoaders E).queries =
      ((page.flatMap fun engagement => [engagement.recruiterAddress,engagement.arbiterAddress]).toFinset.card + 499) / 500 +
      ((page.map Escrow.Engagement.companyAddress).toFinset.card + 499) / 500 + ((page.map Escrow.Engagement.id).toFinset.card + 499) / 500 ∧
    (page ≠ [] → page.length ≤ 250 → (resolveFields page : GraphqlLoaders E).queries = 3) := by
  have counts : (resolveFields page : GraphqlLoaders E).queries = _ :=
    congrArg₂ (· + ·) (congrArg₂ (· + ·) (freshRequests _) (freshRequests _)) (freshRequests _)
  refine ⟨counts,fun present few => counts.trans ?_⟩
  have addresses : (page.flatMap fun engagement => [engagement.recruiterAddress,engagement.arbiterAddress]).length = 2 * page.length := by
    simp [List.length_flatMap,Nat.mul_comm]
  have users := @oneRequest (page.flatMap fun engagement => [engagement.recruiterAddress,engagement.arbiterAddress]) (by simpa using List.exists_mem_of_ne_nil page present) (by omega)
  have companies := @oneRequest (page.map Escrow.Engagement.companyAddress) (by simpa using present) (by simp only [List.length_map]; omega)
  have milestones := @oneRequest (page.map Escrow.Engagement.id) (by simpa using present) (by simp only [List.length_map]; omega)
  rw [users,companies,milestones]

def hires : List Escrow.Engagement :=
  [{ id := "e1", companyAddress := "GC", recruiterAddress := "GR", arbiterAddress := "GA", totalAmount := 10 },
    { id := "e2", companyAddress := "GC", recruiterAddress := "GA", arbiterAddress := "GA", totalAmount := 20 }]

theorem hiresAskThrice : (resolveFields hires : GraphqlLoaders String).queries = 3 := (pageQueries hires).2 (by simp [hires]) (by simp [hires])

end Pages

end HireSettle.GraphQL
