import HireSettle.Escrow.EventPolling
import HireSettle.Workflow.Turns

/-! Delivering events one after the other, each any number of times. A transaction is
handled once, for the first of its events: the processed row of that event hides
the others. -/
namespace HireSettle.Escrow.EventDelivery
open Workflow EventsService EventPolling

variable (self : Config)

def service : System ContractEvent Nat Site Answer Db Exception Unit where
  handler event := processEvent self event
  environment elapsed db := { db with clock := db.clock + elapsed }

abbrev Delivery := Turn ContractEvent Nat Answer

/-- The handler of the event has run and its transaction ends. -/
def handled (event : ContractEvent) (e : EscrowEvent) : Bool :=
  match e.site with
  | .markProcessed marked _ => marked = event
  | _ => false

/-- A handler of some event of the transaction has run. -/
def handledTx (txHash : String) (e : EscrowEvent) : Bool :=
  match e.site with
  | .markProcessed marked _ => marked.txHash = txHash
  | _ => false

def HandledOnce (c : EscrowSnapshot) (event : ContractEvent) : Prop :=
  c.history.countP (handled event) = 1 ∧ ∃ row ∈ c.world.chainEvents.rows, Records event row ∧ row.processed = true

abbrev rowsOf (db : Db) (txHash : String) : Nat := db.chainEvents.count fun row => row.txHash = txHash

/-- The state between two deliveries; `mine` are the transactions that are delivered. -/
structure Delivered (mine : String → Prop) (served : List ContractEvent) (c : EscrowSnapshot) : Prop where
  processed : ∀ row ∈ c.world.chainEvents.rows, mine row.txHash → row.processed = true
  once : ∀ txHash, mine txHash → c.history.countP (handledTx txHash) = rowsOf c.world txHash ∧ rowsOf c.world txHash ≤ 1
  stored : ∀ event ∈ served, mine event.txHash ∧ 0 < rowsOf c.world event.txHash
  marked : ∀ e ∈ c.history, ∀ event id, e.site = .markProcessed event id →
    event ∈ served ∧ ∃ row ∈ c.world.chainEvents.rows, Records event row ∧ row.processed = true

/-- The state within a delivery that has saved its row. -/
structure Saved (mine : String → Prop) (served : List ContractEvent) (event : ContractEvent) (saved : ChainEvent)
    (c : EscrowSnapshot) : Prop where
  own : mine event.txHash
  inside : saved ∈ c.world.chainEvents.rows
  records : Records event saved
  processed : ∀ row ∈ c.world.chainEvents.rows, mine row.txHash → row = saved ∨ row.processed = true
  first : c.history.countP (handledTx event.txHash) = 0 ∧ rowsOf c.world event.txHash = 1
  once : ∀ txHash, mine txHash → txHash ≠ event.txHash →
    c.history.countP (handledTx txHash) = rowsOf c.world txHash ∧ rowsOf c.world txHash ≤ 1
  stored : ∀ event ∈ served, mine event.txHash ∧ 0 < rowsOf c.world event.txHash
  marked : ∀ e ∈ c.history, ∀ event id, e.site = .markProcessed event id →
    event ∈ served ∧ ∃ row ∈ c.world.chainEvents.rows, Records event row ∧ row.processed = true

section States

variable {mine : String → Prop} {served : List ContractEvent} {event : ContractEvent} {saved : ChainEvent} {c : EscrowSnapshot}
  {thread : Nat} {site : Site} {i : Answer} {db' : Db}

def Quiet (site : Site) : Prop := ∀ event id, site ≠ .markProcessed event id

theorem handledQuiet (quiet : Quiet site) (txHash : String) :
    (c.record thread site i db').history.countP (handledTx txHash) = c.history.countP (handledTx txHash) := by
  rw [Snapshot.recordHistory,List.countP_cons_of_neg]
  simp only [handledTx,Snapshot.event]
  split
  · exact absurd rfl (quiet _ _)
  · simp

theorem rowsSame (same : SameEvents c.world db') (txHash : String) : rowsOf db' txHash = rowsOf c.world txHash := by
  simp only [rowsOf,same.chainEvents]

theorem markedQuiet {P : ContractEvent → Prop} (quiet : Quiet site)
    (marked : ∀ e ∈ c.history, ∀ event id, e.site = .markProcessed event id → P event) :
    ∀ e ∈ (c.record thread site i db').history, ∀ event id, e.site = .markProcessed event id → P event := by
  intro e inside event id same
  rcases List.mem_cons.mp inside with rfl | earlier
  · exact absurd same (quiet event id)
  · exact marked e earlier event id same

theorem deliveredSame (quiet : Quiet site) (same : SameEvents c.world db') (delivered : Delivered mine served c) :
    Delivered mine served (c.record thread site i db') where
  processed := by simpa only [Snapshot.recordWorld,same.chainEvents] using delivered.processed
  once txHash own := by simpa only [handledQuiet quiet,Snapshot.recordWorld,rowsSame same] using delivered.once txHash own
  stored event inside := by simpa only [Snapshot.recordWorld,rowsSame same] using delivered.stored event inside
  marked := by
    simp only [Snapshot.recordWorld,same.chainEvents]
    exact markedQuiet quiet delivered.marked

theorem deliveredReads (delivered : Delivered mine served c) (thread : Nat) (i : Answer) (quiet : Quiet site) :
    Delivered mine served (c.record thread site i c.world) := deliveredSame quiet ⟨rfl,rfl,rfl⟩ delivered

theorem savedSame (quiet : Quiet site) (same : SameEvents c.world db') (state : Saved mine served event saved c) :
    Saved mine served event saved (c.record thread site i db') where
  own := state.own
  inside := by simpa only [Snapshot.recordWorld,same.chainEvents] using state.inside
  records := state.records
  processed := by simpa only [Snapshot.recordWorld,same.chainEvents] using state.processed
  first := by simpa only [handledQuiet quiet,Snapshot.recordWorld,rowsSame same] using state.first
  once txHash own other := by simpa only [handledQuiet quiet,Snapshot.recordWorld,rowsSame same] using state.once txHash own other
  stored event inside := by simpa only [Snapshot.recordWorld,rowsSame same] using state.stored event inside
  marked := by
    simp only [Snapshot.recordWorld,same.chainEvents]
    exact markedQuiet quiet state.marked

/-- A delivery whose transaction has a row already. -/
theorem deliveredAgain (own : mine event.txHash) (stored : 0 < rowsOf c.world event.txHash)
    (delivered : Delivered mine served c) : Delivered mine (served ++ [event]) c where
  processed := delivered.processed
  once := delivered.once
  stored other inside := by
    rcases List.mem_append.mp inside with old | new
    · exact delivered.stored other old
    · rw [List.mem_singleton.mp new]
      exact ⟨own,stored⟩
  marked e inside other id same := by
    obtain ⟨old,there⟩ := delivered.marked e inside other id same
    exact ⟨List.mem_append.mpr (Or.inl old),there⟩

theorem rowsCreate {db : Db} {row : ChainEvent} {chainEvents : Table ChainEvent} (made : db.chainEvents.create row = some chainEvents)
    (txHash : String) : rowsOf { db with chainEvents := chainEvents } txHash = rowsOf db txHash + if row.txHash = txHash then 1 else 0 := by
  simp [rowsOf,Table.count,(Table.createGet made).2.1,List.countP_append,List.countP_cons]

theorem savedCreates {id : String} {clock : Nat} {chainEvents : Table ChainEvent} (own : mine event.txHash)
    (none : rowsOf c.world event.txHash = 0) (made : c.world.chainEvents.create (rawEvent event id clock) = some chainEvents)
    (delivered : Delivered mine served c) :
    Saved mine served event (rawEvent event id clock)
      (c.record thread (.saveEvent event) i { c.world with chainEvents := chainEvents }) := by
  have quiet : Quiet (.saveEvent event) := fun _ _ => nofun
  refine ⟨own,(Table.memCreate made).mpr (Or.inr rfl),rfl,?_,?_,?_,?_,markedQuiet quiet ?_⟩
  · intro row inside its
    rcases (Table.memCreate made).mp inside with old | new
    · exact Or.inr (delivered.processed row old its)
    · exact Or.inl new
  · have tx : (rawEvent event id clock).txHash = event.txHash := rfl
    rw [handledQuiet quiet,(delivered.once _ own).1,Snapshot.recordWorld,rowsCreate made,none,tx,if_pos rfl]
    exact ⟨rfl,rfl⟩
  · intro txHash its other
    have tx : (rawEvent event id clock).txHash ≠ txHash := other.symm
    rw [handledQuiet quiet,Snapshot.recordWorld,rowsCreate made,if_neg tx]
    exact delivered.once txHash its
  · intro other inside
    obtain ⟨its,stored⟩ := delivered.stored other inside
    rw [Snapshot.recordWorld,rowsCreate made]
    exact ⟨its,by omega⟩
  · intro e inside other id same
    obtain ⟨there,row,old,kept⟩ := delivered.marked e inside other id same
    exact ⟨there,row,(Table.memCreate made).mpr (Or.inl old),kept⟩

theorem deliveredMarks {db' : Db} (state : Saved mine served event saved c)
    (same : db'.chainEvents = c.world.chainEvents.update saved.id fun row => { row with processed := true }) :
    Delivered mine (served ++ [event]) (c.record thread (.markProcessed event saved.id) i db') := by
  have stays : ∀ r : ChainEvent, Keyed.key { r with processed := true } = Keyed.key r := fun _ => rfl
  have rows : ∀ txHash, rowsOf db' txHash = rowsOf c.world txHash := by
    intro txHash
    rw [rowsOf,same]
    exact Table.countUpdateMany _ stays fun _ => rfl
  have kept : ∀ row ∈ c.world.chainEvents.rows, ∀ event, Records event row → row.processed = true ∨ row = saved →
      ∃ row ∈ db'.chainEvents.rows, Records event row ∧ row.processed = true := by
    intro row inside event records done
    rw [same]
    refine ⟨_,(Table.memUpdateMany stays).mpr ⟨row,inside,rfl⟩,?_⟩
    split
    · exact ⟨recordsMarked.mpr records,rfl⟩
    · rename_i elsewhere
      rcases done with done | rfl
      · exact ⟨records,done⟩
      · exact absurd (decide_eq_true rfl) elsewhere
  refine ⟨?_,?_,?_,?_⟩
  · intro row inside its
    rw [Snapshot.recordWorld,same] at inside
    obtain ⟨old,there,rfl⟩ := (Table.memUpdateMany stays).mp inside
    split
    · rfl
    · rename_i elsewhere
      rw [if_neg elsewhere] at its
      rcases state.processed old there its with rfl | done
      · exact absurd (decide_eq_true rfl) elsewhere
      · exact done
  · intro txHash its
    rw [Snapshot.recordHistory,Snapshot.recordWorld,rows]
    by_cases here : txHash = event.txHash
    · subst here
      rw [List.countP_cons_of_pos (by simp [handledTx,Snapshot.event]),state.first.1,state.first.2]
      exact ⟨rfl,le_refl 1⟩
    · rw [List.countP_cons_of_neg (by simp [handledTx,Snapshot.event,Ne.symm here])]
      exact state.once txHash its here
  · intro other inside
    rw [Snapshot.recordWorld,rows]
    rcases List.mem_append.mp inside with old | new
    · exact state.stored other old
    · rw [List.mem_singleton.mp new,state.first.2]
      exact ⟨state.own,Nat.one_pos⟩
  · intro e inside other id site
    rw [Snapshot.recordWorld]
    rcases List.mem_cons.mp inside with rfl | earlier
    · cases site
      exact ⟨List.mem_append.mpr (Or.inr (List.mem_singleton_self _)),kept saved state.inside event state.records (Or.inr rfl)⟩
    · obtain ⟨old,row,there,records,done⟩ := state.marked e earlier other id site
      exact ⟨List.mem_append.mpr (Or.inl old),kept row there other records (Or.inl done)⟩

end States

section Steps

variable {mine : String → Prop} {served : List ContractEvent} {event : ContractEvent} {saved : ChainEvent} {c : EscrowSnapshot}

abbrev Delivers {α : Type} (mine : String → Prop) (event : ContractEvent) (done : Except Exception α → EscrowSnapshot → Prop)
    (p : Op α) (c : EscrowSnapshot) : Prop := Ensures (fun _ _ => mine event.txHash) (fun _ => True) done p c

theorem deliversMark (writes : TxWrites) (state : Saved mine served event saved c) :
    Delivers mine event (fun out c => out = .ok () → Delivered mine (served ++ [event]) c)
      (markProcessed event saved writes) c := by
  refine ensuresTransact ?_ ?_
  · intro thread i value after ok _
    refine ⟨trivial,fun _ => ?_⟩
    split at ok
    · contradiction
    · dsimp only at ok
      split at ok
      · contradiction
      · rename_i modified
        obtain ⟨_,_,_,rfl⟩ := Table.modifyGet modified
        cases ok
        exact deliveredMarks state rfl
  · exact fun thread i error _ => ⟨trivial,(by simp)⟩

theorem deliversHandled (state : Saved mine served event saved c) :
    Delivers mine event (fun out c => out = .ok () → Delivered mine (served ++ [event]) c)
      (do
        let writes ← handleEvent self (extractEventName event) (extractPayload event)
        markProcessed event saved writes) c := by
  have keeps : ∀ site s' (c : EscrowSnapshot) thread i, Within Site.handles site c.world s' → mine event.txHash →
      Saved mine served event saved c → Saved mine served event saved (c.record thread site i s') := by
    intro site s' c thread i within _ state
    refine savedSame ?_ (handlesSameEvents within) state
    rintro other id rfl
    cases within.1
  refine ensuresBind (ensuresMono ?_ (ensuresActs keeps (fun _ _ => trivial) (handlesEvent self _ _) state))
  intro out c' state'
  cases out with
  | ok writes => exact deliversMark writes state'
  | error error => nofun

theorem deliversSave (own : mine event.txHash) (none : rowsOf c.world event.txHash = 0) (delivered : Delivered mine served c) :
    Delivers mine event (fun out c => ∀ row, out = .ok row → Saved mine served event row c ∧ row.processed = false)
      (saveRawEvent event) c := by
  refine ensuresTransact ?_ ?_
  · intro thread i row after ok _
    refine ⟨trivial,?_⟩
    rintro _ ⟨⟩
    dsimp only at ok
    split at ok
    · contradiction
    · split at ok
      · contradiction
      · split at ok
        · contradiction
        · rename_i made
          cases ok
          exact ⟨savedCreates own none made delivered,rfl⟩
  · exact fun thread i error _ => ⟨trivial,(by simp)⟩

/-- A row of the transaction that is still unprocessed would be one of the delivered ones. -/
theorem noRows (own : mine event.txHash) (delivered : Delivered mine served c)
    (unprocessed : c.world.chainEvents.findFirst (fun row => row.txHash = event.txHash && row.processed) = none) :
    rowsOf c.world event.txHash = 0 := by
  refine List.countP_eq_zero.mpr fun row inside its => ?_
  have here : row.txHash = event.txHash := of_decide_eq_true its
  have done := delivered.processed row inside (here ▸ own)
  have absent := Table.findFirstNone unprocessed (Table.memGet inside)
  simp [here,done] at absent

theorem deliversProcessEvent (delivered : Delivered mine served c) :
    Delivers mine event (fun out c => out = .ok () → Delivered mine (served ++ [event]) c) (processEvent self event) c := by
  refine ensuresBind (ensuresQuery fun thread i own => ⟨trivial,?_⟩)
  have delivered := deliveredReads delivered thread i (fun _ _ => (by simp) : Quiet (.findProcessed event))
  by_cases failed : i.fails = true
  · rw [if_pos failed]
    simp
  · rw [if_neg failed]
    cases found : c.world.chainEvents.findFirst fun row => row.txHash = event.txHash && row.processed with
    | some row =>
      have met := Table.findFirstGet found
      simp only [Bool.and_eq_true,decide_eq_true_eq] at met
      refine fun _ => deliveredAgain own ?_ delivered
      exact Table.countPos.mpr ⟨_,row,met.1,decide_eq_true met.2.1⟩
    | none =>
      have none := noRows own delivered found
      refine ensuresBind (ensuresBind (ensuresQuery fun thread i _ => ⟨trivial,?_⟩))
      have delivered := deliveredReads delivered thread i (fun _ _ => (by simp) : Quiet (.findSaved event))
      dsimp only
      by_cases failed : i.fails = true
      · rw [if_pos failed]
        simp
      · rw [if_neg failed]
        have unsaved : c.world.chainEvents.findFirst (fun row => row.txHash = event.txHash &&
            row.eventName = extractEventName event) = .none := by
          refine List.find?_eq_none.mpr fun row inside its => ?_
          simp only [Bool.and_eq_true] at its
          exact List.countP_eq_zero.mp none row inside its.1
        simp only [Snapshot.recordWorld,unsaved]
        refine ensuresMono ?_ (deliversSave own none delivered)
        intro out c' saved
        cases out with
        | error error => simp
        | ok row =>
          obtain ⟨state,unprocessed⟩ := saved row rfl
          dsimp only
          rw [unprocessed,if_neg Bool.false_ne_true]
          exact deliversHandled self state

end Steps

section Runs

theorem countDisjoint {α : Type} {p q r : α → Bool} (apart : ∀ x, p x = true → q x = false) (left : ∀ x, p x = true → r x = true)
    (right : ∀ x, q x = true → r x = true) (xs : List α) : xs.countP p + xs.countP q ≤ xs.countP r := by
  induction xs with
  | nil => simp
  | cons x xs ih =>
    simp only [List.countP_cons]
    cases mine : p x with
    | true =>
      simp only [apart x mine,left x mine]
      simp
      omega
    | false =>
      cases its : q x with
      | true =>
        simp only [right x its]
        simp
        omega
      | false =>
        simp
        omega

theorem handledTxIff {e : EscrowEvent} {txHash : String} :
    handledTx txHash e = true ↔ ∃ event id, e.site = .markProcessed event id ∧ event.txHash = txHash := by
  unfold handledTx
  split
  · rename_i marked id site
    simp [site]
  · rename_i other
    simp only [Bool.false_eq_true,false_iff,not_exists,not_and]
    intro event id site
    exact absurd site (other event id)

theorem handledIff {e : EscrowEvent} {event : ContractEvent} : handled event e = true ↔ ∃ id, e.site = .markProcessed event id := by
  unfold handled
  split
  · rename_i marked id site
    simp [site,eq_comm]
  · rename_i other
    simp only [Bool.false_eq_true,false_iff,not_exists]
    intro id site
    exact absurd site (other event id)

variable {mine : String → Prop} {served : List ContractEvent} {c : EscrowSnapshot}

theorem onceDistinct (delivered : Delivered mine served c) (once : ∀ event ∈ served, HandledOnce c event) {a b : ContractEvent}
    (servedA : a ∈ served) (servedB : b ∈ served) (same : a.txHash = b.txHash) : a = b := by
  by_contra differ
  obtain ⟨count,bound⟩ := delivered.once a.txHash (delivered.stored a servedA).1
  have two := countDisjoint (p := handled a) (q := handled b) (r := handledTx a.txHash) ?_ ?_ ?_ c.history
  · rw [(once a servedA).1,(once b servedB).1] at two
    omega
  · intro e its
    obtain ⟨id,site⟩ := handledIff.mp its
    rw [← Bool.not_eq_true,handledIff]
    rintro ⟨id',site'⟩
    cases site.symm.trans site'
    exact differ rfl
  · intro e its
    obtain ⟨id,site⟩ := handledIff.mp its
    exact handledTxIff.mpr ⟨a,id,site,rfl⟩
  · intro e its
    obtain ⟨id,site⟩ := handledIff.mp its
    exact handledTxIff.mpr ⟨b,id,site,same.symm⟩

theorem distinctOnce (delivered : Delivered mine served c) (distinct : ∀ a ∈ served, ∀ b ∈ served, a.txHash = b.txHash → a = b)
    {event : ContractEvent} (inside : event ∈ served) : HandledOnce c event := by
  obtain ⟨own,stored⟩ := delivered.stored event inside
  obtain ⟨count,bound⟩ := delivered.once event.txHash own
  have one : c.history.countP (handledTx event.txHash) = 1 := by omega
  have only : ∀ e ∈ c.history, handled event e = true ↔ handledTx event.txHash e = true := by
    intro e there
    rw [handledIff,handledTxIff]
    constructor
    · rintro ⟨id,site⟩
      exact ⟨event,id,site,rfl⟩
    · rintro ⟨other,id,site,same⟩
      have its := (delivered.marked e there other id site).1
      exact ⟨id,distinct other its event inside same ▸ site⟩
  refine ⟨(List.countP_congr only).trans one,?_⟩
  obtain ⟨e,there,its⟩ := List.countP_pos_iff.mp (one ▸ Nat.one_pos)
  obtain ⟨id,site⟩ := handledIff.mp ((only e there).mpr its)
  exact (delivered.marked e there event id site).2

def Listed (events : List ContractEvent) (txHash : String) : Prop := ∃ event ∈ events, event.txHash = txHash

theorem beginsDelivered {db : Db} {events : List ContractEvent}
    (new : ∀ row ∈ db.chainEvents.rows, ∀ event ∈ events, row.txHash ≠ event.txHash) : Delivered (Listed events) [] ⟨db,[]⟩ := by
  refine ⟨?_,?_,fun _ inside => absurd inside List.not_mem_nil,fun _ inside => absurd inside List.not_mem_nil⟩
  · rintro row inside ⟨event,listed,same⟩
    exact absurd same.symm (new row inside event listed)
  · rintro txHash ⟨event,listed,rfl⟩
    have none : rowsOf db event.txHash = 0 :=
      List.countP_eq_zero.mpr fun row inside its => new row inside event listed (of_decide_eq_true its)
    simp [none]

theorem turnsDeliver (db : Db) (deliveries : List Delivery)
    (new : ∀ row ∈ db.chainEvents.rows, ∀ event ∈ System.requests deliveries, row.txHash ≠ event.txHash)
    (returned : ∀ t ∈ ((service self).turns (Pool.initial db) deliveries).threads, t.process = .ret ()) :
    Delivered (Listed (System.requests deliveries)) (System.requests deliveries)
      ((service self).turns (Pool.initial db) deliveries).snapshot := by
  have requests : ((service self).turns (Pool.initial db) deliveries).threads.map Thread.request = System.requests deliveries :=
    ((service self).turnsRequests (Pool.initial db) deliveries).trans (List.nil_append _)
  have meets : Meets (fun event _ _ => Listed (System.requests deliveries) event.txHash)
      ((service self).turns (Pool.initial db) deliveries) := by
    refine meetsAlways (fun earlier e => ?_) _
    intro t there
    exact ⟨t.request,requests ▸ List.mem_map_of_mem (List.mem_of_getElem? there),rfl⟩
  have ends : ∀ t ∈ ((service self).turns (Pool.initial db) deliveries).threads,
      ∃ out, t.process = Process.ofExcept out ∧ out = .ok () := fun t inside => ⟨.ok (),returned t inside,rfl⟩
  have begin : Delivered (Listed (System.requests deliveries))
      ((Pool.initial db : Pool ContractEvent Site Answer Db Exception Unit).threads.map Thread.request)
      (Pool.initial db : Pool ContractEvent Site Answer Db Exception Unit).snapshot := beginsDelivered new
  have fin := turnsEnd (J := Delivered (Listed (System.requests deliveries))) (fun served event c delivered => deliversProcessEvent self delivered)
    (fun elapsed served c delivered => ⟨delivered.processed,delivered.once,delivered.stored,delivered.marked⟩)
    begin deliveries meets ends
  rwa [requests] at fin

/-- Delivering events in turn, each any number of times, handles each exactly once
just when no two of them come from one transaction. -/
theorem handledOnceIff (db : Db) (deliveries : List Delivery)
    (new : ∀ row ∈ db.chainEvents.rows, ∀ event ∈ System.requests deliveries, row.txHash ≠ event.txHash)
    (returned : ∀ t ∈ ((service self).turns (Pool.initial db) deliveries).threads, t.process = .ret ()) :
    (∀ event ∈ System.requests deliveries, HandledOnce ((service self).turns (Pool.initial db) deliveries).snapshot event) ↔
    ∀ a ∈ System.requests deliveries, ∀ b ∈ System.requests deliveries, a.txHash = b.txHash → a = b := by
  have delivered := turnsDeliver self db deliveries new returned
  constructor
  · exact fun once a servedA b servedB same => onceDistinct delivered once servedA servedB same
  · exact fun distinct event inside => distinctOnce delivered distinct inside

-- a delivery that handles its event
def delivered (event : ContractEvent) (id : String) : Delivery :=
  .serve event [{},{},{ text := id },{},{},{},{}]

-- a delivery that is skipped
def replayed (event : ContractEvent) : Delivery := .serve event [{}]

def twoTransactions : List Delivery :=
  [delivered (created 5 "t1" "e1") "r1",replayed (created 5 "t1" "e1"),delivered (created 5 "t2" "e2") "r2",
    replayed (created 5 "t1" "e1")]

def oneTransaction : List Delivery := [delivered (created 5 "t1" "e1") "r1",replayed (created 5 "t1" "e2")]

theorem handledOnceEach :
    HandledOnce ((service {}).turns (Pool.initial listening) twoTransactions).snapshot (created 5 "t1" "e1") ∧
    HandledOnce ((service {}).turns (Pool.initial listening) twoTransactions).snapshot (created 5 "t2" "e2") := by
  have ended : ∀ t ∈ ((service {}).turns (Pool.initial listening) twoTransactions).threads, t.process.returned = some () := by
    decide +kernel
  have once := (handledOnceIff {} listening twoTransactions (fun row inside => absurd inside List.not_mem_nil)
    fun t inside => Process.returnedEq (ended t inside)).mpr (by decide)
  exact ⟨once _ (by decide),once _ (by decide)⟩

/-- The second event of a transaction is skipped. -/
theorem handledForOther :
    (∀ t ∈ ((service {}).turns (Pool.initial listening) oneTransaction).threads, t.process.returned = some ()) ∧
    ¬ ∀ event ∈ System.requests oneTransaction,
      HandledOnce ((service {}).turns (Pool.initial listening) oneTransaction).snapshot event := by
  refine ⟨by decide +kernel,fun once => ?_⟩
  have never : ((service {}).turns (Pool.initial listening) oneTransaction).snapshot.history.countP
      (handled (created 5 "t1" "e2")) = 0 := by decide +kernel
  have twice := (once (created 5 "t1" "e2") (by decide)).1
  omega

end Runs

end HireSettle.Escrow.EventDelivery
