import HireSettle.Escrow.CallEffects
import HireSettle.Workflow.Facts

/-! Polling the events of the contract. A poll fetches a page from the cursor on and
moves the cursor behind the ledger of each event it has processed. An event that
the cursor has passed is lost unless it was processed or has a row of its own. -/
namespace HireSettle.Escrow.EventPolling
open Workflow EventsService

/-- The row stores the event, whatever has become of it since. -/
def Records (event : ContractEvent) (row : ChainEvent) : Prop :=
  rawEvent event row.id row.createdAt = { row with processed := false, retryCount := 0, lastErrorAt := none }

instance (event : ContractEvent) (row : ChainEvent) : Decidable (Records event row) := inferInstanceAs (Decidable (_ = _))

def Recorded (db : Db) (event : ContractEvent) : Prop := ∃ row ∈ db.chainEvents.rows, Records event row

instance (db : Db) (event : ContractEvent) : Decidable (Recorded db event) := inferInstanceAs (Decidable (∃ row ∈ _, _))

/-- The transaction of the event commits: its handler is done and its row is marked. -/
def Marks (event : ContractEvent) (e : EscrowEvent) : Prop :=
  ∃ id, e.site = .markProcessed event id ∧ e.answer.fails = false ∧ e.before.chainEvents.get? id ≠ none

def Processed (db₀ : Db) (history : List EscrowEvent) (event : ContractEvent) : Prop :=
  (∃ row ∈ db₀.chainEvents.rows, Records event row ∧ row.processed = true) ∨ ∃ e ∈ history, Marks event e

def Waits (db : Db) (event : ContractEvent) : Prop :=
  ∃ row ∈ db.chainEvents.rows, Records event row ∧ row.processed = false

/-- The rows that a look-up by the transaction hash finds are the event's own, no other
event of the chain has the same record, and the cursor leaves a ledger when all its
other events have a row. -/
def TellsApart (chain : List ContractEvent) (e : EscrowEvent) : Prop :=
  match e.site with
  | .findProcessed event =>
      (e.before.chainEvents.findFirst fun row => row.txHash = event.txHash && row.processed).isSome → Recorded e.before event
  | .findSaved event =>
      (∀ row ∈ e.before.chainEvents.findFirst fun row => row.txHash = event.txHash && row.eventName = extractEventName event,
        Records event row) ∧ ∀ other ∈ chain, rawEvent other "" 0 = rawEvent event "" 0 → other = event
  | .advance event => ∀ other ∈ chain, other.ledger = event.ledger → other = event ∨ Recorded e.before other
  | _ => True

instance (chain : List ContractEvent) (e : EscrowEvent) : Decidable (TellsApart chain e) := by
  unfold TellsApart
  generalize e.site = site
  induction site using Site.casesOn <;> infer_instance

/-- What a poll knows: an event has a row under an id, the cursor has reached a ledger. -/
inductive Fact where
  | stored (id : String) (event : ContractEvent)
  | reached (ledger : Nat)

def Holds (c : EscrowSnapshot) : Fact → Prop
  | .stored id event => ∃ row, c.world.chainEvents.get? id = some row ∧ Records event row
  | .reached ledger => ledger ≤ c.world.lastProcessedLedger

structure Accounted (chain : List ContractEvent) (db₀ : Db) (c : EscrowSnapshot) : Prop where
  processed : ∀ event ∈ chain, ∀ row ∈ c.world.chainEvents.rows, Records event row → row.processed = true →
    Processed db₀ c.history event
  passed : ∀ event ∈ chain, db₀.lastProcessedLedger ≤ event.ledger → event.ledger < c.world.lastProcessedLedger →
    Recorded c.world event

def polling (chain : List ContractEvent) (db₀ : Db) : Knowledge Site Answer Db Unit Fact where
  base c _ := Accounted chain db₀ c
  holds := Holds
  admits _ := TellsApart chain

section Rows

variable {chain : List ContractEvent} {db₀ db' : Db} {c : EscrowSnapshot} {thread : Nat} {site : Site} {i : Answer}

theorem processedLater {event : ContractEvent} (processed : Processed db₀ c.history event) :
    Processed db₀ (c.record thread site i db').history event :=
  processed.imp_right fun ⟨e,inside,marks⟩ => ⟨e,List.mem_cons_of_mem _ inside,marks⟩

theorem accountedSame (same : SameEvents c.world db') (accounted : Accounted chain db₀ c) :
    Accounted chain db₀ (c.record thread site i db') := by
  refine ⟨?_,?_⟩
  · intro event listed row inside records done
    rw [Snapshot.recordWorld,same.chainEvents] at inside
    exact processedLater (accounted.processed event listed row inside records done)
  · intro event listed from' passed
    rw [Snapshot.recordWorld,same.lastProcessedLedger] at passed
    rw [Recorded,Snapshot.recordWorld,same.chainEvents]
    exact accounted.passed event listed from' passed

theorem remembersSame (same : SameEvents c.world db') : (polling chain db₀).Remembers c (c.record thread site i db') := by
  intro fact true
  cases fact with
  | stored id event =>
    obtain ⟨row,found,records⟩ := true
    exact ⟨row,by rwa [Snapshot.recordWorld,same.chainEvents],records⟩
  | reached ledger =>
    show ledger ≤ db'.lastProcessedLedger
    rw [same.lastProcessedLedger]
    exact true

theorem contractSame (same : SameEvents c.world db') {held : Unit × Multiset Fact}
    (inv : (polling chain db₀).contract.inv c held) : (polling chain db₀).contract.inv (c.record thread site i db') held :=
  ⟨accountedSame same inv.1,fun fact inside => remembersSame same fact (inv.2 fact inside)⟩

theorem recordsMarked {event : ContractEvent} {row : ChainEvent} :
    Records event { row with processed := true } ↔ Records event row := Iff.rfl

theorem recordsOne {event other : ContractEvent} {row : ChainEvent} (mine : Records event row) (its : Records other row) :
    rawEvent other "" 0 = rawEvent event "" 0 := by
  have same : rawEvent other row.id row.createdAt = rawEvent event row.id row.createdAt := its.trans mine.symm
  simp only [rawEvent,ChainEvent.mk.injEq] at same ⊢
  exact ⟨trivial,same.2.1,same.2.2.1,same.2.2.2.1,same.2.2.2.2.1,same.2.2.2.2.2.1,trivial,trivial,trivial,trivial⟩

end Rows

section Polls

variable {chain : List ContractEvent} {db₀ : Db} {known : Multiset Fact} (self : Config)

theorem safeHandles {α : Type} {done : Except Exception α → Unit × Multiset Fact → Prop} {p : Op α} (handles : Handles p)
    (fin : ∀ out, done out ((),known)) : Safe (polling chain db₀).contract done p ((),known) :=
  safeActs (fun _ _ _ _ _ _ within _ inv => contractSame (handlesSameEvents within) inv) handles fin

/-- The event has a row, and nothing was forgotten. -/
def Keeps (known : Multiset Fact) (event : ContractEvent) (held : Unit × Multiset Fact) : Prop :=
  (∃ id, Fact.stored id event ∈ held.2) ∧ known ⊆ held.2

def Saves (chain : List ContractEvent) (known : Multiset Fact) (event : ContractEvent) (out : Except Exception ChainEvent)
    (held : Unit × Multiset Fact) : Prop :=
  ∀ row, out = .ok row → Fact.stored row.id event ∈ held.2 ∧ known ⊆ held.2 ∧
    ∀ other ∈ chain, rawEvent other "" 0 = rawEvent event "" 0 → other = event

theorem safeSaveRawEvent {event : ContractEvent}
    (lone : ∀ other ∈ chain, rawEvent other "" 0 = rawEvent event "" 0 → other = event) :
    Safe (polling chain db₀).contract (Saves chain known event) (saveRawEvent event) ((),known) := by
  refine Knowledge.safeTransact ?_ ?_
  · intro c frame thread i row after accounted facts ok meets
    dsimp only at ok
    split at ok
    · contradiction
    · split at ok
      · contradiction
      · split at ok
        · contradiction
        · rename_i chainEvents made
          cases ok
          have mine : Records event (rawEvent event i.text c.world.clock) := rfl
          have inside := (Table.memCreate made).mpr (Or.inr rfl)
          refine ⟨(),⟨?_,?_⟩,?_,Knowledge.learnsFact (.stored _ event) ⟨_,Table.memGet inside,mine⟩ ?_⟩
          · intro other listed row inside records done
            rcases (Table.memCreate made).mp inside with old | rfl
            · exact processedLater (accounted.processed other listed row old records done)
            · cases done
          · intro other listed from' passed
            obtain ⟨row,old,records⟩ := accounted.passed other listed from' passed
            exact ⟨row,(Table.memCreate made).mpr (Or.inl old),records⟩
          · intro fact true
            cases fact with
            | stored id other =>
              obtain ⟨row,found,records⟩ := true
              refine ⟨row,?_,records⟩
              exact Table.getKey found ▸ Table.memGet ((Table.memCreate made).mpr (Or.inl (Table.getMem found)))
            | reached ledger => exact true
          · rintro row ⟨⟩
            exact ⟨Multiset.mem_cons_self _ _,Multiset.subset_cons _ _,lone⟩
  · intro c frame thread i error accounted facts _ _
    exact ⟨(),accountedSame ⟨rfl,rfl,rfl⟩ accounted,remembersSame ⟨rfl,rfl,rfl⟩,Knowledge.learnsNothing (by rintro row ⟨⟩)⟩

theorem safeSavedEvent (event : ContractEvent) :
    Safe (polling chain db₀).contract (Saves chain known event) (savedEvent event) ((),known) := by
  refine safeBind (Knowledge.safeQuery fun c frame thread i accounted facts meets => ?_)
  refine ⟨(),accountedSame ⟨rfl,rfl,rfl⟩ accounted,remembersSame ⟨rfl,rfl,rfl⟩,?_⟩
  obtain ⟨own,lone⟩ := meets
  dsimp only
  by_cases failed : i.fails = true
  · rw [if_pos failed]
    exact Knowledge.learnsNothing nofun
  · rw [if_neg failed]
    cases found : c.world.chainEvents.findFirst fun row => row.txHash = event.txHash && row.eventName = extractEventName event with
    | none => exact Knowledge.learnsNothing (safeSaveRawEvent lone)
    | some row =>
      refine Knowledge.learnsFact (.stored row.id event) ⟨row,(Table.findFirstGet found).1,own row found⟩ ?_
      rintro row' ⟨⟩
      exact ⟨Multiset.mem_cons_self _ _,Multiset.subset_cons _ _,lone⟩

theorem safeMarkProcessed {event : ContractEvent} {chainEvent : ChainEvent} (writes : TxWrites)
    (stored : Fact.stored chainEvent.id event ∈ known)
    (lone : ∀ other ∈ chain, rawEvent other "" 0 = rawEvent event "" 0 → other = event) :
    Safe (polling chain db₀).contract (fun _ held => held = ((),known)) (markProcessed event chainEvent writes) ((),known) := by
  refine Knowledge.safeTransact ?_ ?_
  · intro c frame thread i _ after accounted facts ok meets
    obtain ⟨row,found,mine⟩ := facts _ stored
    have stays : ∀ r : ChainEvent, Keyed.key { r with processed := true } = Keyed.key r := fun _ => rfl
    split at ok
    · contradiction
    · rename_i answered
      dsimp only at ok
      split at ok
      · contradiction
      · rename_i marked chainEvents modified
        obtain ⟨_,_,_,rfl⟩ := Table.modifyGet modified
        cases ok
        refine ⟨(),⟨?_,?_⟩,?_,Knowledge.learnsNothing rfl⟩
        · intro other listed row' inside records done
          obtain ⟨old,there,rfl⟩ := (Table.memUpdateMany stays).mp inside
          split at records
          · rename_i here
            have same : old = row := by
              have got := Table.memGet there
              rw [of_decide_eq_true here,found] at got
              exact (Option.some.inj got).symm
            rw [lone other listed (recordsOne mine (same ▸ recordsMarked.mp records))]
            exact Or.inr ⟨_,List.mem_cons_self,chainEvent.id,rfl,Bool.eq_false_iff.mpr answered,by simp [Snapshot.event,found]⟩
          · rename_i elsewhere
            rw [if_neg elsewhere] at done
            exact processedLater (accounted.processed other listed old there records done)
        · intro other listed from' passed
          obtain ⟨old,there,records⟩ := accounted.passed other listed from' passed
          refine ⟨_,(Table.memUpdateMany stays).mpr ⟨old,there,rfl⟩,?_⟩
          split
          · exact recordsMarked.mpr records
          · exact records
        · intro fact true
          cases fact with
          | stored id other =>
            obtain ⟨old,there,records⟩ := true
            by_cases here : id = chainEvent.id
            · subst here
              exact ⟨_,Table.getUpdateSelf there _ stays,recordsMarked.mpr records⟩
            · exact ⟨old,(Table.getUpdateOther _ here _ stays).trans there,records⟩
          | reached ledger => exact true
  · intro c frame thread i error accounted facts _ _
    exact ⟨(),accountedSame ⟨rfl,rfl,rfl⟩ accounted,remembersSame ⟨rfl,rfl,rfl⟩,Knowledge.learnsNothing rfl⟩

theorem safeProcessEvent (event : ContractEvent) :
    Safe (polling chain db₀).contract (fun out held => ∀ value, out = .ok value → Keeps known event held)
      (processEvent self event) ((),known) := by
  refine safeBind (Knowledge.safeQuery fun c frame thread i accounted facts meets => ?_)
  refine ⟨(),accountedSame ⟨rfl,rfl,rfl⟩ accounted,remembersSame ⟨rfl,rfl,rfl⟩,?_⟩
  dsimp only
  by_cases failed : i.fails = true
  · rw [if_pos failed]
    exact Knowledge.learnsNothing (by simp)
  · rw [if_neg failed]
    cases found : c.world.chainEvents.findFirst fun row => row.txHash = event.txHash && row.processed with
    | some processed =>
      obtain ⟨row,inside,records⟩ := meets (by simp [Snapshot.event,found])
      refine Knowledge.learnsFact (.stored row.id event) ⟨row,Table.memGet inside,records⟩ ?_
      exact fun _ _ => ⟨⟨_,Multiset.mem_cons_self _ _⟩,Multiset.subset_cons _ _⟩
    | none =>
      refine Knowledge.learnsNothing (safeBind (safeMono ?_ (safeSavedEvent event)))
      rintro out ⟨_,knows⟩ saved
      cases out with
      | error error => simp
      | ok chainEvent =>
        obtain ⟨stored,subset,lone⟩ := saved chainEvent rfl
        have fin : Keeps known event ((),knows) := ⟨⟨_,stored⟩,subset⟩
        dsimp only
        split
        · exact fun _ _ => fin
        · refine safeBind (safeHandles (handlesEvent self _ _) fun written => ?_)
          cases written with
          | error error => simp
          | ok writes =>
            refine safeMono ?_ (safeMarkProcessed writes stored lone)
            rintro _ _ rfl _ _
            exact fin

/-- The chain from a ledger on begins with the rest of the page. -/
def Ahead (chain : List ContractEvent) (ledger : Nat) (rest : List ContractEvent) : Prop :=
  ∃ beyond, (rest ++ beyond).Pairwise (fun a b => a.ledger ≤ b.ledger) ∧
    ∀ event ∈ chain, ledger ≤ event.ledger → event ∈ rest ++ beyond

theorem aheadPage (ordered : chain.Pairwise fun a b => a.ledger ≤ b.ledger) (ledger : Nat) :
    Ahead chain ledger (StellarService.page chain ledger) := by
  refine ⟨(chain.filter fun event => ledger ≤ event.ledger).drop 100,?_,?_⟩
  · rw [StellarService.page,List.take_append_drop]
    exact ordered.filter _
  · intro event listed from'
    rw [StellarService.page,List.take_append_drop]
    exact List.mem_filter.mpr ⟨listed,by simpa using from'⟩

theorem aheadNext {ledger : Nat} {event : ContractEvent} {rest : List ContractEvent} (ahead : Ahead chain ledger (event :: rest)) :
    Ahead chain (max ledger (event.ledger + 1)) rest := by
  obtain ⟨beyond,ordered,covers⟩ := ahead
  refine ⟨beyond,(List.pairwise_cons.mp ordered).2,fun other listed from' => ?_⟩
  rcases List.mem_cons.mp (covers other listed (by omega)) with rfl | later
  · omega
  · exact later

/-- No event of the chain lies between the cursor and the head of the page. -/
theorem aheadHead {ledger : Nat} {event : ContractEvent} {rest : List ContractEvent} (ahead : Ahead chain ledger (event :: rest))
    {other : ContractEvent} (listed : other ∈ chain) (from' : ledger ≤ other.ledger) : event.ledger ≤ other.ledger := by
  obtain ⟨beyond,ordered,covers⟩ := ahead
  rcases List.mem_cons.mp (covers other listed from') with rfl | later
  · exact le_rfl
  · exact (List.pairwise_cons.mp ordered).1 other later

theorem safeAdvance {ledger : Nat} {event : ContractEvent} {rest : List ContractEvent} (ahead : Ahead chain ledger (event :: rest))
    (keeps : ∃ id, Fact.stored id event ∈ known) (reached : Fact.reached ledger ∈ known) :
    Safe (polling chain db₀).contract (fun _ held => Fact.reached (max ledger (event.ledger + 1)) ∈ held.2)
      (advance event) ((),known) := by
  refine Knowledge.safeTransact ?_ ?_
  · intro c frame thread i _ after accounted facts ok meets
    cases ok
    obtain ⟨id,stored⟩ := keeps
    obtain ⟨row,found,mine⟩ := facts _ stored
    have here : ledger ≤ c.world.lastProcessedLedger := facts _ reached
    refine ⟨(),⟨?_,?_⟩,?_,Knowledge.learnsFact (.reached (max ledger (event.ledger + 1))) ?_ (Multiset.mem_cons_self _ _)⟩
    · intro other listed row inside records done
      exact processedLater (accounted.processed other listed row inside records done)
    · intro other listed from' passed
      show Recorded c.world other
      by_cases before : other.ledger < c.world.lastProcessedLedger
      · exact accounted.passed other listed from' before
      · -- the cursor has not passed this ledger yet, so the page continues with it
        have head := aheadHead ahead listed (by omega)
        have level : other.ledger = event.ledger := by
          have bound : other.ledger < max c.world.lastProcessedLedger (event.ledger + 1) := passed
          omega
        rcases meets other listed level with rfl | recorded
        · exact ⟨row,Table.getMem found,mine⟩
        · exact recorded
    · intro fact true
      cases fact with
      | stored id other => exact true
      | reached n => exact le_trans true (le_max_left _ _)
    · show max ledger (event.ledger + 1) ≤ max c.world.lastProcessedLedger (event.ledger + 1)
      omega
  · intro c frame thread i error accounted facts failed _
    cases failed

theorem safePage (page : List ContractEvent) {ledger : Nat} (ahead : Ahead chain ledger page)
    (reached : Fact.reached ledger ∈ known) :
    Safe (polling chain db₀).contract anyEnd (Process.forEach (pollEach self) page) ((),known) := by
  induction page generalizing ledger known with
  | nil => trivial
  | cons event rest ih =>
    refine safeBind (safeBind (safeMono ?_ (safeProcessEvent self event)))
    rintro out ⟨_,knows⟩ kept
    cases out with
    | error error => trivial
    | ok value =>
      obtain ⟨stored,subset⟩ := kept value rfl
      refine safeMono ?_ (safeAdvance ahead stored (subset reached))
      rintro out ⟨_,knows'⟩ reached'
      cases out with
      | error error => trivial
      | ok value => exact ih (aheadNext ahead) reached'

theorem safePollEvents (ordered : self.chain.Pairwise fun a b => a.ledger ≤ b.ledger) :
    Safe (polling self.chain db₀).contract anyEnd (pollEvents self) ((),known) := by
  have reads : ∀ {α : Type} {p : Op α}, Reads Site.reads p → Harmless (polling self.chain db₀).contract p :=
    fun reads _ => safeHandles (handlesReads reads) fun _ => trivial
  refine harmlessBind (reads (readsQuery rfl _)) (fun locked => ?_) _
  split
  · exact fun _ => trivial
  · refine harmlessBind (harmlessHandle ?_ fun _ _ => trivial) fun _ => reads (readsQuery rfl _)
    rintro ⟨_,known⟩
    refine safeBind (Knowledge.safeQuery fun c frame thread i accounted facts meets => ?_)
    refine ⟨(),accountedSame ⟨rfl,rfl,rfl⟩ accounted,remembersSame ⟨rfl,rfl,rfl⟩,?_⟩
    refine Knowledge.learnsFact (.reached c.world.lastProcessedLedger) (le_refl c.world.lastProcessedLedger) ?_
    dsimp only
    split
    · exact trivial
    · exact safePage self _ (aheadPage ordered _) (Multiset.mem_cons_self _ _)

end Polls

section Runs

variable (self : Config)

def service : System Unit Nat Site Answer Db Exception Unit where
  handler _ := pollEvents self
  environment elapsed db := { db with clock := db.clock + elapsed }

abbrev PollMove := Move Unit Nat Answer

/-- In every run of the poller in which the events of the chain are told apart, each
event that the cursor has passed was processed or waits in a row of its own. -/
theorem noEventLost (ordered : self.chain.Pairwise fun a b => a.ledger ≤ b.ledger) (db : Db) (moves : List PollMove)
    (apart : AllMeet (fun _ => TellsApart self.chain) ((service self).run (Pool.initial db) moves).history)
    (event : ContractEvent) (listed : event ∈ self.chain) (from' : db.lastProcessedLedger ≤ event.ledger)
    (passed : event.ledger < ((service self).run (Pool.initial db) moves).world.lastProcessedLedger) :
    Processed db ((service self).run (Pool.initial db) moves).history event ∨
      Waits ((service self).run (Pool.initial db) moves).world event := by
  have begin : Secured (polling self.chain db).contract (fun _ => anyEnd) (Pool.initial db : Pool Unit Site Answer Db Exception Unit) := by
    refine securedInitial (K := (polling self.chain db).contract) ⟨⟨?_,?_⟩,by simp⟩
    · exact fun event _ row inside records done => Or.inl ⟨row,inside,records,done⟩
    · exact fun event _ from' passed => absurd passed (Nat.not_lt.mpr from')
  have ticks : ∀ elapsed c held, (polling self.chain db).contract.inv c held →
      (polling self.chain db).contract.inv { c with world := (service self).environment elapsed c.world } held := by
    rintro elapsed c held ⟨⟨processed,passed⟩,facts⟩
    refine ⟨⟨processed,passed⟩,fun fact inside => ?_⟩
    have true := facts fact inside
    cases fact <;> exact true
  have secured := securedRun (fun _ => safePollEvents self ordered) ticks begin moves apart
  obtain ⟨_,accounted⟩ := Knowledge.securedBase secured
  obtain ⟨row,inside,records⟩ := accounted.passed event listed from' passed
  cases done : row.processed with
  | true => exact Or.inl (accounted.processed event listed row inside records done)
  | false => exact Or.inr ⟨row,inside,records,done⟩

def created (ledger : Nat) (txHash engagementId : String) : ContractEvent :=
  { ledger := ledger, txHash := txHash, topic := ["engagement_created"], value := .text engagementId }

def engaged (id : String) : Engagement :=
  { id := id, companyAddress := "GC", recruiterAddress := "GR", arbiterAddress := "GA", totalAmount := 1000 }

def engagements : Table Engagement := ⟨[engaged "e1",engaged "e2"],by decide⟩

def listening : Db := { engagements := engagements, lastProcessedLedger := 5 }

-- a poll that has processed its first event and moved the cursor
def polledOne : List PollMove :=
  [.start ()] ++ answered 0 [{},{},{},{},{ text := "r1" },{},{},{},{},{}]

-- the next event fails at its first call, and the next poll goes on from the cursor
def polledAgain : List PollMove :=
  polledOne ++ answered 0 [{ fails := true },{}] ++ [.start ()] ++ answered 1 (List.replicate 3 {})

def spaced : Config := { chain := [created 5 "t1" "e1",created 6 "t2" "e2"] }

def level : Config := { chain := [created 5 "t1" "e1",created 5 "t2" "e2"] }

theorem spacedEventKept :
    Processed listening ((service spaced).run (Pool.initial listening) polledAgain).history (created 5 "t1" "e1") ∨
      Waits ((service spaced).run (Pool.initial listening) polledAgain).world (created 5 "t1" "e1") := by
  have apart : AllMeet (fun _ => TellsApart spaced.chain) ((service spaced).run (Pool.initial listening) polledAgain).history := by
    decide +kernel
  have passed : (created 5 "t1" "e1").ledger < ((service spaced).run (Pool.initial listening) polledAgain).world.lastProcessedLedger := by
    decide +kernel
  exact noEventLost spaced (by decide) listening polledAgain apart (created 5 "t1" "e1") (by decide) (by decide) passed

/-- The second event of a ledger is lost when its processing fails after the first has moved the cursor. -/
theorem levelEventLost :
    (created 5 "t2" "e2").ledger < ((service level).run (Pool.initial listening) polledAgain).world.lastProcessedLedger ∧
    ¬ (Processed listening ((service level).run (Pool.initial listening) polledAgain).history (created 5 "t2" "e2") ∨
      Waits ((service level).run (Pool.initial listening) polledAgain).world (created 5 "t2" "e2")) := by
  have unmarked : ((service level).run (Pool.initial listening) polledAgain).history.all fun e => match e.site with
      | .markProcessed event _ => event ≠ created 5 "t2" "e2"
      | _ => true := by decide +kernel
  have unsaved : ((service level).run (Pool.initial listening) polledAgain).world.chainEvents.rows.all fun row =>
      row.txHash ≠ "t2" := by decide +kernel
  refine ⟨by decide +kernel,?_⟩
  rintro ((⟨row,inside,_⟩ | ⟨e,inside,id,site,_⟩) | ⟨row,inside,records,_⟩)
  · cases inside
  · have other := List.all_eq_true.mp unmarked e inside
    simp [site] at other
  · have other := List.all_eq_true.mp unsaved row inside
    have same := congrArg ChainEvent.txHash records
    exact absurd same.symm (of_decide_eq_true other)

end Runs

end HireSettle.Escrow.EventPolling
