import HireSettle.Escrow.HorizonIndexer

/-! What the indexer has stored. An event behind the cursor has a row if no page has ended
within a ledger and no event was taken for another one of its transaction. A backfill
stores the first event of each transaction hash and name on its page, and no other. -/
namespace HireSettle.Escrow.HorizonIndexer
open Workflow

abbrev IndexEvent := Event Site Answer World

abbrev IndexSnapshot := Snapshot Site Answer World

/-- The row tells the event's name, ledger, transaction and payload. -/
def Records (event : ContractEvent) (row : ChainEvent) : Prop :=
  row.eventName = extractEventName event ∧ row.ledger = event.ledger ∧ row.txHash = event.txHash ∧ row.payload = payloadOf event

def Recorded (w : World) (event : ContractEvent) : Prop := ∃ row ∈ w.chainEvents.rows, Records event row

instance (event : ContractEvent) (row : ChainEvent) : Decidable (Records event row) := inferInstanceAs (Decidable (_ ∧ _ ∧ _ ∧ _))

instance (w : World) (event : ContractEvent) : Decidable (Recorded w event) := inferInstanceAs (Decidable (∃ row ∈ _, _))

/-- The ledgers at which indexing has begun: the stored cursor, or what an empty store was given. -/
def Begins (w₀ : World) (history : List IndexEvent) (ledger : Nat) : Prop :=
  w₀.horizonLastLedger = some ledger ∨ ∃ e ∈ history, e.site = .initialise ledger ∧ e.answer.fails = false

def Since (w₀ : World) (history : List IndexEvent) (event : ContractEvent) : Prop := ∀ ledger, Begins w₀ history ledger → ledger ≤ event.ledger

/-- The page from a ledger on ends with its last ledger. -/
def EndsLedger (chain : List ContractEvent) (fromLedger : Nat) : Prop :=
  ∀ later ∈ (chain.filter fun event => fromLedger ≤ event.ledger).drop 100,
    ∀ event ∈ page (chain.filter fun event => fromLedger ≤ event.ledger), event.ledger < later.ledger

/-- No page ends within a ledger, and the row that stands for an event is its own. -/
def Separates (chain : List ContractEvent) (e : IndexEvent) : Prop :=
  match e.site with
  | .fetchContractEvents fromLedger => EndsLedger chain fromLedger
  | .findStored event => ∀ row ∈ e.before.chainEvents.findFirst (sameKey event), Records event row
  | _ => True

instance (chain : List ContractEvent) (e : IndexEvent) : Decidable (Separates chain e) := by
  unfold Separates EndsLedger
  split <;> infer_instance

section Indexing

inductive Fact where
  | recorded (event : ContractEvent)
  | passed (ledger : Nat)

def Holds (chain : List ContractEvent) (w₀ : World) (c : IndexSnapshot) : Fact → Prop
  | .recorded event => Recorded c.world event
  | .passed ledger => ∀ event ∈ chain, Since w₀ c.history event → event.ledger < ledger → Recorded c.world event

def Passed (chain : List ContractEvent) (w₀ : World) (c : IndexSnapshot) : Prop :=
  ∀ cursor, c.world.horizonLastLedger = some cursor → Holds chain w₀ c (.passed cursor)

def indexing (chain : List ContractEvent) (w₀ : World) : Knowledge Site Answer World Unit Fact where
  base c _ := Passed chain w₀ c
  holds := Holds chain w₀
  admits _ := Separates chain

variable {chain : List ContractEvent} {w₀ : World} {c : IndexSnapshot} {known : Multiset Fact} {thread : Nat} {site : Site} {i : Answer}

def Grows (w w' : World) : Prop := ∀ row ∈ w.chainEvents.rows, row ∈ w'.chainEvents.rows

theorem recordedGrows {w w' : World} (grows : Grows w w') {event : ContractEvent} (recorded : Recorded w event) : Recorded w' event := by
  obtain ⟨row,inside,records⟩ := recorded
  exact ⟨row,grows row inside,records⟩

theorem sinceEarlier {e : IndexEvent} {history : List IndexEvent} {event : ContractEvent} (since : Since w₀ (e :: history) event) :
    Since w₀ history event :=
  fun ledger begins => since ledger (begins.imp_right fun ⟨e,inside,site⟩ => ⟨e,List.mem_cons_of_mem _ inside,site⟩)

theorem remembersGrows {w' : World} (grows : Grows c.world w') : (indexing chain w₀).Remembers c (c.record thread site i w') := by
  intro fact true
  cases fact with
  | recorded event => exact recordedGrows grows true
  | passed ledger => exact fun event listed since before => recordedGrows grows (true event listed (sinceEarlier since) before)

theorem passedGrows {w' : World} (grows : Grows c.world w') (cursor : w'.horizonLastLedger = c.world.horizonLastLedger)
    (passed : Passed chain w₀ c) : Passed chain w₀ (c.record thread site i w') := by
  intro ledger stored
  exact remembersGrows grows (.passed ledger) (passed ledger (cursor.symm.trans stored))

theorem leavesSame {w' : World} {frame : Unit} {done : Unit → Multiset Fact → Prop} (grows : Grows c.world w')
    (cursor : w'.horizonLastLedger = c.world.horizonLastLedger) (passed : Passed chain w₀ c)
    (learns : (indexing chain w₀).Learns (c.record thread site i w') known (done ())) :
    (indexing chain w₀).Leaves c (c.record thread site i w') frame known done :=
  ⟨(),passedGrows grows cursor passed,remembersGrows grows,learns⟩

theorem growsStay (w : World) : Grows w w := fun _ inside => inside

theorem safeAsks {f : Answer → World → Except Failure α} {done : Except Failure α → Unit × Multiset Fact → Prop}
    (answered : ∀ i w, done (f i w) ((),known)) : Safe (indexing chain w₀).contract done (Process.query site f) ((),known) :=
  Knowledge.safeQuery fun c _ _ i passed _ _ => leavesSame (growsStay _) rfl passed (Knowledge.learnsNothing (answered i c.world))

/-- The event has a row when the call returns, and nothing was forgotten. -/
def Keeps (known : Multiset Fact) (event : ContractEvent) (out : Except Failure α) (held : Unit × Multiset Fact) : Prop :=
  ∀ value, out = .ok value → Fact.recorded event ∈ held.2 ∧ known ⊆ held.2

theorem keepsError {event : ContractEvent} {failure : Failure} {held : Unit × Multiset Fact} :
    Keeps known event (.error failure : Except Failure α) held := fun _ same => by cases same

theorem keepsLearnt {event : ContractEvent} {value : α} :
    Keeps known event (.ok value : Except Failure α) ((),.recorded event ::ₘ known) :=
  fun _ _ => ⟨Multiset.mem_cons_self _ _,Multiset.subset_cons _ _⟩

theorem storedRecords (event : ContractEvent) (id : String) (createdAt : Nat) : Records event (stored event id createdAt) :=
  ⟨rfl,rfl,rfl,rfl⟩

theorem insertedEvent {event : ContractEvent} {i : Answer} {w w' : World} (inserted : insertEvent event i w = .ok ((),w')) :
    ∃ chainEvents, w.chainEvents.create (stored event i.text w.clock) = some chainEvents ∧ w' = { w with chainEvents := chainEvents } := by
  unfold insertEvent at inserted
  dsimp only at inserted
  split at inserted <;> try contradiction
  split at inserted <;> try contradiction
  split at inserted <;> try contradiction
  rename_i chainEvents made
  cases inserted
  exact ⟨chainEvents,made,rfl⟩

theorem safeCreate (event : ContractEvent) : Safe (indexing chain w₀).contract (Keeps known event) (createEvent event) ((),known) := by
  refine Knowledge.safeTransact ?_ ?_
  · intro c _ thread i _ after passed _ ok _
    obtain ⟨chainEvents,made,rfl⟩ := insertedEvent ok
    refine leavesSame (fun row inside => (Table.memCreate made).mpr (Or.inl inside)) rfl passed ?_
    refine Knowledge.learnsFact (.recorded event) ?_ keepsLearnt
    exact ⟨_,(Table.memCreate made).mpr (Or.inr rfl),storedRecords _ _ _⟩
  · intro c _ thread i _ passed _ _ _
    exact leavesSame (growsStay _) rfl passed (Knowledge.learnsNothing keepsError)

theorem safePersist (event : ContractEvent) : Safe (indexing chain w₀).contract (Keeps known event) (persistEvent event) ((),known) := by
  refine safeBind (Knowledge.safeQuery fun c _ thread i passed _ separates => leavesSame (growsStay _) rfl passed ?_)
  by_cases fails : i.fails = true
  · rw [if_pos fails]
    exact Knowledge.learnsNothing keepsError
  · rw [if_neg fails]
    cases found : c.world.chainEvents.findFirst (sameKey event) with
    | some row =>
      exact Knowledge.learnsFact (.recorded event) ⟨row,Table.getMem (Table.findFirstGet found).1,separates row found⟩ keepsLearnt
    | none =>
      refine Knowledge.learnsNothing (safeBind (safeMono ?_ (safeCreate event)))
      intro out held keeps
      cases out with
      | ok value => exact fun _ _ => keeps value rfl
      | error failure => exact keepsError

/-- The cursor is known to have been passed up to the ledger that is returned. -/
def Reads (known : Multiset Fact) (out : Except Failure Nat) (held : Unit × Multiset Fact) : Prop :=
  ∀ ledger, out = .ok ledger → Fact.passed ledger ∈ held.2 ∧ known ⊆ held.2

theorem readsError {failure : Failure} {held : Unit × Multiset Fact} : Reads known (.error failure) held := fun _ same => by cases same

theorem readsLearnt {ledger : Nat} : Reads known (.ok ledger) ((),.passed ledger ::ₘ known) := by
  rintro _ ⟨⟩
  exact ⟨Multiset.mem_cons_self _ _,Multiset.subset_cons _ _⟩

theorem safeInitialise (start : Nat) :
    Safe (indexing chain w₀).contract (fun out held => Reads known (out.map fun _ => start) held)
      (setCursor (.initialise start) start) ((),known) := by
  refine Knowledge.safeTransact ?_ ?_
  · intro c _ thread i _ after passed _ ok _
    split at ok <;> try contradiction
    rename_i answered
    cases ok
    have begun : Begins w₀ (c.record thread (.initialise start) i { c.world with horizonLastLedger := some start }).history start :=
      Or.inr ⟨_,List.mem_cons_self,rfl,Bool.eq_false_iff.mpr answered⟩
    have holds : Holds chain w₀ (c.record thread (.initialise start) i { c.world with horizonLastLedger := some start }) (.passed start) :=
      fun event _ since before => absurd (since start begun) (Nat.not_le.mpr before)
    refine ⟨(),fun cursor stored => ?_,remembersGrows (growsStay _),Knowledge.learnsFact (.passed start) holds readsLearnt⟩
    cases stored
    exact holds
  · intro c _ thread i _ passed _ _ _
    exact leavesSame (growsStay _) rfl passed (Knowledge.learnsNothing readsError)

theorem safeReadCursor : Safe (indexing chain w₀).contract (Reads known) readCursor ((),known) := by
  refine safeBind (Knowledge.safeQuery fun c _ thread i passed _ _ => leavesSame (growsStay _) rfl passed ?_)
  by_cases fails : i.fails = true
  · rw [if_pos fails]
    exact Knowledge.learnsNothing readsError
  · rw [if_neg fails]
    cases stored : c.world.horizonLastLedger with
    | some ledger =>
      refine Knowledge.learnsFact (.passed ledger) ?_ readsLearnt
      exact remembersGrows (growsStay _) (.passed ledger) (passed ledger stored)
    | none =>
      refine Knowledge.learnsNothing (safeBind (safeAsks fun i w => ?_))
      split
      · refine safeBind (safeMono ?_ (safeInitialise _))
        intro out held reads
        cases out with
        | ok value => exact reads
        | error failure => exact readsError
      · exact readsError

/-- The whole page has rows, and no ledger below the result lies beyond it. -/
def Gathers (known : Multiset Fact) (acc : Nat) (events : List ContractEvent) (out : Except Failure Nat) (held : Unit × Multiset Fact) : Prop :=
  ∀ maxLedger, out = .ok maxLedger → known ⊆ held.2 ∧ (∀ event ∈ events, Fact.recorded event ∈ held.2) ∧
    ∀ n < maxLedger, n < acc ∨ ∃ event ∈ events, n ≤ event.ledger

theorem safeIndexAll (events : List ContractEvent) (acc : Nat) :
    Safe (indexing chain w₀).contract (Gathers known acc events) (Process.foldEach indexEvent acc events) ((),known) := by
  induction events generalizing acc known with
  | nil =>
    rintro _ ⟨⟩
    exact ⟨fun _ inside => inside,fun _ inside => absurd inside List.not_mem_nil,fun n below => Or.inl below⟩
  | cons event rest ih =>
    refine safeBind (safeBind (safeMono ?_ (safePersist event)))
    rintro out ⟨_,knows⟩ keeps
    cases out with
    | error failure => exact fun _ same => by cases same
    | ok created =>
      obtain ⟨recorded,subset⟩ := keeps created rfl
      show Safe (indexing chain w₀).contract (Gathers known acc (event :: rest))
        (Process.foldEach indexEvent (max acc (event.ledger + 1)) rest) ((),knows)
      refine safeMono ?_ (ih (max acc (event.ledger + 1)))
      intro out held gathers maxLedger same
      obtain ⟨subset',all,bound⟩ := gathers maxLedger same
      refine ⟨fun _ inside => subset' (subset inside),fun other inside => ?_,fun n below => ?_⟩
      · rcases List.mem_cons.mp inside with rfl | later
        · exact subset' recorded
        · exact all other later
      · obtain before | ⟨other,inside,after⟩ := bound n below
        · by_cases earlier : n < acc
          · exact Or.inl earlier
          · exact Or.inr ⟨event,List.mem_cons_self,by omega⟩
        · exact Or.inr ⟨other,List.mem_cons_of_mem _ inside,after⟩

/-- Behind a page that ends with its ledger every event has a row once the page has. -/
theorem passedPage {fromLedger maxLedger : Nat} (ends : EndsLedger chain fromLedger)
    (before : Holds chain w₀ c (.passed fromLedger))
    (all : ∀ event ∈ page (chain.filter fun event => fromLedger ≤ event.ledger), Recorded c.world event)
    (bound : ∀ n < maxLedger, n < fromLedger ∨ ∃ event ∈ page (chain.filter fun event => fromLedger ≤ event.ledger), n ≤ event.ledger) :
    Holds chain w₀ c (.passed maxLedger) := by
  intro event listed since below
  by_cases earlier : event.ledger < fromLedger
  · exact before event listed since earlier
  · obtain early | ⟨last,inside,after⟩ := bound event.ledger below
    · exact absurd early earlier
    · have onward : event ∈ page (chain.filter fun event => fromLedger ≤ event.ledger) ++
          (chain.filter fun event => fromLedger ≤ event.ledger).drop 100 := by
        rw [page,List.take_append_drop]
        exact List.mem_filter.mpr ⟨listed,decide_eq_true (Nat.le_of_not_lt earlier)⟩
      rcases List.mem_append.mp onward with paged | beyond
      · exact all event paged
      · exact absurd (ends event beyond last inside) (Nat.not_lt.mpr after)

variable (self : Config)

theorem safeIndexPage : Safe (indexing self.chain w₀).contract anyEnd (indexPage self) ((),known) := by
  refine safeBind (safeMono ?_ safeReadCursor)
  rintro out ⟨_,knows⟩ reads
  cases out with
  | error failure => trivial
  | ok fromLedger =>
    obtain ⟨passed,_⟩ := reads fromLedger rfl
    refine safeBind (Knowledge.safeQuery fun c _ thread i base _ apart => leavesSame (growsStay _) rfl base (Knowledge.learnsNothing ?_))
    dsimp only
    split
    · rw [if_pos rfl]
      trivial
    · split
      · trivial
      · refine safeBind (safeMono ?_ (safeIndexAll _ fromLedger))
        rintro out ⟨_,held⟩ gathers
        cases out with
        | error failure => trivial
        | ok maxLedger =>
          obtain ⟨subset,all,bound⟩ := gathers maxLedger rfl
          refine Knowledge.safeTransact ?_ ?_
          · intro c _ thread i _ after base facts ok _
            split at ok <;> try contradiction
            cases ok
            have behind : Holds self.chain w₀ c (.passed maxLedger) :=
              passedPage apart (facts _ (subset passed)) (fun event inside => facts _ (all event inside)) bound
            have grows : Grows c.world { c.world with horizonLastLedger := some maxLedger } := fun _ inside => inside
            refine ⟨(),fun cursor stored => ?_,remembersGrows grows,Knowledge.learnsNothing trivial⟩
            cases stored
            exact remembersGrows grows (.passed maxLedger) behind
          · intro c _ thread i _ base _ _ _
            exact leavesSame (growsStay _) rfl base (Knowledge.learnsNothing trivial)

theorem harmlessIndexPage : Harmless (indexing self.chain w₀).contract (indexPage self) := fun _ => safeIndexPage self

theorem harmlessSame {f : Answer → World → Except Failure α} : Harmless (indexing self.chain w₀).contract (Process.query site f) :=
  fun _ => safeAsks fun _ _ => trivial

theorem harmlessFlag {f : Answer → World → Except Failure (α × World)}
    (flags : ∀ i w value w', f i w = .ok (value,w') → w'.chainEvents = w.chainEvents ∧ w'.horizonLastLedger = w.horizonLastLedger) :
    Harmless (indexing self.chain w₀).contract (Process.transact site f) := by
  rintro ⟨_,known⟩
  refine Knowledge.safeTransact ?_ ?_
  · intro c _ thread i value after passed _ ok _
    obtain ⟨same,cursor⟩ := flags i c.world value after ok
    exact leavesSame (fun row inside => by rwa [same]) cursor passed (Knowledge.learnsNothing trivial)
  · intro c _ thread i _ passed _ _ _
    exact leavesSame (growsStay _) rfl passed (Knowledge.learnsNothing trivial)

theorem harmlessBackoff (left : Nat) : Harmless (indexing self.chain w₀).contract (runWithBackoff self left) := by
  induction left with
  | zero => exact harmlessHandle (harmlessIndexPage self) fun _ _ => trivial
  | succ left ih =>
    refine harmlessHandle (harmlessIndexPage self) fun failure => ?_
    split
    · exact harmlessBind (harmlessSame self) fun _ => ih
    · exact fun _ => trivial

theorem harmlessIndexEvents : Harmless (indexing self.chain w₀).contract (indexEvents self) := by
  refine harmlessBind (harmlessSame self) fun token => ?_
  split
  · exact fun _ => trivial
  · refine harmlessBind (harmlessFlag self ?_) fun running => ?_
    · rintro i w value w' ⟨⟩
      exact ⟨rfl,rfl⟩
    · have releases : Harmless (indexing self.chain w₀).contract
          (Process.query .releaseLock fun answer _ => if answer.fails then .error (failed answer) else .ok () : Op Unit) := harmlessSame self
      split
      · exact releases
      · refine harmlessBind (harmlessBackoff self _) fun _ => harmlessBind (harmlessFlag self ?_) fun _ => releases
        rintro i w value w' ⟨⟩
        exact ⟨rfl,rfl⟩

/-- In a run of the indexer whose pages end with their ledger and whose look-ups find an event's own row, each event
between the beginning and the cursor has a row. -/
theorem eventsIndexed (w₀ : World) (moves : List (Move Unit Nat Answer))
    (separates : ∀ e ∈ ((indexer self).run (Pool.initial w₀) moves).history, Separates self.chain e) :
    Passed self.chain w₀ ((indexer self).run (Pool.initial w₀) moves).snapshot := by
  have start : Secured (indexing self.chain w₀).contract (fun _ => anyEnd)
      (Pool.initial w₀ : Pool Unit Site Answer World Failure Unit) := by
    refine securedInitial ⟨fun cursor stored event _ since before => ?_,by simp⟩
    exact absurd (since cursor (Or.inl stored)) (Nat.not_le.mpr before)
  have ticks (elapsed : Nat) (c : IndexSnapshot) (held : Unit × Multiset Fact) (inv : (indexing self.chain w₀).contract.inv c held) :
      (indexing self.chain w₀).contract.inv { c with world := (indexer self).environment elapsed c.world } held := by
    refine ⟨inv.1,fun fact inside => ?_⟩
    have true := inv.2 fact inside
    cases fact <;> exact true
  have run : Secured (indexing self.chain w₀).contract (fun _ => anyEnd) ((indexer self).run (Pool.initial w₀) moves) :=
    securedRun (fun _ => harmlessIndexEvents self 0) ticks start moves (meetsEach separates)
  exact (Knowledge.securedBase run).choose_spec

end Indexing

section Backfill

def keyOf (event : ContractEvent) : String × String := (event.txHash,extractEventName event)

/-- No row has the event's transaction hash and name, and on the page it is the first that has. -/
def Stores (w : World) (events : List ContractEvent) (event : ContractEvent) : Prop :=
  (∀ row ∈ w.chainEvents.rows, sameKey event row = false) ∧
    ∃ first, events.find? (fun e => keyOf e = keyOf event) = some first ∧ Records event (stored first "" 0)

/-- One event of the page: its key is taken, or its row is added. -/
def Persists (event : ContractEvent) (w w' : World) : Prop :=
  ((∃ row ∈ w.chainEvents.rows, sameKey event row = true) ∧ w'.chainEvents.rows = w.chainEvents.rows) ∨
    (∀ row ∈ w.chainEvents.rows, sameKey event row = false) ∧
      ∃ id createdAt, w'.chainEvents.rows = w.chainEvents.rows ++ [stored event id createdAt]

theorem sameKeyStored {event other : ContractEvent} {id : String} {createdAt : Nat} :
    sameKey event (stored other id createdAt) = decide (keyOf other = keyOf event) := by
  rw [Bool.eq_iff_iff,sameKey,Bool.and_eq_true,decide_eq_true_eq,decide_eq_true_eq,decide_eq_true_eq,keyOf,keyOf,Prod.mk.injEq]
  rfl

theorem recordsKey {event : ContractEvent} {row : ChainEvent} (records : Records event row) : sameKey event row = true := by
  simp [sameKey,records.1,records.2.2.1]

theorem recordedStored {w w' : World} {event other : ContractEvent} {id : String} {createdAt : Nat}
    (added : w'.chainEvents.rows = w.chainEvents.rows ++ [stored other id createdAt]) :
    Recorded w' event ↔ Recorded w event ∨ Records event (stored other "" 0) := by
  rw [Recorded,added]
  constructor
  · rintro ⟨row,inside,records⟩
    rcases List.mem_append.mp inside with old | new
    · exact Or.inl ⟨row,old,records⟩
    · cases List.mem_singleton.mp new
      exact Or.inr records
  · rintro (⟨row,old,records⟩ | records)
    · exact ⟨row,List.mem_append_left _ old,records⟩
    · exact ⟨_,List.mem_append_right _ (List.mem_singleton.mpr rfl),records⟩

theorem storesCons {w w' : World} {first : ContractEvent} {rest : List ContractEvent} (persists : Persists first w w') (event : ContractEvent) :
    Recorded w' event ∨ Stores w' rest event ↔ Recorded w event ∨ Stores w (first :: rest) event := by
  by_cases key : keyOf first = keyOf event
  · have agree : ∀ row, sameKey event row = sameKey first row := fun row => by
      obtain ⟨hash,name⟩ := Prod.mk.inj key
      simp only [sameKey,hash,name]
    have head : (first :: rest).find? (fun e => keyOf e = keyOf event) = some first := List.find?_cons_of_pos (decide_eq_true key)
    obtain ⟨⟨row,inside,taken⟩,same⟩ | ⟨free,id,createdAt,added⟩ := persists
    · have blocked (events : List ContractEvent) : ¬ Stores w events event := fun stores => by
        rw [← agree row,stores.1 row inside] at taken
        contradiction
      have blocked' : ¬ Stores w' rest event := fun stores => blocked rest ⟨same ▸ stores.1,stores.2⟩
      simp only [Recorded,same,blocked,blocked']
    · have blocked : ¬ Stores w' rest event := fun stores => by
        have mine := stores.1 _ (added ▸ List.mem_append_right _ (List.mem_singleton.mpr rfl))
        rw [sameKeyStored,decide_eq_true key] at mine
        contradiction
      rw [recordedStored added,or_iff_left blocked]
      refine or_congr Iff.rfl ⟨fun records => ⟨fun row inside => (agree row).trans (free row inside),first,head,records⟩,?_⟩
      rintro ⟨_,first',found,records⟩
      cases head.symm.trans found
      exact records
  · have skipped : (first :: rest).find? (fun e => keyOf e = keyOf event) = rest.find? (fun e => keyOf e = keyOf event) :=
      List.find?_cons_of_neg (by simpa using key)
    obtain ⟨_,same⟩ | ⟨free,id,createdAt,added⟩ := persists
    · simp only [Recorded,Stores,same,skipped]
    · have other : ¬ Records event (stored first "" 0) := fun records => by
        have mine := recordsKey records
        rw [sameKeyStored,decide_eq_false key] at mine
        contradiction
      rw [recordedStored added,or_iff_left other,Stores,Stores,skipped,added]
      refine or_congr Iff.rfl (and_congr_left' ⟨fun each row inside => each row (List.mem_append_left _ inside),fun each row inside => ?_⟩)
      rcases List.mem_append.mp inside with old | new
      · exact each row old
      · cases List.mem_singleton.mp new
        rw [sameKeyStored,decide_eq_false key]

theorem persistsEvent (event : ContractEvent) (c : IndexSnapshot) :
    Ends (fun out c' => ∀ created, out = .ok created → Persists event c.world c'.world) (persistEvent event) c := by
  refine ensuresBind (ensuresQuery fun thread i _ => ⟨trivial,?_⟩)
  split
  · rename_i found out
    split at out
    · contradiction
    · cases out
      cases there : c.world.chainEvents.findFirst (sameKey event) with
      | some row =>
        obtain ⟨got,taken⟩ := Table.findFirstGet there
        exact fun _ _ => Or.inl ⟨⟨row,Table.getMem got,taken⟩,rfl⟩
      | none =>
        refine ensuresBind (ensuresTransact ?_ ?_)
        · intro thread' i' _ after ok _
          refine ⟨trivial,fun _ _ => Or.inr ⟨fun row inside => ?_,?_⟩⟩
          · simpa using List.find?_eq_none.mp there row inside
          · obtain ⟨chainEvents,made,rfl⟩ := insertedEvent ok
            exact ⟨_,_,(Table.createGet made).2.1⟩
        · exact fun _ _ _ _ => ⟨trivial,fun _ same => by cases same⟩
  · exact fun _ same => by cases same

theorem storesPage (events : List ContractEvent) (backfilled : Nat) (c : IndexSnapshot) :
    Ends (fun out c' => ∀ n, out = .ok n → ∀ event, Recorded c'.world event ↔ Recorded c.world event ∨ Stores c.world events event)
      (Process.foldEach countStored backfilled events) c := by
  induction events generalizing backfilled c with
  | nil =>
    refine fun _ _ event => (or_iff_left ?_).symm
    rintro ⟨_,_,found,_⟩
    cases found
  | cons event rest ih =>
    refine ensuresBind (ensuresBind (ensuresMono ?_ (persistsEvent event c)))
    intro out c' persists
    cases out with
    | error failure => exact fun _ same => by cases same
    | ok created =>
      have onwards := ih (if created then backfilled + 1 else backfilled) c'
      refine ensuresMono (p := Process.foldEach countStored (if created then backfilled + 1 else backfilled) rest) ?_ onwards
      intro out c'' all n same other
      exact (all n same other).trans (storesCons (persists created rfl) other)

theorem backfillStores (self : Config) (w : World) (range : Int × Int) (answers : List Answer) (count : Nat)
    (returned : (backfill self).Returns (Pool.initial w) range answers count) (event : ContractEvent) :
    Recorded ((backfill self).serve (Pool.initial w) range answers).world event ↔
      Recorded w event ∨ Stores w (page (between self range.1.toNat range.2.toNat)) event := by
  have ends : Ends (fun out c' => ∀ n, out = .ok n → ∀ event, Recorded c'.world event ↔
      Recorded w event ∨ Stores w (page (between self range.1.toNat range.2.toNat)) event)
      ((backfill self).handler range) (Pool.initial w : Pool (Int × Int) Site Answer World Failure Nat).snapshot := by
    show Ends _ (backfillEvents self range.1 range.2) _
    unfold backfillEvents
    split
    · exact fun _ same => by cases same
    · split
      · exact fun _ same => by cases same
      · split
        · exact fun _ same => by cases same
        · refine ensuresBind (ensuresQuery fun thread i _ => ⟨trivial,?_⟩)
          split
          · rename_i events fetched
            split at fetched
            · contradiction
            · cases fetched
              have stores := storesPage (page (between self range.1.toNat range.2.toNat)) 0
                (Snapshot.record ⟨w,[]⟩ thread (.fetchContractEventsRange range.1.toNat range.2.toNat) i w)
              exact stores
          · exact fun _ same => by cases same
  exact endsServe ends answers returned count rfl event

end Backfill

section Stores

variable (self : Config)

/-- The indexer stores every event behind its cursor if pages end with their ledger and look-ups find an event's own row, and a
backfill stores every event of its range exactly if each had a row or is the first of its key on the page. -/
theorem eventsStored :
    (∀ w₀ moves, (∀ e ∈ ((indexer self).run (Pool.initial w₀) moves).history, Separates self.chain e) →
      ∀ cursor, ((indexer self).run (Pool.initial w₀) moves).world.horizonLastLedger = some cursor →
        ∀ event ∈ self.chain, Since w₀ ((indexer self).run (Pool.initial w₀) moves).history event → event.ledger < cursor →
          Recorded ((indexer self).run (Pool.initial w₀) moves).world event) ∧
    ∀ w range answers count, (backfill self).Returns (Pool.initial w) range answers count →
      ((∀ event ∈ self.chain, range.1 ≤ event.ledger → (event.ledger : Int) ≤ range.2 →
          Recorded ((backfill self).serve (Pool.initial w) range answers).world event) ↔
        ∀ event ∈ self.chain, range.1 ≤ event.ledger → (event.ledger : Int) ≤ range.2 →
          Recorded w event ∨ Stores w (page (between self range.1.toNat range.2.toNat)) event) := by
  refine ⟨fun w₀ moves separates => eventsIndexed self w₀ moves separates,fun w range answers count returned => ?_⟩
  have stores := backfillStores self w range answers count returned
  constructor
  · exact fun all event listed after before => (stores event).mp (all event listed after before)
  · exact fun all event listed after before => (stores event).mpr (all event listed after before)

def confirmed (ledger : Nat) (txHash : String) (index : Int) : ContractEvent :=
  { ledger := ledger, txHash := txHash, topic := ["milestone_confirmed"], value := .number index }

def emptyStore : World := { chainEvents := ⟨[],by decide⟩, horizonLastLedger := some 5 }

def ticks (answers : List Answer) : List (Move Unit Nat Answer) := .start () :: answers.map (.answer 0)

-- a tick that stores one event and moves the cursor
def tick : List (Move Unit Nat Answer) := ticks [{ text := "lock" },{},{},{},{},{ text := "r1" },{}]

def lone : Config := { chain := [confirmed 5 "t1" 1], endInclusive := false }

def Site.initialises : Site → Bool
  | .initialise _ => true
  | _ => false

theorem sinceCursor {history : List IndexEvent} {event : ContractEvent} (after : 5 ≤ event.ledger)
    (begun : (history.all fun e => !e.site.initialises) = true) : Since emptyStore history event := by
  rintro ledger (same | ⟨e,inside,site,_⟩)
  · cases same
    exact after
  · have none := List.all_eq_true.mp begun e inside
    rw [site] at none
    contradiction

/-- A single event is stored by a tick and by a backfill. -/
theorem loneStored :
    Recorded ((indexer lone).run (Pool.initial emptyStore) tick).world (confirmed 5 "t1" 1) ∧
      ((∀ event ∈ lone.chain, (5 : Int) ≤ event.ledger → (event.ledger : Int) ≤ 6 →
          Recorded ((backfill lone).serve (Pool.initial emptyStore) (5,6) [{},{},{ text := "r1" }]).world event) ↔
        ∀ event ∈ lone.chain, (5 : Int) ≤ event.ledger → (event.ledger : Int) ≤ 6 →
          Recorded emptyStore event ∨ Stores emptyStore (page (between lone 5 6)) event) := by
  have separates : ∀ e ∈ ((indexer lone).run (Pool.initial emptyStore) tick).history, Separates lone.chain e := by decide +kernel
  have since : Since emptyStore ((indexer lone).run (Pool.initial emptyStore) tick).history (confirmed 5 "t1" 1) :=
    sinceCursor (Nat.le_refl 5) rfl
  exact ⟨(eventsStored lone).1 emptyStore tick separates 6 rfl _ List.mem_cons_self since (by decide),
    (eventsStored lone).2 emptyStore (5,6) [{},{},{ text := "r1" }] 1 rfl⟩

-- one transaction confirms two milestones
def twice : Config := { chain := [confirmed 5 "t1" 1,confirmed 5 "t1" 2], endInclusive := false }

/-- The second event of a name in a transaction is taken for the first, by the indexer and by a backfill. -/
theorem repeatedNameLost :
    ((indexer twice).run (Pool.initial emptyStore) (ticks [{ text := "lock" },{},{},{},{},{ text := "r1" },{},{}])).world.horizonLastLedger =
        some 6 ∧
      confirmed 5 "t1" 2 ∈ twice.chain ∧
      Since emptyStore ((indexer twice).run (Pool.initial emptyStore)
        (ticks [{ text := "lock" },{},{},{},{},{ text := "r1" },{},{}])).history (confirmed 5 "t1" 2) ∧
      ¬ Recorded ((indexer twice).run (Pool.initial emptyStore)
        (ticks [{ text := "lock" },{},{},{},{},{ text := "r1" },{},{}])).world (confirmed 5 "t1" 2) ∧
      (backfill twice).Returns (Pool.initial emptyStore) (5,6) [{},{},{ text := "r1" },{}] 1 ∧
      ¬ Recorded ((backfill twice).serve (Pool.initial emptyStore) (5,6) [{},{},{ text := "r1" },{}]).world (confirmed 5 "t1" 2) := by
  exact ⟨rfl,by decide,sinceCursor (Nat.le_refl 5) rfl,by decide +kernel,rfl,by decide +kernel⟩

end Stores

end HireSettle.Escrow.HorizonIndexer
