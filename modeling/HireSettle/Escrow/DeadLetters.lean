import HireSettle.Escrow.CallEffects
import HireSettle.Workflow.Guards

/-! Failed events. Runs of the retry job may overlap, each with the events it has read
at its start. An event that has failed too often goes to the dead letters, and an admin
may put it back; both read the row first and move it in a transaction of their own. -/
namespace HireSettle.Escrow.DeadLetters
open Workflow EventsService

inductive Request where
  | processEvent (event : ContractEvent)
  | retryUnprocessed
  | recordFailure (id : String) (currentRetryCount : Nat)
  | moveToDeadLetter (id : String)
  | requeue (id : String)

def handler (self : Config) : Request → Op Unit
  | .processEvent event => processEvent self event
  | .retryUnprocessed => ChainEventRetryService.retryUnprocessed self
  | .recordFailure id currentRetryCount => ChainEventRetryService.recordFailure id currentRetryCount
  | .moveToDeadLetter id => ChainEventRetryService.moveToDeadLetter id
  | .requeue id => do
      let _ ← AdminDeadLetterService.requeue id

def service (self : Config) : System Request Nat Site Answer Db Exception Unit where
  handler := handler self
  environment elapsed db := { db with clock := db.clock + elapsed }

abbrev FailureMove := Move Request Nat Answer

/-- What is known of an event, in whichever table it is. -/
structure Content where
  eventName : String
  txHash : String
  ledger : Nat
  payload : Json
  deriving DecidableEq, Repr

def eventContent (row : ChainEvent) : Content := ⟨row.eventName,row.txHash,row.ledger,row.payload⟩

def letterContent (row : DeadLetterEvent) : Content := ⟨row.eventName,row.txHash,row.ledger,row.payload⟩

def events (db : Db) (id : String) : Option Content := (db.chainEvents.get? id).map eventContent

def letters (db : Db) (id : String) : Option Content := (db.deadLetters.get? id).map letterContent

def Stored (db : Db) (id : String) (content : Content) : Prop := events db id = some content ∨ letters db id = some content

def StoredOnce (db : Db) (id : String) (content : Content) : Prop :=
  events db id = some content ∧ letters db id = none ∨ events db id = none ∧ letters db id = some content

def Processed (db : Db) (id : String) : Prop := (db.chainEvents.get? id).any ChainEvent.processed = true

instance (db : Db) (id : String) : Decidable (Processed db id) := inferInstanceAs (Decidable (_ = _))

/-- What is stored stays in one of the tables as it is, and what is processed stays so. -/
structure Keeps (db db' : Db) : Prop where
  once : ∀ id content, Stored db id content → StoredOnce db' id content
  processed : ∀ id, Processed db id → Processed db' id

/-- Dead letters of one id are about one event. -/
def Agree (db db' : Db) : Prop := ∀ row ∈ db.deadLetters.rows, ∀ row' ∈ db'.deadLetters.rows, row'.id = row.id →
  row'.originalId = row.originalId ∧ letterContent row' = letterContent row

def Apart (db : Db) : Prop := ∀ id, events db id = none ∨ letters db id = none

/-- The ids that are generated are new, and what goes to the dead letters is not
processed when the transaction moves it. -/
def Unhandled (earlier : List EscrowEvent) (e : EscrowEvent) : Prop :=
  match e.site with
  | .saveEvent _ => (e.before.deadLetters.get? e.answer.text).isNone
  | .moveToDeadLetter id => (∀ d ∈ earlier, ∀ row ∈ d.before.deadLetters.rows, row.id ≠ e.answer.text) ∧
      (e.before.chainEvents.get? id).all (fun row => !row.processed) = true
  | _ => True

instance (earlier : List EscrowEvent) (e : EscrowEvent) : Decidable (Unhandled earlier e) := by
  unfold Unhandled
  generalize e.site = site
  induction site using Site.casesOn <;> infer_instance

/-- What was stored or processed still is. -/
structure Follows (db db' : Db) : Prop where
  stored : ∀ id content, Stored db id content → Stored db' id content
  processed : ∀ id, Processed db id → Processed db' id

/-- How a call changes the two tables, by what its thread has seen. -/
inductive Changes (own : List EscrowEvent) (e : EscrowEvent) : Prop where
  | same (chainEvents : e.after.chainEvents = e.before.chainEvents) (deadLetters : e.after.deadLetters = e.before.deadLetters)
  | saved (event : ContractEvent) (site : e.site = .saveEvent event) (row : ChainEvent) (generated : row.id = e.answer.text)
      (created : e.before.chainEvents.create row = some e.after.chainEvents) (deadLetters : e.after.deadLetters = e.before.deadLetters)
  | updated (id : String) (f : ChainEvent → ChainEvent) (keeps : ∀ row, (f row).id = row.id)
      (content : ∀ row, eventContent (f row) = eventContent row)
      (processed : ∀ row, row.processed = true → (f row).processed = true)
      (chainEvents : e.after.chainEvents = e.before.chainEvents.update id f keeps)
      (deadLetters : e.after.deadLetters = e.before.deadLetters)
  | moved (id : String) (site : e.site = .moveToDeadLetter id) (d : EscrowEvent) (inside : d ∈ own) (row : ChainEvent)
      (read : d.after.chainEvents.get? id = some row) (there : e.before.chainEvents.get? id ≠ none)
      (f : DeadLetterEvent → DeadLetterEvent) (keeps : ∀ row, (f row).originalId = row.originalId)
      (unused : e.before.deadLetters.get? id = none → e.before.deadLetters.findFirst (fun row => row.id = e.answer.text) = none)
      (deadLetters : e.after.deadLetters =
        e.before.deadLetters.upsert (ChainEventRetryService.deadLetter e.answer.text row) f keeps)
      (chainEvents : e.after.chainEvents = e.before.chainEvents.deleteMany fun row => row.id = id)
  | requeued (id : String) (d : EscrowEvent) (inside : d ∈ own) (dead : DeadLetterEvent)
      (read : d.before.deadLetters.findFirst (fun row => row.id = id) = some dead)
      (created : e.before.chainEvents.create (AdminDeadLetterService.requeued dead e.before.clock) = some e.after.chainEvents)
      (there : e.before.deadLetters.count (fun row => row.id = id) ≠ 0)
      (deadLetters : e.after.deadLetters = e.before.deadLetters.deleteMany fun row => row.id = id)

section Tables

variable {db db' : Db} {id : String} {content : Content}

theorem followsRefl (db : Db) : Follows db db := ⟨fun _ _ stored => stored,fun _ processed => processed⟩

theorem followsTrans {a b c : Db} (first : Follows a b) (second : Follows b c) : Follows a c :=
  ⟨fun id content stored => second.stored id content (first.stored id content stored),
    fun id processed => second.processed id (first.processed id processed)⟩

theorem keepsFollows (follows : Follows db db') (apart : Apart db') : Keeps db db' := by
  refine ⟨fun id content stored => ?_,follows.processed⟩
  rcases follows.stored id content stored with here | there
  · exact Or.inl ⟨here,(apart id).resolve_left (by rw [here]; nofun)⟩
  · exact Or.inr ⟨(apart id).resolve_right (by rw [there]; nofun),there⟩

theorem storedUnique (apart : Apart db) {other : Content} (first : Stored db id content) (second : Stored db id other) : other = content := by
  rcases apart id with none | none <;> simp only [Stored,none,reduceCtorEq,false_or,or_false] at first second
  · exact Option.some.inj (second.symm.trans first)
  · exact Option.some.inj (second.symm.trans first)

/-- An event is placed in one of the tables, where it was stored as such or not at all. -/
theorem placed (apart : Apart db) (before : ∀ known, Stored db id known → known = content) (here : StoredOnce db' id content)
    (elsewhere : ∀ other, other ≠ id → events db' other = events db other ∧ letters db' other = letters db other) :
    (∀ other known, Stored db other known → Stored db' other known) ∧ Apart db' := by
  constructor
  · intro other known stored
    by_cases same : other = id
    · subst same
      cases before known stored
      exact here.imp And.left And.right
    · rwa [Stored,(elsewhere other same).1,(elsewhere other same).2]
  · intro other
    by_cases same : other = id
    · subst same
      exact here.symm.imp And.left And.right
    · rw [(elsewhere other same).1,(elsewhere other same).2]
      exact apart other

theorem agreeGrows {past : Db} (agree : Agree past db)
    (grows : ∀ row ∈ db'.deadLetters.rows, row ∈ db.deadLetters.rows ∨ ∀ old ∈ past.deadLetters.rows, row.id ≠ old.id) : Agree past db' := by
  intro row inside row' inside' same
  rcases grows row' inside' with old | new
  · exact agree row inside row' old same
  · exact absurd same (new row inside)

structure Sound (db : Db) : Prop where
  apart : Apart db
  agree : Agree db db

/-- What a call leaves behind. -/
structure Leaves (history : List EscrowEvent) (db db' : Db) : Prop where
  follows : Follows db db'
  sound : Sound db'
  agree : ∀ past, (past = db ∨ ∃ d ∈ history, d.before = past) → Agree past db'

theorem leavesSame (history : List EscrowEvent) (past : ∀ d ∈ history, Agree d.before db) (sound : Sound db)
    (chainEvents : db'.chainEvents = db.chainEvents) (deadLetters : db'.deadLetters = db.deadLetters) : Leaves history db db' := by
  refine ⟨⟨?_,?_⟩,⟨?_,?_⟩,?_⟩
  · intro id content
    rw [Stored,Stored,events,letters,events,letters,chainEvents,deadLetters]
    exact fun stored => stored
  · intro id
    rw [Processed,Processed,chainEvents]
    exact fun processed => processed
  · intro id
    rw [events,letters,chainEvents,deadLetters]
    exact sound.apart id
  · rw [Agree,deadLetters]
    exact sound.agree
  · rintro _ (rfl | ⟨d,inside,rfl⟩)
    · rw [Agree,deadLetters]
      exact sound.agree
    · rw [Agree,deadLetters]
      exact past d inside

theorem leavesPlaced {history : List EscrowEvent} (id : String) (content : Content) (past : ∀ d ∈ history, Agree d.before db) (sound : Sound db)
    (before : ∀ known, Stored db id known → known = content) (here : StoredOnce db' id content)
    (elsewhere : ∀ other, other ≠ id → events db' other = events db other ∧ letters db' other = letters db other)
    (processed : ∀ other, Processed db other → Processed db' other) (added : String)
    (rows : ∀ row ∈ db'.deadLetters.rows, row ∈ db.deadLetters.rows ∨ row.id = added ∧
      (∀ past, (past = db ∨ ∃ d ∈ history, d.before = past) → ∀ old ∈ past.deadLetters.rows, old.id ≠ added) ∧
      ∀ other ∈ db'.deadLetters.rows, other ∉ db.deadLetters.rows → other = row) : Leaves history db db' := by
  obtain ⟨stored,apart⟩ := placed sound.apart before here elsewhere
  have grows : ∀ old, (old = db ∨ ∃ d ∈ history, d.before = old) → Agree old db' := by
    intro old known
    have agree : Agree old db := by
      obtain rfl | ⟨d,inside,rfl⟩ := known
      · exact sound.agree
      · exact past d inside
    refine agreeGrows agree fun row inside => (rows row inside).imp_right fun ⟨new,unused,_⟩ other there => ?_
    exact fun same => unused old known other there (same.symm.trans new)
  refine ⟨⟨stored,processed⟩,⟨apart,?_⟩,grows⟩
  intro row inside row' inside' same
  rcases rows row inside with old | ⟨new,unused,alone⟩
  · exact grows db (Or.inl rfl) row old row' inside' same
  · by_cases old : row' ∈ db.deadLetters.rows
    · exact absurd (same.trans new) (unused db (Or.inl rfl) row' old)
    · cases alone row' inside' old
      exact ⟨rfl,rfl⟩

end Tables

section Steps

variable {own history : List EscrowEvent} {e : EscrowEvent}

theorem processedCreate {db : Db} {row : ChainEvent} {chainEvents : Table ChainEvent}
    (created : db.chainEvents.create row = some chainEvents) (other : String) (processed : Processed db other) :
    Processed { db with chainEvents := chainEvents } other := by
  obtain ⟨free,_,gets⟩ := Table.createGet created
  rw [Processed,gets]
  split
  · rename_i same
    rw [Processed,same,free] at processed
    cases processed
  · exact processed

theorem leavesSaved {event : ContractEvent} {row : ChainEvent} (past : ∀ d ∈ history, Agree d.before e.before) (sound : Sound e.before)
    (unhandled : Unhandled history e) (site : e.site = .saveEvent event) (generated : row.id = e.answer.text)
    (created : e.before.chainEvents.create row = some e.after.chainEvents) (deadLetters : e.after.deadLetters = e.before.deadLetters) :
    Leaves history e.before e.after := by
  have gets := Table.createMap created eventContent
  have free : events e.before row.id = none := Option.map_eq_none_iff.mpr (Table.createGet created).1
  have noLetter : letters e.before row.id = none := by
    rw [Unhandled,site] at unhandled
    rw [letters,generated,Option.isNone_iff_eq_none.mp unhandled]
    rfl
  have same : ∀ other, letters e.after other = letters e.before other := fun other => by rw [letters,letters,deadLetters]
  refine leavesPlaced row.id (eventContent row) past sound ?_ ?_ ?_ ?_ "" ?_
  · rintro known (stored | stored)
    · cases free.symm.trans stored
    · cases noLetter.symm.trans stored
  · exact Or.inl ⟨(gets row.id).trans (if_pos rfl),(same _).trans noLetter⟩
  · exact fun other differs => ⟨(gets other).trans (if_neg differs),same other⟩
  · exact fun other processed => processedCreate created other processed
  · intro other inside
    rw [deadLetters] at inside
    exact Or.inl inside

theorem leavesUpdated {id : String} {f : ChainEvent → ChainEvent} {keeps : ∀ row, (f row).id = row.id}
    (past : ∀ d ∈ history, Agree d.before e.before) (sound : Sound e.before)
    (content : ∀ row, eventContent (f row) = eventContent row) (processed : ∀ row, row.processed = true → (f row).processed = true)
    (chainEvents : e.after.chainEvents = e.before.chainEvents.update id f keeps) (deadLetters : e.after.deadLetters = e.before.deadLetters) :
    Leaves history e.before e.after := by
  have same : ∀ other, events e.after other = events e.before other := by
    intro other
    rw [events,chainEvents]
    exact Table.getUpdateManyMap _ keeps content other
  have marked : ∀ other, Processed e.before other → Processed e.after other := by
    intro other done
    rw [Processed] at done ⊢
    rw [chainEvents,Table.getUpdate]
    split
    · cases found : e.before.chainEvents.get? other with
      | none => simp [found] at done
      | some row =>
        rw [found] at done
        exact processed row done
    · exact done
  have kept : Leaves history e.before { e.before with deadLetters := e.after.deadLetters } :=
    leavesSame history past sound rfl deadLetters
  refine ⟨⟨?_,marked⟩,⟨?_,kept.sound.agree⟩,kept.agree⟩
  · intro id content stored
    exact (kept.follows.stored id content stored).imp_left (same id).trans
  · exact fun other => (kept.sound.apart other).imp_left (same other).trans

theorem leavesMoved {id : String} {row : ChainEvent} {f : DeadLetterEvent → DeadLetterEvent}
    {keeps : ∀ row, (f row).originalId = row.originalId} (past : ∀ d ∈ history, Agree d.before e.before) (sound : Sound e.before)
    (unhandled : Unhandled history e) (site : e.site = .moveToDeadLetter id) (key : row.id = id)
    (read : Stored e.before id (eventContent row)) (there : e.before.chainEvents.get? id ≠ none)
    (unused : e.before.deadLetters.get? id = none → e.before.deadLetters.findFirst (fun row => row.id = e.answer.text) = none)
    (deadLetters : e.after.deadLetters = e.before.deadLetters.upsert (ChainEventRetryService.deadLetter e.answer.text row) f keeps)
    (chainEvents : e.after.chainEvents = e.before.chainEvents.deleteMany fun row => row.id = id) : Leaves history e.before e.after := by
  subst key
  rw [Unhandled,site] at unhandled
  have gone := Table.deleteMap e.before.chainEvents (p := fun r => r.id = row.id) (fun _ _ => rfl) eventContent
  rw [← chainEvents] at gone
  have noLetter : letters e.before row.id = none := by
    refine (sound.apart row.id).resolve_left fun none => there ?_
    exact Option.map_eq_none_iff.mp none
  have free : e.before.deadLetters.get? row.id = none := Option.map_eq_none_iff.mp noLetter
  have created : e.before.deadLetters.create (ChainEventRetryService.deadLetter e.answer.text row) = some e.after.deadLetters :=
    deadLetters ▸ Table.upsertNew free f keeps
  have gets := Table.createMap created letterContent
  refine leavesPlaced row.id (eventContent row) past sound ?_ ?_ ?_ ?_ e.answer.text ?_
  · exact fun known stored => storedUnique sound.apart read stored
  · exact Or.inr ⟨(gone row.id).trans (if_pos rfl),(gets row.id).trans (if_pos rfl)⟩
  · exact fun other differs => ⟨(gone other).trans (if_neg differs),(gets other).trans (if_neg differs)⟩
  · intro other processed
    obtain ⟨current,found,done⟩ := (Option.any_eq_true _ _).mp processed
    have differs : ¬ current.id = row.id := by
      intro same
      have waits := unhandled.2
      rw [← same,show current.id = other from Table.getKey found,found] at waits
      simp [done] at waits
    rw [Processed,chainEvents,Table.getDeleteMany,found]
    simpa [differs] using done
  · intro other inside
    refine ((Table.memCreate created).mp inside).imp_right ?_
    rintro rfl
    refine ⟨rfl,?_,?_⟩
    · rintro old (rfl | ⟨d,known,rfl⟩) letter stored
      · simpa using List.find?_eq_none.mp (unused free) letter stored
      · exact unhandled.1 d known letter stored
    · exact fun letter stored new => ((Table.memCreate created).mp stored).resolve_left new

theorem leavesRequeued {id : String} {dead : DeadLetterEvent} (past : ∀ d ∈ history, Agree d.before e.before) (sound : Sound e.before)
    (same : ∀ row ∈ e.before.deadLetters.rows, row.id = id →
      row.originalId = dead.originalId ∧ letterContent row = letterContent dead)
    (created : e.before.chainEvents.create (AdminDeadLetterService.requeued dead e.before.clock) = some e.after.chainEvents)
    (there : e.before.deadLetters.count (fun row => row.id = id) ≠ 0)
    (deadLetters : e.after.deadLetters = e.before.deadLetters.deleteMany fun row => row.id = id) : Leaves history e.before e.after := by
  have gets := Table.createMap created eventContent
  have free : events e.before dead.originalId = none := Option.map_eq_none_iff.mpr (Table.createGet created).1
  obtain ⟨key,letter,found,named⟩ := Table.countPos.mp (Nat.pos_of_ne_zero there)
  have named : letter.id = id := of_decide_eq_true named
  obtain ⟨original,content⟩ := same letter (Table.getMem found) named
  cases (show letter.originalId = key from Table.getKey found).symm.trans original
  have byKey : ∀ row ∈ e.before.deadLetters.rows, decide (row.id = id) = decide (Keyed.key row = dead.originalId) := by
    intro row inside
    refine decide_eq_decide.mpr ⟨fun here => (same row inside here).1,fun here => ?_⟩
    have stored := Table.memGet inside
    rw [here,found] at stored
    cases stored
    exact named
  have gone := Table.deleteMap e.before.deadLetters byKey letterContent
  rw [← deadLetters] at gone
  have stored : letters e.before dead.originalId = some (letterContent dead) := by
    rw [letters,found,Option.map_some,content]
  refine leavesPlaced dead.originalId (letterContent dead) past sound ?_ ?_ ?_ ?_ "" ?_
  · exact fun known before => storedUnique sound.apart (Or.inr stored) before
  · exact Or.inl ⟨(gets dead.originalId).trans (if_pos rfl),(gone dead.originalId).trans (if_pos rfl)⟩
  · exact fun other differs => ⟨(gets other).trans (if_neg differs),(gone other).trans (if_neg differs)⟩
  · exact fun other processed => processedCreate created other processed
  · intro row inside
    rw [deadLetters] at inside
    exact Or.inl (List.mem_of_mem_filter inside)

/-- One call, after which everything is still accounted for. -/
theorem leavesStep (past : ∀ d ∈ history, Agree d.before e.before) (since : ∀ d ∈ history, Follows d.after e.before)
    (mine : ∀ d ∈ own, d ∈ history) (sound : Sound e.before) (unhandled : Unhandled history e) (changes : Changes own e) :
    Leaves history e.before e.after := by
  cases changes with
  | same chainEvents deadLetters => exact leavesSame history past sound chainEvents deadLetters
  | saved event site row generated created deadLetters =>
    exact leavesSaved past sound unhandled site generated created deadLetters
  | updated id f keeps content processed chainEvents deadLetters =>
    exact leavesUpdated past sound content processed chainEvents deadLetters
  | moved id site d inside row read there f keeps unused deadLetters chainEvents =>
    -- the row was read before, and its event has been stored as it is since
    have stored := (since d (mine d inside)).stored id (eventContent row) (Or.inl (by rw [events,read]; rfl))
    exact leavesMoved past sound unhandled site (Table.getKey read) stored there unused deadLetters chainEvents
  | requeued id d inside dead read created there deadLetters =>
    have named : dead.id = id := by simpa using List.find?_some read
    refine leavesRequeued past sound (fun row stored here => ?_) created there deadLetters
    exact past d (mine d inside) dead (List.mem_of_find?_eq_some read) row stored (here.trans named.symm)

end Steps

section Walks

variable {α β : Type} {own : List EscrowEvent}

theorem guardedQuiet {p : Op α} (acts : Acts (fun _ db db' => SameEvents db db') p) : Guarded Changes anyOutcome p own := by
  refine guardedAny (guardedActs (fun later e _ same => ?_) acts)
  exact .same same.chainEvents same.deadLetters

theorem guardedReads {p : Op α} (reads : Reads Site.reads p) : Guarded Changes anyOutcome p own := by
  refine guardedQuiet (actsMono ?_ (actsSteps reads))
  rintro site db db' ⟨_,rfl⟩
  exact ⟨rfl,rfl,rfl⟩

theorem guardedFound {model : Model} {g : Db → α} {k : α → Op β}
    (rest : ∀ thread i db, Guarded Changes anyOutcome (k (g db)) (⟨thread,.find model,i,db,db⟩ :: own)) :
    Guarded Changes anyOutcome (find model g >>= k) own := by
  refine guardedBind (guardedQuery fun thread i db => ⟨.same rfl rfl,?_⟩)
  split
  · rename_i value found
    split at found
    · contradiction
    · cases found
      exact rest thread i db
  · trivial

theorem guardedWrite {site : Site} {f : Answer → Db → Except Exception (α × Db)}
    (commits : ∀ thread i db value db', f i db = .ok (value,db') → Changes own ⟨thread,site,i,db,db'⟩) :
    Guarded Changes anyOutcome (write site f) own := by
  refine guardedTransact (fun thread i db value db' ok => ⟨?_,trivial⟩) fun thread i db error _ => ⟨.same rfl rfl,trivial⟩
  split at ok
  · contradiction
  · exact commits thread i db value db' ok

variable (self : Config)

theorem guardedProcessEvent (event : ContractEvent) : Guarded Changes anyOutcome (processEvent self event) own := by
  refine guardedThen (guardedReads (readsQuery rfl _)) fun existing own => ?_
  split
  · trivial
  · refine guardedThen (guardedThen (guardedReads (readsQuery rfl _)) fun found own => ?_) fun chainEvent own => ?_
    · split
      · trivial
      · refine guardedWrite fun thread i db row db' ok => ?_
        dsimp only at ok
        split at ok
        · contradiction
        · split at ok
          · contradiction
          · rename_i chainEvents created
            cases ok
            exact .saved event rfl _ rfl created rfl
    · split
      · trivial
      · refine guardedThen (guardedQuiet ?_) fun writes own => guardedWrite fun thread i db _ db' ok => ?_
        · exact actsMono (fun site db db' within => handlesSameEvents within) (handlesEvent self _ _)
        · split at ok
          · contradiction
          · rename_i marked chainEvents modified
            obtain ⟨_,_,_,rfl⟩ := Table.modifyGet modified
            cases ok
            exact .updated chainEvent.id (fun row => { row with processed := true }) (fun _ => rfl) (fun _ => rfl) (fun _ _ => rfl) rfl rfl

open ChainEventRetryService in
theorem guardedMoveToDeadLetter (id : String) : Guarded Changes anyOutcome (moveToDeadLetter id) own := by
  refine guardedFound fun thread i db => ?_
  cases read : db.chainEvents.get? id with
  | none => trivial
  | some row =>
    refine guardedWrite fun thread i db' _ after ok => ?_
    split at ok
    · contradiction
    · rename_i used
      split at ok
      · contradiction
      · rename_i current there
        cases ok
        refine .moved id rfl _ List.mem_cons_self row read (by rw [there]; simp)
          (fun letter => { letter with retryCount := row.retryCount, lastErrorAt := row.lastErrorAt }) (fun _ => rfl) (fun free => ?_) rfl rfl
        simpa [free] using used

open ChainEventRetryService in
theorem guardedRecordFailure (id : String) (currentRetryCount : Nat) :
    Guarded Changes anyOutcome (recordFailure id currentRetryCount) own := by
  refine guardedThen (guardedWrite fun thread i db _ after ok => ?_) fun _ own => ?_
  · split at ok
    · contradiction
    · rename_i failed chainEvents modified
      obtain ⟨_,_,_,rfl⟩ := Table.modifyGet modified
      cases ok
      refine .updated id (fun row => { row with retryCount := currentRetryCount + 1, lastErrorAt := some db.clock })
        (fun _ => rfl) (fun _ => rfl) (fun _ done => done) rfl rfl
  · split
    · exact guardedMoveToDeadLetter id
    · trivial

open ChainEventRetryService in
theorem guardedRetryUnprocessed : Guarded Changes anyOutcome (retryUnprocessed self) own := by
  refine guardedThen (guardedReads (readsQuery rfl _)) fun locked own => ?_
  split
  · trivial
  · refine guardedThen (guardedElse ?_ fun error own => ?_) fun _ own => guardedReads (readsQuery rfl _)
    · refine guardedThen (guardedReads (readsFind _ _)) fun found own => guardedForEach (fun chainEvent own => ?_) found own
      refine guardedThen (guardedReads readsNow) fun at' own => ?_
      split
      · trivial
      · exact guardedElse (guardedProcessEvent self _) fun error own => guardedRecordFailure _ _
    · exact guardedReads (readsBind (readsQuery rfl _) fun _ => trivial)

open AdminDeadLetterService in
theorem guardedRequeue (id : String) : Guarded Changes anyOutcome (requeue id) own := by
  refine guardedFound fun thread i db => ?_
  cases read : db.deadLetters.findFirst fun row => row.id = id with
  | none => trivial
  | some dead =>
    refine guardedThen (guardedWrite fun thread i db' _ after ok => ?_) fun _ own => trivial
    split at ok
    · contradiction
    · split at ok
      · contradiction
      · rename_i chainEvents created
        split at ok
        · contradiction
        · rename_i there
          cases ok
          exact .requeued id _ List.mem_cons_self dead read created there rfl

theorem guardedHandler (request : Request) : Guarded Changes anyOutcome (handler self request) [] := by
  cases request with
  | processEvent event => exact guardedProcessEvent self event
  | retryUnprocessed => exact guardedRetryUnprocessed self
  | recordFailure id currentRetryCount => exact guardedRecordFailure id currentRetryCount
  | moveToDeadLetter id => exact guardedMoveToDeadLetter id
  | requeue id => exact guardedThen (guardedRequeue id) fun _ _ => trivial

end Walks

section Runs

/-- Everything that was ever stored is accounted for. -/
structure Accounted (start : Db) (c : EscrowSnapshot) : Prop where
  follows : Follows start c.world
  sound : Sound c.world
  advances : Advances Follows c
  agree : ∀ d ∈ c.history, Agree d.before c.world

theorem accountedRecord {start : Db} {c : EscrowSnapshot} {thread : Nat} {site : Site} {i : Answer} {db' : Db}
    (accounted : Accounted start c)
    (changes : Changes (c.history.filter fun e => e.thread = thread) (c.event thread site i db'))
    (unhandled : Unhandled c.history (c.event thread site i db')) : Accounted start (c.record thread site i db') := by
  have leaves := leavesStep (e := c.event thread site i db') accounted.agree (fun d inside => sinceMem accounted.advances.since inside)
    (fun d inside => List.mem_of_mem_filter inside) accounted.sound unhandled changes
  refine ⟨followsTrans accounted.follows leaves.follows,leaves.sound,?_,?_⟩
  · exact advancesRecord followsRefl followsTrans leaves.follows accounted.advances
  · intro d inside
    rcases List.mem_cons.mp inside with rfl | earlier
    · exact leaves.agree _ (Or.inl rfl)
    · exact leaves.agree _ (Or.inr ⟨d,earlier,rfl⟩)

variable (self : Config)

/-- In a run that moves no processed event to the dead letters and generates new ids,
what is stored at one point is at every later one stored as it was, in exactly one of
the tables, and what is processed stays processed. -/
theorem nothingLost (db : Db) (sound : Sound db) (moves more : List FailureMove)
    (unhandled : Meets (fun _ => Unhandled) ((service self).run (Pool.initial db) (moves ++ more))) :
    Keeps ((service self).run (Pool.initial db) moves).world ((service self).run (Pool.initial db) (moves ++ more)).world := by
  rw [System.runAppend] at unhandled ⊢
  have begin : GuardedPool (fun _ => Changes) (Accounted db) (Pool.initial db : Pool Request Site Answer Db Exception Unit) := by
    refine guardedInitial ⟨followsRefl db,sound,advancesInitial,?_⟩
    exact fun d inside => absurd inside List.not_mem_nil
  have keeps : ∀ start, ∀ (_ : Request) (c : EscrowSnapshot) thread site i db', Accounted start c →
      Changes (c.history.filter fun e => e.thread = thread) (c.event thread site i db') →
      Unhandled c.history (c.event thread site i db') → Accounted start (c.record thread site i db') :=
    fun start _ c thread site i db' accounted changes unhandled => accountedRecord accounted changes unhandled
  have ticks : ∀ start (elapsed : Nat) (c : EscrowSnapshot), Accounted start c →
      Accounted start { c with world := (service self).environment elapsed c.world } := by
    intro start elapsed c accounted
    have idle : Follows c.world ((service self).environment elapsed c.world) :=
      ⟨fun _ _ stored => stored,fun _ processed => processed⟩
    refine ⟨followsTrans accounted.follows idle,⟨accounted.sound.apart,accounted.sound.agree⟩,?_,accounted.agree⟩
    refine ⟨fun recent e older same calm => ?_,accounted.advances.found⟩
    exact followsTrans (accounted.advances.since recent e older same calm) idle
  have first := guardedRun (keeps db) (ticks db) (guardedHandler self) begin moves (meetsRun unhandled)
  have start : GuardedPool (fun _ => Changes) (Accounted ((service self).run (Pool.initial db) moves).world)
      ((service self).run (Pool.initial db) moves) :=
    ⟨first.known,first.each,first.seen,followsRefl _,first.holds.sound,first.holds.advances,first.holds.agree⟩
  have last := guardedRun (keeps _) (ticks _) (guardedHandler self) start more unhandled
  exact keepsFollows last.holds.follows last.holds.sound.apart

def failing : Db where
  engagements := .single { id := "e", companyAddress := "GC", recruiterAddress := "GR", arbiterAddress := "GA", totalAmount := 1000 }
  milestones := .single { id := "m", engagementId := "e", milestoneIndex := 0, name := "placed", kind := .placement
                          paymentPercent := 100, amount := some 1000, status := .proofSubmitted }
  chainEvents := .single { id := "c", eventName := "milestone_confirmed", ledger := 5, txHash := "tx"
                           payload := .array [.text "e",.number 0,.number 1000], retryCount := 4 }

def confirmed : Content := ⟨"milestone_confirmed","tx",5,.array [.text "e",.number 0,.number 1000]⟩

def granted (count : Nat) : List Answer := .replicate count { text := "d" }

/-- The last retry of an event fails in its handler. -/
def retried : List FailureMove := [.start .retryUnprocessed] ++ answered 0 (granted 6 ++ [{ fails := true }] ++ granted 4)

/-- An admin puts it back, and the next run handles it. -/
def requeued : List FailureMove :=
  [.start (.requeue "d")] ++ answered 1 (granted 2) ++ [.start .retryUnprocessed] ++ answered 2 (granted 18)

theorem failingSound : Sound failing := by
  refine ⟨fun id => Or.inr rfl,?_⟩
  exact fun row inside => absurd inside List.not_mem_nil

theorem nothingLostRequeued :
    Keeps ((service {}).run (Pool.initial failing) retried).world ((service {}).run (Pool.initial failing) (retried ++ requeued)).world ∧
    letters ((service {}).run (Pool.initial failing) retried).world "c" = some confirmed ∧
    Processed ((service {}).run (Pool.initial failing) (retried ++ requeued)).world "c" :=
  ⟨nothingLost {} failing failingSound retried requeued (by decide +kernel),by decide +kernel,by decide +kernel⟩

/-- The run is still at the event when its lock expires, and another one handles it. -/
def overtaken : List FailureMove :=
  [.start .retryUnprocessed] ++ answered 0 (granted 6) ++ [.environment 60000,.start .retryUnprocessed] ++ answered 1 (granted 18)

/-- Its own attempt then fails, the handled event goes to the dead letters and comes back. -/
def failed : List FailureMove :=
  answered 0 ({ fails := true } :: granted 4) ++ [.start (.requeue "d")] ++ answered 2 (granted 2)

theorem handledResurrected :
    ¬ Keeps ((service {}).run (Pool.initial failing) overtaken).world
      ((service {}).run (Pool.initial failing) (overtaken ++ failed)).world ∧
    Processed ((service {}).run (Pool.initial failing) overtaken).world "c" ∧
    events ((service {}).run (Pool.initial failing) (overtaken ++ failed)).world "c" = some confirmed := by
  have handled : Processed ((service {}).run (Pool.initial failing) overtaken).world "c" := by decide +kernel
  refine ⟨fun keeps => ?_,handled,by decide +kernel⟩
  exact absurd (keeps.processed "c" handled) (by decide +kernel)

end Runs

end HireSettle.Escrow.DeadLetters
