import HireSettle.Escrow.CallEffects
import HireSettle.Escrow.RetentionSchedulers
import HireSettle.Workflow.Guards

/-! When retention milestones are unlocked. Three unlockers act on what the contract
told them some time ago, and none looks at the ledger that the row stores when it is
written. A replacement may have moved that ledger in between, and moves it further
than the contract did when its event comes late. -/
namespace HireSettle.Escrow.EarlyUnlocks
open Workflow EventsService

/-- The ledger by the clock, the ledger from which the contract unlocks a milestone,
and when it emitted an event. -/
structure Chain where
  ledger : Nat → Int
  advances : Monotone ledger
  validAfter : Nat → String → Nat → Int
  emittedAt : ContractEvent → Nat

def Chain.Passed (chain : Chain) (at' : Nat) (engagementId : String) (milestoneIndex : Nat) : Prop :=
  chain.validAfter at' engagementId milestoneIndex ≤ chain.ledger at'

instance (chain : Chain) (at' : Nat) (engagementId : String) (milestoneIndex : Nat) :
    Decidable (chain.Passed at' engagementId milestoneIndex) := inferInstanceAs (Decidable (_ ≤ _))

structure RetentionEvent where
  event : ContractEvent
  named : extractEventName event = "milestone_unlocked" ∨ extractEventName event = "replacement_requested"

inductive Request where
  | acceptInvite (engagementId : String) (stellarAddress : Option String)
  | checkAndMarkUnlockable
  | handleRetentionMilestones
  | unlockRetentionOnChain (milestoneId : String)
  | processEvent (event : RetentionEvent)

variable (self : Config) (chain : Chain)

def handler : Request → Op Unit
  | .acceptInvite engagementId stellarAddress => do let _ ← EngagementsService.acceptInvite engagementId stellarAddress
  | .checkAndMarkUnlockable => EventsRetentionScheduler.checkAndMarkUnlockable
  | .handleRetentionMilestones => MilestonesRetentionScheduler.handleRetentionMilestones
  | .unlockRetentionOnChain milestoneId => MilestonesService.unlockRetentionOnChain milestoneId
  | .processEvent event => processEvent self event.event

def service : System Request Nat Site Answer Db Exception Unit where
  handler := handler self
  environment elapsed db := { db with clock := db.clock + elapsed }

abbrev UnlockMove := Move Request Nat Answer

/-- The contract emitted the unlock before it is delivered, when the ledger allowed it. -/
def Emitted (event : ContractEvent) (at' : Nat) : Prop :=
  extractEventName event = "milestone_unlocked" →
    match indexAt self (destructurePayload (extractPayload event)) 1 with
    | .ok milestoneIndex => chain.emittedAt event ≤ at' ∧
        chain.Passed (chain.emittedAt event) (textAt (destructurePayload (extractPayload event)) 0) milestoneIndex
    | .error _ => True

instance (event : ContractEvent) (at' : Nat) : Decidable (Emitted self chain event at') := by
  unfold Emitted
  split <;> infer_instance

/-- What the contract answers is so when it answers. -/
def Truthful (request : Request) (_ : List EscrowEvent) (e : EscrowEvent) : Prop :=
  (e.answer.fails = false → match e.site with
    | .isMilestoneUnlockable engagementId milestoneIndex =>
        e.answer.number ≠ 0 ↔ chain.Passed e.before.clock engagementId milestoneIndex
    | .unlockRetentionMilestone engagementId milestoneIndex => chain.Passed e.before.clock engagementId milestoneIndex
    | .getLatestLedger => e.answer.number = chain.ledger e.before.clock
    | _ => True) ∧
  match request with
  | .processEvent event => Emitted self chain event.event e.before.clock
  | _ => True

instance (request : Request) (earlier : List EscrowEvent) (e : EscrowEvent) : Decidable (Truthful self chain request earlier e) := by
  unfold Truthful
  refine @instDecidableAnd _ _ (@instDecidableForall _ _ _ ?_) ?_
  · generalize e.site = site
    induction site using Site.casesOn <;> infer_instance
  · induction request using Request.casesOn <;> infer_instance

/-- The last question to the contract about the milestone. -/
def asked (engagementId : String) (milestoneIndex : Nat) (own : List EscrowEvent) : Option EscrowEvent :=
  own.find? fun e => e.site = .isMilestoneUnlockable engagementId milestoneIndex ||
    e.site = .unlockRetentionMilestone engagementId milestoneIndex

/-- The listing of the hourly check. -/
def listed (own : List EscrowEvent) : Option EscrowEvent := own.find? fun e => e.site = .findActiveRetention

/-- The ledger is not above the one that held on chain when the contract spoke of the
milestone; for the hourly check, or above what it listed for the milestone. -/
def Covered (request : Request) (own : List EscrowEvent) (m : Milestone) (ledger : Int) : Prop :=
  match request with
  | .processEvent event => ledger ≤ chain.validAfter (chain.emittedAt event.event) m.engagementId m.milestoneIndex
  | .handleRetentionMilestones =>
      (∃ e ∈ asked m.engagementId m.milestoneIndex own, ledger ≤ chain.validAfter e.before.clock m.engagementId m.milestoneIndex) ∨
      ∃ e ∈ listed own, ∃ m' ∈ e.before.milestones.get? m.id, ∃ bound ∈ m'.validAfterLedger, ledger ≤ bound
  | _ => ∃ e ∈ asked m.engagementId m.milestoneIndex own, ledger ≤ chain.validAfter e.before.clock m.engagementId m.milestoneIndex

instance (request : Request) (own : List EscrowEvent) (m : Milestone) (ledger : Int) : Decidable (Covered chain request own m ledger) := by
  unfold Covered
  induction request using Request.casesOn <;> infer_instance

/-- A retention milestone leaves `LOCKED`. -/
def Unlocks (e : EscrowEvent) (m : Milestone) : Prop :=
  m.kind = .retention ∧ m.status = .locked ∧ ∃ m' ∈ e.after.milestones.get? m.id, m'.status ≠ .locked

instance (e : EscrowEvent) (m : Milestone) : Decidable (Unlocks e m) := by
  unfold Unlocks
  infer_instance

/-- What is unlocked stores a ledger that its unlocker knows to have passed. -/
def Current (request : Request) (earlier : List EscrowEvent) (e : EscrowEvent) : Prop :=
  ∀ m ∈ e.before.milestones.rows, Unlocks e m → ∀ ledger ∈ m.validAfterLedger,
    Covered chain request (earlier.filter fun e' => e'.thread = e.thread) m ledger

instance (request : Request) (earlier : List EscrowEvent) (e : EscrowEvent) : Decidable (Current chain request earlier e) := by
  unfold Current
  infer_instance

/-- No retention milestone is unlocked before the ledger that it stores. -/
def InTime (e : EscrowEvent) : Prop :=
  ∀ m ∈ e.before.milestones.rows, Unlocks e m → ∀ ledger ∈ m.validAfterLedger, ledger ≤ chain.ledger e.before.clock

instance (e : EscrowEvent) : Decidable (InTime chain e) := by
  unfold InTime
  infer_instance

section Steps

structure KeepsSlots (db db' : Db) : Prop where
  rows : ∀ id m, db.milestones.get? id = some m → ∃ m', db'.milestones.get? id = some m' ∧ SameSlot m m' ∧ m'.kind = m.kind
  clock : db.clock ≤ db'.clock

variable {db db' db'' : Db}

theorem slotsRefl (db : Db) : KeepsSlots db db := ⟨fun _ m found => ⟨m,found,⟨rfl,rfl,rfl⟩,rfl⟩,Nat.le_refl _⟩

theorem slotsTrans (first : KeepsSlots db db') (second : KeepsSlots db' db'') : KeepsSlots db db'' := by
  refine ⟨fun id m found => ?_,Nat.le_trans first.clock second.clock⟩
  obtain ⟨m',found',slot,kind⟩ := first.rows id m found
  obtain ⟨m'',found'',slot',kind'⟩ := second.rows id m' found'
  exact ⟨m'',found'',⟨slot'.id.trans slot.id,slot'.engagementId.trans slot.engagementId,
    slot'.milestoneIndex.trans slot.milestoneIndex⟩,kind'.trans kind⟩

/-- The rows stay where they are, and those that meet `p` get a new status. -/
structure Frees (p : Milestone → Prop) (db db' : Db) : Prop where
  slots : KeepsSlots db db'
  locked : ∀ m ∈ db.milestones.rows, m.status = .locked → ∀ m' ∈ db'.milestones.get? m.id, m'.status ≠ .locked → p m

abbrev Quiet (db db' : Db) : Prop := Frees (fun _ => False) db db'

theorem quietSame (same : db'.milestones = db.milestones) (clock : db'.clock = db.clock) : Quiet db db' := by
  refine ⟨⟨fun id m found => ⟨m,same ▸ found,⟨rfl,rfl,rfl⟩,rfl⟩,clock.ge⟩,fun m inside locked m' found free => ?_⟩
  rw [same,show m.id = Keyed.key m from rfl,Table.memGet inside] at found
  cases Option.mem_some_iff.mp found
  exact free locked

theorem quietRefl (db : Db) : Quiet db db := quietSame rfl rfl

theorem quietTrans (first : Quiet db db') (second : Quiet db' db'') : Quiet db db'' := by
  refine ⟨slotsTrans first.slots second.slots,fun m inside locked m'' found free => ?_⟩
  obtain ⟨m',there,slot,_⟩ := first.slots.rows m.id m (Table.memGet inside)
  by_cases still : m'.status = .locked
  · have key : m'.id = m.id := slot.id
    exact second.locked m' (Table.getMem there) still m'' (key ▸ found) free
  · exact first.locked m inside locked m' there still

theorem freesUpdateMany {p : Milestone → Bool} {f : Milestone → Milestone} {keeps : ∀ m, (f m).id = m.id}
    (same : ∀ m, SameSlot m (f m) ∧ (f m).kind = m.kind) :
    Frees (fun m => p m = true ∧ (f m).status ≠ .locked) db { db with milestones := db.milestones.updateMany p f keeps } := by
  have get : ∀ id, (db.milestones.updateMany p f keeps).get? id = (db.milestones.get? id).map fun m => if p m then f m else m :=
    fun id => Table.getUpdateMany db.milestones p f keeps id
  refine ⟨⟨fun id m found => ?_,Nat.le_refl _⟩,fun m inside locked m' found free => ?_⟩
  · refine ⟨if p m then f m else m,by rw [get,found]; rfl,?_⟩
    split
    · exact same m
    · exact ⟨⟨rfl,rfl,rfl⟩,rfl⟩
  · rw [get,show m.id = Keyed.key m from rfl,Table.memGet inside] at found
    cases Option.mem_some_iff.mp found
    dsimp only at free
    split at free
    · exact ⟨by assumption,free⟩
    · exact absurd locked free

theorem freesMono {p q : Milestone → Prop} (weaker : ∀ m ∈ db.milestones.rows, p m → q m) (frees : Frees p db db') : Frees q db db' :=
  ⟨frees.slots,fun m inside locked m' found free => weaker m inside (frees.locked m inside locked m' found free)⟩

theorem freesUpdate {id : String} {f : Milestone → Milestone} {keeps : ∀ m, (f m).id = m.id} {m' : Milestone}
    (same : ∀ m, SameSlot m (f m) ∧ (f m).kind = m.kind) (updated : db.updateMilestone id f keeps = .ok (m',db')) :
    Frees (fun m => m.id = id ∧ (f m).status ≠ .locked) db db' := by
  obtain ⟨_,_,_,_,_,rfl⟩ := Db.updateMilestoneCases updated
  refine freesMono ?_ (freesUpdateMany same)
  intro m _ ⟨here,free⟩
  exact ⟨of_decide_eq_true here,free⟩

theorem freesUpdateAt {engagementId : String} {milestoneIndex : Nat} {f : Milestone → Milestone} {keeps : ∀ m, (f m).id = m.id}
    {m' : Milestone} (same : ∀ m, SameSlot m (f m) ∧ (f m).kind = m.kind)
    (updated : db.updateMilestoneAt engagementId milestoneIndex f keeps = .ok (m',db')) :
    Frees (fun m => m.engagementId = engagementId ∧ m.milestoneIndex = milestoneIndex) db db' := by
  obtain ⟨row,found,updated⟩ := exceptBind.mp updated
  have there := requiredSome found
  refine freesMono ?_ (freesUpdate same updated)
  intro m inside ⟨here,_⟩
  have stored := Table.memGet (List.mem_of_find?_eq_some there)
  have unique : some row = some m := stored.symm.trans ((congrArg db.milestones.get? here.symm).trans (Table.memGet inside))
  cases unique
  simpa using List.find?_some there

theorem quietUpdate {id : String} {f : Milestone → Milestone} {keeps : ∀ m, (f m).id = m.id} {m' : Milestone}
    (same : ∀ m, SameSlot m (f m) ∧ (f m).kind = m.kind) (locks : ∀ m, m.status = .locked → (f m).status = .locked)
    (updated : db.updateMilestone id f keeps = .ok (m',db')) : Quiet db db' := by
  have frees := freesUpdate same updated
  obtain ⟨_,_,_,_,_,rfl⟩ := Db.updateMilestoneCases updated
  exact ⟨frees.slots,fun m inside locked m' found free => (frees.locked m inside locked m' found free).2 (locks m locked)⟩

end Steps

section Guards

/-- What the hourly check has listed for the milestone, it has found passed. -/
def Matured (own : List EscrowEvent) (id : String) : Prop :=
  ∀ listing ∈ listed own, ∀ m ∈ listing.before.milestones.get? id, ∀ ledger ∈ m.validAfterLedger,
    ∃ read ∈ own, read.site = .getLatestLedger ∧ read.answer.fails = false ∧ ledger ≤ read.answer.number

/-- How a thread has come to write the milestone. -/
inductive Entitled (request : Request) (own : List EscrowEvent) (m : Milestone) : Prop where
  | placement (read : EscrowEvent) (seen : Milestone) (inside : read ∈ own) (found : read.before.milestones.get? m.id = some seen)
      (kind : seen.kind = .placement)
  | answered (here : request = .checkAndMarkUnlockable) (said : EscrowEvent)
      (last : asked m.engagementId m.milestoneIndex own = some said)
      (site : said.site = .isMilestoneUnlockable m.engagementId m.milestoneIndex)
      (fine : said.answer.fails = false) (unlockable : said.answer.number ≠ 0)
  | sent (job : (∃ id, request = .unlockRetentionOnChain id) ∨ request = .handleRetentionMilestones ∧ Matured own m.id)
      (read : EscrowEvent) (seen : Milestone) (inside : read ∈ own) (found : read.before.milestones.get? m.id = some seen)
      (said : EscrowEvent) (last : asked seen.engagementId seen.milestoneIndex own = some said)
      (site : said.site = .unlockRetentionMilestone seen.engagementId seen.milestoneIndex) (fine : said.answer.fails = false)
  | emitted (event : RetentionEvent) (here : request = .processEvent event)
      (named : extractEventName event.event = "milestone_unlocked")
      (index : indexAt self (destructurePayload (extractPayload event.event)) 1 = .ok m.milestoneIndex)
      (text : textAt (destructurePayload (extractPayload event.event)) 0 = m.engagementId)

def Guard (request : Request) (own : List EscrowEvent) (e : EscrowEvent) : Prop :=
  Frees (Entitled self request own) e.before e.after

/-- Later calls, none of which lists the milestones. -/
def Extends (own own' : List EscrowEvent) : Prop := ∃ later, own' = later ++ own ∧ ∀ e ∈ later, e.site ≠ .findActiveRetention

variable {self} {request : Request} {own : List EscrowEvent} {α β : Type} {site : Site}

theorem quietGuard {e : EscrowEvent} (quiet : Quiet e.before e.after) : Guard self request own e :=
  freesMono (fun _ _ none => none.elim) quiet

theorem extendsSelf : Extends own own := ⟨[],rfl,fun _ inside => absurd inside List.not_mem_nil⟩

theorem listedLater {own' : List EscrowEvent} (extended : Extends own own') : listed own' = listed own := by
  obtain ⟨later,rfl,each⟩ := extended
  have none : later.find? (fun e => decide (e.site = .findActiveRetention)) = none :=
    List.find?_eq_none.mpr fun e inside => by simpa using each e inside
  rw [listed,List.find?_append,none]
  rfl

theorem maturedLater {own' : List EscrowEvent} {id : String} (matured : Matured own id) (extended : Extends own own') :
    Matured own' id := by
  intro listing there m found ledger stored
  rw [listedLater extended] at there
  obtain ⟨read,inside,its⟩ := matured listing there m found ledger stored
  obtain ⟨later,rfl,_⟩ := extended
  exact ⟨read,List.mem_append_right _ inside,its⟩

theorem extendsTrans {own' own'' : List EscrowEvent} (first : Extends own own') (second : Extends own' own'') : Extends own own'' := by
  obtain ⟨later,rfl,each⟩ := first
  obtain ⟨later',rfl,each'⟩ := second
  refine ⟨later' ++ later,(List.append_assoc _ _ _).symm,fun e inside => ?_⟩
  rcases List.mem_append.mp inside with here | there
  · exact each' e here
  · exact each e there

theorem guardedAsk {done : List EscrowEvent → Except Exception β → Prop} {f : Answer → Db → Except Exception α} {k : α → Op β}
    (rest : ∀ thread i db value, f i db = .ok value → Guarded (Guard self request) done (k value) (⟨thread,site,i,db,db⟩ :: own))
    (fails : ∀ thread i db error, f i db = .error error → done (⟨thread,site,i,db,db⟩ :: own) (.error error)) :
    Guarded (Guard self request) done (Process.query site f >>= k) own := by
  refine guardedBind (guardedQuery fun thread i db => ⟨quietGuard (quietRefl db),?_⟩)
  cases answer : f i db with
  | ok value => exact rest thread i db value answer
  | error error => exact fails thread i db error answer

theorem guardedWrite {done : List EscrowEvent → Except Exception α → Prop} {f : Answer → Db → Except Exception (α × Db)}
    (frees : ∀ i db value db', f i db = .ok (value,db') → Frees (Entitled self request own) db db')
    (fin : ∀ thread i db db' out, done (⟨thread,site,i,db,db'⟩ :: own) out) : Guarded (Guard self request) done (write site f) own := by
  refine guardedTransact (fun thread i db value db' ok => ⟨?_,fin _ _ _ _ _⟩) fun thread i db error _ => ⟨quietGuard (quietRefl db),fin _ _ _ _ _⟩
  split at ok
  · contradiction
  · exact frees i db value db' ok

/-- A call that is not a listing and frees nothing. -/
def Calm (site : Site) (db db' : Db) : Prop := site ≠ .findActiveRetention ∧ Quiet db db'

theorem guardedCalm {p : Op α} (acts : Acts Calm p) : Guarded (Guard self request) (fun own' _ => Extends own own') p own := by
  refine guardedMono ?_ (guardedActs (fun _ e _ calm => quietGuard calm.2) acts)
  rintro own' _ ⟨later,rfl,each⟩
  exact ⟨later,rfl,fun e inside => (each e inside).1⟩

def Still (_ : Site) (db db' : Db) : Prop := Quiet db db'

theorem guardedQuiet {p : Op α} (acts : Acts Still p) : Guarded (Guard self request) anyOutcome p own :=
  guardedAny (guardedActs (fun _ _ _ quiet => quietGuard quiet) acts)

theorem calmQuery (elsewhere : site ≠ .findActiveRetention) (f : Answer → Db → Except Exception α) : Acts Calm (Process.query site f) :=
  actsQuery (fun db => ⟨elsewhere,quietRefl db⟩) f

theorem calmWrite (elsewhere : site ≠ .findActiveRetention) {f : Answer → Db → Except Exception (α × Db)}
    (quiet : ∀ i db value db', f i db = .ok (value,db') → Quiet db db') : Acts Calm (write site f) := by
  refine actsTransact (fun db => ⟨elsewhere,quietRefl db⟩) fun i db value db' ok => ⟨elsewhere,?_⟩
  split at ok
  · contradiction
  · exact quiet i db value db' ok

theorem quietReads {p : Op α} (reads : Reads Site.reads p) : Acts Still p :=
  actsMono (fun _ db _ ⟨_,same⟩ => same ▸ quietRefl db) (actsSteps reads)

theorem quietStellar (site : Site) (f : Answer → α) : Acts Still (stellar site f) := by
  have stays : ∀ db, Still site db db := quietRefl
  exact actsQuery stays _

theorem quietWrite {f : Answer → Db → Except Exception (α × Db)} (quiet : ∀ i db value db', f i db = .ok (value,db') → Quiet db db') :
    Acts Still (write site f) := by
  have stays : ∀ db, Still site db db := quietRefl
  refine actsTransact stays fun i db value db' ok => ?_
  split at ok
  · contradiction
  · exact quiet i db value db' ok

theorem quietElsewhere {f : Answer → Db → Except Exception (α × Db)}
    (same : ∀ i db value db', f i db = .ok (value,db') → db'.milestones = db.milestones ∧ db'.clock = db.clock) :
    Acts Still (write site f) :=
  quietWrite fun i db value db' ok => quietSame (same i db value db' ok).1 (same i db value db' ok).2

end Guards

section Walks

open MilestonesService EventsRetentionScheduler MilestonesRetentionScheduler

variable {self} {request : Request} {own : List EscrowEvent}

theorem guardedUnlock (milestoneId : String)
    (job : (∃ id, request = .unlockRetentionOnChain id) ∨ request = .handleRetentionMilestones ∧ Matured own milestoneId) :
    Guarded (Guard self request) (fun own' _ => Extends own own') (unlockRetentionOnChain milestoneId) own := by
  refine guardedAsk (fun thread i db found ok => ?_) fun thread i db error _ => ⟨[_],rfl,by simp⟩
  split at ok
  · contradiction
  · cases Except.ok.inj ok
    split
    · exact ⟨[_],rfl,by simp⟩
    · rename_i milestone there
      refine guardedAsk (fun thread' i' db₁ _ ok => ?_) fun thread i db error _ => ⟨[_,_],rfl,by simp⟩
      split at ok
      · contradiction
      · rename_i fine
        refine guardedBind (guardedWrite (fun _ db₂ _ db₃ updated => ?_) fun thread₂ i₂ db₂ db₃ out => ?_)
        · refine freesMono ?_ (freesUpdate ?_ updated)
          · rintro m inside ⟨here,_⟩
            have later : Extends own (⟨thread',.unlockRetentionMilestone milestone.engagementId milestone.milestoneIndex,i',db₁,db₁⟩ ::
                ⟨thread,.find .milestone,i,db,db⟩ :: own) := ⟨[_,_],rfl,by simp⟩
            refine .sent ?_ ⟨thread,.find .milestone,i,db,db⟩ milestone (List.mem_cons_of_mem _ List.mem_cons_self) (here ▸ there)
              ⟨thread',.unlockRetentionMilestone milestone.engagementId milestone.milestoneIndex,i',db₁,db₁⟩ ?_ rfl (by simpa using fine)
            · exact job.imp id fun both => ⟨both.1,maturedLater (here ▸ both.2) later⟩
            · exact List.find?_cons_of_pos (by simp)
          · exact fun _ => ⟨⟨rfl,rfl,rfl⟩,rfl⟩
        · cases out with
          | error error => exact ⟨[_,_,_],rfl,by simp⟩
          | ok value =>
            refine guardedWrite (fun _ db _ db' ok => ?_) fun thread i db db' out => ⟨[_,_,_,_],rfl,by simp⟩
            cases ok
            exact freesMono (fun _ _ none => none.elim) (quietSame rfl rfl)

theorem guardedHandleEach {base own : List EscrowEvent} {currentLedger : Int} {listing : EscrowEvent} {milestone : Milestone}
    (job : request = .handleRetentionMilestones) (extended : Extends base own) (last : listed base = some listing)
    (found : listing.before.milestones.get? milestone.id = some milestone)
    (read : ∃ read ∈ base, read.site = .getLatestLedger ∧ read.answer.fails = false ∧ read.answer.number = currentLedger) :
    Guarded (Guard self request) (fun own' _ => Extends base own') (handleEach currentLedger milestone) own := by
  unfold handleEach
  split
  · rename_i passed
    have matured : Matured own milestone.id := by
      intro listing' there m found' ledger stored
      rw [listedLater extended,last] at there
      cases Option.mem_some_iff.mp there
      cases found.symm.trans found'
      obtain ⟨later,rfl,_⟩ := extended
      obtain ⟨read,inside,site,fine,number⟩ := read
      refine ⟨read,List.mem_append_right _ inside,site,fine,?_⟩
      rw [MilestonesRetentionScheduler.matured,Option.mem_def.mp stored,Option.any_some,decide_eq_true_eq] at passed
      rwa [number]
    exact guardedMono (fun _ _ more => extendsTrans extended more) (guardedUnlock milestone.id (Or.inr ⟨job,matured⟩))
  · split
    · refine guardedMono (fun _ _ more => extendsTrans extended more) (guardedCalm ?_)
      refine actsBind (calmQuery (by simp) _) fun found => ?_
      split
      · trivial
      · refine actsBind (calmWrite (by simp) fun i db value db' updated => ?_) fun _ => calmWrite (by simp) fun i db value db' ok => ?_
        · refine quietUpdate ?_ ?_ updated
          · exact fun _ => ⟨⟨rfl,rfl,rfl⟩,rfl⟩
          · exact fun _ locked => locked
        · cases ok
          exact quietSame rfl rfl
    · exact extended

theorem guardedCheck (job : request = .handleRetentionMilestones) (own : List EscrowEvent) :
    Guarded (Guard self request) anyOutcome check own := by
  refine guardedAsk (fun thread i db currentLedger ok => ?_) fun thread i db error _ => trivial
  split at ok
  · contradiction
  · rename_i fine
    cases Except.ok.inj ok
    refine guardedAsk (fun thread' i' db' milestones ok => ?_) fun thread i db error _ => trivial
    split at ok
    · contradiction
    · cases Except.ok.inj ok
      refine guardedAny (guardedForKeeps (fun milestone inside own extended => ?_) extendsSelf)
      refine guardedHandleEach job extended (List.find?_cons_of_pos (by simp)) ?_ ?_
      · exact (Table.findManyGet inside).1
      · exact ⟨_,List.mem_cons_of_mem _ List.mem_cons_self,rfl,by simpa using fine,rfl⟩

theorem guardedRetention (own : List EscrowEvent) :
    Guarded (Guard self .handleRetentionMilestones) anyOutcome handleRetentionMilestones own := by
  refine guardedThen (guardedQuiet (quietReads (readsQuery rfl _))) fun token own => ?_
  split
  · trivial
  · refine guardedThen (guardedQuiet ?_) fun isRunning own => ?_
    · refine actsTransact (fun db => quietRefl db) fun i db value db' ok => ?_
      cases ok
      exact quietSame rfl rfl
    · split
      · exact guardedQuiet (quietReads (readsQuery rfl _))
      · refine guardedThen (guardedElse (guardedCheck rfl own) fun _ _ => trivial) fun _ own => ?_
        refine guardedThen (guardedQuiet ?_) fun _ own => guardedQuiet (quietReads (readsQuery rfl _))
        refine actsTransact (fun db => quietRefl db) fun i db value db' ok => ?_
        cases ok
        exact quietSame rfl rfl

theorem guardedUnlockEach (schedule : RetentionSchedule) (own : List EscrowEvent) :
    Guarded (Guard self .checkAndMarkUnlockable) anyOutcome (unlockEach schedule) own := by
  refine guardedAsk (fun thread i db isUnlockable ok => ?_) fun thread i db error _ => trivial
  cases Except.ok.inj ok
  split
  · trivial
  · rename_i unlockable
    obtain ⟨fine,positive⟩ : i.fails = false ∧ i.number ≠ 0 := by simpa using unlockable
    refine guardedThen (guardedWrite (fun _ db₁ _ db₂ ok => ?_) fun _ _ _ _ _ => trivial) fun _ own => guardedQuiet ?_
    · cases ok
      refine freesMono ?_ (freesUpdateMany ?_)
      · intro m _ ⟨here,_⟩
        simp only [EventsRetentionScheduler.unlockable,Bool.and_eq_true,decide_eq_true_eq] at here
        obtain ⟨⟨engagementId,milestoneIndex⟩,_⟩ := here
        refine .answered rfl ⟨thread,.isMilestoneUnlockable schedule.engagementId schedule.milestoneIndex,i,db,db⟩ ?_ ?_ fine positive
        · rw [engagementId,milestoneIndex]
          exact List.find?_cons_of_pos (by simp)
        · rw [engagementId,milestoneIndex]
      · exact fun _ => ⟨⟨rfl,rfl,rfl⟩,rfl⟩
    · refine actsBind (quietElsewhere fun i db value db' ok => ?_) fun _ => quietReads (readsAnnounce _ _)
      obtain ⟨_,_,same⟩ := exceptBind.mp ok
      cases same
      exact ⟨rfl,rfl⟩

theorem guardedUnlockable (own : List EscrowEvent) :
    Guarded (Guard self .checkAndMarkUnlockable) anyOutcome checkAndMarkUnlockable own := by
  refine guardedThen (guardedQuiet (quietReads readsNow)) fun at' own => ?_
  refine guardedThen (guardedQuiet (quietReads (readsFind _ _))) fun due own => ?_
  refine guardedForEach (fun schedule own => guardedElse (guardedUnlockEach schedule own) ?_) due own
  exact fun _ _ => trivial

open EngagementsService in
theorem quietScheduled {db db' : Db} {estimates : List (Milestone × Int × Int)} (scheduled : estimates.foldlM scheduleUnlock db = .ok db') :
    Quiet db db' := by
  induction estimates generalizing db with
  | nil =>
    cases scheduled
    exact quietRefl _
  | cons estimate estimates ih =>
    obtain ⟨mid,first,rest⟩ := exceptBind.mp scheduled
    obtain ⟨⟨m',updatedDb⟩,updated,made⟩ := exceptBind.mp first
    have dated : Quiet db updatedDb := by
      refine quietUpdate ?_ ?_ updated
      · exact fun _ => ⟨⟨rfl,rfl,rfl⟩,rfl⟩
      · exact fun _ locked => locked
    refine quietTrans (quietTrans dated ?_) (ih rest)
    dsimp only [Db.createSchedule] at made
    split at made
    · contradiction
    · cases made
      exact quietSame rfl rfl

theorem quietEntered {db db' : Db} {id : String} {f : Engagement → Engagement} {keeps : ∀ row, (f row).id = row.id} {row : Engagement}
    (updated : db.updateEngagement id f keeps = .ok (row,db')) : Quiet db db' := by
  obtain ⟨_,_,_,_,_,rfl⟩ := Db.updateEngagementCases updated
  exact quietSame rfl rfl

open EngagementsService in
theorem quietAcceptInvite (engagementId : String) (stellarAddress : Option String) :
    Acts Still (acceptInvite engagementId stellarAddress) := by
  refine actsBind (quietReads (readsFind _ _)) fun found => ?_
  split
  · trivial
  · split
    · trivial
    · split
      · trivial
      · refine actsBind (quietReads (readsQuery rfl _)) fun balance => ?_
        split
        · trivial
        · refine actsBind (quietStellar _ _) fun submitted => actsBind (quietReads (readsQuery rfl _)) fun currentLedger => ?_
          refine actsBind (quietReads readsNow) fun at' => actsBind (quietWrite fun i db row db' ok => ?_) fun accepted => ?_
          · obtain ⟨⟨row',mid⟩,updated,rest⟩ := exceptBind.mp ok
            obtain ⟨last,scheduled,same⟩ := exceptBind.mp rest
            cases same
            exact quietTrans (quietEntered updated) (quietScheduled scheduled)
          · exact actsBind (quietReads readsNotify) fun _ => trivial

theorem quietResetRetention (engagementId : String) (currentLedger : Int) (m : Milestone) :
    Acts Still (resetRetention engagementId currentLedger m) := by
  refine actsBind (quietReads readsNow) fun at' => actsBind (quietWrite fun i db row db' updated => ?_) fun _ => ?_
  · refine quietUpdate ?_ ?_ updated
    · exact fun _ => ⟨⟨rfl,rfl,rfl⟩,rfl⟩
    · exact fun _ _ => rfl
  · refine actsBind (quietElsewhere fun i db value db' ok => ?_) fun _ => ?_
    · cases ok
      exact ⟨rfl,rfl⟩
    · dsimp only
      split
      · trivial
      · trivial
      · refine quietElsewhere fun i db value db' ok => ?_
        cases ok
        exact ⟨rfl,rfl⟩

theorem guardedResetPlacement {read : EscrowEvent} {m : Milestone} (inside : read ∈ own)
    (found : read.before.milestones.get? m.id = some m) (kind : m.kind = .placement) :
    Guarded (Guard self request) anyOutcome (resetPlacement m) own := by
  refine guardedThen (guardedWrite (fun _ db _ db' updated => ?_) fun _ _ _ _ _ => trivial) fun _ own => guardedQuiet ?_
  · refine freesMono ?_ (freesUpdate ?_ updated)
    · exact fun m' _ ⟨here,_⟩ => .placement read m inside (here ▸ found) kind
    · exact fun _ => ⟨⟨rfl,rfl,rfl⟩,rfl⟩
  · refine quietElsewhere fun i db value db' ok => ?_
    cases ok
    exact ⟨rfl,rfl⟩

theorem guardedReplacement (payload : Json) (own : List EscrowEvent) :
    Guarded (Guard self request) anyOutcome (handleReplacementRequested payload) own := by
  refine guardedThen (guardedQuiet (quietStellar _ _)) fun currentLedger own => guardedThen ?_ fun _ own => guardedQuiet ?_
  · refine guardedAsk (fun thread i db milestones ok => ?_) fun thread i db error _ => trivial
    split at ok
    · contradiction
    · cases Except.ok.inj ok
      have first : (⟨thread,.find .milestone,i,db,db⟩ : EscrowEvent) ∈ ⟨thread,.find .milestone,i,db,db⟩ :: own := List.mem_cons_self
      refine guardedAny (guardedForKeeps (fun m listed own inside => ?_) first)
      have found : db.milestones.get? m.id = some m :=
        (Table.findManyGet ((List.perm_insertionSort _ _).mem_iff.mp listed)).1
      refine guardedRemembers ?_ inside
      split
      · rename_i kind
        exact guardedResetPlacement inside found kind
      · split
        · trivial
        · exact guardedQuiet (quietResetRetention _ _ _)
  · exact actsBind (quietReads (readsFindOr _ _)) fun _ => actsBind (quietReads (readsAnnounce _ _)) fun _ => trivial

theorem guardedUnlocked (event : RetentionEvent) (named : extractEventName event.event = "milestone_unlocked") (own : List EscrowEvent) :
    Guarded (Guard self (.processEvent event)) anyOutcome (handleMilestoneUnlocked self (extractPayload event.event)) own := by
  refine guardedBind (guardedOfExcept ?_)
  cases index : indexAt self (destructurePayload (extractPayload event.event)) 1 with
  | error error => trivial
  | ok milestoneIndex =>
    refine guardedThen (guardedWrite (fun _ db _ db' updated => ?_) fun _ _ _ _ _ => trivial) fun _ own => guardedQuiet ?_
    · refine freesMono ?_ (freesUpdateAt ?_ updated)
      · exact fun m _ ⟨engagementId,here⟩ => .emitted event rfl named (here ▸ index) engagementId.symm
      · exact fun _ => ⟨⟨rfl,rfl,rfl⟩,rfl⟩
    · exact actsBind (quietReads (readsFind _ _)) fun _ => actsBind (quietReads (readsAnnounce _ _)) fun _ => trivial

theorem guardedEvent (event : RetentionEvent) (own : List EscrowEvent) :
    Guarded (Guard self (.processEvent event)) anyOutcome (processEvent self event.event) own := by
  refine guardedThen (guardedQuiet (quietReads (readsQuery rfl _))) fun existing own => ?_
  split
  · trivial
  · refine guardedThen (guardedQuiet (actsBind (quietReads (readsQuery rfl _)) fun found => ?_)) fun chainEvent own => ?_
    · split
      · trivial
      · refine quietElsewhere fun i db row db' ok => ?_
        dsimp only at ok
        split at ok
        · contradiction
        · split at ok
          · contradiction
          · cases ok
            exact ⟨rfl,rfl⟩
    · split
      · trivial
      · refine guardedThen ?_ fun writes own => guardedQuiet (quietElsewhere fun i db value db' ok => ?_)
        · rcases event.named with named | named
          · have handles : Guarded (Guard self (.processEvent event)) anyOutcome
                (handleMilestoneUnlocked self (extractPayload event.event)) own := guardedUnlocked event named own
            rwa [named]
          · rw [named]
            exact guardedReplacement (extractPayload event.event) own
        · dsimp only at ok
          split at ok
          · contradiction
          · cases ok
            exact ⟨rfl,rfl⟩

theorem guardedHandler (request : Request) : Guarded (Guard self request) anyOutcome (handler self request) [] := by
  cases request with
  | acceptInvite engagementId stellarAddress =>
    exact guardedQuiet (actsBind (quietAcceptInvite engagementId stellarAddress) fun _ => trivial)
  | checkAndMarkUnlockable => exact guardedUnlockable []
  | handleRetentionMilestones => exact guardedRetention []
  | unlockRetentionOnChain milestoneId => exact guardedAny (guardedUnlock milestoneId (Or.inl ⟨milestoneId,rfl⟩))
  | processEvent event => exact guardedEvent event []

end Walks

section Runs

variable {self chain} {request : Request} {earlier own : List EscrowEvent} {e : EscrowEvent}

/-- What had passed when the thread made a call has still passed. -/
theorem passedSince {bound ledger : Int} {read : EscrowEvent} (ahead : KeepsSlots read.before e.before)
    (passed : bound ≤ chain.ledger read.before.clock) (below : ledger ≤ bound) : ledger ≤ chain.ledger e.before.clock :=
  Int.le_trans below (Int.le_trans passed (chain.advances ahead.clock))

/-- An unlock is in time, if the row stores a ledger that its unlocker knows to have passed. -/
theorem entitledInTime (ahead : ∀ d ∈ own, KeepsSlots d.before e.before)
    (truthful : ∀ d, d ∈ own ∨ d = e → ∃ earlier, Truthful self chain request earlier d) {m : Milestone}
    (inside : m ∈ e.before.milestones.rows) (kind : m.kind = .retention) (entitled : Entitled self request own m) {ledger : Int}
    (covered : Covered chain request own m ledger) : ledger ≤ chain.ledger e.before.clock := by
  have here : ∀ read ∈ own, ∀ seen, read.before.milestones.get? m.id = some seen → SameSlot seen m ∧ m.kind = seen.kind := by
    intro read its seen found
    obtain ⟨m',found',slot,same⟩ := (ahead read its).rows m.id seen found
    cases found'.symm.trans (Table.memGet inside)
    exact ⟨slot,same⟩
  have answers : ∀ engagementId milestoneIndex said, asked engagementId milestoneIndex own = some said →
      chain.Passed said.before.clock engagementId milestoneIndex → ∀ ledger,
      ledger ≤ chain.validAfter said.before.clock engagementId milestoneIndex → ledger ≤ chain.ledger e.before.clock :=
    fun _ _ said last passed _ below => passedSince (ahead said (List.mem_of_find?_eq_some last)) passed below
  cases entitled with
  | placement read seen its found placed =>
    have same := (here read its seen found).2
    rw [kind,placed] at same
    cases same
  | answered job said last site fine unlockable =>
    subst job
    obtain ⟨said',its,below⟩ := covered
    cases last.symm.trans its
    obtain ⟨earlier,true,_⟩ := truthful said (Or.inl (List.mem_of_find?_eq_some last))
    have spoken := true fine
    rw [site] at spoken
    exact answers _ _ said last (spoken.mp unlockable) _ below
  | sent job read seen its found said last site fine =>
    have slot := (here read its seen found).1
    rw [← slot.engagementId,← slot.milestoneIndex] at last site
    obtain ⟨earlier,true,_⟩ := truthful said (Or.inl (List.mem_of_find?_eq_some last))
    have spoken := true fine
    rw [site] at spoken
    have told : (∃ e ∈ asked m.engagementId m.milestoneIndex own,
        ledger ≤ chain.validAfter e.before.clock m.engagementId m.milestoneIndex) → ledger ≤ chain.ledger e.before.clock := by
      rintro ⟨said',its',below⟩
      cases last.symm.trans its'
      exact answers _ _ said last spoken _ below
    obtain ⟨id,rfl⟩ | ⟨rfl,matured⟩ := job
    · exact told covered
    · obtain covered | ⟨listing,there,m',found',bound,stored,below⟩ := covered
      · exact told covered
      · obtain ⟨read',its',site',fine',above⟩ := matured listing there m' found' bound stored
        obtain ⟨earlier',true',_⟩ := truthful read' (Or.inl its')
        have number := true' fine'
        rw [site'] at number
        exact passedSince (ahead read' its') (number ▸ above) below
  | emitted event job named index text =>
    subst job
    obtain ⟨earlier,_,emitted⟩ := truthful e (Or.inr rfl)
    have spoken := emitted named
    rw [index,text] at spoken
    exact Int.le_trans covered (Int.le_trans spoken.2 (chain.advances spoken.1))

/-- In a run in which every unlocked milestone stores a ledger that its unlocker knows
to have passed, no retention milestone is unlocked early. -/
theorem unlockedInTime (self : Config) (chain : Chain) (db : Db) (moves : List UnlockMove)
    (truthful : Meets (Truthful self chain) ((service self).run (Pool.initial db) moves))
    (current : Meets (Current chain) ((service self).run (Pool.initial db) moves)) :
    ∀ e ∈ ((service self).run (Pool.initial db) moves).history, InTime chain e := by
  have begin : GuardedPool (Guard self) (Advances KeepsSlots) (Pool.initial db : Pool Request Site Answer Db Exception Unit) :=
    guardedInitial advancesInitial
  have run : GuardedPool (Guard self) (Advances KeepsSlots) ((service self).run (Pool.initial db) moves) := by
    refine guardedRun ?_ ?_ guardedHandler begin moves truthful
    · exact fun request c thread site i s' advances guard _ => advancesRecord slotsRefl slotsTrans guard.slots advances
    · intro elapsed c advances
      refine ⟨fun recent e older same calm => ?_,advances.found⟩
      have waited : KeepsSlots c.world { c.world with clock := c.world.clock + elapsed } :=
        ⟨(slotsRefl c.world).rows,Nat.le_add_right _ _⟩
      exact slotsTrans (advances.since recent e older same calm) waited
  intro e inside m stored unlocks ledger its
  obtain ⟨t,there⟩ : ∃ t, ((service self).run (Pool.initial db) moves).threads[e.thread]? = some t :=
    ⟨_,List.getElem?_eq_getElem (run.known e inside)⟩
  obtain ⟨earlier,suffix,guard⟩ := meetsAt run.seen inside
  obtain ⟨kind,locked,m',found,free⟩ := unlocks
  have ahead : ∀ d ∈ earlier.filter (fun d => d.thread = e.thread), KeepsSlots d.before e.before := by
    intro d mine
    have before := List.mem_of_mem_filter mine
    obtain ⟨older,_,its⟩ := meetsAt run.seen (suffix.subset (List.mem_cons_of_mem _ before))
    obtain ⟨t',there'⟩ : ∃ t', ((service self).run (Pool.initial db) moves).threads[d.thread]? = some t' :=
      ⟨_,List.getElem?_eq_getElem (run.known d (suffix.subset (List.mem_cons_of_mem _ before)))⟩
    exact slotsTrans (its t' there').slots (meetsIff.mp run.holds.found earlier e suffix d before)
  have spoken : ∀ d, d ∈ earlier.filter (fun d => d.thread = e.thread) ∨ d = e → ∃ older, Truthful self chain t.request older d := by
    rintro d (mine | rfl)
    · have before := List.mem_of_mem_filter mine
      obtain ⟨older,_,its⟩ := meetsAt truthful (suffix.subset (List.mem_cons_of_mem _ before))
      have same : d.thread = e.thread := by simpa using (List.mem_filter.mp mine).2
      exact ⟨older,its t (same ▸ there)⟩
    · exact ⟨earlier,meetsIff.mp truthful earlier d suffix t there⟩
  have entitled := (guard t there).locked m stored locked m' found free
  have covered := meetsIff.mp current earlier e suffix t there m stored ⟨kind,locked,m',found,free⟩ ledger its
  exact entitledInTime ahead spoken stored kind entitled covered

end Runs

section Examples

def retained : Db where
  engagements := .single { id := "e", companyAddress := "GC", recruiterAddress := "GR", arbiterAddress := "GA", totalAmount := 1000 }
  milestones := .single { id := "m", engagementId := "e", milestoneIndex := 1, name := "stayed", kind := .retention, paymentPercent := 40
                          retentionDays := some 30, validAfterLedger := some 600, status := .locked }
  schedules := .single { engagementId := "e", milestoneIndex := 1, validAfterLedger := 600, unlockAt := 0, notifyAt := 0 }

/-- A replacement is requested on chain at time 10, and moves the unlock by thirty days. -/
def replacedChain : Chain where
  ledger at' := 1000 + at'
  advances _ _ le := by dsimp only; omega
  validAfter at' _ _ := if at' < 10 then 600 else 1010 + 30 * LEDGERS_PER_DAY
  emittedAt _ := 0

/-- The check asks the contract and marks the milestone at once. -/
def markedAtOnce : List UnlockMove :=
  [.start .checkAndMarkUnlockable] ++ answered 0 [{},{},{ number := 1 },{},{},{},{}]

theorem markedInTime :
    (∀ e ∈ ((service {}).run (Pool.initial retained) markedAtOnce).history, InTime replacedChain e) ∧
    ((service {}).run (Pool.initial retained) markedAtOnce).world.milestones.rows.map Milestone.status = [.pending] :=
  ⟨unlockedInTime {} replacedChain retained markedAtOnce (by decide +kernel) (by decide +kernel),by decide +kernel⟩

def replacement : RetentionEvent :=
  ⟨{ ledger := 1010, txHash := "r", topic := ["replacement_requested"], value := .text "e" },Or.inr rfl⟩

/-- The replacement is requested and handled after the contract has answered the check. -/
def replacedBetween : List UnlockMove :=
  [.start .checkAndMarkUnlockable] ++ answered 0 [{},{},{ number := 1 }] ++
  [.environment 10,.start (.processEvent replacement)] ++
  answered 1 [{},{},{ text := "c" },{ number := 1010 },{},{},{},{},{},{},{},{},{},{}] ++ answered 0 [{}]

theorem unlockedEarly :
    Meets (Truthful {} replacedChain) ((service {}).run (Pool.initial retained) replacedBetween) ∧
    ¬ ∀ e ∈ ((service {}).run (Pool.initial retained) replacedBetween).history, InTime replacedChain e := by
  refine ⟨by decide +kernel,by decide +kernel⟩

end Examples

end HireSettle.Escrow.EarlyUnlocks
