import HireSettle.Escrow.SettlementRuns
import HireSettle.Workflow.Facts

/-! The funds of a dispute stay locked until its decision is final. An open appeal
keeps its dispute active and not final, a decided one makes it final, and without
an appeal only a lapsed window does. Whoever settles knows that the dispute has
been final since it was claimed. -/
namespace HireSettle.Escrow.AppealLock
open Workflow
open Settlement (appealOpen Untouched disputed admin)

/-- No first-tier decision is recorded on a dispute that has been appealed or is final. -/
def DecidesOpenly (e : EscrowEvent) : Prop :=
  ∀ id dispute, e.site = .decide id → e.answer.fails = false → e.before.disputes.get? id = some dispute →
    dispute.active = true → e.before.appeals.get? id = none ∧ dispute.isFinal = false

def AppealDecided (db : Db) (id : String) : Prop := ∃ appeal, db.appeals.get? id = some appeal ∧ appeal.status = .decided

def WindowLapsed (db : Db) (id : String) : Prop :=
  db.appeals.get? id = none ∧ ∃ dispute deadline, db.disputes.get? id = some dispute ∧
    dispute.appealDeadline = some deadline ∧ deadline < db.clock

def SettlesFinal (e : EscrowEvent) : Prop :=
  ∀ id, settledDispute e.site = some id → AppealDecided e.before id ∨ WindowLapsed e.before id

def ResolvesAppeal (e : EscrowEvent) : Prop :=
  ∀ id dispute dispute', appealOpen e.before id → e.before.disputes.get? id = some dispute → dispute.status ≠ .resolved →
    e.after.disputes.get? id = some dispute' → dispute'.status = .resolved → e.site = .decideAppeal id

def Locked (clock : Nat) (dispute : Dispute) : Option DisputeAppeal → Prop
  | none => dispute.isFinal = true → ∃ deadline, dispute.appealDeadline = some deadline ∧ deadline < clock
  | some appeal =>
      match appeal.status with
      | .opened => dispute.active = true ∧ dispute.isFinal = false
      | .decided => dispute.isFinal = true

inductive Fact where
  | final (id : String)
  | past (at' : Nat)

def Holds (c : EscrowSnapshot) : Fact → Prop
  | .final id => ∃ dispute, c.world.disputes.get? id = some dispute ∧ dispute.isFinal = true
  | .past at' => at' ≤ c.world.clock

def finality : Knowledge Site Answer Db Unit Fact where
  base c _ := (∀ e ∈ c.history, SettlesFinal e ∧ ResolvesAppeal e) ∧
    ∀ id dispute, c.world.disputes.get? id = some dispute → Locked c.world.clock dispute (c.world.appeals.get? id)
  holds := Holds
  admits _ := DecidesOpenly

section Base

variable {α : Type} {c : EscrowSnapshot} {db' : Db} {thread : Nat} {site : Site} {i : Answer} {held : Unit × Multiset Fact}

def Keeps (c c' : EscrowSnapshot) : Prop := finality.base c' () ∧ finality.Remembers c c'

theorem lockedFinal {clock : Nat} {dispute dispute' : Dispute} {appeal : Option DisputeAppeal} (final : dispute.isFinal = true)
    (final' : dispute'.isFinal = true) (deadline : dispute'.appealDeadline = dispute.appealDeadline)
    (locked : Locked clock dispute appeal) : Locked clock dispute' appeal := by
  cases appeal with
  | none => exact fun _ => deadline ▸ locked final
  | some appeal =>
    simp only [Locked] at locked ⊢
    split
    · rename_i opened
      simp [opened,final] at locked
    · exact final'

theorem lockedSame {clock : Nat} {dispute dispute' : Dispute} {appeal : Option DisputeAppeal}
    (final : dispute'.isFinal = dispute.isFinal) (deadline : dispute'.appealDeadline = dispute.appealDeadline)
    (active : dispute.active = true → dispute'.active = true) (locked : Locked clock dispute appeal) :
    Locked clock dispute' appeal := by
  cases appeal with
  | none => exact fun final' => deadline ▸ locked (final ▸ final')
  | some appeal =>
    simp only [Locked] at locked ⊢
    split
    · rename_i opened
      simp only [opened] at locked
      exact ⟨active locked.1,final.trans locked.2⟩
    · rename_i decided
      simp only [decided] at locked
      exact final.trans locked

theorem openLocked {id : String} {clock : Nat} {dispute : Dispute} (appealed : appealOpen c.world id)
    (locked : Locked clock dispute (c.world.appeals.get? id)) : dispute.active = true ∧ dispute.isFinal = false := by
  obtain ⟨appeal,found,opened⟩ := appealed
  simpa only [found,Locked,opened] using locked

/-- What a call does to each dispute row, and to its appeal. -/
def Changes (c : EscrowSnapshot) (site : Site) (db' : Db) (id : String) (g : Dispute → Dispute) : Prop :=
  ∀ dispute, c.world.disputes.get? id = some dispute → Locked c.world.clock dispute (c.world.appeals.get? id) →
    Locked c.world.clock (g dispute) (db'.appeals.get? id) ∧ (dispute.isFinal = true → (g dispute).isFinal = true) ∧
    (appealOpen c.world id → dispute.status ≠ .resolved → (g dispute).status = .resolved → site = .decideAppeal id)

theorem keepsRows (base : finality.base c ()) (quiet : settledDispute site = none) (clock : db'.clock = c.world.clock)
    (rows : ∀ id, ∃ g, db'.disputes.get? id = (c.world.disputes.get? id).map g ∧ Changes c site db' id g) :
    Keeps c (c.record thread site i db') := by
  refine ⟨⟨fun e inside => ?_,fun id dispute' found' => ?_⟩,fun fact true => ?_⟩
  · rcases List.mem_cons.mp inside with rfl | earlier
    · refine ⟨fun id settling => ?_,fun id dispute dispute' appealed found unresolved found' resolved => ?_⟩
      · cases quiet.symm.trans settling
      · obtain ⟨g,same,changes⟩ := rows id
        have mapped : db'.disputes.get? id = some (g dispute) := by rw [same]; exact congrArg (Option.map g) found
        cases Option.some.inj (found'.symm.trans mapped)
        exact (changes dispute found (base.2 id dispute found)).2.2 appealed unresolved resolved
    · exact base.1 e earlier
  · obtain ⟨g,same,changes⟩ := rows id
    obtain ⟨dispute,found,rfl⟩ := Option.map_eq_some_iff.mp (same.symm.trans found')
    exact clock.symm ▸ (changes dispute found (base.2 id dispute found)).1
  · cases fact with
    | final id =>
      obtain ⟨dispute,found,final⟩ := true
      obtain ⟨g,same,changes⟩ := rows id
      have mapped : db'.disputes.get? id = some (g dispute) := by rw [same,found]; rfl
      exact ⟨g dispute,mapped,(changes dispute found (base.2 id dispute found)).2.1 final⟩
    | past at' => exact le_of_le_of_eq true clock.symm

theorem changesNothing (id : String) (appeals : db'.appeals.get? id = c.world.appeals.get? id) :
    Changes c site db' id (fun dispute => dispute) :=
  fun _ _ locked => ⟨appeals ▸ locked,fun final => final,fun _ unresolved resolved => absurd resolved unresolved⟩

theorem keepsUntouched (base : finality.base c ()) (quiet : settledDispute site = none)
    (untouched : Untouched c.world db') (clock : db'.clock = c.world.clock) : Keeps c (c.record thread site i db') :=
  keepsRows base quiet clock fun id =>
    ⟨fun dispute => dispute,by rw [untouched.1,Option.map_id'],changesNothing id (by rw [untouched.2])⟩

theorem harmlessWrite {f : Answer → Db → Except Exception (α × Db)} (quiet : settledDispute site = none)
    (commits : ∀ c thread i value db', finality.base c () → i.fails = false → f i c.world = .ok (value,db') →
      DecidesOpenly (c.event thread site i db') → Keeps c (c.record thread site i db')) :
    Harmless finality.contract (write site f) := by
  rintro ⟨_,known⟩
  refine Knowledge.safeTransact ?_ ?_
  · intro c frame thread i value db' base facts ok meets
    split at ok
    · contradiction
    · rename_i answered
      obtain ⟨base',remembers⟩ := commits c thread i value db' base (by simpa using answered) ok meets
      exact ⟨(),base',remembers,Knowledge.learnsNothing trivial⟩
  · intro c frame thread i error base facts _ _
    obtain ⟨base',remembers⟩ := keepsUntouched base quiet ⟨rfl,rfl⟩ rfl
    exact ⟨(),base',remembers,Knowledge.learnsNothing trivial⟩

end Base

section Calls

variable {α : Type} {site : Site} {known : Multiset Fact} {p : Dispute → Bool} {f : Dispute → Dispute} {id : String}
variable {keeps : ∀ d, (f d).id = d.id}

theorem ignoresReads (site : Site) (reads : site.reads = true) : finality.contract.Ignores site := by
  rintro c ⟨_,known⟩ thread i ⟨base,facts⟩
  have quiet : settledDispute site = none := by cases site <;> first | rfl | cases reads
  have kept : Keeps c (c.record thread site i c.world) := keepsUntouched base quiet ⟨rfl,rfl⟩ rfl
  exact ⟨kept.1,fun fact inside => kept.2 fact (facts fact inside)⟩

theorem harmlessReads {p : Op α} (reads : Reads Site.reads p) : Harmless finality.contract p :=
  harmlessSteps (sparesReads ignoresReads) reads

/-- What a conditional update may do to the rows it matches. -/
def Permits (e : EscrowEvent) (f : Dispute → Dispute) (dispute : Dispute) : Prop :=
  Locked e.before.clock dispute (e.before.appeals.get? dispute.id) →
    Locked e.before.clock (f dispute) (e.before.appeals.get? dispute.id) ∧
    (dispute.isFinal = true → (f dispute).isFinal = true) ∧
    (appealOpen e.before dispute.id → dispute.status ≠ .resolved → (f dispute).status = .resolved →
      e.site = .decideAppeal dispute.id)

theorem keepsWhere {c : EscrowSnapshot} {thread : Nat} {i : Answer} (base : finality.base c ()) (quiet : settledDispute site = none)
    (permits : ∀ dispute db', c.world.disputes.get? dispute.id = some dispute → p dispute = true →
      Permits (c.event thread site i db') f dispute) :
    Keeps c (c.record thread site i (c.world.updateDisputesWhere p f keeps).2) := by
  refine keepsRows base quiet rfl fun id => ⟨fun dispute => if p dispute then f dispute else dispute,
    Table.getUpdateMany _ _ _ keeps _,fun dispute found locked => ?_⟩
  have key : dispute.id = id := Table.getKey found
  subst key
  dsimp only
  split
  · rename_i matched
    exact permits dispute c.world found matched locked
  · exact changesNothing dispute.id rfl dispute found locked

theorem harmlessWhere (quiet : settledDispute site = none)
    (permits : ∀ (e : EscrowEvent) dispute, e.site = site → e.answer.fails = false → DecidesOpenly e →
      e.before.disputes.get? dispute.id = some dispute → p dispute = true → Permits e f dispute) :
    Harmless finality.contract (write site fun _ db => .ok (db.updateDisputesWhere p f keeps)) := by
  refine harmlessWrite quiet fun c thread i value db' base answered ok meets => ?_
  cases ok
  refine keepsWhere base quiet fun dispute db' found matched => ?_
  exact permits _ dispute rfl answered meets found matched

theorem keepsUpdate {c : EscrowSnapshot} {thread : Nat} {i : Answer} {dispute' : Dispute} {db' : Db}
    (base : finality.base c ()) (quiet : settledDispute site = none)
    (updated : c.world.updateDispute id f keeps = .ok (dispute',db'))
    (permits : ∀ dispute, c.world.disputes.get? id = some dispute → Permits (c.event thread site i db') f dispute) :
    Keeps c (c.record thread site i db') := by
  obtain ⟨dispute,found,_,found',elsewhere,rfl⟩ := Db.updateDisputeCases updated
  refine keepsRows base quiet rfl fun other => ?_
  by_cases here : other = id
  · subst here
    have key : dispute.id = other := Table.getKey found
    subst key
    refine ⟨f,by rw [found']; exact congrArg (Option.map f) found.symm,fun row there locked => ?_⟩
    have same : row.id = dispute.id := Table.getKey there
    exact same ▸ permits row there (same ▸ locked)
  · exact ⟨fun dispute => dispute,by rw [elsewhere other here,Option.map_id'],changesNothing other rfl⟩

theorem safeWrite {f : Answer → Db → Except Exception (α × Db)} {done : Except Exception α → Unit × Multiset Fact → Prop}
    (quiet : settledDispute site = none) (failed : ∀ error, done (.error error) ((),known))
    (commits : ∀ c thread i value db', finality.base c () → (∀ fact ∈ known, Holds c fact) → f i c.world = .ok (value,db') →
      Keeps c (c.record thread site i db') ∧
      finality.Learns (c.record thread site i db') known (fun known => done (.ok value) ((),known))) :
    Safe finality.contract done (write site f) ((),known) := by
  refine Knowledge.safeTransact ?_ ?_
  · intro c frame thread i value db' base facts ok _
    split at ok
    · contradiction
    · obtain ⟨⟨base',remembers⟩,learns⟩ := commits c thread i value db' base facts ok
      exact ⟨(),base',remembers,learns⟩
  · intro c frame thread i error base facts _ _
    obtain ⟨base',remembers⟩ := keepsUntouched base quiet ⟨rfl,rfl⟩ rfl
    exact ⟨(),base',remembers,Knowledge.learnsNothing (failed error)⟩

theorem safeClaimSettlement {disputeId : String} {done : Except Exception Nat → Unit × Multiset Fact → Prop}
    (failed : ∀ error, done (.error error) ((),known)) (missed : done (.ok 0) ((),known))
    (claimed : ∀ n, n ≠ 0 → done (.ok n) ((),.final disputeId ::ₘ known)) :
    Safe finality.contract done (DisputesService.claimSettlement disputeId) ((),known) := by
  refine safeWrite rfl failed fun c thread i value db' base facts ok => ?_
  cases ok
  refine ⟨keepsWhere base rfl fun dispute db' found matched locked => ?_,?_⟩
  · obtain ⟨_,resolved,final,_⟩ := DisputesService.settleableIff.mp matched
    exact ⟨lockedFinal final final rfl locked,fun final => final,fun _ unresolved => absurd resolved unresolved⟩
  · rcases Table.updateManyCases c.world.disputes (fun row => { row with status := .closed }) (fun _ => rfl)
      (fun row matched => (DisputesService.settleableIff.mp matched).1) with ⟨met,row,_,matched,found',_⟩ | ⟨nothing,_⟩
    · have final := (DisputesService.settleableIff.mp matched).2.2.1
      exact Knowledge.learnsFact (.final disputeId) ⟨_,found',final⟩ (claimed _ met)
    · exact Knowledge.learnsNothing (by rw [nothing]; exact missed)

theorem settlesFinal {c : EscrowSnapshot} (base : finality.base c ()) (final : Holds c (.final id)) :
    AppealDecided c.world id ∨ WindowLapsed c.world id := by
  obtain ⟨dispute,found,final⟩ := final
  have locked := base.2 id dispute found
  cases there : c.world.appeals.get? id with
  | none =>
    rw [there] at locked
    obtain ⟨deadline,written,lapsed⟩ := locked final
    exact Or.inr ⟨there,dispute,deadline,found,written,lapsed⟩
  | some appeal =>
    cases status : appeal.status with
    | opened =>
      have still := openLocked ⟨appeal,there,status⟩ locked
      cases still.2.symm.trans final
    | decided => exact Or.inl ⟨appeal,there,status⟩

theorem safeResolve {engagementId : String} {milestoneIndex : Nat} {approved : Bool}
    {done : Except Exception Unit → Unit × Multiset Fact → Prop} (final : .final id ∈ known)
    (fin : ∀ out, done out ((),known)) :
    Safe finality.contract done (stellar (.resolveMilestoneDispute (some id) engagementId milestoneIndex approved) fun _ => ())
      ((),known) := by
  refine Knowledge.safeQuery fun c frame thread i base facts _ => ⟨(),⟨fun e inside => ?_,base.2⟩,fun fact true => ?_,
    Knowledge.learnsNothing (fin _)⟩
  · rcases List.mem_cons.mp inside with rfl | earlier
    · refine ⟨fun other same => ?_,fun other dispute dispute' _ found unresolved found' resolved => ?_⟩
      · cases Option.some.inj same
        exact settlesFinal base (facts _ final)
      · cases Option.some.inj (found.symm.trans found')
        exact absurd resolved unresolved
    · exact base.1 e earlier
  · cases fact <;> exact true

theorem safeUnclaim {error : Exception} {done : Except Exception Unit → Unit × Multiset Fact → Prop}
    (final : .final id ∈ known) (thrown : ∀ error, done (.error error) ((),known)) :
    Safe finality.contract done (DisputesService.unclaim id error) ((),known) := by
  refine safeBind (safeWrite rfl thrown fun c thread i value db' base facts ok => ?_)
  refine ⟨keepsUpdate base rfl ok fun dispute found locked => ?_,Knowledge.learnsNothing (thrown _)⟩
  obtain ⟨row,there,final⟩ := facts _ final
  cases Option.some.inj (there.symm.trans found)
  refine ⟨lockedFinal final final rfl locked,fun final => final,fun appealed _ _ => ?_⟩
  cases (openLocked appealed locked).2.symm.trans final

end Calls

section Methods

variable (self : Config)

theorem harmlessUntouched {α : Type} {site : Site} {f : Answer → Db → Except Exception (α × Db)}
    (quiet : settledDispute site = none)
    (untouched : ∀ i db value db', f i db = .ok (value,db') → Untouched db db' ∧ db'.clock = db.clock) :
    Harmless finality.contract (write site f) :=
  harmlessWrite quiet fun c _ i value db' base _ ok _ =>
    keepsUntouched base quiet (untouched i c.world value db' ok).1 (untouched i c.world value db' ok).2

def SameDisputes (db db' : Db) : Prop := Untouched db db' ∧ db'.clock = db.clock

theorem sparesSame : finality.contract.Spares Settlement.quietSite SameDisputes := by
  rintro site db' quiet c ⟨_,known⟩ thread i same ⟨base,facts⟩
  obtain ⟨base',remembers⟩ := keepsUntouched (c := c) (i := i) base (Option.isNone_iff_eq_none.mp quiet) same.1 same.2
  exact ⟨base',fun fact inside => remembers fact (facts fact inside)⟩

theorem safePayOut {known : Multiset Fact} (dispute : Dispute) (milestone : Milestone) (approved : Bool) (amount : Int)
    {done : Except Exception Unit → Unit × Multiset Fact → Prop} (final : .final dispute.id ∈ known)
    (fin : ∀ out, done out ((),known)) :
    Safe finality.contract done (DisputesService.payOut dispute milestone approved amount) ((),known) := by
  unfold DisputesService.payOut
  dsimp only
  split
  · refine safeBind (safeWrite rfl (fun _ => fin _) fun c thread i value db' base facts ok => ?_)
    cases ok
    exact ⟨keepsUntouched base rfl ⟨rfl,rfl⟩ rfl,Knowledge.learnsNothing (safeResolve final fin)⟩
  · exact safeResolve final fin

theorem harmlessRecordSettlement (dispute : Dispute) (milestone : Milestone) (approved : Bool) (amount : Int) :
    Harmless finality.contract (DisputesService.recordSettlement self dispute milestone approved amount) := by
  refine harmlessBind (harmlessReads readsNow) fun at' => harmlessBind ?_ fun updated => harmlessBind ?_ fun settled =>
    harmlessBind ?_ fun payout => harmlessReads (readsBind (readsNotifyParties _ _) fun _ => trivial)
  · refine harmlessUntouched rfl fun i db value db' ok => ?_
    obtain ⟨_,_,_,_,_,rfl⟩ := Db.updateMilestoneCases ok
    exact ⟨⟨rfl,rfl⟩,rfl⟩
  · refine harmlessWrite rfl fun c _ i value db' base _ ok _ => keepsUpdate base rfl ok fun row found locked => ?_
    exact ⟨lockedSame rfl rfl (fun active => active) locked,fun final => final,
      fun _ unresolved resolved => absurd resolved unresolved⟩
  · exact harmlessSteps sparesSame (DisputesService.stepsRecordArbiterPayout self Settlement.quietReads (fun _ => rfl)
      (fun _ => ⟨⟨rfl,rfl⟩,rfl⟩) (fun _ _ => ⟨⟨rfl,rfl⟩,rfl⟩) dispute amount)

theorem safeFindWithMilestone {disputeId : String} {known : Multiset Fact}
    {done : Except Exception (Dispute × Milestone) → Unit × Multiset Fact → Prop} (failed : ∀ error, done (.error error) ((),known))
    (found : ∀ dispute milestone, dispute.id = disputeId → done (.ok (dispute,milestone)) ((),known)) :
    Safe finality.contract done (DisputesService.findWithMilestone disputeId) ((),known) := by
  refine safeQuery (ignoresReads _ rfl) fun c frame i inv => ⟨((),known),inv,?_⟩
  dsimp only
  split
  · exact failed _
  · split
    · exact failed _
    · rename_i dispute there
      split
      · exact failed _
      · exact found dispute _ (Table.getKey there)

theorem harmlessSettle (disputeId : String) : Harmless finality.contract (DisputesService.settle self disputeId) := by
  rintro ⟨_,known⟩
  refine safeBind (safeClaimSettlement (fun _ => trivial) ?_ fun n claimed => ?_)
  · exact safeBind (safeFindWithMilestone (fun _ => trivial) fun dispute milestone same => trivial)
  · refine safeBind (safeFindWithMilestone (fun _ => trivial) fun dispute milestone same => ?_)
    subst same
    have final := Multiset.mem_cons_self (Fact.final dispute.id) known
    dsimp only
    rw [if_neg claimed]
    refine safeBind (safeHandle (safePayOut dispute milestone _ _ final fun out => ?_))
    cases out with
    | error error => exact safeUnclaim final fun _ => trivial
    | ok value => exact harmlessRecordSettlement self dispute milestone _ _ _

theorem harmlessDecide (window : 0 < self.appealWindowHours) (dispute : Dispute) (outcome : DisputeOutcome)
    (actor : Option DisputeActor) : Harmless finality.contract (DisputesService.decide self dispute outcome actor) := by
  unfold DisputesService.decide
  split
  · exact fun _ => trivial
  · split
    · exact fun _ => trivial
    · split
      · exact fun _ => trivial
      · refine harmlessBind (harmlessReads readsNow) fun at' => harmlessBind ?_ fun count => ?_
        · refine harmlessWhere rfl fun e row site answered openly found matched => ?_
          simp only [Bool.and_eq_true,decide_eq_true_eq] at matched
          obtain ⟨none,unfinal⟩ := openly dispute.id row site answered (matched.1 ▸ found) matched.2
          intro locked
          rw [matched.1,none]
          refine ⟨fun final => ?_,fun final => ?_,fun appealed => ?_⟩
          · simp [window] at final
          · cases unfinal.symm.trans final
          · obtain ⟨appeal,there,_⟩ := appealed
            cases there.symm.trans none
        · split
          · exact fun _ => trivial
          · refine harmlessReads (readsBind (readsFindOr _ _) fun updated => ?_)
            exact readsBind (readsNotifyParties _ _) fun _ => trivial

theorem harmlessRecordDecision (window : 0 < self.appealWindowHours) (milestoneId : String) (outcome : DisputeOutcome)
    (actor : Option DisputeActor) :
    Harmless finality.contract (DisputesService.recordDecision self milestoneId outcome actor) := by
  refine harmlessBind (harmlessReads (readsFind _ _)) fun found => ?_
  split
  · exact fun _ => trivial
  · exact harmlessBind (harmlessDecide self window _ outcome actor) fun _ _ => trivial

theorem harmlessCreateAppeal (disputeId : String) (row : DisputeAppeal) (at' : Nat) (same : row.disputeId = disputeId)
    (fresh : row.status = .opened) : Harmless finality.contract
      (write (.openAppeal disputeId) fun _ db => AppealService.createAppeal self disputeId row at' db) := by
  refine harmlessWrite rfl fun c thread i value db' base _ ok _ => ?_
  obtain ⟨dispute,disputes,appeals,found,matched,found',elsewhere,created,rfl⟩ := AppealService.createAppealCases ok
  simp only [AppealService.appealable,Bool.and_eq_true,decide_eq_true_eq,Bool.not_eq_true'] at matched
  obtain ⟨free,_,get⟩ := Table.createGet created
  have key : Keyed.key row = disputeId := same
  rw [key] at free get
  refine keepsRows base rfl rfl fun id => ?_
  by_cases here : id = disputeId
  · subst here
    refine ⟨AppealService.underAppeal self row at',by rw [found,Option.map_some]; exact found',fun other there locked => ?_⟩
    cases Option.some.inj (there.symm.trans found)
    refine ⟨?_,fun final => ?_,fun appealed => ?_⟩
    · simp only [get,if_pos,Locked,fresh]
      refine ⟨?_,matched.1.2⟩
      simp only [AppealService.underAppeal,DisputeSlaService.stageFields,Dispute.active,ACTIVE_DISPUTE_STATUSES]
      split <;> rfl
    · cases matched.1.2.symm.trans final
    · obtain ⟨appeal,there,_⟩ := appealed
      cases there.symm.trans free
  · exact ⟨fun dispute => dispute,by rw [Option.map_id']; exact elsewhere id here,
      changesNothing id (by simp only [get,if_neg here])⟩

theorem harmlessOpenAppeal (disputeId : String) (user : DisputeActor) (reason : String) :
    Harmless finality.contract (AppealService.openAppeal self disputeId user reason) := by
  refine harmlessBind (harmlessReads readsNow) fun at' => harmlessBind (harmlessReads (readsFindOr _ _)) fun found => ?_
  split
  · exact fun _ => trivial
  · split
    · exact fun _ => trivial
    · split
      · exact fun _ => trivial
      · split
        · exact fun _ => trivial
        · split
          · split
            · exact fun _ => trivial
            · refine harmlessBind (harmlessReads (ArbiterAssignmentService.readsSelectArbiter _ _)) fun arbiter => ?_
              refine harmlessBind (harmlessHandle (harmlessCreateAppeal self disputeId _ at' rfl rfl) fun error => ?_)
                fun appeal => ?_
              · split <;> exact fun _ => trivial
              · exact harmlessReads (readsBind (AppealService.readsAnnounceAppeal _ _ _) fun _ => trivial)
          · exact fun _ => trivial

theorem harmlessRecordAppealDecision (disputeId : String) (outcome : DisputeOutcome) (slaStatus : DisputeSlaStatus) (at' : Nat) :
    Harmless finality.contract (write (.decideAppeal disputeId) fun _ db =>
      AppealService.recordAppealDecision disputeId outcome slaStatus at' db) := by
  refine harmlessWrite rfl fun c thread i value db' base _ ok _ => ?_
  obtain ⟨dispute,appeal,disputes,appeals,found,opened,still,found',elsewhere,decided,others,rfl⟩ :=
    AppealService.recordAppealDecisionCases ok
  refine keepsRows base rfl rfl fun id => ?_
  by_cases here : id = disputeId
  · subst here
    refine ⟨AppealService.finallyResolved outcome slaStatus at',by rw [found,Option.map_some]; exact found',
      fun other there locked => ⟨?_,fun _ => rfl,fun _ _ _ => rfl⟩⟩
    simp only [decided]
    exact rfl
  · exact ⟨fun dispute => dispute,by rw [Option.map_id']; exact elsewhere id here,changesNothing id (others id here)⟩

theorem harmlessDecideAppeal (disputeId : String) (user : DisputeActor) (outcome : DisputeOutcome) :
    Harmless finality.contract (AppealService.decideAppeal self disputeId user outcome) := by
  refine harmlessBind (harmlessReads (readsFind _ _)) fun found => ?_
  split
  · exact fun _ => trivial
  · split
    · exact fun _ => trivial
    · split
      · exact fun _ => trivial
      · refine harmlessBind (harmlessReads readsNow) fun at' => ?_
        refine harmlessBind (harmlessRecordAppealDecision disputeId outcome _ at') fun _ => ?_
        exact harmlessBind (harmlessReads (readsNotifyParties _ _)) fun _ => harmlessSettle self disputeId

theorem harmlessOverrideArbiter (dispute : Dispute) (arbiterId : String) (at' : Nat)
    {keeps : ∀ row, (ArbiterAssignmentService.overridden self dispute arbiterId at' row).id = row.id} :
    Harmless finality.contract (write (.overrideArbiter dispute.id) fun _ db =>
      db.updateDispute dispute.id (ArbiterAssignmentService.overridden self dispute arbiterId at') keeps) := by
  refine harmlessWrite rfl fun c _ i value db' base _ ok _ => keepsUpdate base rfl ok fun row found locked => ?_
  obtain ⟨status,final,deadline⟩ : (ArbiterAssignmentService.overridden self dispute arbiterId at' row).status = .underReview ∧
      (ArbiterAssignmentService.overridden self dispute arbiterId at' row).isFinal = row.isFinal ∧
      (ArbiterAssignmentService.overridden self dispute arbiterId at' row).appealDeadline = row.appealDeadline := by
    unfold ArbiterAssignmentService.overridden
    dsimp only
    split <;> exact ⟨rfl,rfl,rfl⟩
  refine ⟨lockedSame final deadline (fun _ => by simp [Dispute.active,ACTIVE_DISPUTE_STATUSES,status]) locked,
    fun was => final.trans was,fun _ _ resolved => ?_⟩
  cases status.symm.trans resolved

theorem lockedReassigned {clock : Nat} {dispute : Dispute} {appeal : Option DisputeAppeal} {f : DisputeAppeal → DisputeAppeal}
    (same : ∀ row, (f row).status = row.status) (locked : Locked clock dispute appeal) :
    Locked clock dispute (appeal.map f) := by
  cases appeal with
  | none => exact locked
  | some appeal => simpa only [Locked,Option.map_some,same] using locked

theorem harmlessReassign (disputeId arbiterId : String) : Harmless finality.contract
    (write (.overrideAppeal disputeId) fun _ db => ArbiterAssignmentService.reassign disputeId arbiterId db) := by
  refine harmlessWrite rfl fun c thread i value db' base _ ok _ => ?_
  obtain ⟨_,found,same⟩ := exceptBind.mp ok
  obtain ⟨row,_,rfl⟩ := Db.requiredModify found
  cases same
  refine keepsRows base rfl rfl fun id => ⟨fun dispute => dispute,by rw [Option.map_id'],fun dispute _ locked => ?_⟩
  refine ⟨?_,fun final => final,fun _ unresolved resolved => absurd resolved unresolved⟩
  dsimp only
  rw [Table.getUpdate]
  split
  · exact lockedReassigned (fun _ => rfl) locked
  · exact locked

theorem harmlessApplyManualOverride (engagementId arbiterId : String) :
    Harmless finality.contract (ArbiterAssignmentService.applyManualOverride self engagementId arbiterId) := by
  refine harmlessBind (harmlessReads (readsFind _ _)) fun disputes => harmlessFoldEach (fun updated x => ?_) 0 disputes
  dsimp only
  split
  · exact fun _ => trivial
  · refine harmlessBind (harmlessReads readsNow) fun at' => harmlessBind (harmlessOverrideArbiter self x.1 arbiterId at') fun _ => ?_
    split
    · exact harmlessBind (harmlessReassign x.1.id arbiterId) fun _ _ => trivial
    · exact fun _ => trivial

theorem safeNow {known : Multiset Fact} {done : Except Exception Nat → Unit × Multiset Fact → Prop}
    (read : ∀ at', done (.ok at') ((),.past at' ::ₘ known)) : Safe finality.contract done now ((),known) := by
  refine Knowledge.safeQuery fun c frame thread i base _ _ => ?_
  have kept : Keeps c (c.record thread .clock i c.world) := keepsUntouched base rfl ⟨rfl,rfl⟩ rfl
  exact ⟨(),kept.1,kept.2,Knowledge.learnsFact (.past c.world.clock) (le_refl _) (read _)⟩

theorem givenFinalize (at' settled : Nat) (dispute : Dispute) :
    finality.Given (.past at') (AppealService.finalize self at' settled dispute) := by
  refine Knowledge.givenBind ?_ fun count => Knowledge.givenHarmless ?_
  · rintro ⟨⟩ known inside
    unfold AppealService.expireWindow
    split
    · trivial
    · refine safeWrite rfl (fun _ => trivial) fun c thread i value db' base facts ok => ?_
      cases ok
      refine ⟨keepsWhere base rfl fun row db' found matched locked => ?_,Knowledge.learnsNothing trivial⟩
      simp only [Bool.and_eq_true,decide_eq_true_eq,Bool.not_eq_true',Option.any_eq_true] at matched
      obtain ⟨⟨⟨_,resolved⟩,unfinal⟩,deadline,written,before⟩ := matched
      refine ⟨?_,fun _ => rfl,fun _ unresolved => absurd resolved unresolved⟩
      have past : at' ≤ c.world.clock := facts _ inside
      have inactive : row.active = false := by simp [Dispute.active,ACTIVE_DISPUTE_STATUSES,resolved]
      cases there : c.world.appeals.get? row.id with
      | none =>
        simp only [Snapshot.event,there]
        exact fun _ => ⟨deadline,written,by omega⟩
      | some appeal =>
        simp only [Snapshot.event,there,Locked] at locked ⊢
        split
        · rename_i opened
          simp [opened,inactive] at locked
        · trivial
  · split
    · exact fun _ => trivial
    · exact harmlessHandle (harmlessBind (harmlessSettle self dispute.id) fun _ _ => trivial) fun _ _ => trivial

theorem harmlessFinalizeExpiredAppealWindows : Harmless finality.contract (AppealService.finalizeExpiredAppealWindows self) := by
  rintro ⟨_,known⟩
  refine safeBind (safeNow fun at' => ?_)
  refine (?_ : finality.Given (.past at') _) () _ (Multiset.mem_cons_self _ _)
  have unlocks : Harmless finality.contract DistributedLockService.releaseLock := harmlessReads (readsQuery rfl _)
  refine Knowledge.givenBind (Knowledge.givenHarmless (harmlessReads (readsQuery rfl _))) fun locked => ?_
  split
  · exact Knowledge.givenHarmless fun _ => trivial
  · refine Knowledge.givenBind (Knowledge.givenHandle ?_ fun error => ?_) fun settled => ?_
    · refine Knowledge.givenBind (Knowledge.givenHarmless (harmlessReads (readsFind _ _))) fun expired => ?_
      exact Knowledge.givenFoldEach (givenFinalize self at') 0 expired
    · exact Knowledge.givenHarmless (harmlessBind unlocks fun _ _ => trivial)
    · exact Knowledge.givenHarmless (harmlessBind unlocks fun _ _ => trivial)

theorem harmlessController (window : 0 < self.appealWindowHours) (id : String) (outcome : DisputeOutcome) (user : DisputeActor) :
    Harmless finality.contract (DisputesController.decide self id outcome user) := by
  refine harmlessBind (harmlessReads (readsFind _ _)) fun found => ?_
  split
  · exact fun _ => trivial
  · split
    · exact harmlessDecideAppeal self id user outcome
    · exact harmlessDecide self window _ outcome (some user)

end Methods

inductive Request where
  | decide (id : String) (outcome : DisputeOutcome) (user : DisputeActor)
  | recordDecision (milestoneId : String) (outcome : DisputeOutcome) (actor : Option DisputeActor)
  | openAppeal (disputeId : String) (user : DisputeActor) (reason : String)
  | decideAppeal (disputeId : String) (user : DisputeActor) (outcome : DisputeOutcome)
  | applyManualOverride (engagementId arbiterId : String)
  | finalizeExpiredAppealWindows

inductive Reply where
  | dispute (row : Dispute)
  | decision (row : Option Dispute)
  | appeal (row : DisputeAppeal)
  | count (n : Nat)

variable (self : Config)

def handler : Request → Op Reply
  | .decide id outcome user => return .dispute (← DisputesController.decide self id outcome user)
  | .recordDecision milestoneId outcome actor =>
      return .decision (← DisputesService.recordDecision self milestoneId outcome actor)
  | .openAppeal disputeId user reason => return .appeal (← AppealService.openAppeal self disputeId user reason)
  | .decideAppeal disputeId user outcome => return .dispute (← AppealService.decideAppeal self disputeId user outcome)
  | .applyManualOverride engagementId arbiterId =>
      return .count (← ArbiterAssignmentService.applyManualOverride self engagementId arbiterId)
  | .finalizeExpiredAppealWindows => return .count (← AppealService.finalizeExpiredAppealWindows self)

def service : System Request Nat Site Answer Db Exception Reply where
  handler := handler self
  environment elapsed db := { db with clock := db.clock + elapsed }

section Runs

abbrev LockMove := Move Request Nat Answer

theorem harmlessHandler (window : 0 < self.appealWindowHours) (request : Request) :
    Harmless finality.contract (handler self request) := by
  cases request with
  | decide id outcome user => exact harmlessBind (harmlessController self window id outcome user) fun _ _ => trivial
  | recordDecision milestoneId outcome actor =>
    exact harmlessBind (harmlessRecordDecision self window milestoneId outcome actor) fun _ _ => trivial
  | openAppeal disputeId user reason => exact harmlessBind (harmlessOpenAppeal self disputeId user reason) fun _ _ => trivial
  | decideAppeal disputeId user outcome =>
    exact harmlessBind (harmlessDecideAppeal self disputeId user outcome) fun _ _ => trivial
  | applyManualOverride engagementId arbiterId =>
    exact harmlessBind (harmlessApplyManualOverride self engagementId arbiterId) fun _ _ => trivial
  | finalizeExpiredAppealWindows =>
    exact harmlessBind (harmlessFinalizeExpiredAppealWindows self) fun _ _ => trivial

theorem lockedLater {clock elapsed : Nat} {dispute : Dispute} {appeal : Option DisputeAppeal}
    (locked : Locked clock dispute appeal) : Locked (clock + elapsed) dispute appeal := by
  cases appeal with
  | some appeal => exact locked
  | none =>
    intro final
    obtain ⟨deadline,written,lapsed⟩ := locked final
    exact ⟨deadline,written,Nat.lt_add_right elapsed lapsed⟩

theorem finalityTicks (elapsed : Nat) (c : EscrowSnapshot) (held : Unit × Multiset Fact) (inv : finality.contract.inv c held) :
    finality.contract.inv { c with world := (service self).environment elapsed c.world } held := by
  obtain ⟨⟨settled,locked⟩,facts⟩ := inv
  refine ⟨⟨settled,fun id dispute found => lockedLater (locked id dispute found)⟩,fun fact inside => ?_⟩
  have true := facts fact inside
  cases fact with
  | final id => exact true
  | past at' => exact le_trans true (Nat.le_add_right _ _)

/-- A database in which no dispute has been appealed or made final. -/
def Undecided (db : Db) : Prop :=
  db.appeals = Table.empty ∧ ∀ dispute ∈ db.disputes.rows, dispute.isFinal = false

/-- With an appeal window, in every run that records decisions only on disputes that
are not appealed and not final, funds move after an appeal decision or a lapsed
window, and an open appeal is resolved by its decision alone. -/
theorem lockedUntilFinal (window : 0 < self.appealWindowHours) (db : Db) (fresh : Undecided db) (moves : List LockMove)
    (decides : ∀ e ∈ ((service self).run (Pool.initial db) moves).history, DecidesOpenly e) :
    ∀ e ∈ ((service self).run (Pool.initial db) moves).history, SettlesFinal e ∧ ResolvesAppeal e := by
  have begin : Secured finality.contract (fun _ => anyEnd) (Pool.initial db : Pool Request Site Answer Db Exception Reply) := by
    refine securedInitial (K := finality.contract) ⟨⟨by simp,fun id dispute found => ?_⟩,by simp⟩
    have unfinal := fresh.2 dispute (Table.getMem found)
    have none : db.appeals.get? id = none := by rw [fresh.1]; rfl
    simp only [none,Locked,unfinal]
    intro final
    cases final
  have secured := securedRun (fun request => harmlessHandler self window request 0) (finalityTicks self) begin moves
    (meetsEach decides)
  obtain ⟨_,base⟩ := Knowledge.securedBase secured
  exact base.1

def lapsedWindow : List LockMove :=
  [.start (.decide "d" .release admin)] ++ answered 0 (.replicate 8 {}) ++ [.environment (73 * HOUR_MS)] ++
  [.start .finalizeExpiredAppealWindows] ++ answered 1 (.replicate 20 {})

theorem settledAfterWindow :
    (∃ e ∈ ((service {}).run (Pool.initial disputed) lapsedWindow).history, settledDispute e.site = some "d") ∧
    ∀ e ∈ ((service {}).run (Pool.initial disputed) lapsedWindow).history, SettlesFinal e ∧ ResolvesAppeal e := by
  have settled : ((service {}).run (Pool.initial disputed) lapsedWindow).history.any
      (fun e => settledDispute e.site = some "d") = true := by decide +kernel
  have clear : ((service {}).run (Pool.initial disputed) lapsedWindow).history.all (fun e => e.before.appeals.rows.isEmpty &&
      e.before.disputes.rows.all fun dispute => dispute.active → !dispute.isFinal) = true := by decide +kernel
  refine ⟨by simpa using settled,lockedUntilFinal {} (by decide) disputed ⟨rfl,by decide⟩ lapsedWindow ?_⟩
  intro e inside id dispute _ _ found active
  obtain ⟨none,unfinal⟩ := Bool.and_eq_true_iff.mp (List.all_eq_true.mp clear e inside)
  refine ⟨by simp [Table.get?,List.isEmpty_iff.mp none],?_⟩
  simpa [active] using List.all_eq_true.mp unfinal dispute (Table.getMem found)

/-- The dispute is decided twice from the same reading, with an appeal in between,
and the job settles it while the appeal is open. -/
def settledUnderAppeal : List LockMove :=
  [.start (.decide "d" .release admin)] ++ answered 0 [{}] ++
  [.start (.decide "d" .release admin)] ++ answered 1 (.replicate 8 {}) ++
  [.start (.openAppeal "d" { id := "c" } "late")] ++ answered 2 (.replicate 10 {}) ++
  answered 0 (.replicate 8 {}) ++ [.environment (73 * HOUR_MS)] ++
  [.start .finalizeExpiredAppealWindows] ++ answered 3 (.replicate 7 {})

theorem unlockedUnderAppeal :
    ¬ ∀ e ∈ ((service {}).run (Pool.initial disputed) settledUnderAppeal).history, SettlesFinal e ∧ ResolvesAppeal e := by
  have settled : ((service {}).run (Pool.initial disputed) settledUnderAppeal).history.any (fun e =>
      settledDispute e.site = some "d" && (e.before.appeals.get? "d").any (·.status = .opened)) = true := by decide +kernel
  obtain ⟨e,inside,here⟩ := List.any_eq_true.mp settled
  simp only [Bool.and_eq_true,decide_eq_true_eq,Option.any_eq_true] at here
  obtain ⟨settles,appeal,there,opened⟩ := here
  intro final
  rcases (final e inside).1 "d" settles with ⟨other,found,decided⟩ | ⟨none,_⟩
  · cases Option.some.inj (there.symm.trans found)
    cases opened.symm.trans decided
  · cases there.symm.trans none

end Runs

end HireSettle.Escrow.AppealLock
