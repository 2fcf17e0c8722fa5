import HireSettle.Common.SystemConfig
import HireSettle.Escrow.Disputes
import HireSettle.Escrow.ServedCalls

/-! The window in which a decision may be appealed. A decision takes it from the
environment as it was when the service was constructed; the setting that an admin
changes at run time is another value. -/
namespace HireSettle.Escrow
open Workflow

-- a window that is no number, or a negative one, defers nothing, as 0 does
def DisputesService.construct (self : Config) (env : String → Option String) : Config :=
  { self with
    appealWindowHours := ((env "DISPUTE_APPEAL_WINDOW_HOURS").elim (some 72) self.numberOf).elim 0 Int.toNat }

namespace AppealWindows
open DisputesService

/-- The dispute has been decided with an appeal window of so many hours. -/
def Decided (id : String) (hours : Nat) (db : Db) : Prop :=
  ∃ row at', db.disputes.get? id = some row ∧ row.resolvedAt = some at' ∧
    row.appealDeadline = some (at' + hours * HOUR_MS) ∧ row.isFinal = decide (hours = 0)

def Settled (id : String) (db : Db) : Prop :=
  ∃ row, db.disputes.get? id = some row ∧ row.fundsReleasedAt.isSome = true

/-- The window is as the setting says: until then the parties may appeal, or the dispute is settled at once. -/
def Applied (id : String) (hours : Nat) (db : Db) : Prop :=
  ∃ row at', db.disputes.get? id = some row ∧ row.resolvedAt = some at' ∧
    (0 < hours → row.appealDeadline = some (at' + hours * HOUR_MS) ∧ row.isFinal = false) ∧
    (hours = 0 → row.isFinal = true ∧ row.fundsReleasedAt.isSome = true)

theorem appliedDecided {id : String} {hours window : Nat} {db : Db} (decided : Decided id window db)
    (settled : window = 0 → Settled id db) : Applied id hours db ↔ hours = window := by
  obtain ⟨row,at',found,resolved,deadline,final⟩ := decided
  constructor
  · intro ⟨row',at'',found',resolved',deferred,atOnce⟩
    cases found.symm.trans found'
    cases resolved.symm.trans resolved'
    rcases Nat.eq_zero_or_pos hours with none | some'
    · have zero := of_decide_eq_true (final.symm.trans (atOnce none).1)
      exact none.trans zero.symm
    · have same := Option.some.inj ((deferred some').1.symm.trans deadline)
      exact Nat.eq_of_mul_eq_mul_right (by decide) (Nat.add_left_cancel same)
  · intro same
    subst same
    refine ⟨row,at',found,resolved,fun some' => ⟨deadline,?_⟩,fun none => ⟨?_,?_⟩⟩
    · rw [final]
      exact decide_eq_false (Nat.pos_iff_ne_zero.mp some')
    · rw [final]
      exact decide_eq_true none
    · obtain ⟨row',found',released⟩ := settled none
      cases found.symm.trans found'
      exact released

def verdict (d : Dispute) : Option Nat × Option Nat × Bool := (d.resolvedAt,d.appealDeadline,d.isFinal)

def KeepsVerdicts (db db' : Db) : Prop := ∀ id, (db'.disputes.get? id).map verdict = (db.disputes.get? id).map verdict

variable {id : String} {hours : Nat} {db db' : Db} {respond : Site → Answer} {self : Config}

theorem keepsTrans {db₁ db₂ db₃ : Db} (first : KeepsVerdicts db₁ db₂) (second : KeepsVerdicts db₂ db₃) : KeepsVerdicts db₁ db₃ :=
  fun id => (second id).trans (first id)

theorem decidedKeeps (keeps : KeepsVerdicts db db') (decided : Decided id hours db) : Decided id hours db' := by
  obtain ⟨row,at',found,resolved,deadline,final⟩ := decided
  have same := keeps id
  rw [found] at same
  obtain ⟨row',found',same⟩ := Option.map_eq_some_iff.mp same
  simp only [verdict,Prod.mk.injEq] at same
  exact ⟨row',at',found',same.1.trans resolved,same.2.1.trans deadline,same.2.2.trans final⟩

/-- A dispute but for what its settlement changes. -/
def unsettled (d : Dispute) : Dispute := { d with status := .opened, fundsLocked := true, fundsReleasedAt := none }

structure Settling (db db' : Db) : Prop where
  disputes : ∀ id, (db'.disputes.get? id).map unsettled = (db.disputes.get? id).map unsettled
  clock : db'.clock = db.clock

theorem settlingUpdate {p : Dispute → Bool} {f : Dispute → Dispute} {keeps : ∀ d, (f d).id = d.id}
    (same : ∀ d, unsettled (f d) = unsettled d) : Settling db { db with disputes := db.disputes.updateMany p f keeps } :=
  ⟨fun id => Table.getUpdateManyMap db.disputes keeps same id,rfl⟩

theorem settlingStay (db : Db) : Settling db db := ⟨fun _ => rfl,rfl⟩

theorem settlingReads {α : Type} {p : Op α} (reads : Reads Site.reads p) : Steps anySite Settling p :=
  stepsMono (fun _ _ => rfl) (fun _ _ same => same ▸ settlingStay _) reads

theorem settlingUpdateDispute {site : Site} {f : Dispute → Dispute} {keeps : ∀ d, (f d).id = d.id}
    (same : ∀ d, unsettled (f d) = unsettled d) : Steps anySite Settling (write site fun _ db => db.updateDispute id f keeps) := by
  refine stepsWrite rfl settlingStay fun i db value after ok => ?_
  obtain ⟨_,_,_,_,_,rfl⟩ := Db.updateDisputeCases ok
  exact settlingUpdate same

theorem settlingPayOut (dispute : Dispute) (milestone : Milestone) (approved : Bool) (amount : Int) :
    Steps anySite Settling (payOut dispute milestone approved amount) := by
  have resolves : Steps anySite Settling
      (stellar (.resolveMilestoneDispute (some dispute.id) dispute.engagementId milestone.milestoneIndex approved) fun _ => ()) :=
    stepsQuery rfl settlingStay _
  unfold payOut
  split
  · refine stepsBind (stepsWrite rfl settlingStay fun i db value after ok => ?_) fun _ => resolves
    cases ok
    exact ⟨fun _ => rfl,rfl⟩
  · exact resolves

def AddsPayouts (db db' : Db) : Prop := ∃ payouts, db' = { db with payouts := payouts }

theorem keepsAfterwards (dispute : Dispute) (settled : Dispute) (amount : Int) : Steps anySite AddsPayouts
    (do
      let _ ← recordArbiterPayout self dispute amount
      notifyParties dispute.engagementId
      return settled) := by
  have pays : Steps anySite AddsPayouts (recordArbiterPayout self dispute amount) := by
    refine stepsRecordArbiterPayout self ?_ ?_ ?_ ?_ dispute amount
    · exact fun _ _ => rfl
    · exact fun _ => rfl
    · exact fun db => ⟨db.payouts,rfl⟩
    · exact fun _ payouts => ⟨payouts,rfl⟩
  refine stepsBind pays fun _ => ?_
  refine stepsBind (stepsMono (fun _ _ => rfl) (fun db _ same => same ▸ ⟨db.payouts,rfl⟩) (readsNotifyParties _ _)) fun _ => trivial

theorem settlingSettle (disputeId : String) : Steps anySite Settling (settle self disputeId) := by
  refine stepsBind (stepsWrite rfl settlingStay fun i db value after ok => ?_) fun count => ?_
  · cases ok
    exact settlingUpdate fun _ => rfl
  refine stepsBind (settlingReads (readsFindOr _ _)) fun found => ?_
  dsimp only
  split
  · trivial
  · refine stepsBind (stepsHandle (settlingPayOut _ _ _ _) fun error => ?_) fun _ => ?_
    · exact stepsBind (settlingUpdateDispute fun _ => rfl) fun _ => trivial
    · refine stepsBind (settlingReads readsNow) fun at' => stepsBind (stepsWrite rfl settlingStay fun i db value after ok => ?_) fun _ => ?_
      · obtain ⟨_,_,_,_,_,rfl⟩ := Db.updateMilestoneCases ok
        exact ⟨fun _ => rfl,rfl⟩
      · refine stepsBind (settlingUpdateDispute fun _ => rfl) fun settled => ?_
        exact stepsMono (fun _ _ => rfl) (fun _ _ ⟨_,added⟩ => added ▸ ⟨fun _ => rfl,rfl⟩) (keepsAfterwards _ settled _)

theorem settlingMap {β : Type} {g : Dispute → β} (same : ∀ d, g (unsettled d) = g d) (settling : Settling db db') (id : String) :
    (db'.disputes.get? id).map g = (db.disputes.get? id).map g := by
  have kept := congrArg (Option.map g) (settling.disputes id)
  simpa only [Option.map_map,Function.comp_def,same] using kept

theorem keepsStay (db : Db) : KeepsVerdicts db db := fun _ => rfl

theorem keepsSettle (disputeId : String) : Steps anySite KeepsVerdicts (settle self disputeId) :=
  stepsMono (fun _ _ => rfl) (fun _ _ settling => settlingMap (fun _ => rfl) settling) (settlingSettle disputeId)

theorem yieldsReads {α : Type} {p : Op α} (reads : Reads Site.reads p) (pre : Db → Prop) : Yields respond pre p fun _ => pre :=
  yieldsSteps reads (fun _ => rfl) Eq.trans fun _ _ same before => same ▸ before

theorem yieldsWrite {α : Type} {site : Site} {f : Answer → Db → Except Exception (α × Db)} {pre : Db → Prop} {post : α → Db → Prop}
    (holds : ∀ i db value db', pre db → f i db = .ok (value,db') → post value db') : Yields respond pre (write site f) post := by
  refine yieldsTransact fun i db value db' before ok => ?_
  split at ok
  · cases ok
  · exact holds i db value db' before ok

section Updates

variable {p : Dispute → Bool} {f : Dispute → Dispute} {keeps : ∀ d, (f d).id = d.id} {count : Nat}

theorem untouched (updated : db.updateDisputesWhere p f keeps = (count,db')) {row : Dispute} (found : db.disputes.get? id = some row)
    (other : p row = false) : db'.disputes.get? id = some row := by
  cases updated
  rw [Table.getUpdateMany,found,Option.map_some,other]
  rfl

theorem updatedOne (updated : db.updateDisputesWhere p f keeps = (count,db')) (one : ∀ d, p d = true → d.id = id)
    (counted : count ≠ 0) : ∃ row, db'.disputes.get? id = some (f row) := by
  cases updated
  obtain ⟨k,row,found,matched⟩ := Table.countPos.mp (Nat.pos_of_ne_zero counted)
  have mine : k = id := (Table.getKey found).symm.trans (one row matched)
  subst mine
  refine ⟨row,?_⟩
  rw [Table.getUpdateMany,found,Option.map_some,if_pos matched]

end Updates

theorem claimYields (id : String) : Yields respond
    (fun db => ∃ row, db.disputes.get? id = some row ∧ row.status = .resolved ∧ row.isFinal = true)
    (claimSettlement id) (fun count db => count = 0 → Settled id db) := by
  refine yieldsWrite fun i db count db' decided ok none => ?_
  obtain ⟨row,found,resolved,final⟩ := decided
  have updated := Except.ok.inj ok
  have unclaimed : settleable id row = false := by
    by_contra matched
    have counted : 0 < db.disputes.count (settleable id) := Table.countPos.mpr ⟨id,row,found,by simpa using matched⟩
    have same : db.disputes.count (settleable id) = count := congrArg Prod.fst updated
    omega
  refine ⟨row,untouched updated found unclaimed,?_⟩
  by_contra unreleased
  have mine : row.id = id := Table.getKey found
  exact Bool.false_ne_true (unclaimed.symm.trans (settleableIff.mpr ⟨mine,resolved,final,by simpa using unreleased⟩))

theorem recordYields (dispute : Dispute) (milestone : Milestone) (approved : Bool) (amount : Int) :
    Yields respond (fun _ => True) (recordSettlement self dispute milestone approved amount) fun _ db => Settled dispute.id db := by
  refine yieldsBind (yieldsReads readsNow _) fun at' => ?_
  refine yieldsBind (yieldsWrite fun _ _ _ _ before _ => before) fun _ => ?_
  have afterwards : ∀ settled : Dispute, Yields respond (Settled dispute.id)
      (do
        let _ ← recordArbiterPayout self dispute amount
        notifyParties dispute.engagementId
        return settled) fun _ => Settled dispute.id :=
    fun settled => yieldsSteps (keepsAfterwards dispute settled amount) (fun db => ⟨db.payouts,rfl⟩)
      (fun ⟨_,first⟩ ⟨payouts,second⟩ => ⟨payouts,by rw [second,first]⟩) fun db db' ⟨_,added⟩ released => by rwa [Settled,added]
  refine yieldsBind (yieldsWrite fun i db settled db' _ ok => ?_) afterwards
  obtain ⟨row,_,_,found,_⟩ := Db.updateDisputeCases ok
  exact ⟨_,found,rfl⟩

/-- Once decided, a dispute without a window is settled when `settle` returns. -/
theorem settleYields (id : String) : Yields respond
    (fun db => ∃ row, db.disputes.get? id = some row ∧ row.status = .resolved ∧ row.isFinal = true)
    (settle self id) (fun _ db => Settled id db) := by
  refine yieldsBind (claimYields id) fun count => ?_
  have finds : Yields respond (fun db => count = 0 → Settled id db) (findWithMilestone id) fun found db =>
      found.1.id = id ∧ (count = 0 → Settled id db) := by
    refine yieldsQuery fun i db found before ok => ?_
    split at ok
    · cases ok
    · dsimp only at ok
      split at ok
      · cases ok
      · rename_i dispute there
        split at ok
        · cases ok
        · cases ok
          exact ⟨Table.getKey there,before⟩
  refine yieldsBind finds fun found => ?_
  obtain ⟨dispute,milestone⟩ := found
  dsimp only
  split
  · rename_i none
    exact yieldsRet fun db before => before.2 none
  · intro db before
    obtain rfl := before.1
    have paid : Yields respond (fun _ => True)
        ((payOut dispute milestone (dispute.outcome = some .release) (milestone.amount.getD 0)).handle (unclaim dispute.id)) fun _ _ => True :=
      fun _ _ _ _ _ => trivial
    exact yieldsBind paid (fun _ => recordYields dispute milestone _ _) db trivial

/-- The row as the decision has written it. -/
def Verdict (id : String) (window at' : Nat) (db : Db) : Prop :=
  ∃ row, db.disputes.get? id = some row ∧ row.status = .resolved ∧ row.resolvedAt = some at' ∧
    row.appealDeadline = some (at' + (if 0 < window then window * HOUR_MS else 0)) ∧ row.isFinal = !decide (0 < window)

theorem verdictDecided {window at' : Nat} (verdict : Verdict id window at' db) : Decided id window db := by
  obtain ⟨row,found,_,resolved,deadline,final⟩ := verdict
  refine ⟨row,at',found,resolved,?_,?_⟩
  · rw [deadline]
    split
    · rfl
    · rename_i none
      rw [Nat.eq_zero_of_not_pos none,Nat.zero_mul]
  · rw [final,← decide_not]
    exact decide_eq_decide.mpr (by omega)

theorem decideYields (dispute : Dispute) (outcome : DisputeOutcome) (actor : Option DisputeActor) :
    Yields respond (fun _ => True) (DisputesService.decide self dispute outcome actor) fun _ db =>
      Decided dispute.id self.appealWindowHours db ∧ (self.appealWindowHours = 0 → Settled dispute.id db) := by
  unfold DisputesService.decide
  split
  · exact yieldsRaise
  split
  · exact yieldsRaise
  split
  · exact yieldsRaise
  refine yieldsBind (yieldsReads readsNow _) fun at' => ?_
  dsimp only
  refine yieldsThrough (fun count db => count ≠ 0 → Verdict dispute.id self.appealWindowHours at' db)
    (yieldsWrite fun i db count db' _ ok counted => ?_) fun count => ?_
  · obtain ⟨row,found⟩ := updatedOne (Except.ok.inj ok) (fun d matched => by simpa using (Bool.and_eq_true_iff.mp matched).1) counted
    exact ⟨_,found,rfl,rfl,rfl,rfl⟩
  · split
    · exact yieldsRaise
    · rename_i counted
      split
      · rename_i atOnce
        have zero : self.appealWindowHours = 0 := Nat.eq_zero_of_not_pos atOnce
        intro db written settled db' returned
        have verdict := written counted
        have kept : KeepsVerdicts db ((settle self dispute.id).interpret respond db).2 :=
          stepsInterpret keepsStay keepsTrans (keepsSettle dispute.id) db
        rw [returned] at kept
        refine ⟨decidedKeeps kept (verdictDecided verdict),fun _ => settleYields dispute.id db ?_ settled db' returned⟩
        obtain ⟨row,found,resolved,_,_,final⟩ := verdict
        exact ⟨row,found,resolved,by simpa [zero] using final⟩
      · rename_i deferred
        have some' : self.appealWindowHours ≠ 0 := by omega
        refine yieldsMono (fun db written => verdictDecided (written counted)) (fun _ _ decided => ⟨decided,fun none => absurd none some'⟩) ?_
        refine yieldsBind (yieldsReads (readsFindOr _ _) _) fun updated => ?_
        exact yieldsBind (yieldsReads (readsNotifyParties _ _) _) fun _ => yieldsRet fun _ decided => decided

/-- The value of the setting, whatever has been saved, reset or refreshed. -/
theorem effectiveHours (number : String → Option Int) (env : String → Option String) (stored : Table SystemConfigRow)
    (requests : List SystemConfigService.Call) :
    ∃ hours : Nat, hours ≤ 720 ∧
      (({ stored := stored } : SystemConfigService).calls number requests).get number env "disputes.appealWindowHours" =
        .ok (.number hours) := by
  have kept : (({ stored := stored } : SystemConfigService).calls number requests).Valid ∧
      (({ stored := stored } : SystemConfigService).calls number requests).registry = SYSTEM_CONFIG_DEFINITION_MAP :=
    SystemConfigService.validCalls (fun _ _ there => by cases there) requests
  obtain ⟨valid,registered⟩ := kept
  generalize ({ stored := stored } : SystemConfigService).calls number requests = service at valid registered
  have found : ∃ d, service.definition "disputes.appealWindowHours" = .ok d ∧ d.type = .integer ∧
      d.key = "disputes.appealWindowHours" ∧ d.defaultValue = .number 72 ∧ d.min = some 0 ∧ d.max = some 720 := by
    unfold SystemConfigService.definition
    rw [registered]
    exact ⟨_,rfl,rfl,rfl,rfl,rfl,rfl⟩
  obtain ⟨d,found,integer,named,defaulted,least,most⟩ := found
  have bounded : SystemConfigService.Within d d.defaultValue 72 :=
    ⟨defaulted,fun _ same => by cases least.symm.trans same; decide,fun _ same => by cases most.symm.trans same; decide⟩
  have resolved : ∃ n, SystemConfigService.Within d (service.resolve number env d) n :=
    SystemConfigService.resolvedWithin valid found integer ⟨72,bounded⟩ named
  obtain ⟨n,within⟩ := resolved
  have lower := (boundAbove 0 n).symm.trans (within.least 0 least)
  have upper := (boundBelow 720 n).symm.trans (within.most 720 most)
  simp only [decide_eq_false_iff_not,not_lt] at lower upper
  refine ⟨n.toNat,by omega,?_⟩
  rw [SystemConfigService.get,found,Int.toNat_of_nonneg lower]
  exact congrArg Except.ok within.number

def reviewed : Dispute where
  id := "d"
  engagementId := "e"
  milestoneId := "m"
  status := .underReview
  arbiterId := some "a"

def disputed : Db where
  disputes := ⟨[reviewed],by decide⟩

def decidedBy (env : String → Option String) : Except Exception Dispute × Db :=
  (DisputesService.decide (construct {} env) reviewed .release none).interpret (fun _ => {}) disputed

end AppealWindows

end HireSettle.Escrow
