import HireSettle.Escrow.AppealWindows
import HireSettle.Escrow.ChainEvents

/-! The two ways to finish a dispute. A settlement writes the amount and the refund
itself; the event of a resolution on the chain carries no amount and writes neither. -/
namespace HireSettle.Escrow.FinishedDisputes
open Workflow DisputesService AppealWindows

variable {self : Config} {respond : Site → Answer} {db : Db} {d : Dispute} {m : Milestone}

/-- A decided dispute whose funds are not released, and its milestone; the slot of the milestone is its own. -/
structure Awaits (db : Db) (d : Dispute) (m : Milestone) : Prop where
  dispute : db.disputes.get? d.id = some d
  decided : settleable d.id d = true
  milestone : db.milestoneAt m.engagementId m.milestoneIndex = some m
  its : d.milestoneId = m.id

/-- The payload tells this resolution of the milestone. -/
structure Announces (config : Config) (payload : Json) (m : Milestone) (approved : Bool) : Prop where
  engagement : EventsService.textAt (EventsService.destructurePayload payload) 0 = m.engagementId
  index : EventsService.indexAt config (EventsService.destructurePayload payload) 1 = .ok m.milestoneIndex
  flag : EventsService.flagAt (EventsService.destructurePayload payload) 2 = approved

structure Finish where
  -- its status, what is paid and whether it is confirmed
  milestone : Option (MilestoneStatus × Option Int × Bool)
  refund : Option Refund
  -- its status, whether it is final, its funds locked and released
  dispute : Option (DisputeStatus × Bool × Bool × Bool)
  deriving DecidableEq, Repr

def finish (milestoneId disputeId : String) (db : Db) : Finish :=
  { milestone := (db.milestones.get? milestoneId).map fun m => (m.status,m.paymentReleased,m.confirmedAt.isSome)
    refund := db.refunds.get? milestoneId
    dispute := (db.disputes.get? disputeId).map fun d => (d.status,d.isFinal,d.fundsLocked,d.fundsReleasedAt.isSome) }

/-- The rows of the dispute, of its milestone and of the refund. -/
structure Rows (d : Dispute) (m : Milestone) (refund : Option Refund) (db : Db) : Prop where
  dispute : db.disputes.get? d.id = some d
  milestone : db.milestoneAt m.engagementId m.milestoneIndex = some m
  refund : db.refunds.get? m.id = refund

theorem rowsStored {refund : Option Refund} (rows : Rows d m refund db) : db.milestones.get? m.id = some m :=
  Table.memGet (List.mem_of_find?_eq_some rows.milestone)

theorem finishRows {refund : Option Refund} (rows : Rows d m refund db) : finish m.id d.id db =
    ⟨some (m.status,m.paymentReleased,m.confirmedAt.isSome),refund,some (d.status,d.isFinal,d.fundsLocked,d.fundsReleasedAt.isSome)⟩ := by
  simp only [finish,rowsStored rows,rows.refund,rows.dispute,Option.map_some]

def SameRows (db db' : Db) : Prop := db'.disputes = db.disputes ∧ db'.milestones = db.milestones ∧ db'.refunds = db.refunds

theorem rowsKept {refund : Option Refund} {α : Type} {p : Op α} (steps : Steps anySite SameRows p) :
    Yields respond (Rows d m refund) p fun _ => Rows d m refund := by
  refine yieldsSteps steps (fun _ => ⟨rfl,rfl,rfl⟩) (fun first second => ?_) fun db db' same rows => ?_
  · exact ⟨second.1.trans first.1,second.2.1.trans first.2.1,second.2.2.trans first.2.2⟩
  · obtain ⟨disputes,milestones,refunds⟩ := same
    refine ⟨by rw [disputes]; exact rows.dispute,?_,by rw [refunds]; exact rows.refund⟩
    rw [Db.milestoneAt,milestones]
    exact rows.milestone

theorem rowsRead {refund : Option Refund} {α : Type} {p : Op α} (reads : Reads Site.reads p) :
    Yields respond (Rows d m refund) p fun _ => Rows d m refund :=
  rowsKept (stepsMono (fun _ _ => rfl) (fun _ _ same => same ▸ ⟨rfl,rfl,rfl⟩) reads)

theorem updatedSlot {refund : Option Refund} {f : Milestone → Milestone} {keeps : ∀ m, (f m).id = m.id} {out : Milestone × Db}
    (rows : Rows d m refund db) (updated : db.updateMilestone m.id f keeps = .ok out) :
    db.updateMilestoneAt m.engagementId m.milestoneIndex f keeps = .ok out := by
  rw [Db.updateMilestoneAt,rows.milestone]
  exact updated

theorem rowsMilestone {refund : Option Refund} {f : Milestone → Milestone} {keeps : ∀ m, (f m).id = m.id}
    (slot : ∀ m, (f m).engagementId = m.engagementId ∧ (f m).milestoneIndex = m.milestoneIndex) {db' : Db} {m' : Milestone}
    (rows : Rows d m refund db) (updated : db.updateMilestoneAt m.engagementId m.milestoneIndex f keeps = .ok (m',db')) :
    m' = f m ∧ Rows d (f m) refund db' := by
  obtain ⟨found,there,same,after,updated⟩ := Db.updateMilestoneAtCases slot updated
  cases Option.some.inj (rows.milestone.symm.trans there)
  obtain ⟨_,_,_,_,_,rfl⟩ := Db.updateMilestoneCases updated
  refine ⟨same,rows.dispute,?_,?_⟩
  · rw [(slot m).1,(slot m).2]
    exact after
  · rw [keeps m]
    exact rows.refund

theorem rowsDispute {refund : Option Refund} {f : Dispute → Dispute} {keeps : ∀ d, (f d).id = d.id} {db' : Db} {d' : Dispute}
    (rows : Rows d m refund db) (updated : db.updateDispute d.id f keeps = .ok (d',db')) : Rows (f d) m refund db' := by
  obtain ⟨found,there,_,after,_,rfl⟩ := Db.updateDisputeCases updated
  cases Option.some.inj (rows.dispute.symm.trans there)
  exact ⟨by rw [keeps d]; exact after,rows.milestone,rows.refund⟩

theorem rowsDisputes {refund : Option Refund} {p : Dispute → Bool} {f : Dispute → Dispute} {keeps : ∀ d, (f d).id = d.id} {db' : Db}
    {count : Nat} (rows : Rows d m refund db) (updated : db.updateDisputesWhere p f keeps = (count,db')) :
    Rows (if p d then f d else d) m refund db' ∧ (p d = true → count ≠ 0) := by
  cases updated
  have id : (if p d then f d else d).id = d.id := by split <;> simp [keeps]
  refine ⟨⟨?_,rows.milestone,rows.refund⟩,fun matched => ?_⟩
  · rw [id]
    show (db.disputes.updateMany p f keeps).get? d.id = _
    rw [Table.getUpdateMany,rows.dispute,Option.map_some]
  · exact Nat.ne_of_gt (Table.countPos.mpr ⟨d.id,d,rows.dispute,matched⟩)

section Settlement

def settledDispute (d : Dispute) (at' : Nat) : Dispute := { d with status := .closed, fundsLocked := false, fundsReleasedAt := some at' }

def settledMilestone (m : Milestone) (approved : Bool) (at' : Nat) : Milestone :=
  { m with
    status := if approved then .resolved else .pending
    paymentReleased := if approved ∧ m.amount.getD 0 ≠ 0 then some (m.amount.getD 0) else m.paymentReleased
    confirmedAt := if approved ∧ m.amount.getD 0 ≠ 0 then some at' else m.confirmedAt }

/-- The refund row that the settlement leaves. -/
def refundOf (m : Milestone) (refund : Option Refund) : Refund :=
  { milestoneId := m.id
    amount := m.amount.getD 0
    status := .pending
    reason := some "Resolved dispute in favor of the company"
    providerEventId := refund.bind (·.providerEventId) }

def settledRefund (m : Milestone) (approved : Bool) (refund : Option Refund) : Option Refund :=
  if approved then refund else some (refundOf m refund)

theorem rowsRefunded {refund : Option Refund} (rows : Rows d m refund db) : Rows d m (some (refundOf m refund))
    (db.upsertRefund
      { milestoneId := m.id
        amount := m.amount.getD 0
        status := .pending
        reason := some "Resolved dispute in favor of the company" }) := by
  refine ⟨rows.dispute,rows.milestone,?_⟩
  refine (Table.upsertGet db.refunds _ _ _ m.id).trans ((if_pos rfl).trans ?_)
  rw [rows.refund]
  cases refund with
  | none => rfl
  | some row =>
    have mine : row.milestoneId = m.id := Table.getKey rows.refund
    simp only [Option.elim_some,refundOf,mine,Option.bind_some]

theorem payOutRows {refund : Option Refund} (approved : Bool) : Yields respond (Rows d m refund)
    ((payOut d m approved (m.amount.getD 0)).handle (unclaim d.id)) fun _ => Rows d m (settledRefund m approved refund) := by
  refine yieldsHandle ?_ fun error s value s' returned => ?_
  · have resolves : ∀ refund, Yields respond (Rows d m refund)
        (stellar (.resolveMilestoneDispute (some d.id) d.engagementId m.milestoneIndex approved) fun _ => ()) fun _ => Rows d m refund :=
      fun refund => rowsKept (stepsQuery rfl (fun _ => ⟨rfl,rfl,rfl⟩) _)
    cases approved with
    | true => exact resolves refund
    | false =>
      refine yieldsThrough (fun _ => Rows d m (some (refundOf m refund))) (yieldsWrite fun i db _ db' rows ok => ?_) fun _ => resolves _
      cases ok
      exact rowsRefunded rows
  · rw [unclaim,interpretWrite] at returned
    split at returned
    · cases returned
    · split at returned <;> cases returned

theorem recordRows (self : Config) {refund : Option Refund} (approved : Bool) : Yields respond (Rows d m refund)
    (recordSettlement self d m approved (m.amount.getD 0)) fun _ db => ∃ at',
      Rows { d with fundsLocked := false, fundsReleasedAt := some at' } (settledMilestone m approved at') refund db := by
  refine yieldsBind (rowsRead readsNow) fun at' => ?_
  refine yieldsThrough (fun _ => Rows d (settledMilestone m approved at') refund) (yieldsWrite fun i db m' db' rows ok => ?_) fun _ => ?_
  · refine (rowsMilestone ?_ rows (updatedSlot rows ok)).2
    exact fun _ => ⟨rfl,rfl⟩
  · refine yieldsThrough (fun _ => Rows { d with fundsLocked := false, fundsReleasedAt := some at' } (settledMilestone m approved at') refund)
      (yieldsWrite fun i db d' db' rows ok => rowsDispute rows ok) fun settled => ?_
    have kept : ∀ db db', AddsPayouts db db' → SameRows db db' := fun _ _ ⟨_,added⟩ => added ▸ ⟨rfl,rfl,rfl⟩
    exact yieldsMono (fun _ rows => rows) (fun _ _ rows => ⟨at',rows⟩) (rowsKept (stepsMono (fun _ _ => rfl) kept (keepsAfterwards d settled _)))

theorem settleRows {refund : Option Refund} (decided : settleable d.id d = true) (its : d.milestoneId = m.id) :
    Yields respond (Rows d m refund) (settle self d.id) fun _ db => ∃ at',
      Rows (settledDispute d at') (settledMilestone m (d.outcome = some .release) at')
        (settledRefund m (d.outcome = some .release) refund) db := by
  refine yieldsThrough (fun count db => count ≠ 0 ∧ Rows { d with status := .closed } m refund db)
    (yieldsWrite fun i db count db' rows ok => ?_) fun count => ?_
  · obtain ⟨closed,counted⟩ := rowsDisputes rows (Except.ok.inj ok)
    rw [if_pos decided] at closed
    exact ⟨counted decided,closed⟩
  · have finds : Yields respond (fun db => count ≠ 0 ∧ Rows { d with status := .closed } m refund db) (findWithMilestone d.id) fun found db =>
        found = ({ d with status := .closed },m) ∧ count ≠ 0 ∧ Rows { d with status := .closed } m refund db := by
      refine yieldsQuery fun i db found before ok => ⟨?_,before⟩
      have there : db.disputes.get? d.id = some { d with status := .closed } := before.2.dispute
      have stored : db.milestones.get? d.milestoneId = some m := its ▸ rowsStored before.2
      split at ok
      · cases ok
      · simp only [there,stored] at ok
        exact (Except.ok.inj ok).symm
    refine yieldsBind finds fun read => ?_
    obtain ⟨dispute,milestone⟩ := read
    rintro db ⟨found,counted,rows⟩
    obtain ⟨rfl,rfl⟩ := Prod.mk.inj found
    dsimp only
    rw [if_neg counted]
    have paid : Yields respond (Rows { d with status := .closed } milestone refund) _ fun _ =>
      Rows { d with status := .closed } milestone (settledRefund milestone (d.outcome = some .release) refund) := payOutRows _
    exact yieldsBind paid (fun _ => recordRows self _) db rows

end Settlement

section Events

def resolvedMilestone (m : Milestone) (approved : Bool) : Milestone := { m with status := if approved then .resolved else .pending }

/-- A dispute whose funds are released stays as it is. -/
def closedOnChain (d : Dispute) (at' : Nat) : Dispute :=
  if d.fundsReleasedAt.isNone then { d with status := .closed, isFinal := true, fundsLocked := false, fundsReleasedAt := some at' } else d

theorem keepsSync (engagementId : String) : Steps anySite SameRows (EngagementsService.syncFromChain engagementId) := by
  have same : ∀ db, SameRows db db := fun _ => ⟨rfl,rfl,rfl⟩
  refine stepsHandle (stepsBind (stepsQuery rfl same _) fun onChain => ?_) fun _ => trivial
  split
  · trivial
  · refine stepsBind (stepsQuery rfl same _) fun found => ?_
    split
    · trivial
    · refine stepsBind (stepsQuery rfl same _) fun balance => stepsBind (stepsWrite rfl same fun i db value db' ok => ?_) fun _ => ?_
      · obtain ⟨_,_,_,_,_,rfl⟩ := Db.updateEngagementCases ok
        exact same _
      · split
        · exact stepsBind (stepsQuery rfl same _) fun _ => stepsQuery rfl same _
        · trivial

theorem keepsAnnounce (engagementId : String) (notices : Nat) : Steps anySite SameRows (EventsService.announce engagementId notices) := by
  have same : ∀ db, SameRows db db := fun _ => ⟨rfl,rfl,rfl⟩
  refine stepsBind (stepsQuery rfl same _) fun found => ?_
  split
  · trivial
  · exact stepsForEach (fun _ => stepsQuery rfl same _) _

theorem markResolvedRows {refund : Option Refund} (approved : Bool) (its : d.milestoneId = m.id) : Yields respond (Rows d m refund)
    (MilestonesService.markResolved m.engagementId m.milestoneIndex approved none) fun _ db => ∃ at',
      Rows (closedOnChain d at') (resolvedMilestone m approved) refund db := by
  refine yieldsBind (rowsRead readsNow) fun at' => ?_
  refine yieldsThrough (fun updated db => updated = resolvedMilestone m approved ∧ Rows d (resolvedMilestone m approved) refund db)
    (yieldsWrite fun i db m' db' rows ok => ?_) fun updated => ?_
  · obtain ⟨same,moved⟩ := rowsMilestone (by exact fun _ => ⟨rfl,rfl⟩) rows ok
    cases approved <;> exact ⟨same,moved⟩
  · intro db ⟨same,rows⟩
    subst same
    have closes : Yields respond (Rows d (resolvedMilestone m approved) refund)
        (do let _ ← markSettledOnChain m.id; return resolvedMilestone m approved) fun _ db => ∃ at',
          Rows (closedOnChain d at') (resolvedMilestone m approved) refund db := by
      refine yieldsBind (yieldsBind (rowsRead readsNow) fun at' => yieldsWrite fun i db count db' rows ok => ?_) fun _ => yieldsRet fun _ rows => rows
      have closed := (rowsDisputes rows (Except.ok.inj ok)).1
      have mine : decide (d.milestoneId = m.id) = true := decide_eq_true its
      simp only [mine,Bool.true_and] at closed
      exact ⟨at',closed⟩
    exact closes db rows

theorem handledRows {refund : Option Refund} {payload : Json} {approved : Bool} (announces : Announces self payload m approved)
    (its : d.milestoneId = m.id) : Yields respond (Rows d m refund) (EventsService.handleDisputeResolved self payload) fun _ db => ∃ at',
      Rows (closedOnChain d at') (resolvedMilestone m approved) refund db := by
  unfold EventsService.handleDisputeResolved
  dsimp only
  rw [announces.engagement,announces.index,announces.flag]
  change Yields respond (Rows d m refund) (MilestonesService.markResolved m.engagementId m.milestoneIndex approved none >>= _) _
  refine yieldsBind (markResolvedRows approved its) fun _ => ?_
  have follows : ∀ at', Yields respond (Rows (closedOnChain d at') (resolvedMilestone m approved) refund)
      (do
        EngagementsService.syncFromChain m.engagementId
        EventsService.announce m.engagementId 3
        return {} : Op TxWrites) fun _ => Rows (closedOnChain d at') (resolvedMilestone m approved) refund := fun at' =>
    rowsKept (stepsBind (keepsSync _) fun _ => stepsBind (keepsAnnounce _ 3) fun _ => trivial)
  exact fun db ⟨at',rows⟩ writes db' returned => ⟨at',follows at' db rows writes db' returned⟩

end Events

/-- What the settlement would write is there already: the whole amount as released, or the refund row. -/
def Written (db : Db) (d : Dispute) (m : Milestone) : Prop :=
  if d.outcome = some .release then m.amount.getD 0 ≠ 0 → m.paymentReleased = some (m.amount.getD 0) ∧ m.confirmedAt.isSome = true
  else ∃ row, db.refunds.get? m.id = some row ∧ row.amount = m.amount.getD 0 ∧ row.status = .pending ∧
    row.reason = some "Resolved dispute in favor of the company"

theorem refundWritten {refund : Option Refund} (mine : ∀ row, refund = some row → row.milestoneId = m.id) :
    some (refundOf m refund) = refund ↔ ∃ row, refund = some row ∧ row.amount = m.amount.getD 0 ∧ row.status = .pending ∧
      row.reason = some "Resolved dispute in favor of the company" := by
  cases refund with
  | none => exact iff_of_false nofun nofun
  | some row =>
    have its := mine row rfl
    obtain ⟨milestoneId,amount,status,reason,providerEventId⟩ := row
    simp [refundOf,its.symm,eq_comm]

theorem finishesMatch {refund : Option Refund} {at₁ at₂ : Nat} {db₁ db₂ : Db} (approved : Bool) (decided : settleable d.id d = true)
    (mine : ∀ row, refund = some row → row.milestoneId = m.id)
    (settled : Rows (settledDispute d at₁) (settledMilestone m approved at₁) (settledRefund m approved refund) db₁)
    (handled : Rows (closedOnChain d at₂) (resolvedMilestone m approved) refund db₂) :
    finish m.id d.id db₁ = finish m.id d.id db₂ ↔
      if approved then m.amount.getD 0 ≠ 0 → m.paymentReleased = some (m.amount.getD 0) ∧ m.confirmedAt.isSome = true
      else ∃ row, refund = some row ∧ row.amount = m.amount.getD 0 ∧ row.status = .pending ∧
        row.reason = some "Resolved dispute in favor of the company" := by
  obtain ⟨_,_,final,unreleased⟩ := settleableIff.mp decided
  have closed : closedOnChain d at₂ = { d with status := .closed, isFinal := true, fundsLocked := false, fundsReleasedAt := some at₂ } :=
    if_pos (Option.isNone_iff_eq_none.mpr unreleased)
  have first := finishRows settled
  have second := finishRows handled
  rw [closed] at second
  refine (iff_of_eq (congrArg₂ Eq first second)).trans ?_
  simp only [settledMilestone,resolvedMilestone,settledDispute,settledRefund,final,Finish.mk.injEq,Prod.mk.injEq,Option.some.injEq,Option.isSome_some,true_and]
  cases approved with
  | true =>
    simp only [if_true,true_and]
    by_cases paid : m.amount.getD 0 = 0
    · simp [paid]
    · simp only [paid,ne_eq,not_false_eq_true,if_true,forall_true_left]
      rw [and_iff_left trivial]
      exact and_congr eq_comm eq_comm
  | false =>
    simp only [Bool.false_eq_true,if_false,false_and]
    rw [and_iff_right ⟨trivial,trivial⟩,and_iff_left trivial]
    exact refundWritten mine

theorem finishesAgree (self : Config) {db db₁ db₂ db₃ : Db} {d : Dispute} {m : Milestone} {payload : Json} {respond respond' respond'' : Site → Answer}
    {row : Dispute} {writes writes' : TxWrites} (awaits : Awaits db d m) (announces : Announces self payload m (d.outcome = some .release))
    (settled : (settle self d.id).interpret respond db = (.ok row,db₁))
    (handled : (EventsService.handleDisputeResolved self payload).interpret respond' db = (.ok writes,db₂))
    (replayed : (EventsService.handleDisputeResolved self payload).interpret respond'' db₁ = (.ok writes',db₃)) :
    finish m.id d.id db₁ = finish m.id d.id db₂ ∧ finish m.id d.id db₃ = finish m.id d.id db₁ ↔ Written db d m := by
  have before : Rows d m (db.refunds.get? m.id) db := ⟨awaits.dispute,awaits.milestone,rfl⟩
  obtain ⟨at₁,rows₁⟩ := settleRows awaits.decided awaits.its db before row db₁ settled
  obtain ⟨at₂,rows₂⟩ := handledRows announces awaits.its db before writes db₂ handled
  have announces' : Announces self payload (settledMilestone m (d.outcome = some .release) at₁) (d.outcome = some .release) :=
    ⟨announces.engagement,announces.index,announces.flag⟩
  have its' : (settledDispute d at₁).milestoneId = (settledMilestone m (d.outcome = some .release) at₁).id := awaits.its
  obtain ⟨at₃,rows₃⟩ := handledRows announces' its' db₁ rows₁ writes' db₃ replayed
  have still : finish m.id d.id db₃ = finish m.id d.id db₁ := (finishRows rows₃).trans (finishRows rows₁).symm
  have mine : ∀ row, db.refunds.get? m.id = some row → row.milestoneId = m.id := fun row found => Table.getKey found
  rw [and_iff_left still,finishesMatch _ awaits.decided mine rows₁ rows₂]
  simp only [Written,decide_eq_true_eq]

-- a milestone of 1000 that nothing has been paid for, its decided dispute, and the event
def placed : Milestone where
  id := "m"
  engagementId := "e"
  milestoneIndex := 0
  name := "placed"
  kind := .placement
  paymentPercent := 100
  amount := some 1000
  status := .disputed

def decidedFor (outcome : DisputeOutcome) : Dispute where
  id := "d"
  engagementId := "e"
  milestoneId := "m"
  status := .resolved
  outcome := some outcome
  isFinal := true

def disputedOver (m : Milestone) (outcome : DisputeOutcome) : Db where
  milestones := ⟨[m],by simp⟩
  disputes := ⟨[decidedFor outcome],by simp⟩

def told (approved : Bool) : Json := .array [.text "e",.number 0,.bool approved]

theorem unpaidFinishes : ∃ row db₁ writes db₂ writes' db₃,
    (settle {} "d").interpret (fun _ => {}) (disputedOver placed .release) = (.ok row,db₁) ∧
    (EventsService.handleDisputeResolved {} (told true)).interpret (fun _ => {}) (disputedOver placed .release) = (.ok writes,db₂) ∧
    (EventsService.handleDisputeResolved {} (told true)).interpret (fun _ => {}) db₁ = (.ok writes',db₃) ∧
    (finish "m" "d" db₁ = finish "m" "d" db₂ ∧ finish "m" "d" db₃ = finish "m" "d" db₁ ↔
      Written (disputedOver placed .release) (decidedFor .release) placed) := by
  have runs : ∃ row db₁ writes db₂ writes' db₃,
      (settle {} "d").interpret (fun _ => {}) (disputedOver placed .release) = (.ok row,db₁) ∧
      (EventsService.handleDisputeResolved {} (told true)).interpret (fun _ => {}) (disputedOver placed .release) = (.ok writes,db₂) ∧
      (EventsService.handleDisputeResolved {} (told true)).interpret (fun _ => {}) db₁ = (.ok writes',db₃) := ⟨_,_,_,_,_,_,rfl,rfl,rfl⟩
  obtain ⟨row,db₁,writes,db₂,writes',db₃,settled,handled,replayed⟩ := runs
  have awaits : Awaits (disputedOver placed .release) (decidedFor .release) placed := ⟨rfl,rfl,rfl,rfl⟩
  have announces : Announces {} (told true) placed ((decidedFor .release).outcome = some .release) := ⟨rfl,rfl,rfl⟩
  exact ⟨row,db₁,writes,db₂,writes',db₃,settled,handled,replayed,finishesAgree {} awaits announces settled handled replayed⟩

/-- The event releases nothing, and records no refund. -/
theorem unpaidByEvent : ∃ row db₁ writes db₂,
    (settle {} "d").interpret (fun _ => {}) (disputedOver placed .release) = (.ok row,db₁) ∧
    (EventsService.handleDisputeResolved {} (told true)).interpret (fun _ => {}) (disputedOver placed .release) = (.ok writes,db₂) ∧
    finish "m" "d" db₁ = ⟨some (.resolved,some 1000,true),none,some (.closed,true,false,true)⟩ ∧
    finish "m" "d" db₂ = ⟨some (.resolved,none,false),none,some (.closed,true,false,true)⟩ :=
  ⟨_,_,_,_,rfl,rfl,by decide +kernel,by decide +kernel⟩

end HireSettle.Escrow.FinishedDisputes
