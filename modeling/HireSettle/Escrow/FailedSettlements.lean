import HireSettle.Escrow.FailedReleases

/-! Settlements whose chain call throws. The claim of the dispute is taken back; the refund
that was written before the call is not. -/
namespace HireSettle.Escrow.FailedSettlements
open Workflow DisputesService FailedReleases

/-- The tables that a settlement writes are as they were. -/
structure LeavesNothing (db db' : Db) : Prop where
  disputes : db'.disputes = db.disputes
  milestones : db'.milestones = db.milestones
  refunds : db'.refunds = db.refunds
  payouts : db'.payouts = db.payouts

/-- The refund that a settlement of the milestone asks for stands already. -/
def Refunding (db : Db) (milestone : Milestone) : Prop :=
  ∃ refund, db.refunds.get? milestone.id = some refund ∧ refund.amount = milestone.amount.getD 0 ∧ refund.status = .pending ∧
    refund.reason = some "Resolved dispute in favor of the company"

def refundOf (milestone : Milestone) : Refund where
  milestoneId := milestone.id
  amount := milestone.amount.getD 0
  status := .pending
  reason := some "Resolved dispute in favor of the company"

def afterFailure (db : Db) (dispute : Dispute) (milestone : Milestone) : Db :=
  if dispute.outcome = some .release then db else db.upsertRefund (refundOf milestone)

section Settlement

variable {self : Config} {respond : Site → Answer} {db : Db} {α : Type}

theorem quietRecordPayout (dispute : Dispute) (amount : Int) : Quiet respond (recordArbiterPayout self dispute amount) := by
  unfold recordArbiterPayout
  split
  · exact quietRet _
  · dsimp only
    split
    · exact quietRet _
    · refine quietBind quietFind fun existing => ?_
      split
      · exact quietRet _
      · refine quietBind (quietWrite fun i db error failed => ?_) fun _ => quietRet _
        split at failed <;> cases failed
        simp

theorem quietEach {δ : Type} {body : δ → Op Unit} (each : ∀ x, Quiet respond (body x)) (xs : List δ) :
    Quiet respond (.forEach body xs) := by
  induction xs with
  | nil => exact quietRet _
  | cons x rest ih => exact quietBind (each x) fun _ => ih

theorem quietNotify (engagementId : String) (excludeUserId : Option String) :
    Quiet respond (notifyParties engagementId excludeUserId) := by
  refine quietBind quietFind fun engagement => ?_
  split
  · exact quietRet _
  · refine quietEach (fun userId => ?_) _
    split
    · exact quietRet _
    · split
      · exact quietRet _
      · exact fun _ => nofun

theorem quietRecord (dispute : Dispute) (milestone : Milestone) (approved : Bool) (amount : Int) :
    Quiet respond (recordSettlement self dispute milestone approved amount) := by
  have updates : ∀ {id : String} {f : Dispute → Dispute} {keeps : ∀ d, (f d).id = d.id} {db : Db} {error : Exception},
      db.updateDispute id f keeps = .error error → error ≠ .stellar :=
    fun failed => requiredThen (fun _ same => by cases same) failed
  refine quietBind quietNow fun at' => quietBind (quietWrite fun i db error failed => updateMilestoneThrows failed) fun _ => ?_
  refine quietBind (quietWrite fun i db error failed => updates failed) fun settled => ?_
  exact quietBind (quietRecordPayout _ _) fun _ => quietBind (quietNotify _ _) fun _ => quietRet _

variable {dispute : Dispute} {milestone : Milestone}

theorem unclaimed (found : db.disputes.get? dispute.id = some dispute) (resolved : dispute.status = .resolved)
    (meets : settleable dispute.id dispute = true) :
    ((db.disputes.updateMany (settleable dispute.id) (fun row => { row with status := .closed }) (fun _ => rfl)).update dispute.id
      (fun row => { row with status := .resolved }) fun _ => rfl) = db.disputes := by
  have claimed : db.disputes.updateMany (settleable dispute.id) (fun row => { row with status := .closed }) (fun _ => rfl) = _ :=
    Table.updateManyKey (fun row its => (settleableIff.mp its).1) found meets
  rw [claimed]
  refine Table.rowsSame ?_
  simp only [Table.update,Table.updateMany,List.map_map]
  refine (List.map_congr_left fun row inside => ?_).trans (List.map_id _)
  by_cases here : row.id = dispute.id
  · have there := Table.memGet inside
    rw [show Keyed.key row = dispute.id from here,found] at there
    cases there
    obtain ⟨id,engagementId,milestoneId,raisedById,reason,status,rest⟩ := dispute
    cases resolved
    simp [Keyed.key]
  · simp [Keyed.key,here]

/-- A dispute whose settlement is due, with its milestone. -/
structure Due (db : Db) (dispute : Dispute) (milestone : Milestone) : Prop where
  found : db.disputes.get? dispute.id = some dispute
  resolved : dispute.status = .resolved
  final : dispute.isFinal = true
  unreleased : dispute.fundsReleasedAt = none
  milestone : db.milestones.get? dispute.milestoneId = some milestone

theorem Due.meets (due : Due db dispute milestone) : settleable dispute.id dispute = true :=
  settleableIff.mpr ⟨rfl,due.resolved,due.final,due.unreleased⟩

def claimed (db : Db) (dispute : Dispute) : Db :=
  (db.updateDisputesWhere (settleable dispute.id) (fun row => { row with status := .closed }) (Dispute.statusId .closed)).2

def closed (dispute : Dispute) : Dispute := { dispute with status := .closed }

theorem Due.claims (due : Due db dispute milestone) :
    (db.updateDisputesWhere (settleable dispute.id) fun row => { row with status := .closed }).1 ≠ 0 ∧
      (claimed db dispute).disputes.get? dispute.id = some (closed dispute) := by
  have counted : db.disputes.count (settleable dispute.id) ≠ 0 :=
    Nat.ne_of_gt (Table.countPos.mpr ⟨dispute.id,dispute,due.found,due.meets⟩)
  refine ⟨counted,?_⟩
  have taken : db.disputes.updateMany (settleable dispute.id) closed (fun _ => rfl) = _ :=
    Table.updateManyKey (fun row its => (settleableIff.mp its).1) due.found due.meets
  show (db.disputes.updateMany (settleable dispute.id) closed fun _ => rfl).get? dispute.id = _
  rw [taken]
  exact Table.getUpdateSelf due.found closed fun _ => rfl

/-- Once the dispute is claimed and read, the settlement is its payment and what records it. -/
theorem settleRuns (due : Due db dispute milestone) (answered : (respond (.claimSettlement dispute.id)).fails = false)
    (read : (respond (.find .dispute)).fails = false) : (settle self dispute.id).interpret respond db =
      ((payOut (closed dispute) milestone (decide (dispute.outcome = some .release)) (milestone.amount.getD 0)).handle
        (unclaim dispute.id) >>= fun _ => recordSettlement self (closed dispute) milestone
          (decide (dispute.outcome = some .release)) (milestone.amount.getD 0)).interpret respond (claimed db dispute) := by
  obtain ⟨counted,there⟩ := due.claims
  unfold settle claimSettlement
  rw [interpretWrite,answered]
  simp only [Bool.false_eq_true,if_false]
  unfold findWithMilestone
  rw [interpretFindOr,read]
  simp only [Bool.false_eq_true,if_false]
  rw [show (db.updateDisputesWhere (settleable dispute.id) _).2.disputes.get? dispute.id = _ from there]
  dsimp only
  rw [show (db.updateDisputesWhere (settleable dispute.id) _).2.milestones.get? (closed dispute).milestoneId = some milestone from
    due.milestone]
  dsimp only
  rw [if_neg counted]
  rfl

theorem unclaimRaises {id : String} {error : Exception} (thrown : ((unclaim id error).interpret respond db).1 = .error .stellar) :
    error = .stellar ∧ ((unclaim id error).interpret respond db).2 =
      { db with disputes := db.disputes.update id (fun row => { row with status := .resolved }) fun _ => rfl } := by
  unfold unclaim at thrown ⊢
  rw [interpretWrite] at thrown ⊢
  split at thrown
  · cases thrown
  · rename_i answered
    rw [if_neg answered]
    cases updated : db.updateDispute id (fun row => { row with status := .resolved }) fun _ => rfl with
    | error other =>
        rw [updated] at thrown
        exact absurd (Except.error.inj thrown) (requiredThen (fun _ same => by cases same) updated)
    | ok out =>
        obtain ⟨_,_,_,_,_,same⟩ := Db.updateDisputeCases updated
        rw [updated] at thrown
        exact ⟨Except.error.inj thrown,same⟩

/-- When its chain call throws, a payment has written the refund only. -/
theorem paymentThrown {closed : Dispute} {approved : Bool}
    (thrown : ((payOut closed milestone approved (milestone.amount.getD 0)).interpret respond db).1 = .error .stellar) :
    ((payOut closed milestone approved (milestone.amount.getD 0)).interpret respond db).2 =
      if approved then db else db.upsertRefund (refundOf milestone) := by
  cases approved with
  | true =>
    change ((stellar _ _ : Op Unit).interpret respond db).2 = db
    rw [stellar,interpretQuery]
  | false =>
    change ((write _ _ >>= fun _ => stellar _ _ : Op Unit).interpret respond db).1 = _ at thrown
    change ((write _ _ >>= fun _ => stellar _ _ : Op Unit).interpret respond db).2 = _
    rw [interpretWrite] at thrown ⊢
    split at thrown
    · cases thrown
    · rename_i answered
      rw [if_neg answered]
      dsimp only
      rw [stellar,interpretQuery]
      rfl

/-- What a settlement has left when the chain call has thrown. -/
theorem settleThrown (due : Due db dispute milestone)
    (thrown : ((settle self dispute.id).interpret respond db).1 = .error .stellar) :
    ((settle self dispute.id).interpret respond db).2 = afterFailure db dispute milestone := by
  have reached : (respond (.claimSettlement dispute.id)).fails = false ∧ (respond (.find .dispute)).fails = false := by
    unfold settle claimSettlement findWithMilestone at thrown
    obtain ⟨taken,_,_,_,thrown⟩ := thrownWrite (fun same => by cases same) thrown
    refine ⟨taken,(thrownFindOr ?_ thrown).1⟩
    split
    · nofun
    · split <;> nofun
  rw [settleRuns due reached.1 reached.2,interpretBind,interpretHandle] at thrown ⊢
  have left := @paymentThrown respond (claimed db dispute) milestone (closed dispute) (decide (dispute.outcome = some .release))
  generalize (payOut (closed dispute) milestone (decide (dispute.outcome = some .release)) (milestone.amount.getD 0)).interpret
    respond (claimed db dispute) = out at thrown left ⊢
  obtain ⟨error | value,paid⟩ := out
  · dsimp only at thrown left ⊢
    have raised := @unclaimRaises respond paid dispute.id error
    generalize (unclaim dispute.id error).interpret respond paid = after at thrown raised ⊢
    obtain ⟨other | value,db'⟩ := after
    · obtain ⟨rfl,same⟩ := raised (congrArg Except.error (Except.error.inj thrown))
      refine same.trans ?_
      rw [left rfl]
      have back := unclaimed due.found due.resolved due.meets
      unfold afterFailure
      by_cases released : dispute.outcome = some .release
      · rw [if_pos (decide_eq_true released),if_pos released]
        exact congrArg (fun disputes => { db with disputes := disputes }) back
      · rw [if_neg (by simpa using released),if_neg released]
        exact congrArg (fun disputes => { db.upsertRefund (refundOf milestone) with disputes := disputes }) back
    · exact absurd thrown (quietRecord _ _ _ _ db')
  · exact absurd thrown (quietRecord _ _ _ _ paid)

/-- Only the chain call of the settlement throws. -/
def withoutChain (dispute : Dispute) (milestone : Milestone) (site : Site) : Answer where
  fails := decide (site = .resolveMilestoneDispute (some dispute.id) dispute.engagementId milestone.milestoneIndex
    (decide (dispute.outcome = some .release)))

theorem withoutChainThrows (due : Due db dispute milestone) :
    ((settle self dispute.id).interpret (withoutChain dispute milestone) db).1 = .error .stellar := by
  have paid : ∃ db', (payOut (closed dispute) milestone (decide (dispute.outcome = some .release)) (milestone.amount.getD 0)).interpret
      (withoutChain dispute milestone) (claimed db dispute) = (.error .stellar,db') ∧ db'.disputes = (claimed db dispute).disputes := by
    have throws : (withoutChain dispute milestone (.resolveMilestoneDispute (some (closed dispute).id) (closed dispute).engagementId
        milestone.milestoneIndex (decide (dispute.outcome = some .release)))).fails = true := decide_eq_true rfl
    generalize decide (dispute.outcome = some .release) = approved at throws ⊢
    cases approved with
    | true =>
      change ∃ db', (stellar _ _ : Op Unit).interpret _ _ = _ ∧ _
      rw [stellar,interpretQuery,throws]
      exact ⟨_,rfl,rfl⟩
    | false =>
      change ∃ db', (write _ _ >>= fun _ => stellar _ _ : Op Unit).interpret _ _ = _ ∧ _
      rw [interpretWrite,show (withoutChain dispute milestone (.refundMilestone milestone.id)).fails = false from rfl]
      simp only [Bool.false_eq_true,if_false]
      rw [stellar,interpretQuery,throws]
      exact ⟨_,rfl,rfl⟩
  obtain ⟨db',paid,same⟩ := paid
  have there : db'.disputes.get? dispute.id = some (closed dispute) := same ▸ due.claims.2
  rw [settleRuns due rfl rfl,interpretBind,interpretHandle,paid]
  dsimp only
  unfold unclaim
  rw [interpretWrite,show (withoutChain dispute milestone (.unclaimSettlement dispute.id)).fails = false from rfl]
  simp only [Bool.false_eq_true,if_false]
  rw [show db'.updateDispute dispute.id _ _ = _ from exceptBind.mpr ⟨_,congrArg (fun found => required (Option.map _ found)) there,rfl⟩]
  rfl

/-- A settlement that cannot claim the dispute calls nothing that throws so. -/
theorem unclaimableQuiet (found : db.disputes.get? dispute.id = some dispute) (without : settleable dispute.id dispute = false) :
    ((settle self dispute.id).interpret respond db).1 ≠ .error .stellar := by
  intro thrown
  unfold settle claimSettlement findWithMilestone at thrown
  obtain ⟨_,_,_,taken,thrown⟩ := thrownWrite (fun same => by cases same) thrown
  cases taken
  obtain ⟨_,⟨_,_⟩,_,thrown⟩ := thrownFindOr (by split; nofun; split <;> nofun) thrown
  dsimp only at thrown
  rw [if_pos] at thrown
  · cases thrown
  · refine Nat.eq_zero_of_not_pos fun some => ?_
    obtain ⟨id,row,there,meets⟩ := Table.countPos.mp some
    have its := Table.getKey there
    rw [show Keyed.key row = dispute.id from (settleableIff.mp meets).1] at its
    rw [← its,found] at there
    cases there
    cases without.symm.trans meets

theorem afterFailureSame : LeavesNothing db (afterFailure db dispute milestone) ↔
    dispute.outcome = some .release ∨ Refunding db milestone := by
  unfold afterFailure
  split
  · rename_i released
    exact ⟨fun _ => .inl released,fun _ => ⟨rfl,rfl,rfl,rfl⟩⟩
  · rename_i refused
    have written : db.refunds.upsert (refundOf milestone) (fun row =>
        { refundOf milestone with milestoneId := row.milestoneId, providerEventId := row.providerEventId }) (fun _ => rfl) = db.refunds ↔ _ :=
      Table.upsertSame
    constructor
    · intro nothing
      obtain ⟨refund,there,same⟩ := written.mp nothing.refunds
      exact .inr ⟨refund,there,(congrArg Refund.amount same).symm,(congrArg Refund.status same).symm,(congrArg Refund.reason same).symm⟩
    · rintro (released | ⟨refund,there,amount,status,reason⟩)
      · exact absurd released refused
      · refine ⟨rfl,rfl,written.mpr ⟨refund,there,?_⟩,rfl⟩
        cases refund
        cases amount
        cases status
        cases reason
        rfl

end Settlement

/-- A settlement whose chain call throws leaves the tables as they were where the funds are released already, where the outcome
is a release, or where the refund that it asks for stands already. -/
theorem leavesNothingIff (self : Config) (db : Db) (dispute : Dispute) (milestone : Milestone)
    (found : db.disputes.get? dispute.id = some dispute) (resolved : dispute.status = .resolved) (final : dispute.isFinal = true)
    (its : db.milestones.get? dispute.milestoneId = some milestone) :
    (∀ respond, ((settle self dispute.id).interpret respond db).1 = .error .stellar →
      LeavesNothing db ((settle self dispute.id).interpret respond db).2) ↔
      dispute.fundsReleasedAt ≠ none ∨ dispute.outcome = some .release ∨ Refunding db milestone := by
  by_cases unreleased : dispute.fundsReleasedAt = none
  · have due : Due db dispute milestone := ⟨found,resolved,final,unreleased,its⟩
    rw [← afterFailureSame]
    constructor
    · intro nothing
      have thrown := @withoutChainThrows self _ _ _ due
      exact .inr (settleThrown due thrown ▸ nothing _ thrown)
    · rintro (released | nothing) respond thrown
      · exact absurd unreleased released
      · exact (settleThrown due thrown).symm ▸ nothing
  · refine ⟨fun _ => .inl unreleased,fun _ respond thrown => absurd thrown (unclaimableQuiet found ?_)⟩
    exact Bool.eq_false_iff.mpr fun meets => unreleased (settleableIff.mp meets).2.2.2

def refusedDispute : Dispute where
  id := "d"
  engagementId := "e"
  milestoneId := "m"
  status := .resolved
  outcome := some .refund
  isFinal := true

def disputedMilestone : Milestone where
  id := "m"
  engagementId := "e"
  milestoneIndex := 0
  name := "placed"
  kind := .placement
  paymentPercent := 100
  amount := some 100
  status := .disputed

def refunding : Db where
  disputes := ⟨[refusedDispute],by simp⟩
  milestones := ⟨[disputedMilestone],by simp⟩
  refunds := ⟨[{ refundOf disputedMilestone with providerEventId := some "evt" }],by simp⟩

theorem refundStands : (refunding.refunds.get? "m").map Refund.amount = some 100 ∧
    ∀ respond, ((settle {} "d").interpret respond refunding).1 = .error .stellar →
      LeavesNothing refunding ((settle {} "d").interpret respond refunding).2 :=
  ⟨rfl,(leavesNothingIff {} refunding refusedDispute disputedMilestone rfl rfl rfl rfl).mpr
    (.inr (.inr ⟨_,rfl,rfl,rfl,rfl⟩))⟩

def unrefunded : Db where
  disputes := ⟨[refusedDispute],by simp⟩
  milestones := ⟨[disputedMilestone],by simp⟩

theorem refundLeft : ((settle {} "d").interpret (withoutChain refusedDispute disputedMilestone) unrefunded).1 = .error .stellar ∧
    ((settle {} "d").interpret (withoutChain refusedDispute disputedMilestone) unrefunded).2.refunds.get? "m" =
      some (refundOf disputedMilestone) ∧
    unrefunded.refunds.get? "m" = none := ⟨rfl,rfl,rfl⟩

end HireSettle.Escrow.FailedSettlements
