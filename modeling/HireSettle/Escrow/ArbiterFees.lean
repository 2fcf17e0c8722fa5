import HireSettle.Escrow.AppealWindows

/-! The fee of the arbiter who decided a dispute. The settlement records the whole
amount as released and pays the fee besides. -/
namespace HireSettle.Escrow.ArbiterFees
open Workflow DisputesService

/-- The retried operations of one dispute. -/
inductive Request where
  | settle
  | recordArbiterPayout
  deriving DecidableEq, Repr

def handler (self : Config) (d : Dispute) (amount : Option Int) : Request → Op Unit
  | .settle => do let _ ← settle self d.id
  | .recordArbiterPayout => do let _ ← recordArbiterPayout self d (amount.getD 0)

def service (self : Config) (d : Dispute) (amount : Option Int) : System Request Nat Site Answer Db Exception Unit where
  handler := handler self d amount
  environment elapsed db := { db with clock := db.clock + elapsed }

abbrev Retry := Turn Request Nat Answer

/-- A dispute decided for the recruiter by an arbiter, before its settlement. -/
structure Decided (db : Db) (d : Dispute) (amount : Option Int) : Prop where
  dispute : db.disputes.get? d.id = some d
  settleable : settleable d.id d = true
  outcome : d.outcome = some .release
  arbiter : (present d.arbiterId).isSome = true
  milestone : (db.milestones.get? d.milestoneId).map Milestone.amount = some amount
  unpaid : db.payouts.get? d.id = none

def Settled (d : Dispute) (db : Db) : Prop := ∃ row, db.disputes.get? d.id = some row ∧ row.fundsReleasedAt.isSome = true

/-- What is released and what the arbiter is paid make up the amount, in one payout. -/
def Splits (d : Dispute) (amount : Int) (db : Db) : Prop :=
  ∃ released payout, (db.milestones.get? d.milestoneId).bind (·.paymentReleased) = some released ∧
    (db.payouts.findMany fun row => row.disputeId = d.id) = [payout] ∧
    released + payout.amount = amount ∧ 0 ≤ payout.amount ∧ payout.amount ≤ amount

def terms (d : Dispute) : Option DisputeOutcome × Option String × String := (d.outcome,d.arbiterId,d.milestoneId)

def Paid (d : Dispute) (amount : Int) (db : Db) : Prop :=
  amount ≠ 0 → (db.milestones.get? d.milestoneId).bind (·.paymentReleased) = some amount

structure Kept (config : Config) (d : Dispute) (amount : Option Int) (db : Db) : Prop where
  dispute : (db.disputes.get? d.id).map terms = some (terms d)
  milestone : (db.milestones.get? d.milestoneId).map Milestone.amount = some amount
  payout : ∀ row, db.payouts.get? d.id = some row →
    row.amount = computeArbiterFee config (amount.getD 0) ∧ 0 < computeArbiterFee config (amount.getD 0)
  paid : Settled d db → Paid d (amount.getD 0) db

section Steps

variable {self : Config} {d : Dispute} {amount : Option Int} {db db' : Db}

def Preserves (self : Config) (d : Dispute) (amount : Option Int) (db db' : Db) : Prop := Kept self d amount db → Kept self d amount db'

theorem keptDisputes {p : Dispute → Bool} {f : Dispute → Dispute} {keeps : ∀ d, (f d).id = d.id}
    (same : ∀ d, terms (f d) = terms d) (locked : ∀ d, (f d).fundsReleasedAt = d.fundsReleasedAt) :
    Preserves self d amount db { db with disputes := db.disputes.updateMany p f keeps } := by
  intro kept
  refine ⟨(Table.getUpdateManyMap db.disputes keeps same d.id).trans kept.dispute,kept.milestone,kept.payout,fun settled => ?_⟩
  obtain ⟨row,found,released⟩ := settled
  have before := Table.getUpdateManyMap db.disputes (p := p) keeps locked d.id
  rw [show (db.disputes.updateMany p f keeps).get? d.id = some row from found] at before
  obtain ⟨old,there,same⟩ := Option.map_eq_some_iff.mp before.symm
  exact kept.paid ⟨old,there,same ▸ released⟩

theorem keptDispute {site : Site} {id : String} {f : Dispute → Dispute} {keeps : ∀ d, (f d).id = d.id}
    (same : ∀ d, terms (f d) = terms d) (locked : ∀ d, (f d).fundsReleasedAt = d.fundsReleasedAt) :
    Steps anySite (Preserves self d amount) (write site fun _ db => db.updateDispute id f keeps) := by
  refine stepsWrite rfl (fun _ kept => kept) fun i db value db' ok => ?_
  obtain ⟨_,_,_,_,_,rfl⟩ := Db.updateDisputeCases ok
  exact keptDisputes same locked

theorem keptReads {α : Type} {p : Op α} (reads : Reads Site.reads p) : Steps anySite (Preserves self d amount) p :=
  stepsMono (fun _ _ => rfl) (fun _ _ same kept => same ▸ kept) reads

theorem keptPayOut (dispute : Dispute) (milestone : Milestone) (approved : Bool) (value : Int) (id : String) :
    Steps anySite (Preserves self d amount) ((payOut dispute milestone approved value).handle (unclaim id)) := by
  have stays : ∀ db, Preserves self d amount db db := fun _ kept => kept
  refine stepsHandle ?_ fun error => stepsBind (keptDispute (fun _ => rfl) fun _ => rfl) fun _ => trivial
  unfold payOut
  split
  · refine stepsBind (stepsWrite rfl stays fun i db value after ok => ?_) fun _ => stepsQuery rfl stays _
    cases ok
    exact fun kept => ⟨kept.dispute,kept.milestone,kept.payout,kept.paid⟩
  · exact stepsQuery rfl stays _

/-- A payout is made once, and is the fee. -/
theorem keptRecordPayout (dispute : Dispute) :
    Steps anySite (Preserves self d amount) (recordArbiterPayout self dispute (amount.getD 0)) := by
  unfold recordArbiterPayout
  split
  · trivial
  · dsimp only
    split
    · trivial
    · rename_i arbiterId _ some'
      refine stepsBind (keptReads (readsFind _ _)) fun existing => ?_
      split
      · trivial
      · refine stepsBind (stepsWrite rfl (fun _ kept => kept) fun i db value db' ok => ?_) fun _ => trivial
        split at ok
        · cases ok
        · rename_i payouts made
          cases ok
          refine fun kept => ⟨kept.dispute,kept.milestone,fun row found => ?_,kept.paid⟩
          rw [show payouts.get? d.id = _ from (Table.createGet made).2.2 d.id] at found
          split at found
          · cases found
            exact ⟨rfl,Int.not_le.mp some'⟩
          · exact kept.payout row found

variable {c : EscrowSnapshot}

def KeptAt (self : Config) (d : Dispute) (amount : Option Int) (c : EscrowSnapshot) : Prop := Kept self d amount c.world

abbrev Keeping {α : Type} (self : Config) (d : Dispute) (amount : Option Int) (done : Except Exception α → EscrowSnapshot → Prop) (p : Op α)
    (c : EscrowSnapshot) : Prop :=
  Ensures (fun _ _ => True) (KeptAt self d amount) done p c

theorem keepingSteps {α : Type} {p : Op α} (steps : Steps anySite (Preserves self d amount) p) (kept : KeptAt self d amount c) :
    Keeping self d amount (fun _ => KeptAt self d amount) p c :=
  ensuresActs (fun _ _ _ _ _ step _ kept => step.2 kept) (fun _ kept => kept) (actsSteps steps) kept

theorem paidRecorded {f : Milestone → Milestone} {keeps : ∀ m, (f m).id = m.id} {m' : Milestone}
    (kept : Kept self d amount db) (updated : db.updateMilestone d.milestoneId f keeps = .ok (m',db'))
    (same : ∀ m, (f m).amount = m.amount) (pays : amount.getD 0 ≠ 0 → ∀ m, (f m).paymentReleased = some (amount.getD 0)) :
    Kept self d amount db' ∧ Paid d (amount.getD 0) db' := by
  obtain ⟨m,found,_,there,_,rfl⟩ := Db.updateMilestoneCases updated
  have paid : Paid d (amount.getD 0) { db with milestones := db.milestones.update d.milestoneId f keeps } := fun some' => by
    rw [there]
    exact pays some' m
  refine ⟨⟨kept.dispute,?_,kept.payout,fun _ => paid⟩,paid⟩
  have agreed := kept.milestone
  rw [found] at agreed
  rw [there]
  simpa only [Option.map_some,same m] using agreed

theorem paidUnlocked {f : Dispute → Dispute} {keeps : ∀ d, (f d).id = d.id} {d' : Dispute} (kept : Kept self d amount db)
    (paid : Paid d (amount.getD 0) db) (updated : db.updateDispute d.id f keeps = .ok (d',db')) (same : ∀ d, terms (f d) = terms d) :
    Kept self d amount db' := by
  obtain ⟨_,_,_,_,_,rfl⟩ := Db.updateDisputeCases updated
  exact ⟨(Table.getUpdateManyMap db.disputes keeps same d.id).trans kept.dispute,kept.milestone,kept.payout,fun _ => paid⟩

theorem keepingRecord (dispute : Dispute) (milestone : Milestone) (its : dispute.id = d.id) (mine : milestone.id = d.milestoneId)
    (agreed : milestone.amount = amount) (kept : KeptAt self d amount c) :
    Keeping self d amount (fun _ => KeptAt self d amount) (recordSettlement self dispute milestone true (milestone.amount.getD 0)) c := by
  subst agreed
  have weak : ∀ db, Kept self d milestone.amount db → ∀ c' : EscrowSnapshot, c'.world = db → KeptAt self d milestone.amount c' :=
    fun db kept c' same => show Kept self d milestone.amount c'.world from same ▸ kept
  refine ensuresNow (weak _ kept) (fun _ => weak _ kept) rfl fun c here => ?_
  refine ensuresBind (ensuresWrite (weak _ kept) (fun _ => weak _ kept) here fun thread i m' db' _ ok _ => ?_)
  rw [mine] at ok
  obtain ⟨kept,paid⟩ := paidRecorded kept ok (fun _ => rfl) fun some' _ => if_pos ⟨rfl,some'⟩
  refine ⟨kept,ensuresBind (ensuresWrite (weak _ kept) (fun _ => weak _ kept) rfl fun thread i settled db' _ ok _ => ?_)⟩
  rw [its] at ok
  have kept := paidUnlocked kept paid ok fun _ => rfl
  refine ⟨kept,keepingSteps (stepsBind (keptRecordPayout dispute) fun _ => ?_) kept⟩
  exact stepsBind (keptReads (readsNotifyParties _ _)) fun _ => trivial

theorem keepingSettle (outcome : d.outcome = some .release) (kept : KeptAt self d amount c) :
    Keeping self d amount (fun _ _ => True) (settle self d.id) c := by
  have claims : Steps anySite (Preserves self d amount) (claimSettlement d.id) := by
    refine stepsWrite rfl (fun _ kept => kept) fun i db value db' ok => ?_
    cases ok
    exact keptDisputes (fun _ => rfl) fun _ => rfl
  refine ensuresBind (ensuresMono ?_ (keepingSteps claims kept))
  rintro (error | count) c kept
  · trivial
  have weak : ∀ c' : EscrowSnapshot, c'.world = c.world → KeptAt self d amount c' :=
    fun c' same => show Kept self d amount c'.world from same ▸ kept
  refine ensuresFindOr weak (fun _ _ _ => trivial) rfl fun found c' ok here => ?_
  obtain ⟨dispute,milestone⟩ := found
  split at ok
  · cases ok
  · rename_i there
    split at ok
    · cases ok
    · rename_i stored
      cases ok
      have same := kept.dispute
      rw [there] at same
      simp only [Option.map_some,Option.some.injEq,terms,Prod.mk.injEq] at same
      obtain ⟨decided,_,its⟩ := same
      have agreed := kept.milestone
      rw [← its,stored] at agreed
      dsimp only
      split
      · trivial
      · rw [decided,outcome]
        refine ensuresBind (ensuresMono ?_ (keepingSteps (keptPayOut dispute milestone _ _ d.id) (weak c' here)))
        rintro (error | paid) c kept
        · trivial
        · exact ensuresMono (fun _ _ _ => trivial)
            (keepingRecord dispute milestone (Table.getKey there) ((Table.getKey stored).trans its) (Option.some.inj agreed) kept)

theorem keepingHandler (outcome : d.outcome = some .release) (request : Request) (kept : KeptAt self d amount c) :
    Keeping self d amount (fun _ _ => True) (handler self d amount request) c := by
  have drop : ∀ {α : Type} {p : Op α}, Keeping self d amount (fun _ _ => True) p c →
      Keeping self d amount (fun _ _ => True) (p >>= fun _ => pure ()) c := fun keeping =>
    ensuresBind (ensuresMono (fun out _ _ => by cases out <;> trivial) keeping)
  cases request with
  | settle => exact drop (keepingSettle outcome kept)
  | recordArbiterPayout => exact drop (ensuresMono (fun _ _ _ => trivial) (keepingSteps (keptRecordPayout d) kept))

end Steps

section Runs

variable {self : Config} {d : Dispute} {amount : Option Int} {db : Db}

theorem retriesKeep (decided : Decided db d amount) (retries : List Retry) :
    Kept self d amount ((service self d amount).turns (Pool.initial db) retries).world := by
  obtain ⟨_,_,_,unreleased⟩ := settleableIff.mp decided.settleable
  have start : Kept self d amount db := by
    refine ⟨by rw [decided.dispute]; rfl,decided.milestone,fun row found => ?_,fun ⟨row,found,released⟩ => ?_⟩
    · cases found.symm.trans decided.unpaid
    · cases found.symm.trans decided.dispute
      rw [unreleased] at released
      cases released
  have meets : Meets (fun _ _ _ => True) ((service self d amount).turns (Pool.initial db) retries) :=
    meetsAlways (by simp) _
  have last : KeptAt self d amount ((service self d amount).turns (Pool.initial db) retries).snapshot := by
    refine turnsKeep (fun request c kept => ?_) (fun elapsed c kept => ?_) start retries meets
    · exact keepingHandler decided.outcome request kept
    · exact ⟨kept.dispute,kept.milestone,kept.payout,kept.paid⟩
  exact last

/-- However often a settlement and its payout are retried, and wherever they fail: once the funds are released,
the whole amount is, and at most one payout was made, of the fee. -/
theorem retriesPay (decided : Decided db d amount) (retries : List Retry)
    (settled : Settled d ((service self d amount).turns (Pool.initial db) retries).world) :
    Paid d (amount.getD 0) ((service self d amount).turns (Pool.initial db) retries).world ∧
    ∀ row ∈ ((service self d amount).turns (Pool.initial db) retries).world.payouts.findMany (fun row => row.disputeId = d.id),
      row.amount = computeArbiterFee self (amount.getD 0) ∧ 0 < row.amount := by
  have kept : Kept self d amount ((service self d amount).turns (Pool.initial db) retries).world := retriesKeep decided retries
  refine ⟨kept.paid settled,fun row inside => ?_⟩
  obtain ⟨there,mine⟩ := List.mem_filter.mp inside
  have key : Keyed.key row = d.id := of_decide_eq_true mine
  obtain ⟨fee,positive⟩ := kept.payout row (key ▸ Table.memGet there)
  exact ⟨fee,fee ▸ positive⟩

/-- So the two never make up the amount. -/
theorem neverSplits (self : Config) (db : Db) (d : Dispute) (amount : Option Int) (decided : Decided db d amount)
    (bounded : computeArbiterFee self (amount.getD 0) ≤ amount.getD 0) (retries : List Retry)
    (settled : Settled d ((service self d amount).turns (Pool.initial db) retries).world) :
    ¬ Splits d (amount.getD 0) ((service self d amount).turns (Pool.initial db) retries).world := by
  obtain ⟨paid,payouts⟩ := retriesPay decided retries settled
  intro ⟨released,payout,shown,only,sum,_⟩
  obtain ⟨fee,positive⟩ := payouts payout (by rw [only]; exact List.mem_singleton_self _)
  have whole := paid (by omega)
  rw [shown] at whole
  cases whole
  omega

end Runs

def decided : Dispute where
  id := "d"
  engagementId := "e"
  milestoneId := "m"
  arbiterId := some "a"
  status := .resolved
  outcome := some .release
  isFinal := true

def disputed : Db where
  disputes := .single decided
  milestones := .single {
    id := "m", engagementId := "e", milestoneIndex := 0, name := "placed", kind := .placement, paymentPercent := 100, amount := some 1000,
    status := .disputed }

-- the settlement is served, and the payout recorded again
def retried : List Retry := [.serve .settle (List.replicate 9 {}),.serve .recordArbiterPayout (List.replicate 2 {})]

theorem settledDecided : Decided disputed decided (some 1000) := ⟨rfl,rfl,rfl,by decide,rfl,rfl⟩

theorem retriedSettles : Settled decided ((service {} decided (some 1000)).turns (Pool.initial disputed) retried).world := ⟨_,rfl,rfl⟩

theorem retriedSplits :
    Settled decided ((service {} decided (some 1000)).turns (Pool.initial disputed) retried).world ∧
    ¬ Splits decided 1000 ((service {} decided (some 1000)).turns (Pool.initial disputed) retried).world :=
  ⟨retriedSettles,neverSplits {} disputed decided (some 1000) settledDecided (by decide) retried retriedSettles⟩

def retriedDb : Db := ((service {} decided (some 1000)).turns (Pool.initial disputed) retried).world

/-- The recruiter is recorded as paid the whole 1000, and the arbiter 50 more. -/
theorem paidBesides :
    (retriedDb.milestones.get? "m").bind (·.paymentReleased) = some 1000 ∧
    (retriedDb.payouts.findMany fun row => row.disputeId = "d").map ArbiterPayout.amount = [50] ∧
    Settled decided retriedDb ∧ ¬ Splits decided 1000 retriedDb := by
  have released : (retriedDb.milestones.get? "m").bind (·.paymentReleased) = some 1000 := by decide +kernel
  have payouts : (retriedDb.payouts.findMany fun row => row.disputeId = "d").map ArbiterPayout.amount = [50] := by decide +kernel
  refine ⟨released,payouts,retriedSettles,?_⟩
  intro ⟨shown,payout,found,only,sum,_⟩
  cases Option.some.inj (released.symm.trans found)
  rw [show (retriedDb.payouts.findMany fun row => row.disputeId = "d") = [payout] from only] at payouts
  cases List.cons.inj payouts with
  | intro fee _ => omega

end HireSettle.Escrow.ArbiterFees
