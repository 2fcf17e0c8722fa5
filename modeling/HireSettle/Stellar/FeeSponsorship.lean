import HireSettle.Common.Calls
import HireSettle.Workflow.Guards
import HireSettle.Workflow.Table

/-! Transaction fees that the platform pays. A user-signed transaction is wrapped in
a fee bump, the fee charged for it is recorded, and the sum of a UTC day is to stay
below a cap. The budget is checked before the submission, for the configured
maximum; the fee that is bid depends on the inner transaction. Times are in
milliseconds, numbers of the configuration are rationals. -/
namespace HireSettle.Stellar.FeeSponsorship
open Workflow

structure SponsoredFee where
  txHash : String
  companyId : String
  innerTxHash : String
  feeStroops : Nat
  feeSource : String
  createdAt : Nat
  deriving DecidableEq, Repr

-- the unique index on the hash
instance : Keyed SponsoredFee String := ⟨SponsoredFee.txHash⟩

structure World where
  fees : Table SponsoredFee := .empty
  clock : Nat := 0

inductive Site where
  | aggregate
  | submitTransaction
  | createFee
  deriving DecidableEq, Repr

abbrev Op := Process Site Answer World Exception

structure Transaction where
  operations : Nat
  fee : Nat
  hash : String
  deriving DecidableEq, Repr

inductive Parsed where
  | feeBump
  | inner (transaction : Transaction)
  deriving DecidableEq, Repr

/-- The library of the chain: it parses a signed transaction, and builds a fee bump
from a base fee per operation, whose total fee it tells. -/
structure Config where
  enabled : Bool := true
  dailyCapStroops : ℚ := 100 * 10000000
  maxFeeStroops : ℚ := 100000
  sponsorKeypair : Except Exception String := .error (.badRequest "Fee sponsor keypair is not configured")
  fromXDR : String → Except Exception Parsed
  buildFeeBumpTransaction : Int → Transaction → Except Exception Nat

structure SponsoredSubmitResult where
  hash : String
  sponsored : Bool
  feeStroops : Option Nat
  deriving DecidableEq, Repr

structure FeeBump where
  feeSource : String
  fee : Nat

variable (self : Config)

def DAY_MS : Nat := 24 * 60 * 60 * 1000

def wrap (inner : Transaction) : Except Exception FeeBump := do
  let feeSource ← self.sponsorKeypair
  let ops := max inner.operations 1
  let baseFee : ℚ := max (max ⌊self.maxFeeStroops / (ops + 1)⌋ (inner.fee / ops)) 100
  let fee ← self.buildFeeBumpTransaction ⌈baseFee⌉ inner
  return { feeSource := feeSource, fee := fee }

def total (fees : List SponsoredFee) : Nat := (fees.map SponsoredFee.feeStroops).sum

def spentTodayStroops (w : World) : Nat :=
  let start := w.clock - w.clock % DAY_MS
  total (w.fees.findMany fun row => start ≤ row.createdAt)

def assertWithinBudget (feeStroops : ℚ) : Op Unit :=
  .query .aggregate fun answer w =>
    if answer.fails then .error .database
    else if self.dailyCapStroops < spentTodayStroops w + feeStroops then
      .error (.badRequest "Daily fee sponsorship budget exhausted")
    else .ok ()

-- Horizon charges any fee up to the one that was bid
def submitTransaction (bid : Nat) : Op (String × Nat) :=
  .query .submitTransaction fun answer _ =>
    if answer.fails then .error .stellar else .ok (answer.text,min answer.number.toNat bid)

def createFee (row : Nat → SponsoredFee) : Op Unit :=
  .transact .createFee fun answer w =>
    if answer.fails then .error .database
    else match w.fees.create (row w.clock) with
      | none => .error .uniqueViolation
      | some fees => .ok ((),{ w with fees := fees })

def submit (signedXdr companyId : String) : Op SponsoredSubmitResult := do
  let parsed ← .ofExcept (self.fromXDR signedXdr)
  match parsed with
  | .feeBump => .raise (.badRequest "Transaction is already a fee-bump transaction")
  | .inner inner =>
      if !self.enabled then do
        let (hash,_) ← submitTransaction inner.fee
        return { hash := hash, sponsored := false, feeStroops := none }
      else do
        assertWithinBudget self self.maxFeeStroops
        let feeBump ← .ofExcept (wrap self inner)
        let (hash,feeCharged) ← submitTransaction feeBump.fee
        createFee fun clock =>
          { txHash := hash
            companyId := companyId
            innerTxHash := inner.hash
            feeStroops := feeCharged
            feeSource := feeBump.feeSource
            createdAt := clock }
        -- the alert after the payment
        (assertWithinBudget self 0).handle fun _ => return
        return { hash := hash, sponsored := true, feeStroops := some feeCharged }

structure Request where
  signedXdr : String
  companyId : String

def service : System Request Nat Site Answer World Exception SponsoredSubmitResult where
  handler request := submit self request.signedXdr request.companyId
  environment elapsed w := { w with clock := w.clock + elapsed }

abbrev FeeEvent := Event Site Answer World

abbrev FeeMove := Move Request Nat Answer

/-- What is recorded for a UTC day. -/
def recordedOn (w : World) (day : Nat) : Nat := total (w.fees.findMany fun row => row.createdAt / DAY_MS = day)

def WithinCap (w : World) : Prop := ∀ day, (recordedOn w day : ℚ) ≤ self.dailyCapStroops

/-- The world in which a thread has last checked the budget. -/
def lastCheck (own : List FeeEvent) : Option World := (own.find? fun e => e.site = .aggregate).map Event.before

/-- The fee that a request bids. -/
def bidOf (request : Request) : Option Nat :=
  match self.fromXDR request.signedXdr with
  | .ok (.inner inner) => (wrap self inner).toOption.map FeeBump.fee
  | _ => none

/-- A record finds that what has been recorded since its check and its bid are at most
what the check was for. -/
def Budgeted (request : Request) (earlier : List FeeEvent) (e : FeeEvent) : Prop :=
  e.site = .createFee → e.after.fees.rows ≠ e.before.fees.rows →
    ∀ checked ∈ lastCheck (earlier.filter fun e' => e'.thread = e.thread), ∀ bid ∈ bidOf self request,
      ((spentTodayStroops e.before + bid : Nat) : ℚ) ≤ spentTodayStroops checked + self.maxFeeStroops

instance (request : Request) (earlier : List FeeEvent) (e : FeeEvent) : Decidable (Budgeted self request earlier e) := by
  unfold Budgeted
  infer_instance

section Bids

variable {self : Config} {inner : Transaction}

/-- The library refuses no base fee that is at least the least one and at least what the
inner transaction offers, and the fee of a bump is the base fee for each operation and one more. -/
def BuildsBumps (self : Config) : Prop := ∀ (baseFee : Int) (inner : Transaction), 100 ≤ baseFee →
  (inner.fee : Int) ≤ baseFee * max inner.operations 1 →
    self.buildFeeBumpTransaction baseFee inner = .ok (baseFee.toNat * (max inner.operations 1 + 1))

def perOperation (self : Config) (inner : Transaction) : Int := ⌊self.maxFeeStroops / ((max inner.operations 1 : Nat) + 1)⌋

theorem baseFeeCeil (self : Config) (inner : Transaction) :
    ⌈(max (max ⌊self.maxFeeStroops / ((max inner.operations 1 : Nat) + 1)⌋ (inner.fee / (max inner.operations 1 : Nat))) 100 : ℚ)⌉ =
      max (max (perOperation self inner) ⌈(inner.fee : ℚ) / (max inner.operations 1 : Nat)⌉) 100 := by
  rw [Int.ceil_mono.map_max,Int.ceil_mono.map_max,Int.ceil_intCast]
  simp [perOperation]

theorem operationsPos (inner : Transaction) : (0 : ℚ) < (max inner.operations 1 : Nat) := by
  exact_mod_cast Nat.lt_of_lt_of_le Nat.zero_lt_one (Nat.le_max_right inner.operations 1)

theorem wrapFee (builds : BuildsBumps self) {feeSource : String} (sponsor : self.sponsorKeypair = .ok feeSource) :
    wrap self inner = .ok { feeSource := feeSource, fee :=
      (max (max (perOperation self inner) ⌈(inner.fee : ℚ) / (max inner.operations 1 : Nat)⌉) 100).toNat * (max inner.operations 1 + 1) } := by
  have offered : (inner.fee : Int) ≤
      max (max (perOperation self inner) ⌈(inner.fee : ℚ) / (max inner.operations 1 : Nat)⌉) 100 * max inner.operations 1 := by
    have least : (inner.fee : ℚ) / (max inner.operations 1 : Nat) ≤ ⌈(inner.fee : ℚ) / (max inner.operations 1 : Nat)⌉ := Int.le_ceil _
    have each := (div_le_iff₀ (operationsPos inner)).mp least
    have each : (inner.fee : Int) ≤ ⌈(inner.fee : ℚ) / (max inner.operations 1 : Nat)⌉ * (max inner.operations 1 : Nat) := by
      exact_mod_cast each
    refine each.trans ?_
    have grown := (le_max_right (perOperation self inner) ⌈(inner.fee : ℚ) / (max inner.operations 1 : Nat)⌉).trans (le_max_left _ 100)
    exact_mod_cast Int.mul_le_mul_of_nonneg_right grown (Int.natCast_nonneg _)
  have built := builds _ inner (le_max_right _ _) offered
  have wrapped : wrap self inner = self.sponsorKeypair.bind fun feeSource =>
      (self.buildFeeBumpTransaction ⌈(max (max ⌊self.maxFeeStroops / ((max inner.operations 1 : Nat) + 1)⌋
        (inner.fee / (max inner.operations 1 : Nat))) 100 : ℚ)⌉ inner).bind fun fee => .ok { feeSource := feeSource, fee := fee } := rfl
  rw [wrapped,sponsor,baseFeeCeil,built]
  rfl

/-- The library as its documentation has it, with the maximum that is the default. -/
def wrapping : Config where
  sponsorKeypair := .ok "GSPONSOR"
  fromXDR signedXdr := .ok (.inner { operations := 1, fee := 100, hash := signedXdr })
  buildFeeBumpTransaction baseFee inner := .ok (baseFee.toNat * (max inner.operations 1 + 1))

def offering (fee : Nat) : Transaction where
  operations := 1
  fee := fee
  hash := "t"

end Bids

section Days

variable {self} {w : World}

theorem totalAppend (fees : List SponsoredFee) (row : SponsoredFee) : total (fees ++ [row]) = total fees + row.feeStroops := by
  simp [total]

theorem totalMono {p q : SponsoredFee → Bool} (weaker : ∀ row, p row = true → q row = true) (fees : List SponsoredFee) :
    total (fees.filter p) ≤ total (fees.filter q) := by
  induction fees with
  | nil => simp [total]
  | cons row rest ih =>
    simp only [total] at ih ⊢
    cases here : p row with
    | true => simp [here,weaker row here,ih]
    | false =>
      cases there : q row with
      | true => simp [here,there]; omega
      | false => simp [here,there,ih]

/-- The aggregate of a day counts all that is recorded for it. -/
theorem recordedSpent (w : World) : recordedOn w (w.clock / DAY_MS) ≤ spentTodayStroops w := by
  refine totalMono (fun row same => ?_) w.fees.rows
  have same := of_decide_eq_true same
  refine decide_eq_true ?_
  unfold DAY_MS at same ⊢
  omega

theorem recordedCreate {row : SponsoredFee} {fees : Table SponsoredFee} (made : w.fees.create row = some fees) (day : Nat) :
    recordedOn { w with fees := fees } day = recordedOn w day + if row.createdAt / DAY_MS = day then row.feeStroops else 0 := by
  obtain ⟨_,rows,_⟩ := Table.createGet made
  simp only [recordedOn,Table.findMany,rows,List.filter_append,List.filter_cons,List.filter_nil]
  by_cases same : row.createdAt / DAY_MS = day
  · simp [same,totalAppend]
  · simp [same,total]

theorem withinCreate {row : SponsoredFee} {fees : Table SponsoredFee} (within : WithinCap self w)
    (made : w.fees.create row = some fees) (now : row.createdAt = w.clock)
    (room : ((spentTodayStroops w + row.feeStroops : Nat) : ℚ) ≤ self.dailyCapStroops) : WithinCap self { w with fees := fees } := by
  intro day
  rw [recordedCreate made]
  by_cases today : row.createdAt / DAY_MS = day
  · rw [if_pos today]
    refine le_trans ?_ room
    have spent := recordedSpent w
    rw [← today,now]
    exact_mod_cast Nat.add_le_add_right spent _
  · rw [if_neg today]
    exact within day

end Days

section Runs

variable {self} {request : Request} {own : List FeeEvent}

/-- A call leaves the world, or records a fee of at most the bid after a check that passed. -/
def Guard (self : Config) (request : Request) (own : List FeeEvent) (e : FeeEvent) : Prop :=
  e.after = e.before ∨ e.site = .createFee ∧ ∃ checked bid row fees, lastCheck own = some checked ∧ bidOf self request = some bid ∧
    (spentTodayStroops checked + self.maxFeeStroops) ≤ self.dailyCapStroops ∧ row.feeStroops ≤ bid ∧ row.createdAt = e.before.clock ∧
    e.before.fees.create row = some fees ∧ e.after = { e.before with fees := fees }

theorem guardedSubmitTransaction {done : List FeeEvent → Except Exception (String × Nat) → Prop} {bid : Nat}
    (charged : ∀ (e : FeeEvent) hash fee, e.site = .submitTransaction → fee ≤ bid → done (e :: own) (.ok (hash,fee)))
    (failed : ∀ own error, done own (.error error)) : Guarded (Guard self request) done (submitTransaction bid) own := by
  refine guardedQuery fun thread i w => ⟨Or.inl rfl,?_⟩
  split
  · exact failed _ _
  · exact charged _ _ _ rfl (min_le_right _ _)

theorem guardedAssertWithinBudget {done : List FeeEvent → Except Exception Unit → Prop} {feeStroops : ℚ}
    (passed : ∀ e : FeeEvent, e.site = .aggregate → spentTodayStroops e.before + feeStroops ≤ self.dailyCapStroops →
      done (e :: own) (.ok ()))
    (failed : ∀ own error, done own (.error error)) : Guarded (Guard self request) done (assertWithinBudget self feeStroops) own := by
  refine guardedQuery fun thread i w => ⟨Or.inl rfl,?_⟩
  split
  · exact failed _ _
  · split
    · exact failed _ _
    · rename_i room
      exact passed _ rfl (not_lt.mp room)

theorem guardedSubmit (request : Request) : Guarded (Guard self request) anyOutcome (submit self request.signedXdr request.companyId) [] := by
  cases read : self.fromXDR request.signedXdr with
  | error error =>
    unfold submit
    rw [read]
    trivial
  | ok parsed =>
    unfold submit
    rw [read]
    cases parsed with
    | feeBump => trivial
    | inner inner =>
      show Guarded _ _ (if (!self.enabled) = true then _ else _) []
      split
      · exact guardedThen (guardedSubmitTransaction (fun _ _ _ _ _ => trivial) fun _ _ => trivial) fun _ _ => trivial
      · refine guardedBind (guardedAssertWithinBudget ?_ fun _ _ => trivial)
        intro check site room
        cases wrapped : wrap self inner with
        | error error => trivial
        | ok feeBump =>
          have bid : bidOf self request = some feeBump.fee := by simp [bidOf,read,wrapped,Except.toOption]
          refine guardedBind (guardedOfExcept ?_)
          refine guardedBind (guardedSubmitTransaction ?_ fun _ _ => trivial)
          intro sent hash fee sending bounded
          have checked : lastCheck [sent,check] = some check.before := by simp [lastCheck,sending,site]
          refine guardedThen (guardedTransact ?_ fun thread i w error _ => ⟨Or.inl rfl,trivial⟩) fun _ own => ?_
          · intro thread i w value after ok
            refine ⟨Or.inr ⟨rfl,?_⟩,trivial⟩
            split at ok
            · contradiction
            · split at ok
              · contradiction
              · rename_i fees made
                cases ok
                exact ⟨check.before,feeBump.fee,_,fees,checked,bid,room,bounded,rfl,made,rfl⟩
          · refine guardedThen (guardedElse ?_ fun _ _ => trivial) fun _ _ => trivial
            exact guardedAssertWithinBudget (fun _ _ _ => trivial) fun _ _ => trivial

theorem withinStep {c : Snapshot Site Answer World} {thread : Nat} {site : Site} {i : Answer} {w' : World} (within : WithinCap self c.world)
    (guard : Guard self request (c.history.filter fun e => e.thread = thread) (c.event thread site i w'))
    (budgeted : Budgeted self request c.history (c.event thread site i w')) : WithinCap self w' := by
  obtain same | ⟨site,checked,bid,row,fees,last,bids,room,bounded,now,made,after⟩ := guard
  · exact (show w' = c.world from same) ▸ within
  · have recorded : w' = { c.world with fees := fees } := after
    subst recorded
    have made : c.world.fees.create row = some fees := made
    refine withinCreate within made now ?_
    have grown : fees.rows ≠ c.world.fees.rows := by
      obtain ⟨_,rows,_⟩ := Table.createGet made
      rw [rows]
      simp
    have known := budgeted site grown checked last bid bids
    refine le_trans ?_ (known.trans room)
    exact_mod_cast Nat.add_le_add_left bounded (spentTodayStroops c.world)

/-- In a run whose records keep to what their check was for, no day's sum exceeds the cap. -/
theorem capHolds (self : Config) (w : World) (within : WithinCap self w) (moves : List FeeMove)
    (budgeted : Meets (Budgeted self) ((service self).run (Pool.initial w) moves)) :
    WithinCap self ((service self).run (Pool.initial w) moves).world := by
  have start : GuardedPool (Guard self) (fun c => WithinCap self c.world)
      (Pool.initial w : Pool Request Site Answer World Exception SponsoredSubmitResult) := guardedInitial within
  refine (guardedRun ?_ ?_ guardedSubmit start moves budgeted).holds
  · exact fun request c thread site i w' within guard budgeted => withinStep within guard budgeted
  · exact fun elapsed c within => within

/-- The fee of a bump is the base fee for each operation and one more. -/
def sponsoring : Config where
  dailyCapStroops := 150000
  sponsorKeypair := .ok "GSPONSOR"
  fromXDR signedXdr := .ok (.inner { operations := 1, fee := if signedXdr = "dear" then 1000000 else 100, hash := signedXdr })
  buildFeeBumpTransaction baseFee inner := .ok (baseFee.toNat * (inner.operations + 1))

def submitted (thread : Nat) (signedXdr : String) (charged : Int) : List FeeMove :=
  .start { signedXdr := signedXdr, companyId := "c" } ::
    [{},{ text := signedXdr, number := charged },{},{}].map (.answer thread)

theorem capHoldsTwice :
    WithinCap sponsoring ((service sponsoring).run (Pool.initial {}) (submitted 0 "t" 40000 ++ submitted 1 "u" 100000)).world ∧
    ((service sponsoring).run (Pool.initial {}) (submitted 0 "t" 40000 ++ submitted 1 "u" 100000)).world.fees.rows.map
      SponsoredFee.feeStroops = [40000,100000] :=
  ⟨capHolds sponsoring {} (fun day => by simp [recordedOn,total,Table.findMany,sponsoring,Table.empty]) _ (by decide +kernel),
    by decide +kernel⟩

/-- Two requests check the budget before either has recorded its fee. -/
def together : List FeeMove :=
  [.start { signedXdr := "t", companyId := "c" },.start { signedXdr := "u", companyId := "c" },.answer 0 {},.answer 1 {},
    .answer 0 { text := "t", number := 100000 },.answer 0 {},.answer 1 { text := "u", number := 100000 },.answer 1 {}]

theorem capExceeded :
    ¬ WithinCap sponsoring ((service sponsoring).run (Pool.initial {}) together).world ∧
    ¬ WithinCap sponsoring ((service sponsoring).run (Pool.initial {}) (submitted 0 "dear" 2000000)).world := by
  refine ⟨fun within => ?_,fun within => ?_⟩
  · have today := within 0
    revert today
    decide +kernel
  · have today := within 0
    revert today
    decide +kernel

end Runs

end HireSettle.Stellar.FeeSponsorship
