import HireSettle.Common.Calls
import HireSettle.Common.Users
import HireSettle.Workflow.Pool

/-! The prepaid credit ledger of a company and the admin route that writes to it.
Rows are never updated or deleted. Each transaction attempt reads the latest row
and inserts the next sequence; the unique indexes on (companyId, sequence) and on
(companyId, idempotencyKey) decide between writers. An empty key is stored but
not looked up. The amount of a validated body is the integer its digits denote. -/
namespace HireSettle.Billing
open Workflow

inductive CreditLedgerEntryType where
  | purchase | grant | feeDeduction | reversal | adjustment
  deriving DecidableEq, Repr

structure CreditLedger where
  companyId : String
  sequence : Nat
  type : CreditLedgerEntryType
  amount : Int
  balanceAfter : Int
  description : Option String
  reference : Option String
  idempotencyKey : Option String
  createdById : Option String
  deriving DecidableEq, Repr

instance : Keyed CreditLedger (String × Nat) := ⟨fun row => (row.companyId,row.sequence)⟩

structure World where
  users : Table User
  ledger : Table CreditLedger

inductive Site where
  | findCompany
  | findByKey
  | findLatest
  | insert
  deriving DecidableEq, Repr

abbrev Op := Process Site Answer World Exception

structure CreditEntryInput where
  type : CreditLedgerEntryType
  amount : Int
  description : Option String := none
  reference : Option String := none
  idempotencyKey : Option String := none
  createdById : Option String := none

structure FeeCreditApplication where
  feeAmount : Int
  creditApplied : Int
  amountDue : Int
  balanceAfter : Int
  entry : Option CreditLedger
  deriving DecidableEq, Repr

def MAX_APPEND_ATTEMPTS : Nat := 5

def rowsOf (ledger : Table CreditLedger) (companyId : String) : List CreditLedger :=
  ledger.findMany (fun row => row.companyId = companyId)

def latestOf (ledger : Table CreditLedger) (companyId : String) : Option CreditLedger :=
  (rowsOf ledger companyId).argmax CreditLedger.sequence

def keyedRow (ledger : Table CreditLedger) (companyId key : String) : Option CreditLedger :=
  ledger.findFirst (fun row => row.companyId = companyId && row.idempotencyKey = some key)

def latest (companyId : String) : Op (Option CreditLedger) :=
  .query .findLatest fun answer w =>
    if answer.fails then .error .database else .ok (latestOf w.ledger companyId)

def findByKey (companyId key : String) : Op (Option CreditLedger) :=
  .query .findByKey fun answer w =>
    if answer.fails then .error .database else .ok (keyedRow w.ledger companyId key)

def checks (row : CreditLedger) : Bool :=
  row.amount ≠ 0 && 0 ≤ row.balanceAfter && 0 < row.sequence &&
  -2^63 ≤ row.amount && row.amount < 2^63 && row.balanceAfter < 2^63 && row.sequence < 2^31

def keyTaken (ledger : Table CreditLedger) (companyId : String) : Option String → Bool
  | none => false
  | some key => (keyedRow ledger companyId key).isSome

/-- The INSERT and the COMMIT after it. CHECK constraints are evaluated before
the unique indexes. -/
def insert (row : CreditLedger) : Op CreditLedger :=
  .transact .insert fun answer w =>
    if answer.fails then .error .database
    else if !checks row then .error .database
    else if keyTaken w.ledger row.companyId row.idempotencyKey then .error .uniqueViolation
    else match w.ledger.create row with
      | none => .error .uniqueViolation
      | some ledger => .ok (row,{ w with ledger := ledger })

def balanceOf (latest : Option CreditLedger) : Int := (latest.map CreditLedger.balanceAfter).getD 0

def getBalance (companyId : String) : Op Int := do
  return balanceOf (← latest companyId)

def nextRow (companyId : String) (key : Option String) (latest : Option CreditLedger)
    (input : CreditEntryInput) : CreditLedger :=
  { companyId := companyId
    sequence := (latest.map CreditLedger.sequence).getD 0 + 1
    type := input.type
    amount := input.amount
    balanceAfter := balanceOf latest + input.amount
    description := input.description
    reference := input.reference
    idempotencyKey := key
    createdById := input.createdById }

abbrev Compute := Int → Except Exception (Option CreditEntryInput)

def writeNext (companyId : String) (key : Option String) (compute : Compute) : Op (Option CreditLedger) := do
  let latest ← latest companyId
  match compute (balanceOf latest) with
  | .error error => .raise error
  | .ok none => return none
  | .ok (some input) => return some (← insert (nextRow companyId key latest input))

def attempt (companyId : String) (key : Option String) (compute : Compute) : Op (Option CreditLedger) := do
  match key with
  | some k =>
      if k = "" then writeNext companyId key compute
      else match ← findByKey companyId k with
        | some existing => return some existing
        | none => writeNext companyId key compute
  | none => writeNext companyId none compute

def appendLoop (companyId : String) (key : Option String) (compute : Compute) :
    Nat → Op (Option CreditLedger)
  | 0 => .raise (.conflict "Credit ledger is busy for this company; please retry")
  | attempts + 1 => (attempt companyId key compute).handle fun error =>
      if isUniqueViolation error then appendLoop companyId key compute attempts else .raise error

def appendComputed (companyId : String) (key : Option String) (compute : Compute) :
    Op (Option CreditLedger) :=
  appendLoop companyId key compute MAX_APPEND_ATTEMPTS

def appendEntry (input : CreditEntryInput) : Compute := fun balance =>
  if balance + input.amount < 0 then
    .error (.badRequest s!"Insufficient credit: balance {balance} cannot absorb {input.amount}")
  else .ok (some input)

def append (companyId : String) (input : CreditEntryInput) : Op (Option CreditLedger) :=
  if input.amount = 0 then .raise (.badRequest "Credit entry amount must not be zero")
  else appendComputed companyId input.idempotencyKey (appendEntry input)

def feeKey (reference : String) : String := s!"fee:{reference}"

def applicable (balance feeAmount : Int) : Int := if balance < feeAmount then balance else feeAmount

def feeEntry (feeAmount : Int) (reference : String) : Compute := fun balance =>
  let applied := applicable balance feeAmount
  if applied ≤ 0 then .ok none
  else .ok (some
    { type := .feeDeduction
      amount := -applied
      reference := some reference
      description := some s!"Applied to platform fee {reference}" })

def creditApplied (entry : Option CreditLedger) : Int :=
  match entry with
  | some row => -row.amount
  | none => 0

def applyToFee (companyId : String) (feeAmount : Int) (reference : String) : Op FeeCreditApplication := do
  if feeAmount ≤ 0 then .raise (.badRequest "Fee amount must be positive")
  else do
    let entry ← appendComputed companyId (some (feeKey reference)) (feeEntry feeAmount reference)
    let balanceAfter ← match entry with
      | some row => pure row.balanceAfter
      | none => getBalance companyId
    return ⟨feeAmount,creditApplied entry,feeAmount - creditApplied entry,balanceAfter,entry⟩

def ADMIN_ENTRY_TYPES : List CreditLedgerEntryType := [.purchase,.grant,.reversal,.adjustment]

structure CreateCreditEntryDto where
  type : CreditLedgerEntryType
  typeAllowed : type ∈ ADMIN_ENTRY_TYPES
  amount : Int
  amountMatches : amount ≠ 0 ∧ amount.natAbs < 10^19
  description : String
  descriptionFits : utf16Length description ≤ 500
  reference : Option String
  referenceFits : ∀ r, reference = some r → utf16Length r ≤ 128
  idempotencyKey : Option String
  idempotencyKeyFits : ∀ k, idempotencyKey = some k → utf16Length k ≤ 128

def requireCompany (companyId : String) : Op Unit :=
  .query .findCompany fun answer w =>
    if answer.fails then .error .database
    else match w.users.get? companyId with
      | some user =>
          if user.role = .company then .ok () else .error (.notFound s!"Company {companyId} not found")
      | none => .error (.notFound s!"Company {companyId} not found")

def create (companyId : String) (dto : CreateCreditEntryDto) (adminId : String) :
    Op (Option CreditLedger) := do
  requireCompany companyId
  let negativeAllowed := dto.type = .reversal ∨ dto.type = .adjustment
  if dto.amount < 0 ∧ ¬ negativeAllowed then
    .raise (.badRequest "Negative amounts are only allowed for REVERSAL or ADJUSTMENT entries")
  else
    append companyId
      { type := dto.type
        amount := dto.amount
        description := some dto.description
        reference := dto.reference
        idempotencyKey := dto.idempotencyKey
        createdById := some adminId }

inductive Request where
  | append (companyId : String) (input : CreditEntryInput)
  | applyToFee (companyId : String) (feeAmount : Int) (reference : String)
  | create (companyId : String) (dto : CreateCreditEntryDto) (adminId : String)

inductive Reply where
  | entry (row : Option CreditLedger)
  | fee (application : FeeCreditApplication)
  deriving DecidableEq, Repr

def handler : Request → Op Reply
  | .append companyId input => return .entry (← append companyId input)
  | .applyToFee companyId feeAmount reference => return .fee (← applyToFee companyId feeAmount reference)
  | .create companyId dto adminId => return .entry (← create companyId dto adminId)

def service : System Request Empty Site Answer World Exception Reply where
  handler := handler
  environment change := nomatch change

/-- The rows of a company, oldest first, are numbered 1, 2, 3, …; each carries the
sum of all amounts up to its own, which is not negative; no key occurs twice. -/
structure Consistent (rows : List CreditLedger) : Prop where
  numbered : ∀ k row, rows[k]? = some row → row.sequence = k + 1
  balanced : ∀ k row, rows[k]? = some row → row.balanceAfter = ((rows.take (k + 1)).map CreditLedger.amount).sum
  covered : ∀ row ∈ rows, 0 ≤ row.balanceAfter
  keys : (rows.filterMap CreditLedger.idempotencyKey).Nodup

end HireSettle.Billing
