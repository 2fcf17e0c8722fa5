import HireSettle.Common.SystemConfig
import HireSettle.Common.Users
import HireSettle.Escrow.Database
import HireSettle.Workflow.Guards

/-! Payments that come in to the account of the contract. The poller reads them from
Horizon page by page behind a stored cursor and keeps those whose memo names no live
engagement; an admin matches, refunds or ignores what it has kept. Metrics are left out. -/
namespace HireSettle.Admin
open Workflow
open Escrow (Engagement EngagementStatus)

inductive UnmatchedPaymentStatus where
  | pending | matched | refunded | ignored
  deriving DecidableEq, Repr

def UnmatchedPaymentStatus.text : UnmatchedPaymentStatus → String
  | .pending => "PENDING"
  | .matched => "MATCHED"
  | .refunded => "REFUNDED"
  | .ignored => "IGNORED"

structure UnmatchedPayment where
  id : String
  txHash : String
  sender : String
  assetCode : String
  assetIssuer : Option String
  amount : String
  memo : Option String
  memoType : Option String
  ledger : Int := 0
  status : UnmatchedPaymentStatus := .pending
  matchedEngagementId : Option String := none
  resolvedBy : Option String := none
  resolvedAt : Option Nat := none
  notes : Option String := none
  deriving DecidableEq, Repr

instance : Keyed UnmatchedPayment String := ⟨UnmatchedPayment.id⟩

structure HorizonTransaction where
  memo : Option String := none
  memo_type : Option String := none
  deriving DecidableEq, Repr

structure HorizonPayment where
  type : String
  transaction_hash : String
  transaction : Option HorizonTransaction := none
  from' : String
  to' : String
  asset_type : String
  asset_code : Option String := none
  asset_issuer : Option String := none
  amount : String
  ledger_attr : Option Int := none
  paging_token : String
  deriving DecidableEq, Repr

def HorizonPayment.memo (payment : HorizonPayment) : Option String := payment.transaction.bind HorizonTransaction.memo

def HorizonPayment.memoType (payment : HorizonPayment) : Option String := payment.transaction.bind HorizonTransaction.memo_type

/-- The payments of the account in their order. A memo belongs to the transaction. -/
structure Horizon where
  records : List HorizonPayment
  tokens : (records.map HorizonPayment.paging_token).Nodup
  named : ∀ payment ∈ records, payment.paging_token ≠ ""
  together : ∀ payment ∈ records, ∀ other ∈ records,
    payment.transaction_hash = other.transaction_hash → payment.transaction = other.transaction

namespace Horizon

variable (horizon : Horizon)

-- the records behind a cursor, all of them for the empty one
def after (cursor : String) : List HorizonPayment :=
  if cursor = "" then horizon.records else (horizon.records.dropWhile fun payment => payment.paging_token ≠ cursor).tail

-- the records up to a cursor, with its own
def upto (cursor : String) : List HorizonPayment :=
  if cursor = "" then []
  else (horizon.records.takeWhile fun payment => payment.paging_token ≠ cursor) ++
    (horizon.records.dropWhile fun payment => payment.paging_token ≠ cursor).take 1

end Horizon

structure World where
  payments : Table UnmatchedPayment := .empty
  engagements : Table Engagement := .empty
  systemConfig : Table SystemConfigRow := .empty
  users : Table User := .empty
  lastAlertedCount : Nat := 0
  clock : Nat := 0

inductive Site where
  | tryAcquireLock
  | releaseLock
  | loadCursor
  | fetchPayments (cursor : String)
  | findEngagement (id : String)
  | findByHash (txHash : String)
  | createPayment (txHash : String)
  | saveCursor (cursor : String)
  | countPending
  | alerted (count : Nat)
  | findAdmins
  | notifyUserById (userId : String) (pendingCount : Nat)
  | findPayment (id : String)
  | resolve (id : String)
  deriving DecidableEq, Repr

abbrev Op := Process Site Answer World Exception

structure Config where
  horizon : Horizon
  contractAddress : Option String
  alertThreshold : Nat := 5

def find {α : Type} (site : Site) (f : World → α) : Op α :=
  .query site fun answer w => if answer.fails then .error .database else .ok (f w)

def write {α : Type} (site : Site) (f : Answer → World → Except Exception (α × World)) : Op α :=
  .transact site fun answer w => if answer.fails then .error .database else f answer w

namespace IncomingPaymentPollerService

variable (config : Config)

def CURSOR_KEY : String := "horizon_payments_cursor"

structure Polled where
  checked : Nat
  unmatched : Nat
  deriving DecidableEq, Repr

def storedCursor (w : World) : String := ((w.systemConfig.get? CURSOR_KEY).map SystemConfigRow.value).getD ""

def loadCursor : Op String := find .loadCursor storedCursor

def saveCursor (cursor : String) : Op Unit :=
  if cursor = "" then return
  else write (.saveCursor cursor) fun _ w => .ok ((),{ w with
    systemConfig := w.systemConfig.upsert ⟨CURSOR_KEY,cursor⟩ fun row => { row with value := cursor } })

-- a page has as many records as Horizon gives, at most fifty; a failed call gives none
def fetchPayments (cursor : String) : Op (List HorizonPayment) :=
  .query (.fetchPayments cursor) fun answer _ =>
    .ok (if answer.fails then [] else (config.horizon.after cursor).take (min 50 answer.number.toNat))

def live (engagement : Engagement) : Bool :=
  engagement.status ∈ [EngagementStatus.active,.pendingAcceptance,.replacementRequested]

def matchMemoToEngagement (memo : Option String) : Op (Option String) :=
  match present memo with
  | none => return none
  | some memo => do
      let engagement ← find (.findEngagement memo) fun w => w.engagements.get? memo
      return (engagement.filter live).map Engagement.id

def unmatchedPayment (payment : HorizonPayment) (id : String) : UnmatchedPayment where
  id := id
  txHash := payment.transaction_hash
  sender := payment.from'
  assetCode := if payment.asset_type = "native" then "XLM" else payment.asset_code.getD "UNKNOWN"
  assetIssuer := payment.asset_issuer
  amount := payment.amount
  memo := payment.memo
  memoType := payment.memoType
  ledger := payment.ledger_attr.getD 0

def byHash (txHash : String) (row : UnmatchedPayment) : Bool := row.txHash = txHash

-- both the id and the hash are unique
def createPayment (payment : HorizonPayment) : Op Unit :=
  write (.createPayment payment.transaction_hash) fun answer w =>
    if (w.payments.findFirst (byHash payment.transaction_hash)).isSome then .error .uniqueViolation
    else match w.payments.create (unmatchedPayment payment answer.text) with
      | none => .error .uniqueViolation
      | some payments => .ok ((),{ w with payments := payments })

def isIncoming (payment : HorizonPayment) : Bool :=
  some payment.to' = config.contractAddress && payment.type ∈ ["payment","create_account"]

-- the number of payments stored so far, and the token of the last one
def handlePayment (acc : Nat × String) (payment : HorizonPayment) : Op (Nat × String) :=
  if !isIncoming config payment then return (acc.1,payment.paging_token)
  else do
    let matched ← matchMemoToEngagement payment.memo
    if matched.isSome then return (acc.1,payment.paging_token)
    else do
      let existing ← find (.findByHash payment.transaction_hash) fun w => w.payments.findFirst (byHash payment.transaction_hash)
      if existing.isSome then return (acc.1,payment.paging_token)
      else do
        createPayment payment
        return (acc.1 + 1,payment.paging_token)

def pending (row : UnmatchedPayment) : Bool := row.status = .pending

def countPending : Op Nat := find .countPending fun w => w.payments.count pending

def syncPendingGauge : Op Unit := do
  let _ ← countPending
  return

-- what fails to be sent to an admin is dropped
def notifyAdmins (pendingCount : Nat) : Op Unit := do
  let admins ← find .findAdmins fun w => w.users.findMany fun user => user.role = .admin && user.deactivatedAt.isNone
  .forEach (fun admin => .query (.notifyUserById admin.id pendingCount) fun _ _ => .ok ()) admins

-- the last count is read and set as soon as the count has come
def setAlerted (count : Nat) : Op Bool :=
  .transact (.alerted count) fun _ w =>
    if config.alertThreshold ≤ count && w.lastAlertedCount < config.alertThreshold then .ok (true,{ w with lastAlertedCount := count })
    else if count < config.alertThreshold then .ok (false,{ w with lastAlertedCount := 0 })
    else .ok (false,w)

def maybeAlertAdmins : Op Unit := do
  let count ← countPending
  let crossed ← setAlerted config count
  if crossed then notifyAdmins count else return

def poll : Op Polled :=
  if config.contractAddress.isNone then return ⟨0,0⟩
  else do
    let cursor ← loadCursor
    let payments ← fetchPayments config cursor
    if payments = [] then return ⟨0,0⟩
    else do
      let (unmatched,lastPagingToken) ← .foldEach (handlePayment config) (0,cursor) payments
      saveCursor lastPagingToken
      syncPendingGauge
      maybeAlertAdmins config
      return ⟨payments.length,unmatched⟩

def tryAcquireLock : Op Bool := .query .tryAcquireLock fun answer _ => if answer.fails then .error .database else .ok (answer.number ≠ 0)

def releaseLock : Op Unit := .query .releaseLock fun answer _ => if answer.fails then .error .database else .ok ()

def pollIncomingPayments : Op Unit :=
  if config.contractAddress.isNone then return
  else do
    let token ← tryAcquireLock
    if !token then return
    else do
      (do let _ ← poll config; return).handle fun _ => return
      releaseLock

end IncomingPaymentPollerService

namespace UnmatchedPaymentsService

structure MatchPaymentDto where
  engagementId : String
  notes : Option String := none
  deriving DecidableEq, Repr

structure ResolvePaymentDto where
  notes : Option String := none
  deriving DecidableEq, Repr

def update (id : String) (data : Nat → UnmatchedPayment → UnmatchedPayment)
    (keeps : ∀ at' row, Keyed.key (data at' row) = Keyed.key row) : Op UnmatchedPayment :=
  write (.resolve id) fun _ w =>
    match w.payments.modify id (data w.clock) (keeps w.clock) with
    | none => .error .recordNotFound
    | some (updated,payments) => .ok (updated,{ w with payments := payments })

def resolve (verb id : String) (check : Op Unit) (data : Nat → UnmatchedPayment → UnmatchedPayment)
    (keeps : ∀ at' row, Keyed.key (data at' row) = Keyed.key row) : Op UnmatchedPayment := do
  let record ← find (.findPayment id) fun w => w.payments.get? id
  match record with
  | none => .raise (.notFound s!"Unmatched payment {id} not found")
  | some record =>
      if record.status ≠ .pending then .raise (.conflict s!"Payment is already {record.status.text} — cannot {verb}")
      else do
        check
        let updated ← update id data keeps
        IncomingPaymentPollerService.syncPendingGauge
        return updated

def checkEngagement (engagementId : String) : Op Unit := do
  let engagement ← find (.findEngagement engagementId) fun w => w.engagements.get? engagementId
  .throwWhen engagement.isNone (.badRequest s!"Engagement {engagementId} not found")

def matched (adminId : String) (dto : MatchPaymentDto) (at' : Nat) (row : UnmatchedPayment) : UnmatchedPayment :=
  { row with
    status := .matched
    matchedEngagementId := some dto.engagementId
    resolvedBy := some adminId
    resolvedAt := some at'
    notes := dto.notes }

def settled (status : UnmatchedPaymentStatus) (adminId : String) (dto : ResolvePaymentDto) (at' : Nat) (row : UnmatchedPayment) :
    UnmatchedPayment :=
  { row with
    status := status
    resolvedBy := some adminId
    resolvedAt := some at'
    notes := dto.notes }

def match' (id adminId : String) (dto : MatchPaymentDto) : Op UnmatchedPayment :=
  resolve "match" id (checkEngagement dto.engagementId) (matched adminId dto) fun _ _ => rfl

def refund (id adminId : String) (dto : ResolvePaymentDto) : Op UnmatchedPayment :=
  resolve "refund" id (return) (settled .refunded adminId dto) fun _ _ => rfl

def ignore (id adminId : String) (dto : ResolvePaymentDto) : Op UnmatchedPayment :=
  resolve "ignore" id (return) (settled .ignored adminId dto) fun _ _ => rfl

end UnmatchedPaymentsService

inductive Request where
  | pollIncomingPayments
  | poll
  | match' (id adminId : String) (dto : UnmatchedPaymentsService.MatchPaymentDto)
  | refund (id adminId : String) (dto : UnmatchedPaymentsService.ResolvePaymentDto)
  | ignore (id adminId : String) (dto : UnmatchedPaymentsService.ResolvePaymentDto)

variable (config : Config)

def handler : Request → Op Unit
  | .pollIncomingPayments => IncomingPaymentPollerService.pollIncomingPayments config
  | .poll => do let _ ← IncomingPaymentPollerService.poll config; return
  | .match' id adminId dto => do let _ ← UnmatchedPaymentsService.match' id adminId dto; return
  | .refund id adminId dto => do let _ ← UnmatchedPaymentsService.refund id adminId dto; return
  | .ignore id adminId dto => do let _ ← UnmatchedPaymentsService.ignore id adminId dto; return

/-- Time passes, engagements and users change, and a new process has alerted no one. -/
inductive Change where
  | elapse (ms : Nat)
  | engagements (table : Table Engagement)
  | users (table : Table User)
  | restart

def change : Change → World → World
  | .elapse ms, w => { w with clock := w.clock + ms }
  | .engagements table, w => { w with engagements := table }
  | .users table, w => { w with users := table }
  | .restart, w => { w with lastAlertedCount := 0 }

def service : System Request Change Site Answer World Exception Unit where
  handler := handler config
  environment := change

end HireSettle.Admin
