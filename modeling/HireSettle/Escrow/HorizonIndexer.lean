import HireSettle.Escrow.Database
import HireSettle.Workflow.Facts
import HireSettle.Workflow.Sequential

/-! The indexer that stores every event of the contract. A tick fetches one page of at
most a hundred events from the stored cursor on, stores those whose transaction hash
and name no row has, and moves the cursor behind the last ledger of the page. A
backfill does the same for one page of a range, without the cursor. -/
namespace HireSettle.Escrow.HorizonIndexer
open Workflow

structure World where
  chainEvents : Table ChainEvent
  horizonLastLedger : Option Nat
  engagementIds : List String := []
  isRunning : Bool := false
  clock : Nat := 0

inductive Site where
  | tryAcquireLock
  | releaseLock
  | beginRun
  | endRun
  | readCursor
  | getLatestLedger
  | initialise (start : Nat)
  | writeCursor (ledger : Nat)
  | fetchContractEvents (fromLedger : Nat)
  | fetchContractEventsRange (fromLedger toLedger : Nat)
  | findStored (event : ContractEvent)
  | createEvent (event : ContractEvent)
  | sleep (ms : Nat)

inductive Failure where
  | badRequest (message : String)
  | call (rateLimit : Bool)
  deriving DecidableEq, Repr

abbrev Op := Process Site Answer World Failure

-- the events of the contract in their order, and whether the RPC takes the end of a range as part of it
structure Config where
  chain : List ContractEvent
  endInclusive : Bool

variable (self : Config)

def isRateLimitError : Failure → Bool
  | .badRequest _ => false
  | .call rateLimit => rateLimit

def failed (answer : Answer) : Failure := .call (answer.number = 429)

def page (events : List ContractEvent) : List ContractEvent := events.take 100

def onwards (fromLedger : Nat) : List ContractEvent := self.chain.filter fun event => fromLedger ≤ event.ledger

def between (fromLedger toLedger : Nat) : List ContractEvent :=
  self.chain.filter fun event => fromLedger ≤ event.ledger && (event.ledger < toLedger || self.endInclusive && event.ledger = toLedger)

-- a failed call yields no event
def fetchContractEvents (fromLedger : Nat) : Op (List ContractEvent) :=
  .query (.fetchContractEvents fromLedger) fun answer _ => .ok (if answer.fails then [] else page (onwards self fromLedger))

def fetchContractEventsRange (fromLedger toLedger : Nat) : Op (List ContractEvent) :=
  .query (.fetchContractEventsRange fromLedger toLedger) fun answer _ =>
    if answer.fails then .error (failed answer) else .ok (page (between self fromLedger toLedger))

def extractEventName (event : ContractEvent) : String := event.topic.head?.getD "unknown"

def payloadOf (event : ContractEvent) : Json := if event.value.truthy then event.value else .object []

def extractEngagementId : Json → Option String
  | .array (.text engagementId :: _) => some engagementId
  | .text engagementId => some engagementId
  | _ => none

def sameKey (event : ContractEvent) (row : ChainEvent) : Bool := row.txHash = event.txHash && row.eventName = extractEventName event

def stored (event : ContractEvent) (id : String) (createdAt : Nat) : ChainEvent :=
  { id := id
    engagementId := extractEngagementId (payloadOf event)
    eventName := extractEventName event
    ledger := event.ledger
    txHash := event.txHash
    payload := payloadOf event
    createdAt := createdAt }

def findStored (event : ContractEvent) : Op (Option ChainEvent) :=
  .query (.findStored event) fun answer w => if answer.fails then .error (failed answer) else .ok (w.chainEvents.findFirst (sameKey event))

-- the row refers to its engagement, which must exist
def insertEvent (event : ContractEvent) (answer : Answer) (w : World) : Except Failure (Unit × World) :=
  if answer.fails then .error (failed answer)
  else
    let row := stored event answer.text w.clock
    if row.engagementId.any (· ∉ w.engagementIds) then .error (.call false)
    else match w.chainEvents.create row with
      | none => .error (.call false)
      | some chainEvents => .ok ((),{ w with chainEvents := chainEvents })

def createEvent (event : ContractEvent) : Op Unit := .transact (.createEvent event) (insertEvent event)

def persistEvent (event : ContractEvent) : Op Bool := do
  let exists' ← findStored event
  if exists'.isSome then return false
  else do
    createEvent event
    return true

def setCursor (site : Site) (ledger : Nat) : Op Unit :=
  .transact site fun answer w => if answer.fails then .error (failed answer) else .ok ((),{ w with horizonLastLedger := some ledger })

def writeCursor (ledger : Nat) : Op Unit := setCursor (.writeCursor ledger) ledger

def readCursor : Op Nat := do
  let row ← .query .readCursor fun answer w => if answer.fails then .error (failed answer) else .ok w.horizonLastLedger
  match row with
  | some ledger => return ledger
  | none => do
      let latest ← .query .getLatestLedger fun answer _ => if answer.fails then .error (failed answer) else .ok answer.number
      let start := (max 1 (latest - 10)).toNat
      setCursor (.initialise start) start
      return start

def indexEvent (maxLedger : Nat) (event : ContractEvent) : Op Nat := do
  let _ ← persistEvent event
  return max maxLedger (event.ledger + 1)

def indexPage : Op Unit := do
  let fromLedger ← readCursor
  let events ← fetchContractEvents self fromLedger
  if events = [] then return
  else do
    let maxLedger ← Process.foldEach indexEvent fromLedger events
    writeCursor maxLedger

def maxBackoffAttempts : Nat := 3

def baseBackoffMs : Nat := 2000

-- the attempts that are left count down
def runWithBackoff (left : Nat) : Op Unit :=
  (indexPage self).handle fun error =>
    match left with
    | 0 => .ret ()
    | left + 1 =>
        if isRateLimitError error then do
          .query (.sleep (baseBackoffMs * 2 ^ (maxBackoffAttempts - (left + 1)))) fun _ _ => .ok ()
          runWithBackoff left
        else return

-- nothing that runs while the flag is set is thrown
def indexEvents : Op Unit := do
  let token ← .query .tryAcquireLock fun answer _ => if answer.fails then .error (failed answer) else .ok (present (some answer.text))
  if token.isNone then return
  else do
    let running ← .transact .beginRun fun _ w => .ok (w.isRunning,{ w with isRunning := true })
    if running then pure ()
    else do
      runWithBackoff self maxBackoffAttempts
      .transact .endRun fun _ w => .ok ((),{ w with isRunning := false })
    .query .releaseLock fun answer _ => if answer.fails then .error (failed answer) else .ok ()

def countStored (backfilled : Nat) (event : ContractEvent) : Op Nat := do
  let created ← persistEvent event
  return if created then backfilled + 1 else backfilled

def backfillEvents (fromLedger toLedger : Int) : Op Nat :=
  if fromLedger < 1 ∨ toLedger < 1 then .raise (.badRequest "Ledger values must be positive integers.")
  else if toLedger < fromLedger then .raise (.badRequest "\"fromLedger\" must be before or equal to \"toLedger\".")
  else if 10000 < toLedger - fromLedger then .raise (.badRequest "Ledger range cannot exceed 10000 ledgers.")
  else do
    let events ← fetchContractEventsRange self fromLedger.toNat toLedger.toNat
    Process.foldEach countStored 0 events

def indexer : System Unit Nat Site Answer World Failure Unit where
  handler _ := indexEvents self
  environment elapsed w := { w with clock := w.clock + elapsed }

def backfill : System (Int × Int) Nat Site Answer World Failure Nat where
  handler range := backfillEvents self range.1 range.2
  environment elapsed w := { w with clock := w.clock + elapsed }

end HireSettle.Escrow.HorizonIndexer
