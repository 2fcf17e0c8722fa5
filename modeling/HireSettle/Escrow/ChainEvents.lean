import HireSettle.Escrow.Milestones

/-! Events of the contract. A poller fetches them from a cursor in pages, each is
saved as a row, handled inside a transaction and marked processed there; a second
job retries the rows that are not. The handlers write through their transaction,
whose writes show at the commit, and through the clients of other services, whose
writes show at once. -/
namespace HireSettle.Escrow
open Workflow

/-- What a handler has written through its transaction. -/
structure TxWrites where
  engagements : Table Engagement → Table Engagement := id
  schedules : Table RetentionSchedule → Table RetentionSchedule := id

def TxWrites.commit (writes : TxWrites) (db : Db) : Db :=
  { db with engagements := writes.engagements db.engagements, schedules := writes.schedules db.schedules }

variable (self : Config)

namespace EngagementsService

def statusOf : String → EngagementStatus
  | "Active" => .active
  | "Completed" => .completed
  | "Cancelled" => .cancelled
  | "ReplacementRequested" => .replacementRequested
  | _ => .active

def getEngagementOnChain (engagementId : String) : Op (Option (String × Int)) :=
  stellar (.simulateContract engagementId) fun answer =>
    (present (some answer.text)).map fun status => (status,answer.number)

def synced (status : String) (releasedAmount escrowBalance : Int) (row : Engagement) : Engagement :=
  { row with
    status := statusOf status
    releasedAmount := releasedAmount
    escrowBalance := some escrowBalance
    fundingShortfall := escrowBalance ≠ row.totalAmount - releasedAmount }

def sync (engagementId : String) : Op Unit := do
  let onChain ← getEngagementOnChain engagementId
  match onChain with
  | none => return
  | some (status,releasedAmount) => do
      let found ← find .engagement fun db => db.engagements.get? engagementId
      match found with
      | none => return
      | some engagement => do
          let escrowBalance ← stellar (.getBalance engagementId) Answer.number
          let fundingShortfall := escrowBalance ≠ engagement.totalAmount - releasedAmount
          let _ ← write (.syncEngagement engagementId) fun _ db => db.updateEngagement engagementId fun row =>
            { synced status releasedAmount escrowBalance row with fundingShortfall := fundingShortfall }
          if fundingShortfall && !engagement.fundingShortfall then do
            notify
            notify
          else return

def syncFromChain (engagementId : String) : Op Unit := (sync engagementId).handle fun _ => return

end EngagementsService

namespace StellarService

def page (chain : List ContractEvent) (startLedger : Nat) : List ContractEvent :=
  (chain.filter fun event => startLedger ≤ event.ledger).take 100

-- the poller passes its cursor; a failed call yields no event
def fetchContractEvents : Op (List ContractEvent) :=
  .query .getEvents fun answer db => .ok (if answer.fails then [] else page self.chain db.lastProcessedLedger)

end StellarService

namespace EventsService

def extractEventName (event : ContractEvent) : String := event.topic.head?.getD "unknown"

def extractPayload (event : ContractEvent) : Json := if event.value.truthy then event.value else .null

def destructurePayload : Json → List Json
  | .array items => items
  | payload => [payload]

-- `String` of an element of the payload
def textAt (items : List Json) (i : Nat) : String :=
  match items[i]? with
  | some value => value.toText
  | none => "undefined"

-- the milestone index that `Number` of an element gives: the database takes no NaN and has no negative one
def indexAt (items : List Json) (i : Nat) : Except Exception Nat :=
  match items[i]?.bind (Json.toNumber self.numberOf) with
  | none => .error .database
  | some n => if n < 0 then .error .recordNotFound else .ok n.toNat

-- `BigInt(value ?? 0)`
def amountAt (items : List Json) (i : Nat) : Except Exception Int :=
  match items[i]? with
  | none | some .null => .ok 0
  | some value =>
      match value.toBigInt self.bigIntOf with
      | some n => .ok n
      | none => .error .syntaxError

def flagAt (items : List Json) (i : Nat) : Bool := (items[i]?.map Json.truthy).getD false

def findEngagement (engagementId : String) : Op (Option Engagement) :=
  find .engagement fun db => db.engagements.get? engagementId

-- the notifications of a handler, if the engagement exists
def announce (engagementId : String) (notices : Nat) : Op Unit := do
  let engagement ← findEngagement engagementId
  match engagement with
  | none => return
  | some _ => .forEach (fun _ => notify) (List.replicate notices ())

-- an update of the engagement within the transaction
def setStatus (engagementId : String) (status : EngagementStatus) : Op TxWrites :=
  findOr .engagement fun db =>
    match db.engagements.get? engagementId with
    | none => .error .recordNotFound
    | some _ => .ok { engagements := fun rows => rows.update engagementId fun row => { row with status := status } }

def unlockSchedules (engagementId : String) (milestoneIndex : Nat) : Op TxWrites :=
  find .schedule fun _ =>
    { schedules := fun rows => rows.updateMany
        (fun row => row.engagementId = engagementId && row.milestoneIndex = milestoneIndex)
        (fun row => { row with unlocked := true }) (RetentionSchedule.unlockedKey true) }

def handleEngagementCreated (payload : Json) : Op TxWrites := do
  let engagementId := payload.toText
  EngagementsService.syncFromChain engagementId
  announce engagementId 1
  return {}

def handleMilestoneUnlocked (payload : Json) : Op TxWrites := do
  let items := destructurePayload payload
  let milestoneIndex ← .ofExcept (indexAt self items 1)
  let _ ← MilestonesService.markUnlocked (textAt items 0) milestoneIndex
  let writes ← unlockSchedules (textAt items 0) milestoneIndex
  announce (textAt items 0) 1
  return writes

def handleProofSubmitted (payload : Json) : Op TxWrites := do
  let items := destructurePayload payload
  let milestoneIndex ← .ofExcept (indexAt self items 1)
  let _ ← MilestonesService.markProofSubmitted self (textAt items 0) milestoneIndex ""
  announce (textAt items 0) 1
  return {}

def handleMilestoneConfirmed (payload : Json) : Op TxWrites := do
  let items := destructurePayload payload
  let paymentAmount ← .ofExcept (amountAt self items 2)
  let milestoneIndex ← .ofExcept (indexAt self items 1)
  let _ ← MilestonesService.markConfirmed (textAt items 0) milestoneIndex paymentAmount
  EngagementsService.syncFromChain (textAt items 0)
  announce (textAt items 0) 2
  return {}

def handleDisputeRaised (payload : Json) : Op TxWrites := do
  let items := destructurePayload payload
  let milestoneIndex ← .ofExcept (indexAt self items 1)
  let _ ← MilestonesService.markDisputed self (textAt items 0) milestoneIndex
  announce (textAt items 0) 3
  return {}

def handleDisputeResolved (payload : Json) : Op TxWrites := do
  let items := destructurePayload payload
  let milestoneIndex ← .ofExcept (indexAt self items 1)
  let _ ← MilestonesService.markResolved (textAt items 0) milestoneIndex (flagAt items 2) none
  EngagementsService.syncFromChain (textAt items 0)
  announce (textAt items 0) 3
  return {}

def handleReplacementRequested (payload : Json) : Op TxWrites := do
  let engagementId := textAt (destructurePayload payload) 0
  let currentLedger ← stellar .getLatestLedger Answer.number
  MilestonesService.resetForReplacement engagementId currentLedger
  let writes ← setStatus engagementId .replacementRequested
  announce engagementId 2
  return writes

def handleEngagementCancelled (payload : Json) : Op TxWrites := do
  let engagementId := textAt (destructurePayload payload) 0
  let writes ← setStatus engagementId .cancelled
  announce engagementId 2
  return writes

def handleEvent (eventName : String) (payload : Json) : Op TxWrites :=
  match eventName with
  | "engagement_created" => handleEngagementCreated payload
  | "milestone_unlocked" => handleMilestoneUnlocked self payload
  | "proof_submitted" => handleProofSubmitted self payload
  | "milestone_confirmed" => handleMilestoneConfirmed self payload
  | "dispute_raised" => handleDisputeRaised self payload
  | "dispute_resolved" => handleDisputeResolved self payload
  | "replacement_requested" => handleReplacementRequested payload
  | "engagement_cancelled" => handleEngagementCancelled payload
  | _ => return {}

def findProcessed (event : ContractEvent) : Op (Option ChainEvent) :=
  .query (.findProcessed event) fun answer db =>
    if answer.fails then .error .database
    else .ok (db.chainEvents.findFirst fun row => row.txHash = event.txHash && row.processed)

def findSaved (event : ContractEvent) : Op (Option ChainEvent) :=
  .query (.findSaved event) fun answer db =>
    if answer.fails then .error .database
    else .ok (db.chainEvents.findFirst fun row => row.txHash = event.txHash && row.eventName = extractEventName event)

def rawEvent (event : ContractEvent) (id : String) (createdAt : Nat) : ChainEvent :=
  let payload := extractPayload event
  { id := id
    engagementId := present (match payload with
      | .array (.text engagementId :: _) => some engagementId
      | .text engagementId => some engagementId
      | _ => none)
    eventName := extractEventName event
    ledger := event.ledger
    txHash := event.txHash
    payload := if payload = .null then .object [] else payload
    createdAt := createdAt }

-- the row refers to its engagement, which must exist
def saveRawEvent (event : ContractEvent) : Op ChainEvent :=
  write (.saveEvent event) fun answer db =>
    let row := rawEvent event answer.text db.clock
    if row.engagementId.any fun engagementId => (db.engagements.get? engagementId).isNone then .error .database
    else match db.chainEvents.create row with
      | none => .error .uniqueViolation
      | some chainEvents => .ok (row,{ db with chainEvents := chainEvents })

-- the end of the transaction: the row is marked and the transaction's writes show
def markProcessed (event : ContractEvent) (chainEvent : ChainEvent) (writes : TxWrites) : Op Unit :=
  write (.markProcessed event chainEvent.id) fun _ db =>
    match db.chainEvents.modify chainEvent.id fun row => { row with processed := true } with
    | none => .error .recordNotFound
    | some (_,chainEvents) => .ok ((),{ writes.commit db with chainEvents := chainEvents })

def savedEvent (event : ContractEvent) : Op ChainEvent := do
  let found ← findSaved event
  match found with
  | some chainEvent => return chainEvent
  | none => saveRawEvent event

def processEvent (event : ContractEvent) : Op Unit := do
  let existing ← findProcessed event
  if existing.isSome then return
  else do
    let chainEvent ← savedEvent event
    if chainEvent.processed then return
    else do
      let writes ← handleEvent self (extractEventName event) (extractPayload event)
      markProcessed event chainEvent writes

-- `this.lastProcessedLedger = Math.max(this.lastProcessedLedger, event.ledger + 1)`
def advance (event : ContractEvent) : Op Unit :=
  .transact (.advance event) fun _ db =>
    .ok ((),{ db with lastProcessedLedger := max db.lastProcessedLedger (event.ledger + 1) })

def pollEach (event : ContractEvent) : Op Unit := do
  processEvent self event
  advance event

def pollEvents : Op Unit := do
  let locked ← DistributedLockService.tryAcquireLock
  if !locked then return
  else do
    (do
      let events ← StellarService.fetchContractEvents self
      .forEach (pollEach self) events : Op Unit).handle fun _ => return
    DistributedLockService.releaseLock

def processChainEventRecord (chainEvent : ChainEvent) : Op Unit :=
  processEvent self
    { ledger := chainEvent.ledger
      txHash := chainEvent.txHash
      topic := [chainEvent.eventName]
      value := chainEvent.payload }

end EventsService

namespace ChainEventRetryService

def MAX_RETRIES : Nat := 5

def backoffMs (retryCount : Nat) : Nat := 2 ^ retryCount * 1000

def isEligible (chainEvent : ChainEvent) (at' : Nat) : Bool :=
  match chainEvent.lastErrorAt with
  | none => true
  | some lastErrorAt => lastErrorAt + backoffMs chainEvent.retryCount ≤ at'

def byLedger (a b : ChainEvent) : Prop := a.ledger ≤ b.ledger

instance : DecidableRel byLedger := fun _ _ => inferInstanceAs (Decidable (_ ≤ _))

def candidates (db : Db) : List ChainEvent :=
  (db.chainEvents.findMany fun row => !row.processed && row.retryCount < MAX_RETRIES).insertionSort byLedger

def deadLetter (id : String) (chainEvent : ChainEvent) : DeadLetterEvent :=
  { id := id
    originalId := chainEvent.id
    engagementId := chainEvent.engagementId
    eventName := chainEvent.eventName
    ledger := chainEvent.ledger
    txHash := chainEvent.txHash
    payload := chainEvent.payload
    retryCount := chainEvent.retryCount
    lastErrorAt := chainEvent.lastErrorAt }

def moveToDeadLetter (chainEventId : String) : Op Unit := do
  let found ← find .chainEvent fun db => db.chainEvents.get? chainEventId
  match found with
  | none => return
  | some chainEvent =>
      write (.moveToDeadLetter chainEventId) fun answer db =>
        if (db.deadLetters.get? chainEventId).isNone && (db.deadLetters.findFirst fun row => row.id = answer.text).isSome then
          .error .uniqueViolation
        else match db.chainEvents.get? chainEventId with
        | none => .error .recordNotFound
        | some _ => .ok ((),{ db with
            deadLetters := db.deadLetters.upsert (deadLetter answer.text chainEvent) fun row =>
              { row with retryCount := chainEvent.retryCount, lastErrorAt := chainEvent.lastErrorAt }
            chainEvents := db.chainEvents.deleteMany fun row => row.id = chainEventId })

def recordFailure (id : String) (currentRetryCount : Nat) : Op Unit := do
  let newCount := currentRetryCount + 1
  write (.recordFailure id) fun _ db =>
    match db.chainEvents.modify id fun row => { row with retryCount := newCount, lastErrorAt := some db.clock } with
    | none => .error .recordNotFound
    | some (_,chainEvents) => .ok ((),{ db with chainEvents := chainEvents })
  if MAX_RETRIES ≤ newCount then moveToDeadLetter id
  else return

def retry (chainEvent : ChainEvent) : Op Unit := do
  let at' ← now
  if !isEligible chainEvent at' then return
  else (EventsService.processChainEventRecord self chainEvent).handle fun _ =>
    recordFailure chainEvent.id chainEvent.retryCount

def retryUnprocessed : Op Unit := do
  let locked ← DistributedLockService.tryAcquireLock
  if !locked then return
  else do
    (do
      let events ← find .chainEvent candidates
      .forEach (retry self) events : Op Unit).handle fun error => do
        DistributedLockService.releaseLock
        .raise error
    DistributedLockService.releaseLock

end ChainEventRetryService

namespace AdminDeadLetterService

def requeued (dead : DeadLetterEvent) (createdAt : Nat) : ChainEvent :=
  { id := dead.originalId
    engagementId := dead.engagementId
    eventName := dead.eventName
    ledger := dead.ledger
    txHash := dead.txHash
    payload := dead.payload
    createdAt := createdAt }

-- the event is created anew and its dead letter deleted, in one transaction
def requeueDead (id : String) (dead : DeadLetterEvent) : Op Unit :=
  write (.requeue id) fun _ db =>
    if dead.engagementId.any fun engagementId => (db.engagements.get? engagementId).isNone then .error .database
    else match db.chainEvents.create (requeued dead db.clock) with
      | none => .error .uniqueViolation
      | some chainEvents =>
          if db.deadLetters.count (fun row => row.id = id) = 0 then .error .recordNotFound
          else .ok ((),{ db with chainEvents := chainEvents, deadLetters := db.deadLetters.deleteMany fun row => row.id = id })

def requeue (id : String) : Op String := do
  let found ← find .deadLetter fun db => db.deadLetters.findFirst fun row => row.id = id
  match found with
  | none => .raise (.notFound s!"Dead-letter event {id} not found")
  | some dead => do
      requeueDead id dead
      return s!"Event {dead.originalId} requeued for processing"

end AdminDeadLetterService

end HireSettle.Escrow
