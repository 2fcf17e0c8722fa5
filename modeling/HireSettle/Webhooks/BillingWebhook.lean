import HireSettle.Escrow.Database
import HireSettle.Workflow.Replays
import HireSettle.Workflow.Sequential

/-! The webhook of the payment provider. A delivery is a duplicate when some refund
carries its event id, and a refund carries only the id that has written it last. -/
namespace HireSettle.Webhooks
open Workflow Escrow

structure BillingConfig where
  -- the hex digest of a text under a secret
  hmacSha256 : String → String → String
  -- `JSON.parse`, none when it throws
  parse : String → Option Json
  secret : String := "development-secret"
  -- `BigInt` of a text, none when it throws
  bigIntOf : String → Option Int := String.toInt?

structure BillingRequest where
  rawBody : String
  -- the values of a header, none when it is absent
  headers : String → List String

structure BillingResponse where
  received : Bool := true
  duplicate : Option Bool := none
  refund : Option Refund := none
  deriving DecidableEq, Repr

variable (config : BillingConfig)

namespace WebhooksService

def signatureHeaders : List String :=
  ["x-billing-signature","x-provider-signature","x-signature","x-hiresettle-signature","x-hire-settle-signature",
    "x-webhook-signature"]

def getProviderSignatureHeader (headers : String → List String) : Option String :=
  signatureHeaders.findSome? fun key => (headers key).head?

def verifyProviderSignature (rawBody : String) (signatureHeader : Option String) : Bool :=
  rawBody ≠ "" && config.secret ≠ "" && signatureHeader.any fun signature =>
    signature ≠ "" && signature = config.hmacSha256 config.secret rawBody

end WebhooksService

namespace WebhooksController

-- a missing field and null are alike under `??`
def field (body : Json) (key : String) : Option Json :=
  match body with
  | .object fields => (fields.lookup key).filter fun value => value ≠ .null
  | _ => none

def providerEventId (body : Json) : Option Json :=
  (field body "id").or ((field body "eventId").or (((field body "data").bind (field · "id")).or (field body "providerEventId")))

def milestoneId (body : Json) : Option Json :=
  (field body "milestoneId").or (((field body "data").bind (field · "milestoneId")).or
    ((field body "refund").bind (field · "milestoneId")))

def amount (body : Json) : Option Json :=
  (field body "amount").or (((field body "data").bind (field · "amount")).or ((field body "refund").bind (field · "amount")))

def status (body : Json) : RefundStatus :=
  if field body "status" = some (.text "completed") ∨ field body "status" = some (.text "COMPLETED") then .completed else .pending

-- a text column takes nothing else
def column (value : Json) : Except Exception String :=
  match value with
  | .text s => .ok s
  | _ => .error .database

def amountOf (body : Json) (milestone : Milestone) : Except Exception Int :=
  match amount body with
  | none => .ok (milestone.amount.getD 0)
  | some value => match value.toBigInt config.bigIntOf with
    | some n => .ok n
    | none => .error .syntaxError

def reasonOf (body : Json) : Except Exception String :=
  match field body "reason" with
  | none => .ok "Billing provider webhook update"
  | some value => column value

def eventIdOf (body : Json) : Except Exception (Option String) :=
  match providerEventId body with
  | none => .ok none
  | some value => (column value).map some

def refundOf (body : Json) (milestone : Milestone) : Except Exception Refund := do
  let amount ← amountOf config body milestone
  let reason ← reasonOf body
  let eventId ← eventIdOf body
  return { milestoneId := milestone.id, amount := amount, status := status body, reason := some reason, providerEventId := eventId }

def upsertRefund (refund : Refund) (db : Db) : Except Exception (Refund × Db) :=
  if refund.providerEventId.isSome ∧ ∃ row ∈ db.refunds.rows,
      row.milestoneId ≠ refund.milestoneId ∧ row.providerEventId = refund.providerEventId then .error .uniqueViolation
  else
    let refunds := db.refunds.upsert refund fun row =>
      { refund with milestoneId := row.milestoneId, providerEventId := refund.providerEventId.or row.providerEventId }
    .ok ((refunds.get? refund.milestoneId).getD refund,{ db with refunds := refunds })

def recordRefund (body : Json) (id : String) : Op BillingResponse := do
  let milestone ← find .milestone fun db => db.milestones.get? id
  match milestone with
  | none => .raise (.badRequest "Refund milestone not found")
  | some milestone => do
      let row ← .ofExcept (refundOf config body milestone)
      let refund ← write (.refundMilestone milestone.id) fun _ db => upsertRefund row db
      return { refund := some refund }

def findDuplicate (body : Json) : Op (Option Refund) :=
  match (providerEventId body).filter Json.truthy with
  | none => return none
  | some value => do
      let id ← .ofExcept (column value)
      find .refund fun db => db.refunds.findFirst fun row => row.providerEventId = some id

-- the delivery once its body is read
def handleBody (body : Json) : Op BillingResponse := do
  let existing ← findDuplicate body
  match existing with
  | some refund => return { duplicate := some true, refund := some refund }
  | none => match (milestoneId body).filter Json.truthy with
    | none => return { duplicate := some ((providerEventId body).any Json.truthy) }
    | some value => do
        let id ← .ofExcept (column value)
        recordRefund config body id

def handleBillingWebhook (request : BillingRequest) : Op BillingResponse :=
  if !WebhooksService.verifyProviderSignature config request.rawBody
      (WebhooksService.getProviderSignatureHeader request.headers) then
    .raise (.unauthorized "Invalid billing webhook signature")
  else match config.parse request.rawBody with
    | none => .raise .syntaxError
    | some .null => .raise .typeError
    | some body => handleBody config body

end WebhooksController

open WebhooksController

/-- A correctly signed request that names its event and its milestone. -/
structure Delivery where
  request : BillingRequest
  body : Json
  id : String
  milestoneId : String
  signed : WebhooksService.verifyProviderSignature config request.rawBody
    (WebhooksService.getProviderSignatureHeader request.headers) = true
  parsed : config.parse request.rawBody = some body
  named : providerEventId body = some (.text id)
  nonempty : id ≠ ""
  addressed : WebhooksController.milestoneId body = some (.text milestoneId)

/-- The database after a request, when no call fails. -/
def received (db : Db) (request : BillingRequest) : Db :=
  ((handleBillingWebhook config request).interpret (fun _ => {}) db).2

def processAll (db : Db) (requests : List BillingRequest) : Db := requests.foldl (received config) db

/-- The row that a delivery writes, unless its amount or reason is refused. -/
def written (db : Db) (d : Delivery config) : Option Refund :=
  if d.milestoneId = "" then none
  else (db.milestones.get? d.milestoneId).bind fun milestone => (refundOf config d.body milestone).toOption

def feed (db : Db) : Feed (Delivery config) String String Refund where
  target := Delivery.milestoneId
  id := Delivery.id
  row := written config db
  mark := Refund.providerEventId

def rows (db : Db) (milestoneId : String) : Option Refund := db.refunds.get? milestoneId

section Steps

variable {config} {db : Db} {d : Delivery config}

theorem refundNames {milestone : Milestone} {refund : Refund} (made : refundOf config d.body milestone = .ok refund) :
    refund.milestoneId = milestone.id ∧ refund.providerEventId = some d.id := by
  obtain ⟨amount,_,made⟩ := exceptBind.mp made
  obtain ⟨reason,_,made⟩ := exceptBind.mp made
  obtain ⟨eventId,event,made⟩ := exceptBind.mp made
  rw [eventIdOf,d.named] at event
  cases event
  cases made
  exact ⟨rfl,rfl⟩

theorem writtenNames {refund : Refund} (writes : written config db d = some refund) :
    refund.milestoneId = d.milestoneId ∧ refund.providerEventId = some d.id := by
  unfold written at writes
  split at writes
  · contradiction
  · obtain ⟨milestone,found,made⟩ := Option.bind_eq_some_iff.mp writes
    cases made' : refundOf config d.body milestone with
    | error error => simp [made',Except.toOption] at made
    | ok row =>
      simp only [made',Except.toOption,Option.some.injEq] at made
      subst made
      obtain ⟨id,event⟩ := refundNames made'
      exact ⟨id.trans (Table.getKey found),event⟩

theorem upsertFresh {refund : Refund} {id : String} (named : refund.providerEventId = some id)
    (fresh : ∀ row ∈ db.refunds.rows, row.providerEventId ≠ some id) :
    ∃ refunds value, upsertRefund refund db = .ok (value,{ db with refunds := refunds }) ∧
      ∀ k, refunds.get? k = if k = refund.milestoneId then some refund else db.refunds.get? k := by
  have free : ¬ (refund.providerEventId.isSome ∧ ∃ row ∈ db.refunds.rows,
      row.milestoneId ≠ refund.milestoneId ∧ row.providerEventId = refund.providerEventId) := by
    rintro ⟨_,row,inside,_,same⟩
    exact fresh row inside (same.trans named)
  refine ⟨_,_,if_neg free,fun k => ?_⟩
  have stored := Table.upsertGet db.refunds refund (fun row =>
    { refund with milestoneId := row.milestoneId, providerEventId := refund.providerEventId.or row.providerEventId }) (fun _ => rfl) k
  rw [stored]
  by_cases here : k = refund.milestoneId
  · rw [if_pos here,if_pos (show k = Keyed.key refund from here)]
    cases old : db.refunds.get? k with
    | none => rfl
    | some row =>
      have mine : row.milestoneId = refund.milestoneId := (Table.getKey old).trans here
      have kept : refund.providerEventId.or row.providerEventId = refund.providerEventId := by
        rw [named]
        rfl
      show some { refund with milestoneId := row.milestoneId, providerEventId := refund.providerEventId.or row.providerEventId } =
        some refund
      rw [mine,kept]
  · rw [if_neg here,if_neg (show k ≠ Keyed.key refund from here)]

theorem knownIff {id : String} : (∃ k, (rows db k).bind Refund.providerEventId = some id) ↔
    ∃ row ∈ db.refunds.rows, row.providerEventId = some id := by
  constructor
  · rintro ⟨k,found⟩
    obtain ⟨row,there,same⟩ := Option.bind_eq_some_iff.mp found
    exact ⟨row,Table.getMem there,same⟩
  · rintro ⟨row,inside,same⟩
    exact ⟨row.milestoneId,by rw [rows,show db.refunds.get? row.milestoneId = some row from Table.memGet inside,Option.bind_some,same]⟩

theorem truthyId : (providerEventId d.body).filter Json.truthy = some (.text d.id) := by
  simp [d.named,Json.truthy,d.nonempty]

theorem handlesBody (d : Delivery config) : handleBillingWebhook config d.request = handleBody config d.body := by
  unfold handleBillingWebhook
  rw [d.signed,d.parsed]
  cases body : d.body with
  | null =>
    have named := d.named
    simp [body,providerEventId,field] at named
  | _ => rfl

theorem truthyMilestone : (WebhooksController.milestoneId d.body).filter Json.truthy =
    if d.milestoneId = "" then none else some (.text d.milestoneId) := by
  rw [d.addressed]
  by_cases named : d.milestoneId = "" <;> simp [Json.truthy,named]

theorem findsDuplicate (d : Delivery config) :
    findDuplicate d.body = find .refund fun db => db.refunds.findFirst fun row => row.providerEventId = some d.id := by
  rw [findDuplicate,truthyId]
  rfl

theorem recordsRefund (fresh : ∀ row ∈ db.refunds.rows, row.providerEventId ≠ some d.id) (named : d.milestoneId ≠ "") :
    ∃ refunds, ((recordRefund config d.body d.milestoneId).interpret (fun _ => {}) db).2 = { db with refunds := refunds } ∧
      (refunds.get? : String → Option Refund) = (feed config db).put (rows db) d := by
  unfold recordRefund Feed.put
  simp only [feed,written]
  rw [if_neg named,interpretBind,find,interpretQuery]
  cases found : db.milestones.get? d.milestoneId with
  | none => exact ⟨db.refunds,by simp; rfl,by simp; rfl⟩
  | some milestone =>
    cases made : refundOf config d.body milestone with
    | error error => exact ⟨db.refunds,by simp [interpretBind,made],by simp [made,Except.toOption]; rfl⟩
    | ok row =>
      obtain ⟨id,event⟩ := refundNames made
      obtain ⟨refunds,value,upserted,stored⟩ := upsertFresh event fresh
      refine ⟨refunds,by simp [interpretBind,made,write,upserted,Process.applied,Except.map],?_⟩
      simp only [Option.bind_some,made,Except.toOption]
      funext k
      have mine : row.milestoneId = d.milestoneId := id.trans (Table.getKey found)
      rw [stored,mine]
      by_cases here : k = d.milestoneId
      · rw [if_pos here,here,Function.update_self]
      · rw [if_neg here,Function.update_of_ne here]
        rfl

theorem processDelivery (db : Db) (d : Delivery config) :
    ∃ refunds, received config db d.request = { db with refunds := refunds } ∧
      (refunds.get? : String → Option Refund) = (feed config db).deliver (rows db) d := by
  unfold received
  rw [handlesBody,handleBody,interpretBind,findsDuplicate,find,interpretQuery]
  cases existing : db.refunds.findFirst fun row => row.providerEventId = some d.id with
  | some refund =>
    refine ⟨db.refunds,by simp,?_⟩
    have known : ∃ k, (rows db k).bind (feed config db).mark = some ((feed config db).id d) :=
      knownIff.mpr ⟨refund,List.mem_of_find?_eq_some existing,of_decide_eq_true (Table.findFirstGet existing).2⟩
    rw [Feed.deliver,if_pos known]
    rfl
  | none =>
    have fresh : ∀ row ∈ db.refunds.rows, row.providerEventId ≠ some d.id := by
      intro row inside
      simpa using Table.findFirstNone existing (Table.memGet inside)
    have unknown : ¬ ∃ k, (rows db k).bind (feed config db).mark = some ((feed config db).id d) := by
      intro known
      obtain ⟨row,inside,same⟩ := knownIff.mp known
      exact fresh row inside same
    rw [Feed.deliver,if_neg unknown]
    by_cases named : d.milestoneId = ""
    · refine ⟨db.refunds,by simp [truthyMilestone,named],?_⟩
      simp [Feed.put,feed,written,named]
      rfl
    · obtain ⟨refunds,recorded,stored⟩ := recordsRefund fresh named
      refine ⟨refunds,?_,stored⟩
      simp only [truthyMilestone,if_neg named]
      exact recorded

theorem processRows (db : Db) (deliveries : List (Delivery config)) :
    ∃ refunds, processAll config db (deliveries.map Delivery.request) = { db with refunds := refunds } ∧
      (refunds.get? : String → Option Refund) = (feed config db).deliverAll (rows db) deliveries := by
  induction deliveries using List.reverseRecOn with
  | nil => exact ⟨db.refunds,rfl,rfl⟩
  | append_singleton older d ih =>
    obtain ⟨before,ran,rowsBefore⟩ := ih
    obtain ⟨refunds,processed,stored⟩ := processDelivery { db with refunds := before } d
    refine ⟨refunds,?_,?_⟩
    · have split : processAll config db ((older ++ [d]).map Delivery.request) =
          received config (processAll config db (older.map Delivery.request)) d.request := by
        rw [processAll,List.map_append,List.foldl_append]
        rfl
      rw [split,ran,processed]
    · have split : (feed config db).deliverAll (rows db) (older ++ [d]) =
          (feed config db).deliver ((feed config db).deliverAll (rows db) older) d := by
        rw [Feed.deliverAll,List.foldl_append]
        rfl
      rw [stored,split,← rowsBefore]
      rfl

theorem coherentDeliveries {deliveries : List (Delivery config)} (alike : ∀ d ∈ deliveries, ∀ d' ∈ deliveries, d.id = d'.id → d.body = d'.body)
    (remembered : ∀ row ∈ db.refunds.rows, ∀ d ∈ deliveries, row.providerEventId = some d.id → d.milestoneId = row.milestoneId) :
    (feed config db).Coherent (rows db) deliveries where
  same d here d' here' id := by
    have body := alike d here d' here' id
    have target : d.milestoneId = d'.milestoneId := by
      have addressed := d.addressed
      rw [body,d'.addressed] at addressed
      simpa using addressed.symm
    exact ⟨target,by simp only [feed,written,body,target]⟩
  marked d row writes := (writtenNames writes).2
  remembered k row found d here id := (remembered row (Table.getMem found) d here id).trans (Table.getKey found)

end Steps

/-- The first delivery of each event. -/
def firstDeliveries (deliveries : List (Delivery config)) : List (Delivery config) :=
  deliveries.foldl (fun kept d => if d.id ∈ kept.map Delivery.id then kept else kept ++ [d]) []

/-- The event that is delivered last among those that write the refund of a milestone. -/
def lastEvent (db : Db) (milestoneId : String) (deliveries : List (Delivery config)) : Option String :=
  ((deliveries.filter fun d => d.milestoneId = milestoneId ∧ (written config db d).isSome).map Delivery.id).getLast?

variable {config} in
theorem lastElsewhere {db : Db} {milestoneId : String} {deliveries : List (Delivery config)}
    (elsewhere : ∀ d ∈ deliveries, d.milestoneId ≠ milestoneId) : lastEvent config db milestoneId deliveries = none := by
  have nothing : (deliveries.filter fun d => d.milestoneId = milestoneId ∧ (written config db d).isSome) = [] :=
    List.filter_eq_nil_iff.mpr fun d inside => by simp [elsewhere d inside]
  rw [lastEvent,nothing]
  rfl

/-- Replays change nothing iff on each milestone the event delivered last is the one that was
first delivered last. -/
theorem replayedDeliveries (db : Db) (deliveries : List (Delivery config))
    (alike : ∀ d ∈ deliveries, ∀ d' ∈ deliveries, d.id = d'.id → d.body = d'.body)
    (remembered : ∀ row ∈ db.refunds.rows, ∀ d ∈ deliveries, row.providerEventId = some d.id → d.milestoneId = row.milestoneId) :
    (∀ milestoneId, (processAll config db (deliveries.map Delivery.request)).refunds.get? milestoneId =
      (processAll config db ((firstDeliveries config deliveries).map Delivery.request)).refunds.get? milestoneId) ↔
    ∀ milestoneId, lastEvent config db milestoneId deliveries = lastEvent config db milestoneId (firstDeliveries config deliveries) := by
  obtain ⟨refunds,ran,stored⟩ := processRows db deliveries
  obtain ⟨refunds',ran',stored'⟩ := processRows db (firstDeliveries config deliveries)
  rw [ran,ran']
  show (∀ milestoneId, refunds.get? milestoneId = refunds'.get? milestoneId) ↔ _
  rw [stored,stored']
  exact (feed config db).replaysIff (coherentDeliveries alike remembered)

section Replays

def oneJson : String := "\x7b\"id\":\"1\",\"milestoneId\":\"m\",\"amount\":100\x7d"

def twoJson : String := "\x7b\"id\":\"2\",\"milestoneId\":\"m\",\"amount\":100,\"status\":\"completed\"\x7d"

def one : Json := .object [("id",.text "1"),("milestoneId",.text "m"),("amount",.number 100)]

def two : Json := .object [("id",.text "2"),("milestoneId",.text "m"),("amount",.number 100),("status",.text "completed")]

def provider : BillingConfig where
  hmacSha256 _ body :=
    if body = oneJson then "dcdc0fc52b70121c9d42b63d58510737682a2063a94b98f415b390cc266c305a"
    else if body = twoJson then "9bd7dba86c9e9e2c1102736a9a1f9a7e51f6a4ce2b3465380e2b61274d6e9fac"
    else ""
  parse body := if body = oneJson then some one else if body = twoJson then some two else none

def signed (rawBody : String) : BillingRequest where
  rawBody := rawBody
  headers key := if key = "x-billing-signature" then [provider.hmacSha256 provider.secret rawBody] else []

def pendingDelivery : Delivery provider where
  request := signed oneJson
  body := one
  id := "1"
  milestoneId := "m"
  signed := by decide
  parsed := by decide
  named := by decide
  nonempty := by decide
  addressed := by decide

def completedDelivery : Delivery provider where
  request := signed twoJson
  body := two
  id := "2"
  milestoneId := "m"
  signed := by decide
  parsed := by decide
  named := by decide
  nonempty := by decide
  addressed := by decide

def billed : Db where
  milestones := .single { id := "m", engagementId := "e", milestoneIndex := 0, name := "placed", kind := .placement, paymentPercent := 100 }

theorem replayedLatest :
    (processAll provider billed ([pendingDelivery,completedDelivery,completedDelivery].map Delivery.request)).refunds.get? "m" =
      (processAll provider billed ([pendingDelivery,completedDelivery].map Delivery.request)).refunds.get? "m" := by
  refine (replayedDeliveries provider billed [pendingDelivery,completedDelivery,completedDelivery] ?_ ?_).mpr (fun milestoneId => ?_) "m"
  · intro d here d' here' id
    simp only [List.mem_cons,List.not_mem_nil,or_false] at here here'
    rcases here with rfl | rfl | rfl <;> rcases here' with rfl | rfl | rfl <;> first | rfl | exact absurd id (by decide)
  · exact fun row inside => absurd inside List.not_mem_nil
  · by_cases here : milestoneId = "m"
    · subst here
      decide
    · have elsewhere : ∀ d ∈ [pendingDelivery,completedDelivery,completedDelivery], d.milestoneId ≠ milestoneId := by
        intro d inside
        simp only [List.mem_cons,List.not_mem_nil,or_false] at inside
        rcases inside with rfl | rfl | rfl <;> exact Ne.symm here
      have kept := Feed.firstsSubset (feed provider billed) [pendingDelivery,completedDelivery,completedDelivery]
      rw [lastElsewhere elsewhere]
      exact (lastElsewhere fun d inside => elsewhere d (kept inside)).symm

theorem replayedOlder :
    ((processAll provider billed ([pendingDelivery,completedDelivery,pendingDelivery].map Delivery.request)).refunds.get? "m").map
      Refund.status = some .pending ∧
    ¬ ∀ milestoneId,
      (processAll provider billed ([pendingDelivery,completedDelivery,pendingDelivery].map Delivery.request)).refunds.get? milestoneId =
        (processAll provider billed ((firstDeliveries provider [pendingDelivery,completedDelivery,pendingDelivery]).map
          Delivery.request)).refunds.get? milestoneId :=
  ⟨by decide,fun same => absurd (same "m") (by decide)⟩

end Replays

end HireSettle.Webhooks
