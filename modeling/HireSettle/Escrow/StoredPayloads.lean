import HireSettle.Escrow.ChainEvents
import HireSettle.Workflow.JsonTexts

/-! The payload of a chain event, from the native value that the poller decodes to what the
handlers make of it: live, and from the row that is saved for a later run. -/
namespace HireSettle.Escrow.StoredPayloads
open Workflow EventsService JsonTexts

abbrev Word : Type := { n : Int // -2 ^ 31 ≤ n ∧ n < 2 ^ 32 }

inductive Native where
  | text (value : String)
  | bool (value : Bool)
  | number (value : Word)
  | bigint (value : Int)
  deriving DecidableEq

inductive EventValue where
  | text (value : String)
  | array (items : List Native)
  deriving DecidableEq

namespace Native

def toText : Native → String
  | .text s => s
  | .bool true => "true"
  | .bool false => "false"
  | .number n => toString n.val
  | .bigint n => toString n

def truthy : Native → Bool
  | .text s => s ≠ ""
  | .bool b => b
  | .number n => n.val ≠ 0
  | .bigint n => n ≠ 0

-- `Number(value)` and `BigInt(value)`, as far as texts are left to the caller
def toInt (read : String → Option Int) : Native → Option Int
  | .text s => read s
  | .bool b => some (if b then 1 else 0)
  | .number n => some n.val
  | .bigint n => some n

-- `JSON.stringify` throws on a bigint
def toValue : Native → Option Value
  | .text s => some (.text (utf16 s))
  | .bool b => some (.bool b)
  | .number n => some (.number (toString n.val).toList)
  | .bigint _ => none

end Native

namespace EventValue

def items : EventValue → List Native
  | .text s => [.text s]
  | .array items => items

def truthy : EventValue → Bool
  | .text s => s ≠ ""
  | .array _ => true

def stringify : EventValue → Option (List Char)
  | .text s => some (JsonTexts.write (.text (utf16 s)))
  | .array items => (items.mapM Native.toValue).map fun values => JsonTexts.write (.array values)

end EventValue

mutual

def ofValue : Value → Json
  | .null => .null
  | .bool b => .bool b
  | .number literal => .number ((Numerals.number literal).integer.getD 0)
  | .text units => .text (String.ofList (chars units))
  | .array items => .array (ofItems items)
  | .object fields => .object (ofFields fields)

def ofItems : List Value → List Json
  | [] => []
  | item :: rest => ofValue item :: ofItems rest

def ofFields : List (Units × Value) → List (String × Json)
  | [] => []
  | (name,value) :: rest => (String.ofList (chars name),ofValue value) :: ofFields rest

end

def parse (text : List Char) : Option Json := (JsonTexts.read text).map ofValue

-- `event.value ? JSON.parse(JSON.stringify(event.value)) : null`, and null if one of them throws
def livePayload (value : EventValue) : Json := if value.truthy then (value.stringify.bind parse).getD .null else .null

structure LiveEvent where
  ledger : Nat
  txHash : String
  topic : List String
  value : EventValue

def received (event : LiveEvent) : ContractEvent where
  ledger := event.ledger
  txHash := event.txHash
  topic := event.topic
  value := livePayload event.value

def pseudoEvent (chainEvent : ChainEvent) : ContractEvent where
  ledger := chainEvent.ledger
  txHash := chainEvent.txHash
  topic := [chainEvent.eventName]
  value := chainEvent.payload

def byLedger (a b : ChainEvent) : Prop := a.ledger ≤ b.ledger

instance : DecidableRel byLedger := fun _ _ => inferInstanceAs (Decidable (_ ≤ _))

def processUnprocessedEvents (self : Config) : Op Unit := do
  let unprocessedEvents ← find .chainEvent fun db => (db.chainEvents.findMany fun row => !row.processed).insertionSort byLedger
  .forEach (fun chainEvent => (processEvent self (pseudoEvent chainEvent)).handle fun _ => return) unprocessedEvents

/-- A handler with the values it uses: a milestone index may be NaN, an amount may throw. -/
inductive Handling where
  | engagementCreated (engagementId : String)
  | milestoneUnlocked (engagementId : String) (milestoneIndex : Option Int)
  | proofSubmitted (engagementId : String) (milestoneIndex : Option Int)
  | milestoneConfirmed (engagementId : String) (milestoneIndex paymentAmount : Option Int)
  | disputeRaised (engagementId : String) (milestoneIndex : Option Int)
  | disputeResolved (engagementId : String) (milestoneIndex : Option Int) (approved : Bool)
  | replacementRequested (engagementId : String)
  | engagementCancelled (engagementId : String)
  deriving DecidableEq

def handling (eventName whole engagementId : String) (milestoneIndex paymentAmount : Option Int) (approved : Bool) : Option Handling :=
  match eventName with
  | "engagement_created" => some (.engagementCreated whole)
  | "milestone_unlocked" => some (.milestoneUnlocked engagementId milestoneIndex)
  | "proof_submitted" => some (.proofSubmitted engagementId milestoneIndex)
  | "milestone_confirmed" => some (.milestoneConfirmed engagementId milestoneIndex paymentAmount)
  | "dispute_raised" => some (.disputeRaised engagementId milestoneIndex)
  | "dispute_resolved" => some (.disputeResolved engagementId milestoneIndex approved)
  | "replacement_requested" => some (.replacementRequested engagementId)
  | "engagement_cancelled" => some (.engagementCancelled engagementId)
  | _ => none

section Handlers

variable (self : Config)

def usedAmount (items : List Json) : Option Int :=
  match (items[2]? : Option Json) with
  | none | some .null => some 0
  | some value => value.toBigInt self.bigIntOf

/-- What the handler of an event makes of its payload. -/
def used (event : ContractEvent) : Option Handling :=
  let payload := extractPayload event
  let items := destructurePayload payload
  handling (extractEventName event) payload.toText (textAt items 0) (items[1]?.bind (Json.toNumber self.numberOf)) (usedAmount self items)
    (flagAt items 2)

/-- What the event says. -/
def stated (event : LiveEvent) : Option Handling :=
  let items := event.value.items
  let engagementId := (items[0]?.map Native.toText).getD "undefined"
  handling (extractEventName (received event)) engagementId engagementId (items[1]?.bind (Native.toInt self.numberOf))
    (items[2]?.elim (some 0) (Native.toInt self.bigIntOf)) ((items[2]?.map Native.truthy).getD false)

def checkedIndex (milestoneIndex : Option Int) : Except Exception Nat :=
  match milestoneIndex with
  | none => .error .database
  | some n => if n < 0 then .error .recordNotFound else .ok n.toNat

def checkedAmount (paymentAmount : Option Int) : Except Exception Int :=
  match paymentAmount with
  | none => .error .syntaxError
  | some n => .ok n

/-- The handlers as functions of the values they use. -/
def handle : Handling → Op TxWrites
  | .engagementCreated engagementId => do
      EngagementsService.syncFromChain engagementId
      announce engagementId 1
      return {}
  | .milestoneUnlocked engagementId milestoneIndex => do
      let milestoneIndex ← .ofExcept (checkedIndex milestoneIndex)
      let _ ← MilestonesService.markUnlocked engagementId milestoneIndex
      let writes ← unlockSchedules engagementId milestoneIndex
      announce engagementId 1
      return writes
  | .proofSubmitted engagementId milestoneIndex => do
      let milestoneIndex ← .ofExcept (checkedIndex milestoneIndex)
      let _ ← MilestonesService.markProofSubmitted self engagementId milestoneIndex ""
      announce engagementId 1
      return {}
  | .milestoneConfirmed engagementId milestoneIndex paymentAmount => do
      let paymentAmount ← .ofExcept (checkedAmount paymentAmount)
      let milestoneIndex ← .ofExcept (checkedIndex milestoneIndex)
      let _ ← MilestonesService.markConfirmed engagementId milestoneIndex paymentAmount
      EngagementsService.syncFromChain engagementId
      announce engagementId 2
      return {}
  | .disputeRaised engagementId milestoneIndex => do
      let milestoneIndex ← .ofExcept (checkedIndex milestoneIndex)
      let _ ← MilestonesService.markDisputed self engagementId milestoneIndex
      announce engagementId 3
      return {}
  | .disputeResolved engagementId milestoneIndex approved => do
      let milestoneIndex ← .ofExcept (checkedIndex milestoneIndex)
      let _ ← MilestonesService.markResolved engagementId milestoneIndex approved none
      EngagementsService.syncFromChain engagementId
      announce engagementId 3
      return {}
  | .replacementRequested engagementId => do
      let currentLedger ← stellar .getLatestLedger Answer.number
      MilestonesService.resetForReplacement engagementId currentLedger
      let writes ← setStatus engagementId .replacementRequested
      announce engagementId 2
      return writes
  | .engagementCancelled engagementId => do
      let writes ← setStatus engagementId .cancelled
      announce engagementId 2
      return writes

def handledNames : List String :=
  ["engagement_created","milestone_unlocked","proof_submitted","milestone_confirmed","dispute_raised","dispute_resolved",
    "replacement_requested","engagement_cancelled"]

variable {self} {event : ContractEvent} {used' : Handling}

theorem indexUsed (items : List Json) (i : Nat) : indexAt self items i = checkedIndex (items[i]?.bind (Json.toNumber self.numberOf)) := rfl

theorem amountUsed (items : List Json) : amountAt self items 2 = checkedAmount (usedAmount self items) := by
  unfold amountAt usedAmount
  generalize (items[2]? : Option Json) = item
  cases item with
  | none => rfl
  | some value =>
    cases value with
    | null => rfl
    | _ => dsimp only; split <;> rename_i read <;> rw [read] <;> rfl

/-- The handler of an event depends on the values it uses, and on nothing else of the payload. -/
theorem handled (uses : used self event = some used') :
    handleEvent self (extractEventName event) (extractPayload event) = handle self used' := by
  unfold used handling at uses
  split at uses <;> rename_i named <;> cases uses <;> rw [named] <;> unfold handleEvent <;>
    simp only [handle,handleEngagementCreated,handleMilestoneUnlocked,handleProofSubmitted,handleMilestoneConfirmed,
      handleDisputeRaised,handleDisputeResolved,handleReplacementRequested,handleEngagementCancelled,indexUsed,amountUsed]

/-- The way of an event to its handler. -/
def reach (event : ContractEvent) (k : ChainEvent → Op Unit) : Op Unit := do
  let existing ← findProcessed event
  if existing.isSome then return
  else do
    let chainEvent ← savedEvent event
    if chainEvent.processed then return else k chainEvent

/-- The program takes the event to this handler, with these values. -/
structure Runs (config : Config) (p : Op Unit) (event : ContractEvent) (h : Handling) : Prop where
  uses : used config event = some h
  program : p = reach event fun chainEvent => do
    let writes ← handle config h
    markProcessed event chainEvent writes

theorem runsUsed (uses : used self event = some used') : Runs self (processEvent self event) event used' :=
  ⟨uses,by unfold processEvent; rw [handled uses]; rfl⟩

end Handlers

section Payloads

def Native.toJson : Native → Json
  | .text s => .text s
  | .bool b => .bool b
  | .number n => .number n.val
  | .bigint _ => .null

def Plain (items : List Native) : Prop := ∀ n, Native.bigint n ∉ items

variable {items : List Native} {x : Native} {v : Value}

theorem valueRead (written : x.toValue = some v) : Proper v ∧ ofValue v = x.toJson := by
  cases x with
  | text s =>
    cases written
    refine ⟨fun u inside => ?_,?_⟩
    · obtain ⟨c,_,there⟩ := List.mem_flatMap.mp inside
      exact codeSmall c u there
    · rw [ofValue,charsUtf16,String.ofList_toList]
      rfl
  | bool b => cases written; exact ⟨trivial,rfl⟩
  | number n =>
    cases written
    obtain ⟨n,low,high⟩ := n
    have whole : (Numerals.Number.finite (n : ℚ)).integer = some n := by simp [Numerals.Number.integer]
    refine ⟨numeralInt n,?_⟩
    have small : n.natAbs < 2 ^ 53 := by omega
    show ofValue (.number (toString n).toList) = .number n
    rw [ofValue,Numerals.numberInt small,whole]
    rfl
  | bigint n => cases written

theorem valuesRead {values : List Value} (written : items.mapM Native.toValue = some values) :
    ProperItems values ∧ ofItems values = items.map Native.toJson := by
  induction items generalizing values with
  | nil => cases written; exact ⟨trivial,rfl⟩
  | cons x rest ih =>
    simp only [List.mapM_cons,Option.bind_eq_bind,Option.bind_eq_some_iff,Option.pure_def,Option.some.injEq] at written
    obtain ⟨v,first,others,second,rfl⟩ := written
    obtain ⟨proper,same⟩ := valueRead first
    obtain ⟨propers,sames⟩ := ih second
    exact ⟨⟨proper,propers⟩,by rw [ofItems,same,sames]; rfl⟩

theorem writtenIff : (items.mapM Native.toValue).isSome = true ↔ Plain items := by
  induction items with
  | nil => exact ⟨fun _ _ => nofun,fun _ => rfl⟩
  | cons x rest ih =>
    have here : x.toValue.isSome = true ↔ ∀ n, Native.bigint n ≠ x := by cases x <;> simp [Native.toValue]
    rw [List.mapM_cons]
    cases first : x.toValue with
    | none =>
      rw [first] at here
      refine ⟨nofun,fun plain => ?_⟩
      exact absurd (here.mpr fun n same => plain n (by simp [same])) (by simp)
    | some v =>
      rw [first] at here
      cases others : rest.mapM Native.toValue with
      | none =>
        rw [others] at ih
        exact ⟨nofun,fun plain => absurd (ih.mpr fun n inside => plain n (List.mem_cons_of_mem _ inside)) (by simp)⟩
      | some values =>
        rw [others] at ih
        refine ⟨fun _ n inside => ?_,fun _ => rfl⟩
        rcases List.mem_cons.mp inside with same | later
        · exact here.mp rfl n same
        · exact ih.mp rfl n later

theorem payloadArray : livePayload (.array items) = if (items.mapM Native.toValue).isSome then .array (items.map Native.toJson) else .null := by
  show (((items.mapM Native.toValue).map fun values => JsonTexts.write (.array values)).bind parse).getD .null = _
  cases written : items.mapM Native.toValue with
  | none => rfl
  | some values =>
    obtain ⟨proper,same⟩ := valuesRead written
    have read : JsonTexts.read (JsonTexts.write (.array values)) = some (.array values) := readWrite proper
    show (parse (JsonTexts.write (.array values))).getD .null = .array (items.map Native.toJson)
    rw [parse,read,← same]
    rfl

theorem payloadText (s : String) : livePayload (.text s) = if s = "" then .null else .text s := by
  obtain ⟨proper,same⟩ := valueRead (x := .text s) rfl
  unfold livePayload EventValue.truthy
  by_cases empty : s = ""
  · rw [if_pos empty,if_neg (by simp [empty])]
  · rw [if_neg empty,if_pos (by simp [empty])]
    show (parse (JsonTexts.write (.text (utf16 s)))).getD .null = _
    rw [parse,readWrite proper,Option.map_some,same]
    rfl

/-- The payload is lost when the text is empty or an element is a bigint. -/
theorem payloadLost {value : EventValue} : livePayload value = .null ↔ ¬ (Plain value.items ∧ value ≠ .text "") := by
  cases value with
  | text s => rw [payloadText]; by_cases empty : s = "" <;> simp [empty,Plain,EventValue.items]
  | array items =>
    rw [payloadArray,← @writtenIff (EventValue.array items).items]
    show (if (items.mapM Native.toValue).isSome = true then _ else _) = _ ↔ ¬ ((items.mapM Native.toValue).isSome = true ∧ _)
    by_cases written : (items.mapM Native.toValue).isSome = true <;> simp [written]

theorem textSame (x : Native) (plain : ∀ n, x ≠ .bigint n) : x.toJson.toText = x.toText := by
  cases x with
  | bigint n => exact absurd rfl (plain n)
  | bool b => cases b <;> rfl
  | _ => rfl

theorem intSame (read : String → Option Int) (x : Native) (plain : ∀ n, x ≠ .bigint n) :
    x.toJson.toNumber read = x.toInt read ∧ x.toJson.toBigInt read = x.toInt read ∧ x.toJson.truthy = x.truthy ∧ x.toJson ≠ .null := by
  cases x with
  | bigint n => exact absurd rfl (plain n)
  | _ => exact ⟨rfl,rfl,rfl,nofun⟩

theorem joinedPlain (plain : Plain items) : Json.joined (items.map Native.toJson) = items.map Native.toText := by
  induction items with
  | nil => rfl
  | cons x rest ih =>
    have own : ∀ n, x ≠ .bigint n := fun n same => plain n (by simp [same])
    have rest := ih fun n inside => plain n (List.mem_cons_of_mem _ inside)
    cases x with
    | bigint n => exact absurd rfl (own n)
    | _ =>
      rw [List.map_cons,List.map_cons,← rest,← textSame _ own]
      rfl

end Payloads

section Values

variable {eventName whole whole' engagementId engagementId' : String} {index index' amount amount' : Option Int} {approved approved' : Bool}

theorem handlingWhole (other : eventName ≠ "engagement_created") :
    handling eventName whole engagementId index amount approved = handling eventName whole' engagementId index amount approved := by
  unfold handling
  split <;> first | rfl | exact absurd rfl other

theorem handlingId (named : eventName ∈ handledNames)
    (same : handling eventName whole engagementId index amount approved = handling eventName whole' engagementId' index' amount' approved') :
    (eventName = "engagement_created" ∧ whole = whole') ∨ (eventName ≠ "engagement_created" ∧ engagementId = engagementId') := by
  simp only [handledNames,List.mem_cons,List.not_mem_nil,or_false] at named
  rcases named with rfl | rfl | rfl | rfl | rfl | rfl | rfl | rfl <;> simp only [handling,Option.some.injEq] at same <;> cases same
  · exact .inl ⟨rfl,rfl⟩
  all_goals exact .inr ⟨by decide,rfl⟩

end Values

section Events

variable {self : Config} {event : LiveEvent} {e : ContractEvent} {items : List Native}

theorem payloadKept {value : EventValue} (plain : Plain value.items) (some : value ≠ .text "") :
    destructurePayload (livePayload value) = value.items.map Native.toJson ∧ (livePayload value).truthy = true ∧
      (value.items.length = 1 → (livePayload value).toText = (value.items[0]?.map Native.toText).getD "undefined") := by
  cases value with
  | text s =>
    have filled : s ≠ "" := fun empty => some (by rw [empty])
    rw [payloadText,if_neg filled]
    exact ⟨rfl,decide_eq_true filled,fun _ => rfl⟩
  | array items =>
    have written : (items.mapM Native.toValue).isSome = true := writtenIff.mpr plain
    rw [payloadArray,if_pos written]
    refine ⟨rfl,rfl,fun single => ?_⟩
    obtain ⟨x,rfl⟩ := List.length_eq_one_iff.mp single
    show String.intercalate "," (Json.joined ([x].map Native.toJson)) = _
    have joined : Json.joined ([x].map Native.toJson) = [x].map Native.toText := joinedPlain plain
    rw [joined]
    exact String.intercalate_singleton

theorem extractReceived : extractPayload (received event) = livePayload event.value := by
  show (if (livePayload event.value).truthy then livePayload event.value else .null) = _
  by_cases lost : livePayload event.value = .null
  · rw [lost]
    rfl
  · rw [if_pos (payloadKept (not_not.mp (payloadLost.not.mp lost)).1 (not_not.mp (payloadLost.not.mp lost)).2).2.1]

theorem extractReplayed (id : String) (createdAt : Nat) : extractPayload (pseudoEvent (rawEvent (received event) id createdAt)) =
    if livePayload event.value = .null then .object [] else livePayload event.value := by
  have stored : (pseudoEvent (rawEvent (received event) id createdAt)).value =
      if livePayload event.value = .null then .object [] else livePayload event.value := by
    show (if extractPayload (received event) = .null then .object [] else extractPayload (received event)) = _
    rw [extractReceived]
  rw [extractPayload,stored]
  by_cases lost : livePayload event.value = .null
  · rw [if_pos lost]
    rfl
  · rw [if_neg lost,if_pos (payloadKept (not_not.mp (payloadLost.not.mp lost)).1 (not_not.mp (payloadLost.not.mp lost)).2).2.1]

theorem usedKept (plain : Plain event.value.items) (some : event.value ≠ .text "")
    (single : extractEventName (received event) = "engagement_created" → event.value.items.length = 1)
    (named : extractEventName e = extractEventName (received event)) (kept : extractPayload e = livePayload event.value) :
    used self e = stated self event := by
  obtain ⟨items,_,whole⟩ := payloadKept plain some
  have at' : ∀ i : Nat, ∀ x : Native, event.value.items[i]? = Option.some x → ∀ n, x ≠ .bigint n :=
    fun i x there n same => plain n (same ▸ List.mem_of_getElem? there)
  have first : textAt (event.value.items.map Native.toJson) 0 = (event.value.items[0]?.map Native.toText).getD "undefined" := by
    rw [textAt,List.getElem?_map]
    cases there : event.value.items[0]? with
    | none => rfl
    | some x => exact textSame x (at' 0 x there)
  have index : (event.value.items.map Native.toJson)[1]?.bind (Json.toNumber self.numberOf) =
      event.value.items[1]?.bind (Native.toInt self.numberOf) := by
    rw [List.getElem?_map]
    cases there : event.value.items[1]? with
    | none => rfl
    | some x => exact (intSame _ x (at' 1 x there)).1
  have amount : usedAmount self (event.value.items.map Native.toJson) =
      event.value.items[2]?.elim (Option.some 0) (Native.toInt self.bigIntOf) := by
    rw [usedAmount,List.getElem?_map]
    cases there : event.value.items[2]? with
    | none => rfl
    | some x =>
      obtain ⟨_,same,_,other⟩ := intSame self.bigIntOf x (at' 2 x there)
      show (match Option.some x.toJson with | none | Option.some .null => _ | Option.some value => _) = x.toInt _
      rw [← same]
      split
      · rename_i absent
        cases absent
      · rename_i null
        exact absurd (Option.some.inj null) other
      · rename_i present
        rw [Option.some.inj present]
  have flag : flagAt (event.value.items.map Native.toJson) 2 = (event.value.items[2]?.map Native.truthy).getD false := by
    rw [flagAt,List.getElem?_map]
    cases there : event.value.items[2]? with
    | none => rfl
    | some x => exact (intSame self.bigIntOf x (at' 2 x there)).2.2.1
  show handling (extractEventName e) (extractPayload e).toText (textAt (destructurePayload (extractPayload e)) 0) _ _ _ = _
  rw [named,kept,items,first,index,amount,flag]
  by_cases created : extractEventName (received event) = "engagement_created"
  · rw [whole (single created)]
    rfl
  · exact handlingWhole created

/-- An array that reads as the text of its first element has no other. -/
theorem createdSingle {value : EventValue} (plain : Plain value.items) (filled : value ≠ .text "")
    (whole : (livePayload value).toText = (value.items[0]?.map Native.toText).getD "undefined") : value.items.length = 1 := by
  cases value with
  | text s => rfl
  | array items =>
    have written : (items.mapM Native.toValue).isSome = true := writtenIff.mpr plain
    rw [payloadArray,if_pos written] at whole
    change String.intercalate "," (Json.joined (items.map Native.toJson)) = (items[0]?.map Native.toText).getD "undefined" at whole
    have joined : Json.joined (items.map Native.toJson) = items.map Native.toText := joinedPlain plain
    rw [joined] at whole
    match items with
    | [] => exact absurd whole (by decide)
    | [x] => rfl
    | x :: y :: rest =>
      change String.intercalate "," (x.toText :: y.toText :: rest.map Native.toText) = x.toText at whole
      rw [String.intercalate_cons_cons] at whole
      have longer := congrArg String.length whole
      simp only [String.length_append] at longer
      have comma : ",".length = 1 := rfl
      omega

theorem handlingNamed {eventName whole engagementId : String} {index amount : Option Int} {approved : Bool}
    (named : eventName ∈ handledNames) : ∃ h, handling eventName whole engagementId index amount approved = some h := by
  simp only [handledNames,List.mem_cons,List.not_mem_nil,or_false] at named
  rcases named with rfl | rfl | rfl | rfl | rfl | rfl | rfl | rfl <;> exact ⟨_,rfl⟩

/-- No element is a bigint, the value is not the empty text, and an engagement that is created is all that the event tells. -/
structure Survives (event : LiveEvent) : Prop where
  plain : Plain event.value.items
  filled : event.value ≠ .text ""
  single : extractEventName (received event) = "engagement_created" → event.value.items.length = 1

end Events

/-- The live event and its saved row are handled with the values of the event exactly where they survive. -/
theorem payloadSurvivesIff (self : Config) (event : LiveEvent) (named : extractEventName (received event) ∈ handledNames) (id : String)
    (createdAt : Nat) :
    ((∃ h, stated self event = some h ∧ Runs self (processEvent self (received event)) (received event) h ∧
      let row := rawEvent (received event) id createdAt
      Runs self (processChainEventRecord self row) (pseudoEvent row) h) ↔ Survives event) ∧
    processUnprocessedEvents self = (do
      let rows ← find .chainEvent fun db => (db.chainEvents.findMany fun row => !row.processed).insertionSort byLedger
      .forEach (fun row => (processChainEventRecord self row).handle fun _ => return) rows) := by
  have replayName : extractEventName (pseudoEvent (rawEvent (received event) id createdAt)) = extractEventName (received event) := rfl
  have first : ∀ h, stated self event = some h → ∀ e : ContractEvent, extractEventName e = extractEventName (received event) →
      used self e = some h → (extractEventName (received event) = "engagement_created" ∧
        (extractPayload e).toText = (event.value.items[0]?.map Native.toText).getD "undefined") ∨
      (extractEventName (received event) ≠ "engagement_created" ∧
        textAt (destructurePayload (extractPayload e)) 0 = (event.value.items[0]?.map Native.toText).getD "undefined") := by
    intro h states e same uses
    have both := uses.trans states.symm
    unfold used stated at both
    rw [same] at both
    exact handlingId named both
  refine ⟨⟨fun ⟨h,states,live,replay⟩ => ?_,fun survives => ?_⟩,rfl⟩
  · have lived := first h states _ rfl live.uses
    have replayed := first h states _ replayName replay.uses
    rw [extractReceived] at lived
    rw [extractReplayed] at replayed
    have kept : livePayload event.value ≠ .null := by
      intro lost
      rw [if_pos lost] at replayed
      rw [lost] at lived
      have live : "null" = (event.value.items[0]?.map Native.toText).getD "undefined" := lived.elim And.right And.right
      have replay : "[object Object]" = (event.value.items[0]?.map Native.toText).getD "undefined" :=
        replayed.elim And.right And.right
      exact absurd (live.trans replay.symm) (by decide)
    obtain ⟨plain,filled⟩ := not_not.mp (payloadLost.not.mp kept)
    refine ⟨plain,filled,fun created => ?_⟩
    obtain ⟨_,whole⟩ | ⟨other,_⟩ := lived
    · exact createdSingle plain filled whole
    · exact absurd created other
  · have live := @usedKept self _ _ survives.plain survives.filled survives.single rfl extractReceived
    have kept : livePayload event.value ≠ .null := payloadLost.not.mpr (not_not.mpr ⟨survives.plain,survives.filled⟩)
    have replay := @usedKept self _ _ survives.plain survives.filled survives.single replayName
      ((extractReplayed id createdAt).trans (if_neg kept))
    obtain ⟨h,states⟩ : ∃ h, stated self event = some h := handlingNamed named
    exact ⟨h,states,runsUsed (live.trans states),runsUsed (replay.trans states)⟩

def resolvedEvent : LiveEvent where
  ledger := 7
  txHash := "tx"
  topic := ["dispute_resolved"]
  value := .array [.text "eng-1",.number ⟨2,by decide⟩,.bool true]

theorem resolvedSurvives : ∃ h, stated {} resolvedEvent = some h ∧
    Runs {} (processEvent {} (received resolvedEvent)) (received resolvedEvent) h ∧
    let row := rawEvent (received resolvedEvent) "ev" 0
    Runs {} (processChainEventRecord {} row) (pseudoEvent row) h :=
  (payloadSurvivesIff {} resolvedEvent (by decide) "ev" 0).1.mpr ⟨fun n inside => by simp [resolvedEvent,EventValue.items] at inside,nofun,nofun⟩

def confirmedEvent : LiveEvent where
  ledger := 7
  txHash := "tx"
  topic := ["milestone_confirmed"]
  value := .array [.text "eng-1",.number ⟨0,by decide⟩,.bigint 250000000]

/-- The amount of a confirmed milestone takes the engagement and the index with it. -/
theorem confirmedLost : stated {} confirmedEvent = some (.milestoneConfirmed "eng-1" (some 0) (some 250000000)) ∧
    used {} (received confirmedEvent) = some (.milestoneConfirmed "null" none (some 0)) ∧
    used {} (pseudoEvent (rawEvent (received confirmedEvent) "ev" 0)) = some (.milestoneConfirmed "[object Object]" none (some 0)) := by
  have lost : livePayload confirmedEvent.value = .null := rfl
  refine ⟨rfl,?_,?_⟩
  · unfold used
    rw [extractReceived,lost]
    rfl
  · unfold used
    rw [extractReplayed,lost]
    rfl

end HireSettle.Escrow.StoredPayloads
