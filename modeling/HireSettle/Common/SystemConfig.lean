import HireSettle.Common.Calls
import HireSettle.Common.Json
import HireSettle.Workflow.Numerals
import HireSettle.Workflow.Table

/-! The settings an admin changes at run time. A value is the override that was saved
last, else what the environment says, else the default. The overrides are kept in
memory; what is stored is read again at the start and on every refresh. -/
namespace HireSettle
open Workflow

inductive SystemConfigType where
  | integer | boolean | string | stroops
  deriving DecidableEq, Repr

/-- A bound, a number or a text, by what the code makes of it: the text that a message
shows, `Number(bound)` and `BigInt(bound)`. -/
structure Bound where
  text : String
  number : Numerals.Number
  bigInt : Except Exception Int

instance (n : Nat) : OfNat Bound n := ⟨⟨toString n,.finite n,.ok n⟩⟩

theorem boundAbove (bound : Nat) (n : Int) : (OfNat.ofNat bound : Bound).number.isAbove n = decide (n < bound) := by
  refine decide_eq_decide.mpr ?_
  exact_mod_cast Iff.rfl

theorem boundBelow (bound : Nat) (n : Int) : (OfNat.ofNat bound : Bound).number.isBelow n = decide (bound < n) := by
  refine decide_eq_decide.mpr ?_
  exact_mod_cast Iff.rfl

structure SystemConfigDefinition where
  key : String
  type : SystemConfigType
  envKey : Option String := none
  defaultValue : Json
  min : Option Bound := none
  max : Option Bound := none
  allowed : Option (List String) := none
  maxLength : Option Nat := none

def SYSTEM_CONFIG_DEFINITIONS : List SystemConfigDefinition := [
  { key := "disputes.slaAssignmentHours", type := .integer, envKey := "DISPUTE_SLA_ASSIGNMENT_HOURS"
    defaultValue := .number 24, min := some 1, max := some 720 },
  { key := "disputes.slaReviewHours", type := .integer, envKey := "DISPUTE_SLA_REVIEW_HOURS"
    defaultValue := .number 72, min := some 1, max := some 720 },
  { key := "disputes.slaAppealHours", type := .integer, envKey := "DISPUTE_SLA_APPEAL_HOURS"
    defaultValue := .number 72, min := some 1, max := some 720 },
  { key := "disputes.appealWindowHours", type := .integer, envKey := "DISPUTE_APPEAL_WINDOW_HOURS"
    defaultValue := .number 72, min := some 0, max := some 720 },
  { key := "milestones.placementReminderDays", type := .integer, envKey := "PLACEMENT_MILESTONE_REMINDER_DAYS"
    defaultValue := .number 7, min := some 0, max := some 365 },
  { key := "stellar.balanceAlertThresholdStroops", type := .stroops, envKey := "STELLAR_BALANCE_ALERT_THRESHOLD_STROOPS"
    defaultValue := .text "10000000", min := some 0, max := some 1000000000000000 }]

def isSafeInteger (n : Int) : Bool := -(2 ^ 53 - 1) ≤ n && n ≤ 2 ^ 53 - 1

-- `/^(0|[1-9]\d{0,18})$/`
def isStroops : List Char → Bool
  | ['0'] => true
  | c :: rest => c.isDigit && c ≠ '0' && rest.length ≤ 18 && rest.all Char.isDigit
  | [] => false

def decimal (digits : List Char) : Int := digits.foldl (fun n c => 10 * n + (c.toNat - '0'.toNat)) 0

inductive SettingError where
  | validation (message : String)
  | thrown (error : Exception)
  deriving DecidableEq, Repr

def checkBound (bound : Option Bound) (beyond : Bound → Except Exception Bool) (message : String) : Except SettingError Unit :=
  match bound with
  | none => .ok ()
  | some bound =>
      match beyond bound with
      | .error error => .error (.thrown error)
      | .ok true => .error (.validation (message ++ bound.text))
      | .ok false => .ok ()

def checkBounds (definition : SystemConfigDefinition) (below above : Bound → Except Exception Bool) (value : Json) :
    Except SettingError Json := do
  checkBound definition.min below (definition.key ++ " must be >= ")
  checkBound definition.max above (definition.key ++ " must be <= ")
  return value

def validateSystemConfigValue (definition : SystemConfigDefinition) (value : Json) : Except SettingError Json :=
  match definition.type with
  | .integer =>
      match value with
      | .number n =>
          if isSafeInteger n then
            checkBounds definition (fun min => .ok (min.number.isAbove n)) (fun max => .ok (max.number.isBelow n)) value
          else .error (.validation (definition.key ++ " must be an integer"))
      | _ => .error (.validation (definition.key ++ " must be an integer"))
  | .stroops =>
      let text := match value with
        | .number n => if isSafeInteger n then some (toString n) else none
        | .text s => some s
        | _ => none
      match text with
      | some s =>
          if isStroops s.toList then
            let amount := decimal s.toList
            checkBounds definition (fun min => min.bigInt.map fun least => decide (amount < least))
              (fun max => max.bigInt.map fun most => decide (most < amount)) (.text s)
          else .error (.validation (definition.key ++ " must be a non-negative integer number of stroops (string)"))
      | none => .error (.validation (definition.key ++ " must be a non-negative integer number of stroops (string)"))
  | .boolean =>
      match value with
      | .bool _ => .ok value
      | _ => .error (.validation (definition.key ++ " must be true or false"))
  | .string =>
      match value with
      | .text s =>
          if definition.allowed.any (s ∉ ·) then
            .error (.validation (definition.key ++ " must be one of: " ++ String.intercalate ", " (definition.allowed.getD [])))
          else if definition.maxLength.any (· < utf16Length s) then
            .error (.validation s!"{definition.key} must be at most {definition.maxLength.getD 0} characters")
          else .ok value
      | _ => .error (.validation (definition.key ++ " must be a string"))

def serializeSystemConfigValue (value : Json) : String := value.toText

-- the white space and line ends that `trim` takes away
def isSpace (c : Char) : Bool :=
  c.toNat ∈ [0x9,0xa,0xb,0xc,0xd,0x20,0xa0,0x1680,0x2028,0x2029,0x202f,0x205f,0x3000,0xfeff] ||
    0x2000 ≤ c.toNat && c.toNat ≤ 0x200a

def trim (s : String) : String :=
  String.ofList (((s.toList.dropWhile isSpace).reverse.dropWhile isSpace).reverse)

section Trimming

variable {s : String}

theorem trimPlain (plain : ∀ c ∈ s.toList, isSpace c = false) : trim s = s := by
  have kept : ∀ l : List Char, (∀ c ∈ l, isSpace c = false) → l.dropWhile isSpace = l := by
    intro l plain
    cases l with
    | nil => rfl
    | cons c rest => rw [List.dropWhile_cons_of_neg (by simp [plain c List.mem_cons_self])]
  rw [trim,kept _ plain,kept _ fun c inside => plain c (List.mem_reverse.mp inside),List.reverse_reverse,String.ofList_toList]

theorem trimShown (line : List Char) : trim (String.ofList line) ≠ "" ↔ line.any (fun c => !isSpace c) = true := by
  have blank : trim (String.ofList line) = "" ↔ ∀ c ∈ line, isSpace c = true := by
    rw [trim,String.toList_ofList,← String.toList_inj,String.toList_ofList]
    simp only [String.toList_empty,List.reverse_eq_nil_iff,List.dropWhile_eq_nil_iff,List.mem_reverse]
    constructor
    · intro rest c inside
      rw [← List.takeWhile_append_dropWhile (p := isSpace) (l := line)] at inside
      obtain front | behind := List.mem_append.mp inside
      · exact List.mem_takeWhile_imp front
      · exact rest c behind
    · exact fun all c behind => all c ((List.dropWhile_sublist _).subset behind)
  rw [ne_eq,blank]
  simp

theorem digitNoSpace {c : Char} (digit : c.isDigit = true) : isSpace c = false := by
  have bounds : 48 ≤ c.toNat ∧ c.toNat ≤ 57 := by
    simp only [Char.isDigit,Bool.and_eq_true,decide_eq_true_eq,ge_iff_le,UInt32.le_iff_toNat_le] at digit
    exact digit
  unfold isSpace
  simp only [List.mem_cons,List.not_mem_nil,or_false,Bool.or_eq_false_iff,decide_eq_false_iff_not,Bool.and_eq_false_iff]
  omega

theorem trimDigits (plain : s.toList.all Char.isDigit = true) : trim s = s :=
  trimPlain fun c inside => digitNoSpace (List.all_eq_true.mp plain c inside)

end Trimming

-- `Number(text)` where it is an integer
def integerOf (text : String) : Option Int := (Numerals.number (trim text).toList).integer

-- `BigInt(text)`, none when it throws
def bigIntOf (text : String) : Option Int := Numerals.bigInt (trim text).toList

-- the text of a setting as a value of its type, null where it is no number
def candidateOf (number : String → Option Int) (type : SystemConfigType) (text : String) : Json :=
  match type with
  | .integer => (number text).elim .null .number
  | .boolean =>
      if text.toLower ∈ ["true","1","yes"] then .bool true
      else if text.toLower ∈ ["false","0","no"] then .bool false
      else .text text
  | _ => .text text

def parseSystemConfigValue (number : String → Option Int) (definition : SystemConfigDefinition) (raw : Option String) : Option Json :=
  match present raw with
  | none => none
  | some raw => (validateSystemConfigValue definition (candidateOf number definition.type (trim raw))).toOption

structure SystemConfigRow where
  key : String
  value : String
  deriving DecidableEq, Repr

instance : Keyed SystemConfigRow String := ⟨SystemConfigRow.key⟩

theorem SystemConfigRow.valueKey (value : String) (row : SystemConfigRow) : Keyed.key { row with value := value } = Keyed.key row := rfl

/-- The settings there are, one for a key. -/
structure SystemConfigRegistry where
  definitions : List SystemConfigDefinition
  unique : (definitions.map SystemConfigDefinition.key).Nodup

def SYSTEM_CONFIG_DEFINITION_MAP : SystemConfigRegistry := ⟨SYSTEM_CONFIG_DEFINITIONS,by decide⟩

def SystemConfigRegistry.get? (registry : SystemConfigRegistry) (key : String) : Option SystemConfigDefinition :=
  registry.definitions.find? fun definition => definition.key = key

/-- One instance of the service, and the table that it shares with the others. -/
structure SystemConfigService where
  registry : SystemConfigRegistry := SYSTEM_CONFIG_DEFINITION_MAP
  stored : Table SystemConfigRow
  overrides : String → Option Json := fun _ => none

namespace SystemConfigService

variable (number : String → Option Int) (env : String → Option String) (service : SystemConfigService)

def definition (key : String) : Except Exception SystemConfigDefinition :=
  match service.registry.get? key with
  | some definition => .ok definition
  | none => .error (.notFound ("Unknown system config key \"" ++ key ++ "\""))

def fallback (definition : SystemConfigDefinition) : Json :=
  ((present definition.envKey).bind fun envKey => parseSystemConfigValue number definition (env envKey)).getD definition.defaultValue

def resolve (definition : SystemConfigDefinition) : Json :=
  (service.overrides definition.key).getD (fallback number env definition)

def get (key : String) : Except Exception Json := (service.definition key).map (service.resolve number env)

def set (key : String) (rawValue : Json) (fails : Bool) : Except Exception SystemConfigService := do
  let definition ← service.definition key
  let value ← match validateSystemConfigValue definition rawValue with
    | .ok value => .ok value
    | .error (.validation message) => .error (.badRequest message)
    | .error (.thrown error) => .error error
  if fails then .error .database
  else
    let row : SystemConfigRow := ⟨key,serializeSystemConfigValue value⟩
    return { service with
      stored := service.stored.upsert row fun r => { r with value := row.value }
      overrides := fun other => if other = key then some value else service.overrides other }

def reset (key : String) (fails : Bool) : Except Exception SystemConfigService := do
  let _ ← service.definition key
  if fails then .error .database
  else return { service with
    stored := service.stored.deleteMany fun row => row.key = key
    overrides := fun other => if other = key then none else service.overrides other }

def refresh (fails : Bool) : Except Exception SystemConfigService :=
  if fails then .error .database
  else .ok { service with
    overrides := fun key => (service.stored.get? key).bind fun row =>
      (service.registry.get? key).bind fun definition =>
        parseSystemConfigValue number definition row.value }

inductive Call where
  | set (key : String) (rawValue : Json) (fails : Bool)
  | reset (key : String) (fails : Bool)
  | refresh (fails : Bool)

def answer : Call → Except Exception SystemConfigService
  | .set key rawValue fails => service.set key rawValue fails
  | .reset key fails => service.reset key fails
  | .refresh fails => service.refresh number fails

/-- Every override in memory is a value that its definition accepts. -/
def Valid : Prop := ∀ key value, service.overrides key = some value →
  ∃ d raw, service.definition key = .ok d ∧ validateSystemConfigValue d raw = .ok value

-- a call that throws leaves the service as it is
def after (call : Call) : SystemConfigService := (service.answer number call).toOption.getD service

def calls (requests : List Call) : SystemConfigService := requests.foldl (after number) service

variable {number env service}

theorem definitionFound {key : String} {d : SystemConfigDefinition} (found : service.registry.get? key = some d) :
    service.definition key = .ok d := by
  simp only [definition,found]

theorem foundRegistered {key : String} {d : SystemConfigDefinition} (found : service.definition key = .ok d) :
    service.registry.get? key = some d := by
  unfold definition at found
  split at found
  · rename_i there
    cases found
    exact there
  · cases found

theorem getOverridden {key : String} {d : SystemConfigDefinition} {value : Json} (found : service.definition key = .ok d)
    (overridden : service.overrides d.key = some value) : service.get number env key = .ok value := by
  simp only [get,found,Except.map,resolve,overridden,Option.getD_some]

theorem setTaken {key : String} {rawValue : Json} {fails : Bool} {next : SystemConfigService}
    (answered : service.set key rawValue fails = .ok next) : ∃ d value, service.definition key = .ok d ∧
      validateSystemConfigValue d rawValue = .ok value ∧ next = { service with
        stored := service.stored.upsert (⟨key,serializeSystemConfigValue value⟩ : SystemConfigRow) fun r =>
          { r with value := serializeSystemConfigValue value }
        overrides := fun other => if other = key then some value else service.overrides other } := by
  unfold set at answered
  cases found : service.definition key with
  | error error => simp [found,bind,Except.bind] at answered
  | ok d =>
    cases checked : validateSystemConfigValue d rawValue with
    | error refused => cases refused <;> simp [found,checked,bind,Except.bind] at answered
    | ok value =>
      cases fails with
      | true => simp [found,checked,bind,Except.bind] at answered
      | false =>
        simp only [found,checked,bind,Except.bind,Bool.false_eq_true,if_false,pure,Except.pure,Except.ok.injEq] at answered
        exact ⟨d,value,rfl,checked,answered.symm⟩

theorem parsedValid {d : SystemConfigDefinition} {raw : Option String} {value : Json}
    (parsed : parseSystemConfigValue number d raw = some value) : ∃ raw, validateSystemConfigValue d raw = .ok value := by
  unfold parseSystemConfigValue at parsed
  split at parsed
  · cases parsed
  · rename_i text _
    refine ⟨candidateOf number d.type (trim text),?_⟩
    cases checked : validateSystemConfigValue d (candidateOf number d.type (trim text)) with
    | error message => rw [checked] at parsed; cases parsed
    | ok found => rw [checked] at parsed; exact congrArg Except.ok (Option.some.inj parsed)

theorem registryAnswer {call : Call} {next : SystemConfigService} (answered : service.answer number call = .ok next) :
    next.registry = service.registry := by
  cases call with
  | set key rawValue fails =>
    obtain ⟨d,value,_,_,rfl⟩ := setTaken answered
    rfl
  | reset key fails =>
    cases found : service.definition key <;> cases fails <;>
      simp [answer,reset,found,bind,Except.bind,pure,Except.pure] at answered
    rw [← answered]
  | refresh fails =>
    cases fails <;> cases answered
    rfl

theorem validAnswer (valid : service.Valid) {call : Call} {next : SystemConfigService}
    (answered : service.answer number call = .ok next) : next.Valid := by
  cases call with
  | set key rawValue fails =>
    obtain ⟨d,value,found,checked,rfl⟩ := setTaken answered
    intro other value' there
    dsimp only at there
    split at there
    · rename_i same
      exact ⟨d,rawValue,same ▸ found,Option.some.inj there ▸ checked⟩
    · exact valid other value' there
  | reset key fails =>
    cases found : service.definition key with
    | error error => simp [answer,reset,found,bind,Except.bind] at answered
    | ok d =>
      cases fails with
      | true => simp [answer,reset,found,bind,Except.bind] at answered
      | false =>
        simp only [answer,reset,found,bind,Except.bind,Bool.false_eq_true,if_false,pure,Except.pure,Except.ok.injEq] at answered
        subst answered
        intro other value' there
        dsimp only at there
        split at there
        · cases there
        · exact valid other value' there
  | refresh fails =>
    cases fails with
    | true => cases answered
    | false =>
      cases answered
      intro key value there
      obtain ⟨row,_,there⟩ := Option.bind_eq_some_iff.mp there
      obtain ⟨d,found,parsed⟩ := Option.bind_eq_some_iff.mp there
      obtain ⟨raw,checked⟩ := parsedValid parsed
      exact ⟨d,raw,definitionFound found,checked⟩

theorem validCalls (valid : service.Valid) (requests : List Call) :
    (service.calls number requests).Valid ∧ (service.calls number requests).registry = service.registry := by
  induction requests generalizing service with
  | nil => exact ⟨valid,rfl⟩
  | cons call rest ih =>
    have kept : (service.after number call).Valid ∧ (service.after number call).registry = service.registry := by
      unfold after
      cases answered : service.answer number call with
      | error error => exact ⟨valid,rfl⟩
      | ok next => exact ⟨validAnswer valid answered,registryAnswer answered⟩
    obtain ⟨served,same⟩ := ih kept.1
    exact ⟨served,same.trans kept.2⟩

theorem boundKept {bound : Option Bound} {beyond : Bound → Except Exception Bool} {message : String}
    (checked : checkBound bound beyond message = .ok ()) : ∀ b, bound = some b → beyond b = .ok false := by
  rintro b rfl
  unfold checkBound at checked
  dsimp only at checked
  split at checked
  · cases checked
  · cases checked
  · assumption

theorem boundsKept {d : SystemConfigDefinition} {below above : Bound → Except Exception Bool} {value out : Json}
    (checked : checkBounds d below above value = .ok out) : out = value ∧
      (∀ b, d.min = some b → below b = .ok false) ∧ ∀ b, d.max = some b → above b = .ok false := by
  unfold checkBounds at checked
  cases least : checkBound d.min below (d.key ++ " must be >= ") with
  | error refused => simp [least,bind,Except.bind] at checked
  | ok _ =>
    cases most : checkBound d.max above (d.key ++ " must be <= ") with
    | error refused => simp [least,most,bind,Except.bind] at checked
    | ok _ =>
      simp only [least,most,bind,Except.bind,pure,Except.pure,Except.ok.injEq] at checked
      exact ⟨checked.symm,boundKept least,boundKept most⟩

/-- An integer that its definition accepts. -/
structure Within (d : SystemConfigDefinition) (value : Json) (n : Int) : Prop where
  number : value = .number n
  least : ∀ least, d.min = some least → least.number.isAbove n = false
  most : ∀ most, d.max = some most → most.number.isBelow n = false

theorem withinChecked {d : SystemConfigDefinition} {raw value : Json} (integer : d.type = .integer)
    (checked : validateSystemConfigValue d raw = .ok value) : ∃ n, Within d value n := by
  simp only [validateSystemConfigValue,integer] at checked
  split at checked
  · rename_i n
    split at checked
    · obtain ⟨same,least,most⟩ := boundsKept checked
      exact ⟨n,same,fun b named => Except.ok.inj (least b named),fun b named => Except.ok.inj (most b named)⟩
    · cases checked
  · cases checked

theorem resolvedWithin (valid : service.Valid) {key : String} {d : SystemConfigDefinition} (found : service.definition key = .ok d)
    (integer : d.type = .integer) (default : ∃ n, Within d d.defaultValue n) (named : d.key = key) :
    ∃ n, Within d (service.resolve number env d) n := by
  unfold resolve fallback
  cases overridden : service.overrides d.key with
  | some value =>
    obtain ⟨d',raw,found',checked⟩ := valid d.key value overridden
    rw [named,found] at found'
    cases found'
    exact withinChecked integer checked
  | none =>
    cases parsed : (present d.envKey).bind fun envKey => parseSystemConfigValue number d (env envKey) with
    | some value =>
      obtain ⟨envKey,_,parsed⟩ := Option.bind_eq_some_iff.mp parsed
      obtain ⟨raw,checked⟩ := parsedValid parsed
      exact withinChecked integer checked
    | none => exact default

end SystemConfigService

end HireSettle
