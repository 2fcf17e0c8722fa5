import HireSettle.Common.SystemConfig

/-! What becomes of a setting that one instance has saved when another one reads it. A
value is stored as its text; the text is trimmed and taken for a value of its type. -/
namespace HireSettle
open Workflow

section Trimming

variable {s : String}

theorem trimInt (n : Int) : trim (toString n) = toString n := by
  cases n with
  | ofNat n => exact trimDigits (Numerals.digitsNat n)
  | negSucc n =>
    refine trimPlain fun c inside => ?_
    rw [Numerals.textNegSucc] at inside
    obtain rfl | digit := List.mem_cons.mp inside
    · rfl
    · exact digitNoSpace (List.all_eq_true.mp (Numerals.digitsNat (n + 1)) c digit)

theorem textInt (n : Int) : toString n ≠ "" := by
  intro none
  cases n with
  | ofNat n => exact Nat.repr_ne_empty none
  | negSucc n =>
    have text := Numerals.textNegSucc n
    rw [none] at text
    cases text

theorem integerOfInt {n : Int} (safe : isSafeInteger n = true) : integerOf (toString n) = some n := by
  have small : n.natAbs < 2 ^ 53 := by
    simp only [isSafeInteger,Bool.and_eq_true,decide_eq_true_eq] at safe
    omega
  rw [integerOf,trimInt,Numerals.numberInt small]
  simp [Numerals.Number.integer]

theorem stroopsDigits (stroops : isStroops s.toList = true) : s.toList.all Char.isDigit = true ∧ s ≠ "" := by
  constructor
  · unfold isStroops at stroops
    split at stroops
    · rename_i zero
      rw [zero]
      rfl
    · rename_i c rest _ text
      simp only [Bool.and_eq_true] at stroops
      rw [text,List.all_cons,stroops.1.1.1,stroops.2]
      rfl
    · cases stroops
  · rintro rfl
    cases stroops

end Trimming

section Validation

variable {d : SystemConfigDefinition} {raw v : Json}

/-- What a value of a setting is that its definition accepts. -/
def Shaped (type : SystemConfigType) (v : Json) : Prop :=
  match type with
  | .integer => ∃ n, v = .number n ∧ isSafeInteger n = true
  | .stroops => ∃ s, v = .text s ∧ isStroops s.toList = true
  | .boolean => ∃ b, v = .bool b
  | .string => ∃ s, v = .text s

theorem acceptedText {s : String} (string : d.type = .string) (accepted : validateSystemConfigValue d (.text s) = .ok v) :
    v = .text s := by
  unfold validateSystemConfigValue at accepted
  simp only [string] at accepted
  split at accepted
  · cases accepted
  · split at accepted <;> cases accepted
    rfl

theorem acceptedShape (accepted : validateSystemConfigValue d raw = .ok v) :
    Shaped d.type v ∧ validateSystemConfigValue d v = .ok v := by
  unfold validateSystemConfigValue at accepted ⊢
  cases type : d.type with
  | integer =>
    simp only [type] at accepted ⊢
    split at accepted
    · rename_i n
      split at accepted
      · rename_i safe
        obtain ⟨rfl,_⟩ := SystemConfigService.boundsKept accepted
        exact ⟨⟨n,rfl,safe⟩,by simpa only [safe,if_true] using accepted⟩
      · cases accepted
    · cases accepted
  | stroops =>
    simp only [type] at accepted ⊢
    split at accepted
    · rename_i s _
      split at accepted
      · rename_i stroops
        obtain ⟨rfl,_⟩ := SystemConfigService.boundsKept accepted
        exact ⟨⟨s,rfl,stroops⟩,by simpa only [stroops,if_true] using accepted⟩
      · cases accepted
    · cases accepted
  | boolean =>
    simp only [type] at accepted ⊢
    split at accepted
    · rename_i b
      cases accepted
      exact ⟨⟨b,rfl⟩,rfl⟩
    · cases accepted
  | string =>
    simp only [type] at accepted ⊢
    split at accepted
    · rename_i s
      obtain rfl : v = .text s := acceptedText type (by simpa only [validateSystemConfigValue,type] using accepted)
      exact ⟨⟨s,rfl⟩,accepted⟩
    · cases accepted

theorem parsedText {s : String} (some : s ≠ "") (trimmed : trim s = s) (candidate : candidateOf integerOf d.type s = v)
    (accepted : validateSystemConfigValue d v = .ok v) : parseSystemConfigValue integerOf d (.some s) = .some v := by
  have there : present (.some s) = .some s := by simp [present,some]
  simp only [parseSystemConfigValue,there,trimmed,candidate,accepted,Except.toOption]

end Validation

/-- A stored value is the one that was saved. -/
def Survives (d : SystemConfigDefinition) (v : Json) : Prop :=
  parseSystemConfigValue integerOf d (some (serializeSystemConfigValue v)) = some v

/-- Two instances give one value for a setting after one has saved it and the other has read
the store again. -/
def Agrees (d : SystemConfigDefinition) (raw : Json) : Prop :=
  ∀ (env env' : String → Option String) (first second saved refreshed : SystemConfigService),
    second.registry = first.registry → first.definition d.key = .ok d → first.set d.key raw false = .ok saved →
      { second with stored := saved.stored }.refresh integerOf false = .ok refreshed →
        refreshed.get integerOf env' d.key = saved.get integerOf env d.key

theorem survivesIff {d : SystemConfigDefinition} {raw v : Json} (accepted : validateSystemConfigValue d raw = .ok v) :
    Survives d v ↔ (d.type = .string → ∀ s, v = .text s → s ≠ "" ∧ trim s = s) := by
  obtain ⟨shape,again⟩ := acceptedShape accepted
  cases type : d.type with
  | integer =>
    rw [type] at shape
    obtain ⟨n,rfl,safe⟩ := shape
    refine iff_of_true (parsedText (textInt n) (trimInt n) ?_ again) nofun
    rw [type]
    exact congrArg (fun number => Option.elim number Json.null Json.number) (integerOfInt safe)
  | stroops =>
    rw [type] at shape
    obtain ⟨s,rfl,stroops⟩ := shape
    obtain ⟨digits,some⟩ := stroopsDigits stroops
    exact iff_of_true (parsedText some (trimDigits digits) (by rw [type]; rfl) again) nofun
  | boolean =>
    rw [type] at shape
    obtain ⟨b,rfl⟩ := shape
    refine iff_of_true ?_ nofun
    cases b with
    | true => exact parsedText (by decide) (by decide) (by rw [type]; decide +kernel) again
    | false => exact parsedText (by decide) (by decide) (by rw [type]; decide +kernel) again
  | string =>
    rw [type] at shape
    obtain ⟨s,rfl⟩ := shape
    constructor
    · intro survives _ s' same
      cases same
      unfold Survives parseSystemConfigValue at survives
      split at survives
      · cases survives
      · rename_i text there
        obtain ⟨same,some⟩ := Option.filter_eq_some_iff.mp there
        cases same
        refine ⟨of_decide_eq_true some,?_⟩
        cases read : validateSystemConfigValue d (candidateOf integerOf d.type (trim s)) with
        | error refused =>
          have survives : (validateSystemConfigValue d (candidateOf integerOf d.type (trim s))).toOption = .some (.text s) := survives
          rw [read] at survives
          cases survives
        | ok out =>
          have survives : (validateSystemConfigValue d (candidateOf integerOf d.type (trim s))).toOption = .some (.text s) := survives
          rw [read] at survives
          cases survives
          have trimmed := acceptedText type (show validateSystemConfigValue d (.text (trim s)) = _ by rw [type] at read; exact read)
          exact (Json.text.inj trimmed).symm
    · intro trimmed
      obtain ⟨some,same⟩ := trimmed rfl s rfl
      exact parsedText some same (by rw [type]; rfl) again

theorem agreesSurvives {d : SystemConfigDefinition} {raw v : Json} (accepted : validateSystemConfigValue d raw = .ok v)
    (survives : Survives d v) : Agrees d raw := by
  intro env env' first second saved refreshed same found set refresh
  obtain ⟨d',value,found',checked,rfl⟩ := SystemConfigService.setTaken set
  cases found.symm.trans found'
  cases accepted.symm.trans checked
  have registered := SystemConfigService.foundRegistered found
  have stored := Table.upsertGet first.stored (⟨d.key,serializeSystemConfigValue v⟩ : SystemConfigRow)
    (fun r => { r with value := serializeSystemConfigValue v }) (fun _ => rfl) d.key
  rw [if_pos (show d.key = Keyed.key (⟨d.key,serializeSystemConfigValue v⟩ : SystemConfigRow) from rfl)] at stored
  cases refresh
  have read : ((first.stored.upsert (⟨d.key,serializeSystemConfigValue v⟩ : SystemConfigRow) fun r =>
      { r with value := serializeSystemConfigValue v }).get? d.key).bind (fun row => (second.registry.get? d.key).bind fun definition =>
        parseSystemConfigValue integerOf definition row.value) = some v := by
    rw [stored,same,registered]
    cases first.stored.get? d.key <;> exact survives
  have known : second.definition d.key = .ok d := SystemConfigService.definitionFound (by rw [same]; exact registered)
  refine Eq.trans (b := .ok v) ?_ (Eq.symm ?_)
  · exact SystemConfigService.getOverridden (d := d) known read
  · exact SystemConfigService.getOverridden (d := d) found (if_pos rfl)

/-- A setting survives storage unless it is a string that is empty or has white space at an end. -/
theorem storedIff {d : SystemConfigDefinition} {raw v : Json} (accepted : validateSystemConfigValue d raw = .ok v) :
    Survives d v ∧ Agrees d raw ↔ (d.type = .string → ∀ s, v = .text s → s ≠ "" ∧ trim s = s) := by
  rw [← survivesIff accepted]
  exact ⟨And.left,fun survives => ⟨survives,agreesSurvives accepted survives⟩⟩

def greeting : SystemConfigDefinition where
  key := "mail.greeting"
  type := .string
  defaultValue := .text "Hello"
  maxLength := some 20

theorem storedGreeting : Survives greeting (.text "Good day") ∧ Agrees greeting (.text "Good day") ↔
    (greeting.type = .string → ∀ s, Json.text "Good day" = .text s → s ≠ "" ∧ trim s = s) :=
  storedIff (by decide +kernel)

def greetings : SystemConfigService where
  registry := ⟨[greeting],by decide⟩
  stored := .empty

/-- A greeting with a blank at its end is read without it by the other instance. -/
theorem trimmedGreeting : validateSystemConfigValue greeting (.text "Hello, ") = .ok (.text "Hello, ") ∧
    ¬ Survives greeting (.text "Hello, ") ∧ ¬ Agrees greeting (.text "Hello, ") := by
  refine ⟨by decide +kernel,by unfold Survives; decide +kernel,fun agrees => ?_⟩
  have same := agrees (fun _ => none) (fun _ => none) greetings greetings _ _ rfl (by rfl) rfl rfl
  revert same
  decide +kernel

end HireSettle
