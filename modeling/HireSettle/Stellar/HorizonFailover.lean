import HireSettle.Common.SystemConfig
import HireSettle.Workflow.Effects
import HireSettle.Workflow.Sequential

/-! The Horizon endpoints in their order of preference. A call tries the active endpoint
as often as there are endpoints, and the active one changes when it has failed as often
in a row as the threshold says. So a call reaches an endpoint that answers if the
endpoints before it use up fewer attempts than there are. -/
namespace HireSettle.Stellar.HorizonFailoverService
open Workflow

structure Config where
  urls : List String
  threshold : Nat := 3
  configured : 0 < urls.length
  positive : 0 < threshold

structure World where
  activeIndex : Nat := 0
  consecutiveErrors : Nat → Nat := fun _ => 0

structure Response where
  url : String
  status : Int
  deriving DecidableEq, Repr

inductive Site where
  | activeUrl
  | fetch (url path : String)
  | inspect (index : Nat)
  | probe (url : String)
  deriving DecidableEq, Repr

-- an error carries its message
abbrev Op := Process Site Answer World String

def parseUrls (multiUrl singleUrl horizonUrl : String) : List String :=
  let raw := ([multiUrl,singleUrl,horizonUrl].find? (· ≠ "")).getD ""
  ((raw.splitOn ",").map trim).filter (· ≠ "")

def onModuleInit (multiUrl singleUrl horizonUrl : String) (threshold : Nat) (positive : 0 < threshold) : Except String Config :=
  if some : 0 < (parseUrls multiUrl singleUrl horizonUrl).length then
    .ok ⟨parseUrls multiUrl singleUrl horizonUrl,threshold,some,positive⟩
  else .error "No Horizon URLs configured. Set HORIZON_URLS or STELLAR_HORIZON_URL."

variable (config : Config)

def url (index : Nat) : String := config.urls.getD index ""

def setErrors (w : World) (index errors : Nat) : World :=
  { w with consecutiveErrors := fun other => if other = index then errors else w.consecutiveErrors other }

def recordSuccess (w : World) (index : Nat) : World := setErrors w index 0

def failover (w : World) : World :=
  let next := (w.activeIndex + 1) % config.urls.length
  if next = w.activeIndex then w else { w with activeIndex := next }

def recordError (w : World) (index : Nat) : World :=
  let failed := setErrors w index (w.consecutiveErrors index + 1)
  if 1 < config.urls.length ∧ config.threshold ≤ failed.consecutiveErrors index ∧ index = failed.activeIndex then failover config failed
  else failed

def activeUrl : Op String := .query .activeUrl fun _ w => .ok (url config w.activeIndex)

-- what comes of it is put down to the endpoint that is active by then
def attempt (path : String) : Op (Option Response) := do
  let active ← activeUrl config
  .transact (.fetch active path) fun answer w =>
    if answer.fails then .ok (none,recordError config w w.activeIndex)
    else .ok (some ⟨active,answer.number⟩,recordSuccess w w.activeIndex)

-- the attempts that are left count down
def attempts (path : String) : Nat → Op Response
  | 0 => .raise s!"All {config.urls.length} Horizon endpoint(s) failed for path: {path}"
  | left + 1 => do
      let response ← attempt config path
      match response with
      | some response => return response
      | none => attempts path left

def fetch (path : String) : Op Response := attempts config path config.urls.length

def restored (w : World) (index : Nat) : World :=
  { setErrors w index 0 with activeIndex := if index = 0 then 0 else w.activeIndex }

def probeEndpoint (index : Nat) : Op Unit := do
  let due ← .query (.inspect index) fun _ w => .ok (index ≠ w.activeIndex && w.consecutiveErrors index ≠ 0)
  if !due then return
  else .transact (.probe (url config index)) fun answer w =>
    if answer.fails || 500 ≤ answer.number then .ok ((),w) else .ok ((),restored w index)

def probeFailedEndpoints : Op Unit := .forEach (probeEndpoint config) (List.range config.urls.length)

inductive Request where
  | fetch (path : String)
  | probe

def handler : Request → Op Unit
  | .fetch path => do let _ ← fetch config path; return
  | .probe => probeFailedEndpoints config

def service : System Request Empty Site Answer World String Unit where
  handler := handler config
  environment := nofun

/-- The state after any fetches and probes, which may overlap. -/
def reached (moves : List (Move Request Empty Answer)) : World := ((service config).run (Pool.initial {}) moves).world

/-- A fixed set of endpoints answers. -/
def respond (up : String → Bool) (status : String → Int) : Site → Answer
  | .fetch url _ => { fails := !up url, number := status url }
  | _ => {}

/-- The attempts that fail on an endpoint before the next one is active. -/
def failing (w : World) (index : Nat) : Nat := max 1 (config.threshold - w.consecutiveErrors index)

/-- The endpoint that is so many places behind the active one. -/
def behind (w : World) (places : Nat) : Nat := (w.activeIndex + places) % config.urls.length

/-- The attempts that the endpoints before it use up. -/
def spent (w : World) (places : Nat) : Nat := ((List.range places).map fun before => failing config w (behind config w before)).sum

/-- An endpoint that answers is reached before the attempts are used up. -/
def Reaches (up : String → Bool) (w : World) (left : Nat) : Prop :=
  ∃ places, up (url config (behind config w places)) = true ∧ spent config w places < left

section Steps

variable {config : Config} {w : World} {up : String → Bool} {status : String → Int} {path : String}

abbrev Active (config : Config) (w : World) : Prop := w.activeIndex < config.urls.length

theorem activeError (active : Active config w) (index : Nat) : Active config (recordError config w index) := by
  unfold recordError failover
  dsimp only
  split
  · split
    · exact active
    · exact Nat.mod_lt _ config.configured
  · exact active

theorem activeRestored (active : Active config w) (index : Nat) : Active config (restored w index) := by
  unfold restored
  dsimp only [Active]
  split
  · exact config.configured
  · exact active

abbrev Stays (config : Config) (w w' : World) : Prop := Active config w → Active config w'

theorem stepsAttempt : Steps anySite (Stays config) (attempt config path) := by
  refine stepsBind (stepsQuery rfl (fun _ => id) _) fun active => stepsTransact rfl (fun _ => id) fun i w value w' committed => ?_
  split at committed
  · cases committed
    exact fun active => activeError active _
  · cases committed
    exact id

theorem stepsAttempts (left : Nat) : Steps anySite (Stays config) (attempts config path left) := by
  induction left with
  | zero => trivial
  | succ left ih =>
    refine stepsBind stepsAttempt fun response => ?_
    cases response with
    | none => exact ih
    | some response => trivial

theorem stepsHandler (request : Request) : Steps anySite (Stays config) (handler config request) := by
  cases request with
  | fetch path => exact stepsBind (stepsAttempts _) fun _ => trivial
  | probe =>
    refine stepsForEach (fun index => stepsBind (stepsQuery rfl (fun _ => id) _) fun due => ?_) _
    split
    · trivial
    · refine stepsTransact rfl (fun _ => id) fun i w value w' committed => ?_
      split at committed
      · cases committed
        exact id
      · cases committed
        exact fun active => activeRestored active index

theorem activeReached (moves : List (Move Request Empty Answer)) : Active config (reached config moves) := by
  have begin : AllStep anySite (Stays config) (Pool.initial {} : Pool Request Site Answer World String Unit) :=
    fun _ inside => absurd inside List.not_mem_nil
  exact (stepsRun (fun _ => id) (fun first second active => second (first active)) stepsHandler nofun begin moves).1 config.configured

end Steps

section Reached

variable {config : Config} {w : World} {up : String → Bool} {status : String → Int} {path : String}

/-- It returns what an endpoint that is up has answered. -/
def Returns (config : Config) (up : String → Bool) (status : String → Int) (path : String) (left : Nat) (w : World) : Prop :=
  ∃ response, ((attempts config path left).interpret (respond up status) w).1 = .ok response ∧ up response.url = true

theorem interpretAttempt : (attempt config path).interpret (respond up status) w =
    if up (url config w.activeIndex) then
      (.ok (some ⟨url config w.activeIndex,status (url config w.activeIndex)⟩),recordSuccess w w.activeIndex)
    else (.ok none,recordError config w w.activeIndex) := by
  rw [attempt,interpretBind,activeUrl,interpretQuery]
  simp only [interpretTransact,respond,Bool.not_eq_true']
  cases up (url config w.activeIndex) <;> rfl

theorem returnsUp (answers : up (url config w.activeIndex) = true) (left : Nat) : Returns config up status path (left + 1) w := by
  refine ⟨⟨url config w.activeIndex,status (url config w.activeIndex)⟩,?_,answers⟩
  rw [attempts,interpretBind,interpretAttempt,if_pos answers]
  rfl

theorem returnsDown (fails : up (url config w.activeIndex) = false) (left : Nat) :
    Returns config up status path (left + 1) w ↔ Returns config up status path left (recordError config w w.activeIndex) := by
  unfold Returns
  rw [attempts,interpretBind,interpretAttempt,if_neg (by simp [fails])]

/-- A failed attempt takes one off what the active endpoint uses up, or makes the next one active. -/
theorem failedAttempt (several : 1 < config.urls.length) (active : Active config w) :
    (∀ other, other ≠ w.activeIndex →
      failing config (recordError config w w.activeIndex) other = failing config w other) ∧
    ((recordError config w w.activeIndex).activeIndex = w.activeIndex ∧
        failing config w w.activeIndex = failing config (recordError config w w.activeIndex) w.activeIndex + 1 ∨
      (recordError config w w.activeIndex).activeIndex = (w.activeIndex + 1) % config.urls.length ∧
        failing config w w.activeIndex = 1) := by
  have next : (w.activeIndex + 1) % config.urls.length ≠ w.activeIndex := by
    intro same
    rcases Nat.lt_or_ge (w.activeIndex + 1) config.urls.length with inside | last
    · rw [Nat.mod_eq_of_lt inside] at same
      omega
    · have whole : w.activeIndex + 1 = config.urls.length := by omega
      rw [whole,Nat.mod_self] at same
      omega
  have positive := config.positive
  unfold recordError failover
  simp only [setErrors,if_true,and_true,several,true_and,next,if_false]
  split
  · rename_i reached
    refine ⟨fun other differs => by simp [failing,differs],Or.inr ⟨rfl,?_⟩⟩
    unfold failing
    omega
  · rename_i below
    refine ⟨fun other differs => by simp [failing,differs],Or.inl ⟨rfl,?_⟩⟩
    simp only [failing,if_true]
    omega

theorem spentBound (config : Config) (w : World) (places : Nat) : places ≤ spent config w places := by
  have each : ∀ cost ∈ (List.range places).map fun before => failing config w (behind config w before), 1 ≤ cost := by
    intro cost inside
    obtain ⟨before,_,rfl⟩ := List.mem_map.mp inside
    exact Nat.le_max_left 1 _
  simpa [spent] using List.length_le_sum_of_one_le _ each

theorem behindZero (active : Active config w) : behind config w 0 = w.activeIndex := Nat.mod_eq_of_lt active

theorem behindDiffers (active : Active config w) {places : Nat} (some : 0 < places) (less : places < config.urls.length) :
    behind config w places ≠ w.activeIndex := by
  unfold behind
  rcases Nat.lt_or_ge (w.activeIndex + places) config.urls.length with inside | round
  · rw [Nat.mod_eq_of_lt inside]
    omega
  · rw [Nat.mod_eq_sub_mod round,Nat.mod_eq_of_lt (by omega)]
    omega

theorem spentSucc (active : Active config w) (places : Nat) : spent config w (places + 1) =
    failing config w w.activeIndex + ((List.range places).map fun before => failing config w (behind config w (before + 1))).sum := by
  rw [spent,List.range_succ_eq_map,List.map_cons,List.map_map,List.sum_cons,behindZero active]
  rfl

/-- What the endpoints behind the active one use up is not changed by its failure. -/
theorem restSame (w' : World) (active : Active config w) (places : Nat) (few : places < config.urls.length)
    (others : ∀ other, other ≠ w.activeIndex → failing config w' other = failing config w other) :
    ((List.range places).map fun before => failing config w' (behind config w (before + 1))).sum =
      ((List.range places).map fun before => failing config w (behind config w (before + 1))).sum := by
  refine congrArg List.sum (List.map_congr_left fun before inside => others _ ?_)
  have below := List.mem_range.mp inside
  exact behindDiffers active (by omega) (by omega)

theorem reachesDown (active : Active config w) (fails : up (url config w.activeIndex) = false) {left : Nat}
    (within : left + 1 ≤ config.urls.length) :
    Reaches config up w (left + 1) ↔ Reaches config up (recordError config w w.activeIndex) left := by
  have further : ∀ places, up (url config (behind config w places)) = true → places ≠ 0 := by
    rintro _ answers rfl
    rw [behindZero active] at answers
    cases fails.symm.trans answers
  rcases Nat.lt_or_ge 1 config.urls.length with several | one
  · have active' := activeError active w.activeIndex
    obtain ⟨others,moves⟩ := failedAttempt several active
    generalize recordError config w w.activeIndex = w' at others moves active' ⊢
    have rest := fun places few => restSame w' active places few others
    obtain ⟨same,less⟩ | ⟨next,once⟩ := moves
    · have behindSame : ∀ places, behind config w' places = behind config w places := fun places => by rw [behind,behind,same]
      have step : ∀ places, places < config.urls.length →
          spent config w (places + 1) = spent config w' (places + 1) + 1 := fun places few => by
        rw [spentSucc active,spentSucc active',same,less]
        simp only [behindSame]
        rw [rest places few]
        omega
      constructor
      · rintro ⟨places,answers,below⟩
        have bound := spentBound config w places
        cases places with
        | zero => exact absurd rfl (further 0 answers)
        | succ places =>
          have before := step places (by omega)
          exact ⟨places + 1,by rwa [behindSame],by omega⟩
      · rintro ⟨places,answers,below⟩
        have bound := spentBound config w' places
        rw [behindSame] at answers
        cases places with
        | zero => exact absurd rfl (further 0 answers)
        | succ places =>
          have before := step places (by omega)
          exact ⟨places + 1,answers,by omega⟩
    · have behindNext : ∀ places, behind config w' places = behind config w (places + 1) := fun places => by
        rw [behind,behind,next,Nat.mod_add_mod,Nat.add_assoc,Nat.add_comm 1 places]
      have step : ∀ places, places < config.urls.length → spent config w (places + 1) = spent config w' places + 1 :=
        fun places few => by
          rw [spentSucc active,once,← rest places few,Nat.add_comm]
          simp only [spent,behindNext]
      constructor
      · rintro ⟨places,answers,below⟩
        have bound := spentBound config w places
        cases places with
        | zero => exact absurd rfl (further 0 answers)
        | succ places =>
          have before := step places (by omega)
          exact ⟨places,by rwa [behindNext],by omega⟩
      · rintro ⟨places,answers,below⟩
        have bound := spentBound config w' places
        have before := step places (by omega)
        exact ⟨places + 1,by rwa [behindNext] at answers,by omega⟩
  · have none : left = 0 := by omega
    subst none
    constructor
    · rintro ⟨places,answers,below⟩
      have bound := spentBound config w places
      exact absurd (by omega) (further places answers)
    · rintro ⟨places,answers,below⟩
      omega

theorem returnsIff (active : Active config w) {left : Nat} (within : left ≤ config.urls.length) :
    Returns config up status path left w ↔ Reaches config up w left := by
  induction left generalizing w with
  | zero =>
    constructor
    · rintro ⟨response,returned,_⟩
      cases returned
    · rintro ⟨places,_,below⟩
      omega
  | succ left ih =>
    cases answers : up (url config w.activeIndex) with
    | true =>
      refine ⟨fun _ => ⟨0,?_,?_⟩,fun _ => returnsUp answers left⟩
      · rwa [behindZero active]
      · exact Nat.succ_pos left
    | false => rw [returnsDown answers,reachesDown active answers within,ih (activeError active _) (by omega)]

end Reached

/-- From whatever state, a call returns what an endpoint that is up has answered exactly
if the endpoints before one use up fewer attempts than there are endpoints. -/
theorem fetchReachesUp (moves : List (Move Request Empty Answer)) (up : String → Bool) (status : String → Int) (path : String) :
    (∃ response, ((fetch config path).interpret (respond up status) (reached config moves)).1 = .ok response ∧ up response.url = true) ↔
      Reaches config up (reached config moves) config.urls.length :=
  returnsIff (activeReached moves) (Nat.le_refl _)

-- two endpoints, the second of which is up, and the default threshold
def primaryDown : Config := ⟨["a","b"],3,by decide,by decide⟩

theorem fetchMissesUp : ¬ ((∃ url ∈ primaryDown.urls, (url = "b") = true) →
    ∃ response, ((fetch primaryDown "/").interpret (respond (fun url => url = "b") fun _ => 200) (reached primaryDown [])).1 = .ok response ∧
      decide (response.url = "b") = true) := by
  intro reaches
  obtain ⟨response,returned,_⟩ := reaches ⟨"b",by decide,by decide⟩
  have raised : (((fetch primaryDown "/").interpret (respond (fun url => url = "b") fun _ => 200) (reached primaryDown [])).1.toOption).isNone =
      true := by decide +kernel
  rw [returned] at raised
  cases raised

end HireSettle.Stellar.HorizonFailoverService
