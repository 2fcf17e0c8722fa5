import Mathlib

/-! The alert for a low balance of the Stellar account. The flag of a breach is stored
before the admins are loaded, and later runs are silent while it is set. -/
namespace HireSettle.Admin.BalanceAlerts

inductive Event where
  | observed (high : Bool)
  | raised (active : List String)
  | lowered
  | notified (id message : String)
  deriving DecidableEq, Repr

/-- What the calls of a run answer; none is a failure, and so is false for a call without a result. -/
structure Run where
  address : Option String
  balance : Option Int
  threshold : Option Int
  found : Bool := true
  lowered : Bool := true
  raised : Bool := true
  -- the active admins when the flag is set, and those that are loaded afterwards
  active : List String := []
  admins : Option {ids : List String // ids.Nodup} := none

structure State where
  isRunning : Bool := false
  -- the value of the row `stellar_balance_alert_breached`
  flag : Option String := none
  events : List Event := []

namespace StellarBalanceAlertService

def upsert (value : String) (event : Event) (s : State) : State := { s with flag := some value, events := s.events ++ [event] }

def notifyUserById (message : String) (s : State) (id : String) : State := { s with events := s.events ++ [.notified id message] }

def lowBalance (address : String) (balance threshold : Int) : String :=
  s!"The configured Stellar account {address} has a balance of {balance} stroops, below the alert threshold of {threshold} stroops."

-- the body of the `try`; a failure ends it
def check (run : Run) (s : State) : State :=
  match run.address, run.balance, run.threshold with
  | some address, some balance, some threshold =>
      let breached := decide (balance < threshold)
      let s := { s with events := s.events ++ [.observed (!breached)] }
      if !run.found then s
      else
        let wasBreached := decide (s.flag = some "true")
        if !breached then
          if wasBreached && run.lowered then upsert "false" .lowered s else s
        else if wasBreached then s
        else if !run.raised then s
        else
          let s := upsert "true" (.raised run.active) s
          match run.admins with
          | none => s
          | some admins => admins.val.foldl (notifyUserById (lowBalance address balance threshold)) s
  | _, _, _ => s

def checkBalance (s : State) (run : Run) : State :=
  if s.isRunning then s
  else { check run { s with isRunning := true } with isRunning := false }

end StellarBalanceAlertService

open StellarBalanceAlertService

def Tells (id : String) (event : Option Event) : Prop := ∃ message, event = some (.notified id message)

/-- Everyone who was active when the flag was last set has been notified since. -/
def Noticed (events : List Event) : Prop :=
  ∃ (i : Nat) (active : List String), events[i]? = some (.raised active) ∧ (∀ j, i < j → ∀ later, events[j]? ≠ some (.raised later)) ∧
    ∀ id ∈ active, ∃ j, i < j ∧ Tells id events[j]?

/-- Between two notices to one admin a high balance was observed. -/
def Once (events : List Event) : Prop :=
  ∀ (i j : Nat) (id : String), i < j → Tells id events[i]? → Tells id events[j]? → ∃ k, i < k ∧ k < j ∧ events[k]? = some (.observed true)

structure Reported (s : State) : Prop where
  noticed : s.flag = some "true" → Noticed s.events
  once : Once s.events

/-- The run sets the flag. -/
structure Raises (s : State) (run : Run) : Prop where
  address : run.address ≠ none
  low : ∃ balance threshold, run.balance = some balance ∧ run.threshold = some threshold ∧ balance < threshold
  found : run.found = true
  lowered : s.flag ≠ some "true"
  raised : run.raised = true

def notices (run : Run) (message : String) : List Event := ((run.admins.map Subtype.val).getD []).map fun id => .notified id message

/-- What a run adds to the history, and the flag it leaves. -/
inductive Checked (s : State) (run : Run) (s' : State) : Prop where
  | quiet (new : List Event) (events : s'.events = s.events ++ new) (silent : ∀ event ∈ new, ∃ high, event = .observed high)
      (flag : s'.flag = s.flag) (idle : ¬ Raises s run)
  | lowered (events : s'.events = s.events ++ [.observed true,.lowered]) (flag : s'.flag = some "false") (idle : ¬ Raises s run)
  | raised (message : String) (raises : Raises s run)
      (events : s'.events = s.events ++ ([.observed false,.raised run.active] ++ notices run message)) (flag : s'.flag = some "true")

theorem notifyAll (message : String) (ids : List String) (s : State) :
    (ids.foldl (notifyUserById message) s).events = s.events ++ ids.map (fun id => .notified id message) ∧
      (ids.foldl (notifyUserById message) s).flag = s.flag := by
  induction ids generalizing s with
  | nil => simp
  | cons id ids ih =>
      obtain ⟨events,flag⟩ := ih (notifyUserById message s id)
      rw [List.foldl_cons,events,flag]
      simp [notifyUserById]

theorem checkChecked (run : Run) (s : State) : Checked s run (check run s) := by
  have silence : ∀ event ∈ ([] : List Event), ∃ high, event = .observed high := nofun
  have observed (high : Bool) : ∀ event ∈ [Event.observed high], ∃ high, event = .observed high :=
    List.forall_mem_singleton.mpr ⟨high,rfl⟩
  unfold check
  split
  · rename_i address balance threshold known funds limit
    have low (raises : Raises s run) : balance < threshold := by
      obtain ⟨total,least,first,second,less⟩ := raises.low
      rw [funds] at first
      rw [limit] at second
      cases first
      cases second
      exact less
    dsimp only
    split
    · rename_i missing
      exact .quiet _ rfl (observed _) rfl fun raises => by simp [raises.found] at missing
    · rename_i found
      split
      · rename_i high
        have idle : ¬ Raises s run := fun raises => by simp [low raises] at high
        split
        · rename_i both
          refine .lowered ?_ rfl idle
          have more : (!decide (balance < threshold)) = true := high
          simp [upsert,more]
        · exact .quiet _ rfl (observed _) rfl idle
      · rename_i breached
        split
        · rename_i before
          exact .quiet _ rfl (observed _) rfl fun raises => raises.lowered (of_decide_eq_true before)
        · rename_i after
          split
          · rename_i failed
            exact .quiet _ rfl (observed _) rfl fun raises => by simp [raises.raised] at failed
          · rename_i written
            have less : balance < threshold := by simpa using breached
            have shown : (!decide (balance < threshold)) = false := by simpa using less
            have raises : Raises s run :=
              ⟨by simp [known],⟨balance,threshold,funds,limit,less⟩,by simpa using found,by simpa using after,by simpa using written⟩
            cases loaded : run.admins with
            | none =>
                refine .raised (lowBalance address balance threshold) raises ?_ rfl
                simp [upsert,notices,loaded,shown]
            | some admins =>
                obtain ⟨events,flag⟩ := notifyAll (lowBalance address balance threshold) admins.val
                  (upsert "true" (.raised run.active) { s with events := s.events ++ [.observed (!decide (balance < threshold))] })
                refine .raised (lowBalance address balance threshold) raises (events.trans ?_) flag
                simp [upsert,notices,loaded,shown]
  · rename_i other
    refine .quiet [] (List.append_nil _).symm silence rfl fun raises => ?_
    obtain ⟨address,known⟩ := Option.ne_none_iff_exists'.mp raises.address
    obtain ⟨balance,threshold,funds,limit,_⟩ := raises.low
    exact other address balance threshold known funds limit

theorem checkBalanceChecked {s : State} (idle : s.isRunning = false) (run : Run) : Checked s run (checkBalance s run) := by
  rw [checkBalance,if_neg (by simp [idle])]
  cases checkChecked run { s with isRunning := true } with
  | quiet new events silent flag idle => exact .quiet new events silent flag fun raises => idle ⟨raises.1,raises.2,raises.3,raises.4,raises.5⟩
  | lowered events flag idle => exact .lowered events flag fun raises => idle ⟨raises.1,raises.2,raises.3,raises.4,raises.5⟩
  | raised message raises events flag => exact .raised message ⟨raises.1,raises.2,raises.3,raises.4,raises.5⟩ events flag

/-- Notices without a later high balance; none are left when the flag is not set. -/
def Settled (events : List Event) : Prop :=
  ∀ (i : Nat) (id : String), Tells id events[i]? → ∃ k, i < k ∧ events[k]? = some (.observed true)

structure Inv (s : State) : Prop where
  idle : s.isRunning = false
  settled : s.flag ≠ some "true" → Settled s.events
  once : Once s.events

/-- Everyone who is active when the run sets the flag is loaded by it. -/
def Loads (run : Run) : Prop := ∀ id ∈ run.active, ∃ admins, run.admins = some admins ∧ id ∈ admins.val

section Events

variable {events new : List Event} {id : String} {i : Nat}

theorem tellsAppend (tells : Tells id (events ++ new)[i]?) :
    (i < events.length ∧ Tells id events[i]?) ∨ (events.length ≤ i ∧ Tells id new[i - events.length]?) := by
  obtain less | more := Nat.lt_or_ge i events.length
  · rw [List.getElem?_append_left less] at tells
    exact .inl ⟨less,tells⟩
  · rw [List.getElem?_append_right more] at tells
    exact .inr ⟨more,tells⟩

theorem keptAt {event : Event} (found : events[i]? = some event) : (events ++ new)[i]? = some event :=
  (List.getElem?_append_left (List.getElem?_eq_some_iff.mp found).1).trans found

theorem settledAppend (settled : Settled events) (silent : ∀ (j : Nat) (id : String), ¬ Tells id new[j]?) : Settled (events ++ new) := by
  intro i id tells
  obtain ⟨_,told⟩ | ⟨_,told⟩ := tellsAppend tells
  · obtain ⟨k,later,high⟩ := settled i id told
    exact ⟨k,later,keptAt high⟩
  · exact absurd told (silent _ _)

theorem settledHigh (silent : ∀ (j : Nat) (id : String), ¬ Tells id new[j]?) (high : new[0]? = some (.observed true)) :
    Settled (events ++ new) := by
  intro i id tells
  obtain ⟨less,_⟩ | ⟨_,told⟩ := tellsAppend tells
  · refine ⟨events.length,less,?_⟩
    rw [List.getElem?_append_right (Nat.le_refl _),Nat.sub_self,high]
  · exact absurd told (silent _ _)

theorem onceAppend (once : Once events) (settled : Settled events ∨ ∀ (j : Nat) (id : String), ¬ Tells id new[j]?) (apart : Once new) :
    Once (events ++ new) := by
  intro i j id less first second
  obtain ⟨before,first⟩ | ⟨after,first⟩ := tellsAppend first
  · obtain ⟨_,second⟩ | ⟨after,told⟩ := tellsAppend second
    · obtain ⟨k,later,earlier,high⟩ := once i j id less first second
      exact ⟨k,later,earlier,keptAt high⟩
    · obtain settled | silent := settled
      · obtain ⟨k,later,high⟩ := settled i id first
        have inside : k < events.length := (List.getElem?_eq_some_iff.mp high).1
        exact ⟨k,later,by omega,keptAt high⟩
      · exact absurd told (silent _ _)
  · obtain ⟨less,_⟩ | ⟨more,second⟩ := tellsAppend second
    · omega
    · obtain ⟨k,later,earlier,high⟩ := apart _ _ id (by omega) first second
      refine ⟨events.length + k,by omega,by omega,?_⟩
      rw [List.getElem?_append_right (by omega),Nat.add_sub_cancel_left]
      exact high

end Events

section Notices

variable {run : Run} {message : String} {events : List Event} {s : State}

theorem silentQuiet {new : List Event} (silent : ∀ event ∈ new, ∃ high, event = .observed high) (j : Nat) (id : String) :
    ¬ Tells id new[j]? := by
  intro ⟨message,told⟩
  obtain ⟨high,same⟩ := silent _ (List.mem_of_getElem? told)
  cases same

theorem silentLowered (j : Nat) (id : String) : ¬ Tells id [Event.observed true,.lowered][j]? := by
  intro ⟨message,told⟩
  have inside := List.mem_of_getElem? told
  simp at inside

theorem onceSilent {new : List Event} (silent : ∀ (j : Nat) (id : String), ¬ Tells id new[j]?) : Once new :=
  fun i _ id _ first _ => absurd first (silent i id)

theorem tellsNotices {k : Nat} {id : String} : Tells id (notices run message)[k]? ↔ ∃ admins, run.admins = some admins ∧ admins.val[k]? = some id := by
  unfold notices Tells
  cases run.admins with
  | none => simp
  | some admins => simp

theorem tellsRaised {i : Nat} {id : String} (told : Tells id ([Event.observed false,.raised run.active] ++ notices run message)[i]?) :
    ∃ k, i = k + 2 ∧ Tells id (notices run message)[k]? := by
  obtain ⟨other,found⟩ := told
  match i, found with
  | k + 2, found => exact ⟨k,rfl,other,found⟩

theorem onceRaised : Once ([Event.observed false,.raised run.active] ++ notices run message) := by
  intro i j id less first second
  obtain ⟨m,rfl,first⟩ := tellsRaised first
  obtain ⟨n,rfl,second⟩ := tellsRaised second
  obtain ⟨admins,loaded,before⟩ := tellsNotices.mp first
  obtain ⟨others,again,after⟩ := tellsNotices.mp second
  rw [loaded] at again
  cases again
  have same : m = n := (List.getElem?_inj (List.getElem?_eq_some_iff.mp before).1 admins.property).mp (before.trans after.symm)
  omega

theorem noticedQuiet {new : List Event} (noticed : Noticed events) (silent : ∀ event ∈ new, ∃ high, event = .observed high) :
    Noticed (events ++ new) := by
  obtain ⟨i,active,raised,last,told⟩ := noticed
  refine ⟨i,active,keptAt raised,fun j later others found => ?_,fun id inside => ?_⟩
  · obtain less | more := Nat.lt_or_ge j events.length
    · rw [List.getElem?_append_left less] at found
      exact last j later others found
    · rw [List.getElem?_append_right more] at found
      obtain ⟨high,same⟩ := silent _ (List.mem_of_getElem? found)
      cases same
  · obtain ⟨j,later,message,found⟩ := told id inside
    exact ⟨j,later,message,keptAt found⟩

theorem noticedRaised : Noticed (events ++ ([.observed false,.raised run.active] ++ notices run message)) ↔ Loads run := by
  have place : (events ++ ([.observed false,.raised run.active] ++ notices run message))[events.length + 1]? = some (.raised run.active) := by
    rw [List.getElem?_append_right (by omega),Nat.add_sub_cancel_left]
    rfl
  have behind (k : Nat) : (events ++ ([.observed false,.raised run.active] ++ notices run message))[events.length + 2 + k]? =
      (notices run message)[k]? := by
    rw [List.getElem?_append_right (by omega),Nat.add_assoc,Nat.add_sub_cancel_left,Nat.add_comm 2]
    rfl
  have unraised (k : Nat) (later : List String) : (notices run message)[k]? ≠ some (.raised later) := by
    intro found
    obtain ⟨id,_,same⟩ := List.mem_map.mp (List.mem_of_getElem? found)
    cases same
  constructor
  · intro ⟨i,active,raised,last,told⟩ id inside
    have same : i = events.length + 1 := by
      obtain less | same | more := Nat.lt_trichotomy i (events.length + 1)
      · exact absurd place (last _ less _)
      · exact same
      · obtain ⟨k,rfl⟩ := Nat.exists_eq_add_of_le (more : events.length + 2 ≤ i)
        rw [behind] at raised
        exact absurd raised (unraised k active)
    subst same
    rw [place] at raised
    cases raised
    obtain ⟨j,later,found⟩ := told id inside
    obtain ⟨k,rfl⟩ := Nat.exists_eq_add_of_le (later : events.length + 2 ≤ j)
    rw [behind] at found
    obtain ⟨admins,loaded,listed⟩ := tellsNotices.mp found
    exact ⟨admins,loaded,List.mem_of_getElem? listed⟩
  · intro loads
    refine ⟨events.length + 1,run.active,place,fun j later others found => ?_,fun id inside => ?_⟩
    · obtain ⟨k,rfl⟩ := Nat.exists_eq_add_of_le (later : events.length + 2 ≤ j)
      rw [behind] at found
      exact unraised k others found
    · obtain ⟨admins,loaded,inside⟩ := loads id inside
      obtain ⟨k,listed⟩ := List.mem_iff_getElem?.mp inside
      refine ⟨events.length + 2 + k,by omega,?_⟩
      rw [behind]
      exact tellsNotices.mpr ⟨admins,loaded,listed⟩

end Notices

section Runs

variable {s : State} {run : Run}

theorem invCheck (inv : Inv s) (run : Run) : Inv (checkBalance s run) := by
  have free : (checkBalance s run).isRunning = false := by
    rw [checkBalance,if_neg (by simp [inv.idle])]
  cases checkBalanceChecked inv.idle run with
  | quiet new events silent flag _ =>
      refine ⟨free,fun lower => ?_,?_⟩
      · rw [events]
        exact settledAppend (inv.settled (flag ▸ lower)) (silentQuiet silent)
      · rw [events]
        exact onceAppend inv.once (.inr (silentQuiet silent)) (onceSilent (silentQuiet silent))
  | lowered events _ _ =>
      refine ⟨free,fun _ => ?_,?_⟩
      · rw [events]
        exact settledHigh silentLowered rfl
      · rw [events]
        exact onceAppend inv.once (.inr silentLowered) (onceSilent silentLowered)
  | raised message raises events flag =>
      refine ⟨free,fun lower => absurd flag lower,?_⟩
      rw [events]
      exact onceAppend inv.once (.inl (inv.settled raises.lowered)) onceRaised

theorem invRuns (inv : Inv s) (runs : List Run) : Inv (runs.foldl checkBalance s) := by
  induction runs generalizing s with
  | nil => exact inv
  | cons run runs ih => exact ih (invCheck inv run)

theorem noticedCheck (inv : Inv s) (run : Run) (noticed : s.flag = some "true" → Noticed s.events) (loads : Raises s run → Loads run) :
    (checkBalance s run).flag = some "true" → Noticed (checkBalance s run).events := by
  intro stored
  cases checkBalanceChecked inv.idle run with
  | quiet new events silent flag _ =>
      rw [events]
      exact noticedQuiet (noticed (flag ▸ stored)) silent
  | lowered _ flag _ =>
      rw [flag] at stored
      exact absurd stored (by decide)
  | raised message raises events _ =>
      rw [events]
      exact noticedRaised.mpr (loads raises)

theorem raisedLoads (inv : Inv s) (raises : Raises s run) (reported : Reported (checkBalance s run)) : Loads run := by
  cases checkBalanceChecked inv.idle run with
  | quiet _ _ _ _ idle => exact absurd raises idle
  | lowered _ _ idle => exact absurd raises idle
  | raised message _ events flag =>
      have noticed : Noticed (checkBalance s run).events := reported.noticed flag
      rw [events] at noticed
      exact noticedRaised.mp noticed

/-- The state after the first of the runs. -/
def after (flag : Option String) (runs : List Run) : State := runs.foldl checkBalance { flag := flag }

theorem invAfter (flag : Option String) (runs : List Run) : Inv (after flag runs) := by
  have none : ∀ (i : Nat) (id : String), ¬ Tells id ([] : List Event)[i]? := fun _ _ ⟨_,told⟩ => by cases told
  have start : Inv { flag := flag } := ⟨rfl,fun _ i id told => absurd told (none i id),onceSilent none⟩
  exact invRuns start runs

/-- The alert is reported in all states between the runs. -/
def AlwaysReported (flag : Option String) (runs : List Run) : Prop :=
  ∀ done rest, runs = done ++ rest → Reported (after flag done)

/-- Every run that sets the flag loads those who are active then. -/
def AlwaysLoaded (flag : Option String) (runs : List Run) : Prop :=
  ∀ done run rest, runs = done ++ run :: rest → Raises (after flag done) run → Loads run

theorem reportedIff (flag : Option String) (fresh : flag ≠ some "true") (runs : List Run) :
    AlwaysReported flag runs ↔ AlwaysLoaded flag runs := by
  have further (done : List Run) (run : Run) : after flag (done ++ [run]) = checkBalance (after flag done) run := by
    rw [after,List.foldl_append]
    rfl
  constructor
  · intro reported done run rest parts raises
    have next : Reported (after flag (done ++ [run])) := reported (done ++ [run]) rest (by rw [parts,List.append_assoc]; rfl)
    rw [further] at next
    exact raisedLoads (invAfter flag done) raises next
  · intro loads done
    induction done using List.reverseRecOn with
    | nil => exact fun rest _ => ⟨fun stored => absurd stored fresh,(invAfter flag []).once⟩
    | append_singleton done run ih =>
        intro rest parts
        rw [List.append_assoc] at parts
        have before : Reported (after flag done) := ih ([run] ++ rest) parts
        refine ⟨?_,(invAfter flag (done ++ [run])).once⟩
        rw [further]
        exact noticedCheck (invAfter flag done) run before.noticed (loads done run rest parts)

def loaded : Run where
  address := some "GB"
  balance := some 5
  threshold := some 10
  active := ["a","b"]
  admins := some ⟨["a","b"],by decide⟩

theorem loadedReported : AlwaysReported none [loaded] := by
  refine (reportedIff none (by decide) [loaded]).mpr fun done run rest parts _ => ?_
  cases done with
  | nil =>
      cases parts
      exact fun id inside => ⟨_,rfl,inside⟩
  | cons first done => simp at parts

-- the admins cannot be loaded
def unloaded : Run := { loaded with admins := none }

/-- The flag is set and nobody was notified, so the later runs are silent. -/
theorem breachUnreported : (after none [unloaded]).flag = some "true" ∧ ¬ AlwaysReported none [unloaded] := by
  refine ⟨rfl,fun reported => ?_⟩
  have noticed : Noticed (after none [unloaded]).events := (reported [unloaded] [] rfl).noticed rfl
  have history : (after none [unloaded]).events = [] ++ ([.observed false,.raised unloaded.active] ++ notices unloaded "") := rfl
  rw [history,noticedRaised] at noticed
  obtain ⟨admins,missing,_⟩ := noticed "a" List.mem_cons_self
  cases missing

end Runs

end HireSettle.Admin.BalanceAlerts
