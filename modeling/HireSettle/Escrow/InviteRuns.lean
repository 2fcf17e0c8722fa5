import HireSettle.Escrow.CallEffects
import HireSettle.Escrow.ChainMirror
import HireSettle.Workflow.Guards

/-! The answers to an invite. Each operation tests the status, calls out and writes
without a second look; between its test and its write others may have answered. An
acceptance is in flight from its submission to the transaction that records it. -/
namespace HireSettle.Escrow.Invites
open Workflow EngagementsService
open ChainMirror (submission)

inductive Request where
  | acceptInvite (engagementId : String) (stellarAddress : Option String)
  | declineInvite (engagementId : String) (stellarAddress : Option String)
  | cancelEngagement (engagementId : String) (stellarAddress : Option String)

def handler : Request → Op Engagement
  | .acceptInvite engagementId stellarAddress => acceptInvite engagementId stellarAddress
  | .declineInvite engagementId stellarAddress => declineInvite engagementId stellarAddress
  | .cancelEngagement engagementId stellarAddress => cancelEngagement engagementId stellarAddress

def service : System Request Nat Site Answer Db Exception Engagement where
  handler := handler
  environment elapsed db := { db with clock := db.clock + elapsed }

abbrev InviteMove := Move Request Nat Answer

def declines (engagementId : String) (e : EscrowEvent) : Bool := !e.answer.fails && e.site = .declineInvite engagementId

/-- A call that leaves the acceptance recorded. -/
def records (engagementId : String) (e : EscrowEvent) : Bool :=
  e.site = .activateEngagement engagementId && (e.after.engagements.get? engagementId).any fun row => row.status = .active

def reads (thread : Nat) (e : EscrowEvent) : Bool := e.thread = thread && e.site = .find .engagement

/-- No acceptance is in flight. -/
def landed (engagementId : String) (earlier : List EscrowEvent) : Bool :=
  earlier.all fun d => !submission engagementId d || earlier.any fun d' => d'.thread = d.thread && records engagementId d'

/-- When the invite is submitted or declined, no acceptance is in flight, and none
was recorded since the caller has read the status. -/
def undisturbed (engagementId : String) (earlier : List EscrowEvent) (e : EscrowEvent) : Bool :=
  !(submission engagementId e || declines engagementId e) ||
    landed engagementId earlier && (earlier.takeWhile fun d => !reads e.thread d).all fun d => !records engagementId d

/-- One submission succeeds, and no decline is written after it. -/
def ActedOnce (engagementId : String) (history : List EscrowEvent) : Prop :=
  history.countP (submission engagementId) ≤ 1 ∧
  ∀ earlier e, e :: earlier <:+ history → declines engagementId e = true → ∀ d ∈ earlier, submission engagementId d = false

/-- The invite is no longer pending. -/
def Answered (engagementId : String) (db : Db) : Prop :=
  ∃ row, db.engagements.get? engagementId = some row ∧ row.status ≠ .pendingAcceptance

/-- What was answered stays answered. -/
def Stays (db db' : Db) : Prop := ∀ engagementId, Answered engagementId db → Answered engagementId db'

structure Tested (own : List EscrowEvent) (e : EscrowEvent) : Prop where
  stays : Stays e.before e.after
  pending : ∀ engagementId, submission engagementId e = true ∨ declines engagementId e = true →
    ∃ read row, lastRead .engagement own = some read ∧ read.engagements.get? engagementId = some row ∧ row.status = .pendingAcceptance

section Calls

variable {db db' : Db} {engagementId : String}

theorem staysRefl (db : Db) : Stays db db := fun _ answered => answered

theorem staysTrans {a b c : Db} (first : Stays a b) (second : Stays b c) : Stays a c :=
  fun engagementId answered => second engagementId (first engagementId answered)

theorem staysUpdate {id : String} {f : Engagement → Engagement} {keeps : ∀ row, (f row).id = row.id} {row' : Engagement}
    (status : ∀ row, (f row).status ≠ .pendingAcceptance) (updated : db.updateEngagement id f keeps = .ok (row',db')) : Stays db db' := by
  obtain ⟨row,_,_,there,elsewhere,_⟩ := Db.updateEngagementCases updated
  rintro engagementId ⟨row',found,answered⟩
  by_cases here : engagementId = id
  · subst here
    exact ⟨f row,there,status row⟩
  · exact ⟨row',(elsewhere _ here).trans found,answered⟩

theorem staysActivate {txHash : String} {createdLedger : Int} {estimates : List (Milestone × Int × Int)} {row : Engagement}
    (activated : activate engagementId txHash createdLedger estimates db = .ok (row,db')) : Stays db db' := by
  obtain ⟨⟨row',mid⟩,updated,rest⟩ := exceptBind.mp activated
  obtain ⟨last,scheduled,same⟩ := exceptBind.mp rest
  cases same
  have first : Stays db mid := by
    refine staysUpdate ?_ updated
    exact fun _ => nofun
  refine staysTrans first fun engagementId answered => ?_
  rwa [Answered,(ChainMirror.scheduledSame scheduled).engagements]

end Calls

section Guards

variable {α : Type} {own : List EscrowEvent} {thread : Nat} {site : Site} {i : Answer} {db db' : Db}

/-- The calls that answer the invite for good. -/
def Site.answers : Site → Bool
  | .submitCreateEngagement _ _ | .declineInvite _ => true
  | _ => false

theorem testedElsewhere (elsewhere : Site.answers site = false) (stays : Stays db db') : Tested own ⟨thread,site,i,db,db'⟩ := by
  refine ⟨stays,fun engagementId answers => ?_⟩
  cases site <;> first
    | cases elsewhere; done
    | simp [submission,declines] at answers

theorem testedPending {read : Db} {engagementId : String} {row : Engagement} (last : lastRead .engagement own = some read)
    (found : read.engagements.get? engagementId = some row) (pending : row.status = .pendingAcceptance)
    (here : ∀ id, submission id ⟨thread,site,i,db,db'⟩ = true ∨ declines id ⟨thread,site,i,db,db'⟩ = true → id = engagementId)
    (stays : Stays db db') : Tested own ⟨thread,site,i,db,db'⟩ :=
  ⟨stays,fun id answers => ⟨read,row,last,here id answers ▸ found,pending⟩⟩

variable {f : Answer → Db → Except Exception α}

theorem guardedQuiet (elsewhere : Site.answers site = false) : Guarded Tested anyOutcome (Process.query site f) own :=
  guardedQuery fun _ _ _ => ⟨testedElsewhere elsewhere (staysRefl _),trivial⟩

theorem guardedKeeps {β : Type} {k : α → Op β} {read : Db} (elsewhere : Site.answers site = false) (other : site ≠ .find .engagement)
    (last : lastRead .engagement own = some read)
    (rest : ∀ value own, lastRead .engagement own = some read → Guarded Tested anyOutcome (k value) own) :
    Guarded Tested anyOutcome (Process.query site f >>= k) own := by
  refine guardedBind (guardedQuery fun thread i s => ⟨testedElsewhere elsewhere (staysRefl _),?_⟩)
  split
  · exact rest _ _ ((lastReadCons other).trans last)
  · trivial

theorem guardedFindEngagement {β : Type} {g : Db → α} {k : α → Op β}
    (rest : ∀ read own, lastRead .engagement own = some read → Guarded Tested anyOutcome (k (g read)) own) :
    Guarded Tested anyOutcome (find .engagement g >>= k) own := by
  refine guardedBind (guardedQuery fun thread i s => ⟨testedElsewhere rfl (staysRefl _),?_⟩)
  split
  · rename_i value found
    split at found
    · contradiction
    · cases found
      exact rest s _ (lastReadSelf rfl)
  · trivial

theorem guardedWrites {write' : Answer → Db → Except Exception (α × Db)} (elsewhere : Site.answers site = false)
    (stays : ∀ i db value db', write' i db = .ok (value,db') → Stays db db') : Guarded Tested anyOutcome (write site write') own := by
  refine guardedTransact (fun thread i db value db' ok => ⟨testedElsewhere elsewhere ?_,trivial⟩)
    fun thread i db error _ => ⟨testedElsewhere elsewhere (staysRefl _),trivial⟩
  split at ok
  · contradiction
  · exact stays i db value db' ok

theorem staysCancelled {engagementId : String} {row : Engagement}
    (updated : db.updateEngagement engagementId (fun row => { row with status := .cancelled }) = .ok (row,db')) : Stays db db' := by
  refine staysUpdate ?_ updated
  exact fun _ => nofun

theorem guardedAcceptInvite (engagementId : String) (stellarAddress : Option String) :
    Guarded Tested anyOutcome (acceptInvite engagementId stellarAddress) [] := by
  refine guardedFindEngagement fun read own last => ?_
  cases found : read.engagements.get? engagementId with
  | none => trivial
  | some engagement =>
    have same : engagement.id = engagementId := Table.getKey found
    dsimp only [Option.map_some]
    split
    · trivial
    · split
      · trivial
      · rename_i pending
        refine guardedKeeps rfl nofun last fun balance own last => ?_
        split
        · trivial
        · refine guardedThen (guardedQuery fun thread i db => ⟨?_,trivial⟩) fun value own => ?_
          · refine testedPending last found (not_not.mp pending) (fun id answers => ?_) (staysRefl _)
            simp only [submission,declines,Bool.and_eq_true,decide_eq_true_eq,reduceCtorEq,and_false,or_false] at answers
            exact answers.2.symm.trans same
          · refine guardedThen (guardedQuiet rfl) fun currentLedger own => guardedThen (guardedQuiet rfl) fun at' own => ?_
            refine guardedThen (guardedWrites rfl fun i db row db' ok => staysActivate ok) fun accepted own => ?_
            exact guardedThen (guardedQuiet rfl) fun _ _ => trivial

theorem guardedDeclineInvite (engagementId : String) (stellarAddress : Option String) :
    Guarded Tested anyOutcome (declineInvite engagementId stellarAddress) [] := by
  refine guardedFindEngagement fun read own last => ?_
  cases found : read.engagements.get? engagementId with
  | none => trivial
  | some engagement =>
    dsimp only
    split
    · trivial
    · split
      · trivial
      · rename_i pending
        have tested : ∀ thread i db db', Stays db db' → Tested own ⟨thread,.declineInvite engagementId,i,db,db'⟩ := by
          intro thread i db db' stays
          refine testedPending last found (not_not.mp pending) (fun id answers => ?_) stays
          simp only [submission,declines,Bool.and_false,Bool.false_eq_true,false_or,Bool.and_eq_true,decide_eq_true_eq] at answers
          cases answers.2
          rfl
        refine guardedThen (guardedTransact (fun thread i db value db' ok => ⟨tested _ _ _ _ ?_,trivial⟩)
          fun thread i db error _ => ⟨tested _ _ _ _ (staysRefl _),trivial⟩) fun updated own => ?_
        · split at ok
          · contradiction
          · exact staysCancelled ok
        · exact guardedThen (guardedQuiet rfl) fun _ _ => trivial

theorem guardedCancelEngagement (engagementId : String) (stellarAddress : Option String) :
    Guarded Tested anyOutcome (cancelEngagement engagementId stellarAddress) [] := by
  refine guardedFindEngagement fun read own last => ?_
  split
  · trivial
  · split
    · trivial
    · split
      · trivial
      · refine guardedThen (guardedQuiet rfl) fun _ own => ?_
        refine guardedThen (guardedWrites rfl fun i db row db' ok => staysCancelled ok) fun updated own => ?_
        exact guardedThen (guardedQuiet rfl) fun _ _ => trivial

theorem guardedHandler (request : Request) : Guarded Tested anyOutcome (handler request) [] := by
  cases request with
  | acceptInvite engagementId stellarAddress => exact guardedAcceptInvite engagementId stellarAddress
  | declineInvite engagementId stellarAddress => exact guardedDeclineInvite engagementId stellarAddress
  | cancelEngagement engagementId stellarAddress => exact guardedCancelEngagement engagementId stellarAddress

end Guards

section Runs

variable {engagementId : String} {history : List EscrowEvent}

/-- What a thread has read last, in the history of the whole run. -/
theorem lastReadSplit {earlier : List EscrowEvent} {thread : Nat} {read : Db}
    (last : lastRead .engagement (earlier.filter fun d => d.thread = thread) = some read) :
    ∃ recent r older, earlier = recent ++ r :: older ∧ r.before = read ∧ r.site = .find .engagement ∧
      earlier.takeWhile (fun d => !reads thread d) = recent := by
  obtain ⟨r,found,rfl⟩ := Option.map_eq_some_iff.mp last
  have found : earlier.find? (reads thread) = some r := by
    simp only [List.find?_filter,Bool.decide_and,Bool.decide_eq_true] at found
    exact found
  obtain ⟨mine,recent,older,rfl,before⟩ := List.find?_eq_some_iff_append.mp found
  simp only [reads,Bool.and_eq_true,decide_eq_true_eq] at mine
  refine ⟨recent,r,older,rfl,rfl,mine.2,?_⟩
  rw [List.takeWhile_append_of_pos before,List.takeWhile_cons_of_neg,List.append_nil]
  simp [reads,mine]

theorem recordsAnswered {e : EscrowEvent} (recorded : records engagementId e = true) : Answered engagementId e.after := by
  simp only [records,Bool.and_eq_true,Option.any_eq_true,decide_eq_true_eq] at recorded
  obtain ⟨_,row,found,active⟩ := recorded
  exact ⟨row,found,by rw [active]; simp⟩

/-- An undisturbed answer finds no submission before it. -/
theorem answersFirst {earlier : List EscrowEvent} {e : EscrowEvent} (suffix : e :: earlier <:+ history)
    (advances : AllMeet (fun earlier e => ∀ d ∈ earlier, Stays d.after e.before) history)
    (tested : Tested (earlier.filter fun d => d.thread = e.thread) e) (alone : undisturbed engagementId earlier e = true)
    (answers : submission engagementId e = true ∨ declines engagementId e = true) : ∀ d ∈ earlier, submission engagementId d = false := by
  intro d inside
  by_contra submitted
  obtain ⟨read,row,last,found,pending⟩ := tested.pending engagementId answers
  obtain ⟨recent,r,older,rfl,rfl,site,since⟩ := lastReadSplit last
  have meets : landed engagementId (recent ++ r :: older) = true ∧ recent.all (fun d => !records engagementId d) = true := by
    rw [undisturbed,since] at alone
    rcases answers with here | here <;> simpa [here] using alone
  have lands := List.all_eq_true.mp meets.1 d inside
  rw [show submission engagementId d = true by simpa using submitted,Bool.not_true,Bool.false_or] at lands
  obtain ⟨d',inside',recorded⟩ := List.any_eq_true.mp lands
  have recorded := (Bool.and_eq_true_iff.mp recorded).2
  rcases List.mem_append.mp inside' with late | early
  · have fresh := List.all_eq_true.mp meets.2 d' late
    simp [recorded] at fresh
  · rcases List.mem_cons.mp early with rfl | before
    · simp [records,site] at recorded
    · -- the acceptance was recorded before the status was read
      have suffix' : r :: older <:+ history := (List.suffix_append recent _).trans ((List.suffix_cons e _).trans suffix)
      obtain ⟨row',found',answered⟩ := (meetsIff.mp advances older r suffix') d' before engagementId (recordsAnswered recorded)
      cases found.symm.trans found'
      exact answered pending

/-- In every run in which no answer to an invite crosses an acceptance of it, the
invite is submitted at most once and not declined afterwards. -/
theorem inviteActedOnce (db : Db) (engagementId : String) (moves : List InviteMove)
    (alone : ∀ earlier e, e :: earlier <:+ (service.run (Pool.initial db) moves).history → undisturbed engagementId earlier e = true) :
    ActedOnce engagementId (service.run (Pool.initial db) moves).history := by
  have begin : GuardedPool (fun _ => Tested) (Advances Stays) (Pool.initial db : Pool Request Site Answer Db Exception Engagement) :=
    guardedInitial advancesInitial
  have run : GuardedPool (fun _ => Tested) (Advances Stays) (service.run (Pool.initial db) moves) := by
    refine guardedRun (P := fun _ _ _ => True) ?_ ?_ guardedHandler begin moves (meetsAlways (fun _ _ _ _ => trivial) _)
    · exact fun request c thread site i s' advances tested _ => advancesRecord staysRefl staysTrans tested.stays advances
    · exact fun elapsed c advances => ⟨fun recent e older same calm => advances.since recent e older same calm,advances.found⟩
  have first : AllMeet (fun earlier e => submission engagementId e = true ∨ declines engagementId e = true →
      ∀ d ∈ earlier, submission engagementId d = false) (service.run (Pool.initial db) moves).history := by
    refine meetsIff.mpr fun earlier e suffix answers => ?_
    have inside : e ∈ (service.run (Pool.initial db) moves).history := suffix.subset List.mem_cons_self
    obtain ⟨t,there⟩ : ∃ t, (service.run (Pool.initial db) moves).threads[e.thread]? = some t :=
      ⟨_,List.getElem?_eq_getElem (run.known e inside)⟩
    exact answersFirst suffix run.holds.found (meetsIff.mp run.seen earlier e suffix t there) (alone earlier e suffix) answers
  refine ⟨countOnce (meetsMono (fun earlier e none submitted => none (Or.inl submitted)) first),fun earlier e suffix declined => ?_⟩
  exact meetsIff.mp first earlier e suffix (Or.inr declined)

def pending : Db where
  engagements := .single { id := "e", companyAddress := "GC", recruiterAddress := "GR", arbiterAddress := "GA", totalAmount := 1000
                           status := .pendingAcceptance }
  milestones := .single { id := "m", engagementId := "e", milestoneIndex := 0, name := "placed", kind := .placement, paymentPercent := 100 }

def accept : Request := .acceptInvite "e" (some "GR")

def decline : Request := .declineInvite "e" (some "GR")

def granted (count : Nat) : List Answer := .replicate count { number := 1000, text := "tx" }

/-- An acceptance, and a decline that comes too late. -/
def inTurn : List InviteMove := [.start accept] ++ answered 0 (granted 7) ++ [.start decline] ++ answered 1 (granted 2)

theorem acceptedActedOnce : ActedOnce "e" (service.run (Pool.initial pending) inTurn).history ∧
    (service.run (Pool.initial pending) inTurn).history.countP (submission "e") = 1 :=
  ⟨inviteActedOnce pending "e" inTurn (meetsIff.mp (by decide +kernel)),by decide +kernel⟩

/-- Two acceptances that have both read the pending invite. -/
def together : List InviteMove :=
  [.start accept,.start accept] ++ answered 0 (granted 3) ++ answered 1 (granted 3) ++ answered 0 (granted 4) ++ answered 1 (granted 4)

/-- The transaction that records the acceptance fails, and the recruiter tries again. -/
def again : List InviteMove :=
  [.start accept] ++ answered 0 (granted 5 ++ [{ fails := true }]) ++ [.start accept] ++ answered 1 (granted 7)

/-- A decline has read the pending invite, and is written after the submission. -/
def crossed : List InviteMove :=
  [.start accept,.start decline] ++ answered 0 (granted 2) ++ answered 1 (granted 1) ++ answered 0 (granted 5) ++ answered 1 (granted 2)

theorem submittedTwice (more : 1 < history.countP (submission engagementId)) : ¬ ActedOnce engagementId history :=
  fun once => absurd once.1 (Nat.not_le_of_lt more)

theorem declinedLate (late : ¬ AllMeet (fun earlier e => declines engagementId e = true → ∀ d ∈ earlier, submission engagementId d = false)
    history) : ¬ ActedOnce engagementId history :=
  fun once => late (meetsIff.mpr once.2)

theorem actedTwice :
    ¬ ActedOnce "e" (service.run (Pool.initial pending) together).history ∧
    ¬ ActedOnce "e" (service.run (Pool.initial pending) again).history ∧
    ¬ ActedOnce "e" (service.run (Pool.initial pending) crossed).history :=
  ⟨submittedTwice (by decide +kernel),submittedTwice (by decide +kernel),declinedLate (by decide +kernel)⟩

end Runs

end HireSettle.Escrow.Invites
