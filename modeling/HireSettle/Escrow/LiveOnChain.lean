import HireSettle.Escrow.InviteRuns

/-! The status of an engagement under six operations. Each tests the status, or reads
the chain, and writes later without a second look; two of them refuse some statuses
and let every other through, and a synchronization takes any live status from the
chain. A live engagement should have been submitted, and a cancelled one should stay
cancelled unless the chain says otherwise. -/
namespace HireSettle.Escrow.LiveOnChain
open Workflow EngagementsService
open ChainMirror (submission)

inductive Request where
  | create (userId : String) (dto : CreateEngagementDto)
  | acceptInvite (engagementId : String) (stellarAddress : Option String)
  | declineInvite (engagementId : String) (stellarAddress : Option String)
  | cancelEngagement (engagementId : String) (stellarAddress : Option String)
  | requestReplacement (engagementId : String) (stellarAddress : Option String)
  | syncFromChain (engagementId : String)

def handler (self : Config) : Request → Op Unit
  | .create userId dto => do let _ ← create self userId dto
  | .acceptInvite engagementId stellarAddress => do let _ ← acceptInvite engagementId stellarAddress
  | .declineInvite engagementId stellarAddress => do let _ ← declineInvite engagementId stellarAddress
  | .cancelEngagement engagementId stellarAddress => do let _ ← cancelEngagement engagementId stellarAddress
  | .requestReplacement engagementId stellarAddress => do let _ ← requestReplacement engagementId stellarAddress
  | .syncFromChain engagementId => syncFromChain engagementId

def service (self : Config) : System Request Nat Site Answer Db Exception Unit where
  handler := handler self
  environment elapsed db := { db with clock := db.clock + elapsed }

abbrev StatusMove := Move Request Nat Answer

def EngagementStatus.live : EngagementStatus → Bool
  | .active | .replacementRequested => true
  | _ => false

variable (engagementId : String)

def chainRead (e : EscrowEvent) : Bool := !e.answer.fails && e.site = .simulateContract engagementId

/-- The status that a synchronization has read on the chain. -/
def statusRead (own : List EscrowEvent) : Option EngagementStatus :=
  (own.find? (chainRead engagementId)).map fun e => statusOf e.answer.text

/-- The contract knows the engagement only once it was submitted. -/
def Knows (earlier : List EscrowEvent) (e : EscrowEvent) : Prop :=
  chainRead engagementId e = true → e.answer.text ≠ "" → ∃ d ∈ earlier, submission engagementId d = true

/-- A live engagement was submitted, and its transaction is on record. -/
def OnChain (history : List EscrowEvent) (db : Db) : Prop :=
  ∀ row, db.engagements.get? engagementId = some row → EngagementStatus.live row.status = true →
    row.txHash ≠ none ∧ ∃ d ∈ history, submission engagementId d = true

/-- A cancelled engagement is not revived, unless by a synchronization that has read another status. -/
def StaysCancelled (earlier : List EscrowEvent) (e : EscrowEvent) : Prop :=
  ∀ row, e.before.engagements.get? engagementId = some row → row.status = .cancelled →
    (∃ row', e.after.engagements.get? engagementId = some row' ∧ row'.status = .cancelled) ∨
    e.site = .syncEngagement engagementId ∧
      ∃ status, statusRead engagementId (earlier.filter fun d => d.thread = e.thread) = some status ∧ status ≠ .cancelled

/-- The row is one for which the write of its operation was meant. -/
def Meant (earlier : List EscrowEvent) (e : EscrowEvent) (row : Engagement) : Prop :=
  match e.site with
  | .requestReplacement _ => row.txHash ≠ none ∧ row.status ≠ .cancelled
  | .activateEngagement _ => row.status ≠ .cancelled
  | .syncEngagement _ => row.txHash ≠ none ∨
      ∀ status, statusRead engagementId (earlier.filter fun d => d.thread = e.thread) = some status → EngagementStatus.live status = false
  | _ => True

/-- A write that takes effect meets such a row. -/
def Timely (earlier : List EscrowEvent) (e : EscrowEvent) : Prop :=
  ∀ row, e.before.engagements.get? engagementId = some row → e.after.engagements.get? engagementId ≠ some row →
    Meant engagementId earlier e row

instance (earlier : List EscrowEvent) (e : EscrowEvent) (row : Engagement) : Decidable (Meant engagementId earlier e row) := by
  have absent : ∀ read : Option EngagementStatus, Decidable (∀ status, read = some status → EngagementStatus.live status = false) :=
    fun read => inferInstanceAs (Decidable (∀ status ∈ read, _))
  unfold Meant
  generalize e.site = site
  induction site using Site.casesOn <;> first | infer_instance | exact @instDecidableOr _ _ _ (absent _)

instance (earlier : List EscrowEvent) (e : EscrowEvent) : Decidable (Timely engagementId earlier e) :=
  inferInstanceAs (Decidable (∀ row ∈ e.before.engagements.get? engagementId,
    e.after.engagements.get? engagementId ≠ some row → Meant engagementId earlier e row))

/-- What a call of the six operations does to the row. -/
inductive RowStep (own : List EscrowEvent) (e : EscrowEvent) : Prop where
  | same (row : e.after.engagements.get? engagementId = e.before.engagements.get? engagementId)
  | created (row : Engagement) (before : e.before.engagements.get? engagementId = none)
      (after : e.after.engagements.get? engagementId = some row) (status : row.status = .pendingAcceptance) (txHash : row.txHash = none)
  | replaced (row : Engagement) (site : e.site = .requestReplacement engagementId)
      (before : e.before.engagements.get? engagementId = some row)
      (after : e.after.engagements.get? engagementId = some { row with status := .replacementRequested })
  | activated (row row' : Engagement) (site : e.site = .activateEngagement engagementId)
      (before : e.before.engagements.get? engagementId = some row) (after : e.after.engagements.get? engagementId = some row')
      (status : row'.status = .active) (txHash : row'.txHash ≠ none) (submitted : ∃ d ∈ own, submission engagementId d = true)
  | cancelled (row : Engagement) (site : e.site = .declineInvite engagementId ∨ e.site = .markCancelled engagementId)
      (before : e.before.engagements.get? engagementId = some row)
      (after : e.after.engagements.get? engagementId = some { row with status := .cancelled })
  | synced (row row' : Engagement) (site : e.site = .syncEngagement engagementId)
      (before : e.before.engagements.get? engagementId = some row) (after : e.after.engagements.get? engagementId = some row')
      (read : EscrowEvent) (found : own.find? (chainRead engagementId) = some read) (known : read.answer.text ≠ "")
      (status : row'.status = statusOf read.answer.text) (txHash : row'.txHash = row.txHash)

section Steps

variable {engagementId} {earlier : List EscrowEvent} {e : EscrowEvent}

/-- A submitted transaction is on record, and what is live has one. -/
def Recorded (engagementId : String) (history : List EscrowEvent) (db : Db) : Prop :=
  ∀ row, db.engagements.get? engagementId = some row →
    (row.txHash ≠ none → ∃ d ∈ history, submission engagementId d = true) ∧ (EngagementStatus.live row.status = true → row.txHash ≠ none)

theorem recordedOnChain {history : List EscrowEvent} {db : Db} (recorded : Recorded engagementId history db) : OnChain engagementId history db :=
  fun row found live => ⟨(recorded row found).2 live,(recorded row found).1 ((recorded row found).2 live)⟩

theorem ownSubmitted (submitted : ∃ d ∈ earlier.filter fun d => d.thread = e.thread, submission engagementId d = true) :
    ∃ d ∈ e :: earlier, submission engagementId d = true := by
  obtain ⟨d,inside,its⟩ := submitted
  exact ⟨d,List.mem_cons_of_mem _ (List.mem_of_mem_filter inside),its⟩

/-- A status that was read on the chain is one of a submitted engagement. -/
theorem readSubmitted {read : EscrowEvent} (knows : AllMeet (Knows engagementId) earlier)
    (found : (earlier.filter fun d => d.thread = e.thread).find? (chainRead engagementId) = some read) (known : read.answer.text ≠ "") :
    ∃ d ∈ e :: earlier, submission engagementId d = true := by
  have inside : read ∈ earlier := List.mem_of_mem_filter (List.mem_of_find?_eq_some found)
  obtain ⟨older,suffix,knew⟩ := meetsAt knows inside
  obtain ⟨d,there,its⟩ := knew (List.find?_some found) known
  exact ⟨d,List.mem_cons_of_mem _ (suffix.subset (List.mem_cons_of_mem _ there)),its⟩

theorem timelyKeeps (recorded : Recorded engagementId earlier e.before) (knows : AllMeet (Knows engagementId) earlier)
    (step : RowStep engagementId (earlier.filter fun d => d.thread = e.thread) e) (timely : Timely engagementId earlier e) :
    Recorded engagementId (e :: earlier) e.after ∧ StaysCancelled engagementId earlier e := by
  have later : ∀ {row : Engagement}, (row.txHash ≠ none → ∃ d ∈ earlier, submission engagementId d = true) → row.txHash ≠ none →
      ∃ d ∈ e :: earlier, submission engagementId d = true := by
    intro row submitted hash
    obtain ⟨d,inside,its⟩ := submitted hash
    exact ⟨d,List.mem_cons_of_mem _ inside,its⟩
  cases step with
  | same same =>
    refine ⟨fun row found => ?_,fun row found cancelled => Or.inl ⟨row,same.trans found,cancelled⟩⟩
    have before := recorded row (same.symm.trans found)
    exact ⟨later before.1,before.2⟩
  | created row before after status txHash =>
    refine ⟨fun row' found => ?_,fun row' found => ?_⟩
    · cases after.symm.trans found
      exact ⟨fun some => absurd txHash some,fun live => by rw [status] at live; contradiction⟩
    · cases before.symm.trans found
  | replaced row site before after =>
    have its := recorded row before
    by_cases same : e.after.engagements.get? engagementId = some row
    · refine ⟨fun row' found => ?_,fun row' found cancelled => ?_⟩
      · cases same.symm.trans found
        exact ⟨later its.1,its.2⟩
      · cases before.symm.trans found
        exact Or.inl ⟨row,same,cancelled⟩
    · have meets := timely row before same
      rw [Meant,site] at meets
      refine ⟨fun row' found => ?_,fun row' found cancelled => ?_⟩
      · cases after.symm.trans found
        exact ⟨later its.1,fun _ => meets.1⟩
      · cases before.symm.trans found
        exact absurd cancelled meets.2
  | activated row row' site before after status txHash submitted =>
    by_cases same : e.after.engagements.get? engagementId = some row
    · refine ⟨fun row'' found => ?_,fun row'' found cancelled => ?_⟩
      · cases after.symm.trans found
        exact ⟨fun _ => ownSubmitted submitted,fun _ => txHash⟩
      · cases before.symm.trans found
        exact Or.inl ⟨row,same,cancelled⟩
    · have meets := timely row before same
      rw [Meant,site] at meets
      refine ⟨fun row'' found => ?_,fun row'' found cancelled => ?_⟩
      · cases after.symm.trans found
        exact ⟨fun _ => ownSubmitted submitted,fun _ => txHash⟩
      · cases before.symm.trans found
        exact absurd cancelled meets
  | cancelled row site before after =>
    refine ⟨fun row' found => ?_,fun row' found cancelled => Or.inl ⟨_,after,rfl⟩⟩
    cases after.symm.trans found
    exact ⟨later (recorded row before).1,fun live => by contradiction⟩
  | synced row row' site before after read found known status txHash =>
    have its := recorded row before
    have submitted := readSubmitted knows found known
    have reads : statusRead engagementId (earlier.filter fun d => d.thread = e.thread) = some (statusOf read.answer.text) := by
      rw [statusRead,found]
      rfl
    refine ⟨fun row'' there => ?_,fun row'' there cancelled => ?_⟩
    · cases after.symm.trans there
      refine ⟨fun _ => submitted,fun live => ?_⟩
      by_cases same : row' = row
      · subst same
        exact its.2 live
      · have changed : e.after.engagements.get? engagementId ≠ some row := fun there => same (Option.some.inj (after.symm.trans there))
        have meets := timely row before changed
        rw [Meant,site] at meets
        obtain hash | dead := meets
        · rwa [txHash]
        · rw [status,dead _ reads] at live
          contradiction
    · by_cases revived : statusOf read.answer.text = .cancelled
      · exact Or.inl ⟨row',after,status.trans revived⟩
      · exact Or.inr ⟨site,_,reads,revived⟩

theorem keptTimely (step : RowStep engagementId (earlier.filter fun d => d.thread = e.thread) e)
    (onChain : OnChain engagementId (e :: earlier) e.after) (stays : StaysCancelled engagementId earlier e) :
    Timely engagementId earlier e := by
  intro row found changed
  cases step with
  | same same => exact absurd (same.trans found) changed
  | created row' before after status txHash => cases before.symm.trans found
  | replaced row' site before after =>
    cases before.symm.trans found
    rw [Meant,site]
    refine ⟨(onChain _ after rfl).1,fun cancelled => ?_⟩
    obtain ⟨row'',there,still⟩ | ⟨other,_⟩ := stays row before cancelled
    · cases after.symm.trans there
      cases still
    · cases site.symm.trans other
  | activated row' row'' site before after status txHash submitted =>
    cases before.symm.trans found
    rw [Meant,site]
    intro cancelled
    obtain ⟨later,there,still⟩ | ⟨other,_⟩ := stays row before cancelled
    · cases after.symm.trans there
      cases status.symm.trans still
    · cases site.symm.trans other
  | cancelled row' site before after =>
    obtain site | site := site <;> rw [Meant,site] <;> trivial
  | synced row' row'' site before after read there known status txHash =>
    cases before.symm.trans found
    rw [Meant,site]
    have reads : statusRead engagementId (earlier.filter fun d => d.thread = e.thread) = some (statusOf read.answer.text) := by
      rw [statusRead,there]
      rfl
    cases live : EngagementStatus.live row''.status with
    | true => exact Or.inl (txHash ▸ (onChain row'' after live).1)
    | false =>
      refine Or.inr fun status' its => ?_
      cases reads.symm.trans its
      rwa [← status]

end Steps

section Calls

variable {engagementId : String} {own : List EscrowEvent} {α β : Type} {site : Site} {k : α → Op β}

theorem rowUpdate (engagementId : String) {id : String} {f : Engagement → Engagement} {keeps : ∀ row, (f row).id = row.id} {row' : Engagement} {db db' : Db}
    (updated : db.updateEngagement id f keeps = .ok (row',db')) :
    engagementId ≠ id ∧ db'.engagements.get? engagementId = db.engagements.get? engagementId ∨
      engagementId = id ∧ ∃ row, db.engagements.get? engagementId = some row ∧ db'.engagements.get? engagementId = some (f row) := by
  obtain ⟨row,found,_,there,elsewhere,_⟩ := Db.updateEngagementCases updated
  by_cases here : engagementId = id
  · exact Or.inr ⟨here,row,here ▸ found,here ▸ there⟩
  · exact Or.inl ⟨here,elsewhere _ here⟩

theorem guardedQuiet {f : Answer → Db → Except Exception α} :
    Guarded (RowStep engagementId) anyOutcome (Process.query site f : Op α) own := guardedQuery fun _ _ _ => ⟨.same rfl,trivial⟩

theorem guardedAnswer {f : Answer → Db → Except Exception α}
    (rest : ∀ thread i db value, f i db = .ok value → Guarded (RowStep engagementId) anyOutcome (k value) (⟨thread,site,i,db,db⟩ :: own)) :
    Guarded (RowStep engagementId) anyOutcome (Process.query site f >>= k) own := by
  refine guardedBind (guardedQuery fun thread i db => ⟨.same rfl,?_⟩)
  split
  · rename_i value ok
    exact rest thread i db value ok
  · trivial

theorem guardedWrites {f : Answer → Db → Except Exception (α × Db)}
    (commits : ∀ thread i db value db', f i db = .ok (value,db') → RowStep engagementId own ⟨thread,site,i,db,db'⟩) :
    Guarded (RowStep engagementId) anyOutcome (write site f) own := by
  refine guardedTransact (fun thread i db value db' ok => ⟨?_,trivial⟩) fun _ _ _ _ _ => ⟨.same rfl,trivial⟩
  split at ok
  · contradiction
  · exact commits thread i db value db' ok

theorem guardedDone {p : Op α} (body : Guarded (RowStep engagementId) anyOutcome p own) :
    Guarded (RowStep engagementId) anyOutcome (do let _ ← p : Op Unit) own := guardedThen body fun _ _ => trivial

theorem guardedCreateEngagement {engagement : Engagement} {milestones : String → List Milestone}
    (pending : engagement.status = .pendingAcceptance) (unsent : engagement.txHash = none) :
    Guarded (RowStep engagementId) anyOutcome (createEngagement engagement milestones) own := by
  refine guardedWrites fun thread i db value db' ok => ?_
  dsimp only at ok
  split at ok
  · contradiction
  · rename_i engagements made
    obtain ⟨_,⟨⟩,ok⟩ := exceptBind.mp ok
    obtain ⟨db'',added,same⟩ := exceptBind.mp ok
    cases same
    obtain ⟨free,_,get⟩ := Table.createGet made
    have rows : db'.engagements.get? engagementId = engagements.get? engagementId :=
      congrArg (Table.get? · engagementId) (ChainMirror.createdEngagements added)
    by_cases here : engagementId = engagement.id
    · refine .created engagement ((congrArg db.engagements.get? here).trans free) ?_ pending unsent
      exact rows.trans ((get _).trans (if_pos here))
    · exact .same (rows.trans ((get _).trans (if_neg here)))

theorem guardedPersist (dto : CreateEngagementDto) (templateVersion : Option EngagementTemplateVersion) :
    Guarded (RowStep engagementId) anyOutcome (persist dto templateVersion) own := by
  unfold persist
  dsimp only
  split
  · trivial
  · trivial
  · split
    · trivial
    · split
      · trivial
      · exact guardedThen (guardedCreateEngagement rfl rfl) fun _ _ => guardedThen guardedQuiet fun _ _ => trivial

theorem guardedCreate (self : Config) (userId : String) (dto : CreateEngagementDto) :
    Guarded (RowStep engagementId) anyOutcome (create self userId dto) own := by
  refine guardedThen (guardedThen guardedQuiet fun existing own => ?_) fun _ own => guardedThen ?_ fun _ _ => trivial
  · split
    · trivial
    · split
      · trivial
      · split
        · exact guardedPersist dto none
        · refine guardedThen (guardedThen guardedQuiet fun found own => ?_) fun version own => guardedPersist dto version
          split
          · trivial
          · split
            · trivial
            · exact guardedQuiet
  · unfold countTemplateUse
    split
    · trivial
    · refine guardedThen guardedQuiet fun at' own => guardedWrites fun thread i db value db' ok => ?_
      obtain ⟨_,_,counted⟩ := exceptBind.mp ok
      cases counted
      exact .same rfl

theorem activatedStep {id txHash : String} {createdLedger : Int} {estimates : List (Milestone × Int × Int)} {thread : Nat} {i : Answer}
    {row : Engagement} {db db' : Db} (sent : ∃ d ∈ own, submission id d = true)
    (activated : activate id txHash createdLedger estimates db = .ok (row,db')) :
    RowStep engagementId own ⟨thread,.activateEngagement id,i,db,db'⟩ := by
  obtain ⟨⟨row',mid⟩,updated,rest⟩ := exceptBind.mp activated
  obtain ⟨last,scheduled,same⟩ := exceptBind.mp rest
  cases same
  have rows : db'.engagements.get? engagementId = mid.engagements.get? engagementId :=
    congrArg (Table.get? · engagementId) (ChainMirror.scheduledSame scheduled).engagements
  obtain ⟨_,same⟩ | ⟨rfl,before,found,after⟩ := rowUpdate engagementId updated
  · exact .same (rows.trans same)
  · exact .activated before _ rfl found (rows.trans after) rfl nofun sent

theorem guardedAcceptInvite (id : String) (stellarAddress : Option String) :
    Guarded (RowStep engagementId) anyOutcome (acceptInvite id stellarAddress) own := by
  refine guardedAnswer fun thread i read found ok => ?_
  split at ok
  · contradiction
  · cases ok
    dsimp only
    cases there : read.engagements.get? id with
    | none => trivial
    | some engagement =>
      have same : engagement.id = id := Table.getKey there
      dsimp only [Option.map_some]
      split
      · trivial
      · split
        · trivial
        · refine guardedThen guardedQuiet fun balance own => ?_
          split
          · trivial
          · refine guardedAnswer fun thread i db value answered => ?_
            split at answered
            · contradiction
            · rename_i succeeds
              have sent : ∃ d ∈ ⟨thread,.submitCreateEngagement engagement.id ((read.milestonesOf id).map Milestone.onChain),i,db,db⟩ :: own,
                  submission id d = true := ⟨_,List.mem_cons_self,by simp [submission,succeeds,same]⟩
              refine guardedAnswer fun thread i db currentLedger _ => guardedAnswer fun thread i db at' _ => ?_
              refine guardedThen (guardedWrites fun thread i db row db' ok => activatedStep ?_ ok) fun _ _ =>
                guardedThen guardedQuiet fun _ _ => trivial
              obtain ⟨d,inside,its⟩ := sent
              exact ⟨d,List.mem_cons_of_mem _ (List.mem_cons_of_mem _ inside),its⟩

theorem cancelledStep {id : String} {row : Engagement} {thread : Nat} {i : Answer} {db db' : Db}
    (here : site = .declineInvite id ∨ site = .markCancelled id)
    (updated : db.updateEngagement id (fun row => { row with status := .cancelled }) = .ok (row,db')) :
    RowStep engagementId own ⟨thread,site,i,db,db'⟩ := by
  obtain ⟨_,same⟩ | ⟨rfl,before,found,after⟩ := rowUpdate engagementId updated
  · exact .same same
  · exact .cancelled before here found after

theorem guardedDeclineInvite (id : String) (stellarAddress : Option String) :
    Guarded (RowStep engagementId) anyOutcome (declineInvite id stellarAddress) own := by
  refine guardedThen guardedQuiet fun found own => ?_
  split
  · trivial
  · split
    · trivial
    · split
      · trivial
      · exact guardedThen (guardedWrites fun _ _ _ _ _ ok => cancelledStep (Or.inl rfl) ok) fun _ _ =>
          guardedThen guardedQuiet fun _ _ => trivial

theorem guardedCancelEngagement (id : String) (stellarAddress : Option String) :
    Guarded (RowStep engagementId) anyOutcome (cancelEngagement id stellarAddress) own := by
  refine guardedThen guardedQuiet fun found own => ?_
  split
  · trivial
  · split
    · trivial
    · split
      · trivial
      · refine guardedThen guardedQuiet fun _ own => ?_
        exact guardedThen (guardedWrites fun _ _ _ _ _ ok => cancelledStep (Or.inr rfl) ok) fun _ _ =>
          guardedThen guardedQuiet fun _ _ => trivial

theorem guardedRequestReplacement (id : String) (stellarAddress : Option String) :
    Guarded (RowStep engagementId) anyOutcome (requestReplacement id stellarAddress) own := by
  refine guardedThen guardedQuiet fun found own => ?_
  split
  · trivial
  · split
    · trivial
    · split
      · trivial
      · refine guardedThen (guardedWrites fun thread i db row db' ok => ?_) fun _ _ => guardedThen guardedQuiet fun _ _ => trivial
        obtain ⟨_,same⟩ | ⟨rfl,before,found,after⟩ := rowUpdate engagementId ok
        · exact .same same
        · exact .replaced before rfl found after

theorem guardedSync (id : String) : Guarded (RowStep engagementId) anyOutcome (syncFromChain id) own := by
  refine guardedElse (guardedAnswer fun thread i db onChain answered => ?_) fun _ _ => trivial
  split at answered
  · contradiction
  · rename_i succeeds
    cases answered
    dsimp only
    cases known : present (some i.text) with
    | none => trivial
    | some status =>
      obtain ⟨same,filled⟩ := Option.filter_eq_some_iff.mp known
      cases same
      dsimp only [Option.map_some]
      refine guardedAnswer fun _ _ _ found _ => ?_
      split
      · trivial
      · refine guardedAnswer fun _ _ _ escrowBalance _ => guardedThen (guardedWrites fun _ _ before row after ok => ?_) fun _ own => ?_
        · obtain ⟨_,same⟩ | ⟨rfl,row',there,became⟩ := rowUpdate engagementId ok
          · exact .same same
          · refine .synced row' _ rfl there became ⟨thread,.simulateContract engagementId,i,db,db⟩ ?_ ?_ rfl rfl
            · simp [chainRead,succeeds]
            · simpa using filled
        · split
          · exact guardedThen guardedQuiet fun _ _ => guardedQuiet
          · trivial

theorem guardedHandler (self : Config) (request : Request) : Guarded (RowStep engagementId) anyOutcome (handler self request) [] := by
  cases request with
  | create userId dto => exact guardedDone (guardedCreate self userId dto)
  | acceptInvite id stellarAddress => exact guardedDone (guardedAcceptInvite id stellarAddress)
  | declineInvite id stellarAddress => exact guardedDone (guardedDeclineInvite id stellarAddress)
  | cancelEngagement id stellarAddress => exact guardedDone (guardedCancelEngagement id stellarAddress)
  | requestReplacement id stellarAddress => exact guardedDone (guardedRequestReplacement id stellarAddress)
  | syncFromChain id => exact guardedSync id

end Calls

section Runs

variable {engagementId : String}

/-- The engagement is live only on the chain, and no cancellation is undone. -/
def Kept (engagementId : String) (earlier : List EscrowEvent) (e : EscrowEvent) : Prop :=
  OnChain engagementId (e :: earlier) e.after ∧ StaysCancelled engagementId earlier e

def Faithful (engagementId : String) (c : EscrowSnapshot) : Prop :=
  Recorded engagementId c.history c.world ∧ AllMeet (Knows engagementId) c.history ∧
    AllMeet (fun earlier e => Timely engagementId earlier e ∧ Kept engagementId earlier e) c.history

theorem faithfulStep {c : EscrowSnapshot} {thread : Nat} {site : Site} {i : Answer} {db' : Db} (faithful : Faithful engagementId c)
    (step : RowStep engagementId (c.history.filter fun d => d.thread = thread) (c.event thread site i db'))
    (knows : Knows engagementId c.history (c.event thread site i db'))
    (meets : Timely engagementId c.history (c.event thread site i db') ∨ Kept engagementId c.history (c.event thread site i db')) :
    Faithful engagementId (c.record thread site i db') := by
  obtain ⟨recorded,knew,held⟩ := faithful
  have timely : Timely engagementId c.history (c.event thread site i db') := by
    obtain timely | kept := meets
    · exact timely
    · exact keptTimely step kept.1 kept.2
  obtain ⟨recorded',stays⟩ := timelyKeeps recorded knew step timely
  exact ⟨recorded',⟨knows,knew⟩,⟨timely,recordedOnChain recorded',stays⟩,held⟩

theorem faithfulRun (self : Config) {db : Db} {moves : List StatusMove}
    (fresh : ∀ row, db.engagements.get? engagementId = some row → row.status = .pendingAcceptance ∧ row.txHash = none)
    (knows : AllMeet (Knows engagementId) ((service self).run (Pool.initial db) moves).history)
    (meets : AllMeet (fun earlier e => Timely engagementId earlier e ∨ Kept engagementId earlier e)
      ((service self).run (Pool.initial db) moves).history) :
    Faithful engagementId ((service self).run (Pool.initial db) moves).snapshot := by
  have begin : GuardedPool (fun _ => RowStep engagementId) (Faithful engagementId)
      (Pool.initial db : Pool Request Site Answer Db Exception Unit) := by
    refine guardedInitial ⟨fun row found => ⟨fun some => absurd (fresh row found).2 some,fun live => ?_⟩,trivial,trivial⟩
    rw [(fresh row found).1] at live
    contradiction
  refine (guardedRun (P := fun _ earlier e => Knows engagementId earlier e ∧ (Timely engagementId earlier e ∨ Kept engagementId earlier e))
    ?_ ?_ (guardedHandler self) begin moves ?_).holds
  · exact fun request c thread site i s' faithful step both => faithfulStep faithful step both.1 both.2
  · exact fun elapsed c faithful => ⟨fun row found => faithful.1 row found,faithful.2⟩
  · exact meetsMono (fun _ _ both _ _ => both) (meetsBoth knows meets)

/-- In every run, the engagement is live only when it was submitted and its transaction is on record, and stays cancelled,
exactly if every replacement, acceptance and synchronization meets a row that it was meant for. -/
theorem liveOnChain (self : Config) (engagementId : String) (db : Db)
    (fresh : ∀ row, db.engagements.get? engagementId = some row → row.status = .pendingAcceptance ∧ row.txHash = none)
    (moves : List StatusMove)
    (knows : ∀ earlier e, e :: earlier <:+ ((service self).run (Pool.initial db) moves).history → Knows engagementId earlier e) :
    (OnChain engagementId ((service self).run (Pool.initial db) moves).history ((service self).run (Pool.initial db) moves).world ∧
      ∀ earlier e, e :: earlier <:+ ((service self).run (Pool.initial db) moves).history →
        OnChain engagementId (e :: earlier) e.after ∧ StaysCancelled engagementId earlier e) ↔
      ∀ earlier e, e :: earlier <:+ ((service self).run (Pool.initial db) moves).history → Timely engagementId earlier e := by
  have known := meetsIff.mpr knows
  refine ⟨fun kept => ?_,fun timely => ?_⟩
  · have faithful := faithfulRun self fresh known (meetsMono (fun _ _ kept => Or.inr kept) (meetsIff.mpr kept.2))
    exact fun earlier e suffix => (meetsIff.mp faithful.2.2 earlier e suffix).1
  · have faithful := faithfulRun self fresh known (meetsMono (fun _ _ timely => Or.inl timely) (meetsIff.mpr timely))
    exact ⟨recordedOnChain faithful.1,fun earlier e suffix => (meetsIff.mp faithful.2.2 earlier e suffix).2⟩

end Runs

section Examples

/-- The recruiter accepts, and the company asks for a replacement afterwards. -/
def inTurn : List StatusMove :=
  [.start (.acceptInvite "e" (some "GR"))] ++ answered 0 (Invites.granted 7) ++
    [.start (.requestReplacement "e" (some "GC"))] ++ answered 1 (Invites.granted 3)

theorem unknownKnows {history : List EscrowEvent} (none : history.all (fun e => !chainRead "e" e) = true) :
    ∀ earlier e, e :: earlier <:+ history → Knows "e" earlier e := by
  intro earlier e suffix reads
  have never := List.all_eq_true.mp none e (suffix.subset List.mem_cons_self)
  simp [reads] at never

theorem pendingFresh : ∀ row, Invites.pending.engagements.get? "e" = some row → row.status = .pendingAcceptance ∧ row.txHash = none := by
  intro row found
  cases found
  decide

theorem replacedInTurn : OnChain "e" ((service {}).run (Pool.initial Invites.pending) inTurn).history
      ((service {}).run (Pool.initial Invites.pending) inTurn).world ∧
    (((service {}).run (Pool.initial Invites.pending) inTurn).world.engagements.get? "e").map Engagement.status =
      some .replacementRequested :=
  ⟨((liveOnChain {} "e" Invites.pending pendingFresh inTurn (unknownKnows (by decide +kernel))).mpr (meetsIff.mp (by decide +kernel))).1,
    by decide +kernel⟩

/-- The company asks for a replacement before anyone has accepted. -/
def early : List StatusMove := [.start (.requestReplacement "e" (some "GC"))] ++ answered 0 (Invites.granted 3)

/-- A decline is written while the acceptance is on its way. -/
def crossed : List StatusMove :=
  [.start (.acceptInvite "e" (some "GR")),.start (.declineInvite "e" (some "GR"))] ++ answered 0 (Invites.granted 5) ++
    answered 1 (Invites.granted 3) ++ answered 0 (Invites.granted 1)

theorem liveUnsubmitted :
    (((service {}).run (Pool.initial Invites.pending) early).world.engagements.get? "e").map (fun row => (row.status,row.txHash)) =
      some (.replacementRequested,none) ∧
    ¬ OnChain "e" ((service {}).run (Pool.initial Invites.pending) early).history
      ((service {}).run (Pool.initial Invites.pending) early).world ∧
    ((service {}).run (Pool.initial Invites.pending) crossed).history.head?.map (fun e =>
      (e.site,(e.before.engagements.get? "e").map Engagement.status,(e.after.engagements.get? "e").map Engagement.status)) =
        some (.activateEngagement "e",some .cancelled,some .active) := by
  refine ⟨by decide +kernel,fun onChain => ?_,by decide +kernel⟩
  cases found : ((service {}).run (Pool.initial Invites.pending) early).world.engagements.get? "e" with
  | none => exact absurd found (by decide +kernel)
  | some row =>
    have its : ((service {}).run (Pool.initial Invites.pending) early).world.engagements.get? "e" |>.all
        fun row => EngagementStatus.live row.status && row.txHash.isNone := by decide +kernel
    rw [found,Option.all_some,Bool.and_eq_true,Option.isNone_iff_eq_none] at its
    exact (onChain row found its.1).1 its.2

end Examples

end HireSettle.Escrow.LiveOnChain
