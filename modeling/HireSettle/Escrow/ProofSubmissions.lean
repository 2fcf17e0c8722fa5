import HireSettle.Escrow.LatestVersions
import HireSettle.Workflow.Guards
import HireSettle.Workflow.Turns

/-! What a submission returns. A version that awaits review is taken for an earlier
try of the same submission, when it is read first and when the creation has met
another version of the number; whose content it has is not looked at. -/
namespace HireSettle.Escrow.ProofSubmissions
open Workflow ProofApprovals LatestVersions ProofVersionsService

inductive Request where
  | submitProof (engagementId : String) (milestoneIndex : Nat) (user : PartyUser) (input : ProofInput)
  | processEvent (event : ContractEvent)
  deriving DecidableEq

def handler (self : Config) : Request → Op (Option MilestoneProofVersion)
  | .submitProof engagementId milestoneIndex user input => do
      let (_,version) ← submitProof engagementId milestoneIndex user input
      return some version
  | .processEvent event => do
      EventsService.processEvent self event
      return none

def service (self : Config) : System Request Nat Site Answer Db Exception (Option MilestoneProofVersion) where
  handler := handler self
  environment elapsed db := { db with clock := db.clock + elapsed }

abbrev SubmissionMove := Move Request Nat Answer

/-- The version has the content of the submission. -/
structure Carries (input : ProofInput) (v : MilestoneProofVersion) : Prop where
  proofUrl : v.proofUrl = input.proofUrl
  content : v.content = input.content
  proofHash : ∀ hash ∈ present input.proofHash, v.proofHash = some hash

/-- The version may stand for the submission: a hash that it lacks is filled in. -/
structure Matches (input : ProofInput) (v : MilestoneProofVersion) : Prop where
  proofUrl : v.proofUrl = input.proofUrl
  content : v.content = input.content
  proofHash : ∀ hash ∈ present input.proofHash, present v.proofHash = none ∨ v.proofHash = some hash

instance (input : ProofInput) (v : MilestoneProofVersion) : Decidable (Matches input v) :=
  decidable_of_iff (v.proofUrl = input.proofUrl ∧ v.content = input.content ∧
      ∀ hash ∈ present input.proofHash, present v.proofHash = none ∨ v.proofHash = some hash)
    ⟨fun all => ⟨all.1,all.2.1,all.2.2⟩,fun fits => ⟨fits.proofUrl,fits.content,fits.proofHash⟩⟩

/-- The version that the call has read last does not await review, or matches its submission. -/
def Fits (engagementId : String) (milestoneIndex : Nat) (input : ProofInput) (own : List EscrowEvent) : Prop :=
  ∀ loaded ∈ lastRead .milestone own, ∀ m ∈ loaded.milestoneAt engagementId milestoneIndex, ∀ read ∈ lastRead .proofVersion own,
    ∀ latest ∈ latestVersion read m.id, latest.status = .submitted → Matches input latest

instance (engagementId : String) (milestoneIndex : Nat) (input : ProofInput) (own : List EscrowEvent) :
    Decidable (Fits engagementId milestoneIndex input own) := by
  unfold Fits
  infer_instance

/-- How the call came by the version that it returns. -/
inductive Result (milestoneId : String) (input : ProofInput) (read : Db) (own : List EscrowEvent) (v : MilestoneProofVersion) : Prop where
  | created (free : ∀ latest ∈ latestVersion read milestoneId, latest.status ≠ .submitted) (proofUrl : v.proofUrl = input.proofUrl)
      (content : v.content = input.content) (proofHash : v.proofHash = present input.proofHash)
  | completed (latest : MilestoneProofVersion) (found : latestVersion read milestoneId = some latest) (waits : latest.status = .submitted)
      (lacks : present latest.proofHash = none) (e : EscrowEvent) (inside : e ∈ own) (row : MilestoneProofVersion)
      (stored : e.before.proofVersions.get? latest.id = some row) (same : v = { row with proofHash := input.proofHash })
  | kept (latest : MilestoneProofVersion) (found : latestVersion read milestoneId = some latest) (waits : latest.status = .submitted)
      (whole : ∀ hash ∈ present input.proofHash, present latest.proofHash ≠ none) (same : v = latest)

structure Recorded (milestoneId : String) (input : ProofInput) (own : List EscrowEvent) (v : MilestoneProofVersion) (read : Db) : Prop where
  last : lastRead .proofVersion own = some read
  result : Result milestoneId input read own v

/-- Versions stay, with the content they were created with. -/
def Keeps (db db' : Db) : Prop := ∀ id row, db.proofVersions.get? id = some row →
  ∃ row', db'.proofVersions.get? id = some row' ∧ row'.proofUrl = row.proofUrl ∧ row'.content = row.content

def Keeping (_ : List EscrowEvent) (e : EscrowEvent) : Prop := Keeps e.before e.after

section Versions

variable {db db' : Db} {site : Site}

theorem keepsSame (same : db'.proofVersions = db.proofVersions) : Keeps db db' := by
  intro id row found
  exact ⟨row,by rwa [same],rfl,rfl⟩

theorem keepsTrans {a b c : Db} (first : Keeps a b) (second : Keeps b c) : Keeps a c := by
  intro id row found
  obtain ⟨row',found',url,content⟩ := first id row found
  obtain ⟨row'',found'',url',content'⟩ := second id row' found'
  exact ⟨row'',found'',url'.trans url,content'.trans content⟩

theorem keepsUpdates (updates : UpdatesVersions db db') : Keeps db db' := by
  obtain ⟨q,f,keeps,same,rfl⟩ := updates
  intro id row found
  refine ⟨if q row then f row else row,?_,?_⟩
  · rw [show Table.get? _ id = _ from Table.getUpdateMany _ q f keeps id,found]
    rfl
  · split
    · exact ⟨(same row).proofUrl,(same row).content⟩
    · exact ⟨rfl,rfl⟩

theorem keepsWhere {p : MilestoneProofVersion → Bool} {f : MilestoneProofVersion → MilestoneProofVersion} {keys : ∀ v, (f v).id = v.id}
    (same : ∀ v, SameProof v (f v)) : Keeps db (db.updateVersionsWhere p f keys).2 := keepsUpdates ⟨p,f,keys,same,rfl⟩

theorem keepsEffect (effect : Effect site db db') : Keeps db db' := by
  by_cases writes : ∃ milestoneId, site = .writeProofVersion milestoneId
  · obtain ⟨milestoneId,rfl⟩ := writes
    obtain rfl | updates | ⟨created,versions,_,made,rfl⟩ := effect
    · exact keepsSame rfl
    · exact keepsUpdates updates
    · intro id row found
      have key : row.id = id := Table.getKey found
      refine ⟨row,?_,rfl,rfl⟩
      exact key ▸ Table.memGet ((Table.memCreate made).mpr (Or.inl (Table.getMem found)))
  · by_cases claims : ∃ versionId, site = .claimProofSla versionId
    · obtain ⟨versionId,rfl⟩ := claims
      obtain rfl | updates := effect
      · exact keepsSame rfl
      · exact keepsUpdates updates
    · exact keepsSame (versionsStay effect (fun id same => writes ⟨id,same⟩) fun id same => claims ⟨id,same⟩)

end Versions

section Walks

variable {α β : Type} {own : List EscrowEvent} {milestoneId : String} {input : ProofInput} {loaded : Db}

theorem guardedAffects {p : Op α} (affects : Affects p) : Guarded Keeping anyOutcome p own := by
  refine guardedAny (guardedActs (fun later e _ within => ?_) affects)
  exact keepsEffect within.2

theorem resultLater {read : Db} {e : EscrowEvent} {v : MilestoneProofVersion} (result : Result milestoneId input read own v) :
    Result milestoneId input read (e :: own) v := by
  cases result with
  | created free proofUrl content proofHash => exact .created free proofUrl content proofHash
  | completed latest found waits lacks e inside row stored same =>
    exact .completed latest found waits lacks e (List.mem_cons_of_mem _ inside) row stored same
  | kept latest found waits whole same => exact .kept latest found waits whole same

/-- A version is recorded after the milestone was loaded. -/
def Records (milestoneId : String) (input : ProofInput) (loaded : Db) (own : List EscrowEvent)
    (out : Except Exception MilestoneProofVersion) : Prop :=
  lastRead .milestone own = some loaded ∧ ∀ v, out = .ok v → ∃ read, Recorded milestoneId input own v read

theorem guardedCreateVersion {read : Db} {versionNumber : Nat} {lost : Exception → Op MilestoneProofVersion}
    (last : lastRead .milestone own = some loaded) (latest : lastRead .proofVersion own = some read)
    (free : ∀ latest ∈ latestVersion read milestoneId, latest.status ≠ .submitted)
    (rest : ∀ error own, lastRead .milestone own = some loaded →
      Guarded Keeping (Records milestoneId input loaded) (lost error) own) :
    Guarded Keeping (Records milestoneId input loaded) ((createVersion milestoneId versionNumber input).handle lost) own := by
  have other : ∀ site : Site, site = .writeProofVersion milestoneId → site ≠ .find .milestone ∧ site ≠ .find .proofVersion := by
    rintro site rfl
    exact ⟨nofun,nofun⟩
  refine guardedHandle (guardedTransact (fun thread i db value after ok => ?_) fun thread i db error _ => ?_)
  · split at ok
    · contradiction
    · dsimp only at ok
      split at ok
      · contradiction
      · split at ok
        · contradiction
        · rename_i versions made
          cases ok
          have effect : Effect (.writeProofVersion milestoneId) db { db with proofVersions := versions } :=
            Or.inr (Or.inr ⟨_,versions,rfl,made,rfl⟩)
          refine ⟨keepsEffect effect,(lastReadCons (other _ rfl).1).trans last,?_⟩
          rintro v ⟨⟩
          exact ⟨read,(lastReadCons (other _ rfl).2).trans latest,.created free rfl rfl rfl⟩
  · exact ⟨keepsSame rfl,rest error _ ((lastReadCons (other _ rfl).1).trans last)⟩

theorem guardedAttempt {lost : Exception → Op MilestoneProofVersion} (last : lastRead .milestone own = some loaded)
    (rest : ∀ error own, lastRead .milestone own = some loaded →
      Guarded Keeping (Records milestoneId input loaded) (lost error) own) :
    Guarded Keeping (Records milestoneId input loaded) (attemptVersion milestoneId input lost) own := by
  refine guardedBind (guardedQuery fun thread i db => ⟨keepsSame rfl,?_⟩)
  have read : lastRead .proofVersion (⟨thread,.find .proofVersion,i,db,db⟩ :: own) = some db := lastReadSelf rfl
  have still : lastRead .milestone (⟨thread,.find .proofVersion,i,db,db⟩ :: own) = some loaded :=
    (lastReadCons fun same => by cases same).trans last
  split
  · rename_i value found
    split at found
    · contradiction
    · cases found
      dsimp only
      split
      · rename_i absent
        refine guardedCreateVersion still read ?_ rest
        rw [show latestVersion db milestoneId = none from absent]
        exact fun latest found => absurd found (Option.not_mem_none latest)
      · rename_i version latest
        have latest : latestVersion db milestoneId = some version := latest
        split
        · rename_i waits
          split
          · rename_i fills
            refine guardedTransact (fun thread i db' value after ok => ?_) fun thread i db error _ => ?_
            · split at ok
              · contradiction
              · obtain ⟨_,found,rest⟩ := exceptBind.mp ok
                obtain ⟨row,stored,rfl⟩ := Db.requiredModify found
                cases rest
                let fill : MilestoneProofVersion → MilestoneProofVersion := fun row => { row with proofHash := input.proofHash }
                have updates : UpdatesVersions db' { db' with proofVersions := db'.proofVersions.update version.id fill } :=
                  ⟨_,fill,fun _ => rfl,fun _ => ⟨rfl,rfl,rfl,rfl,rfl⟩,rfl⟩
                refine ⟨keepsUpdates updates,(lastReadCons fun same => by cases same).trans still,?_⟩
                rintro v ⟨⟩
                refine ⟨db,(lastReadCons fun same => by cases same).trans read,?_⟩
                exact .completed version latest waits fills.2 _ List.mem_cons_self row stored rfl
            · exact ⟨keepsSame rfl,(lastReadCons fun same => by cases same).trans still,fun _ ended => by cases ended⟩
          · rename_i whole
            refine ⟨still,?_⟩
            rintro v ⟨⟩
            refine ⟨db,read,.kept version latest waits (fun hash given => ?_) rfl⟩
            rw [Option.mem_def] at given
            simpa [given] using whole
        · rename_i reviewed
          refine guardedCreateVersion still read ?_ rest
          rw [latest]
          rintro _ ⟨⟩
          exact reviewed
  · exact ⟨still,fun _ ended => by cases ended⟩

theorem guardedRecordVersion (last : lastRead .milestone own = some loaded) :
    Guarded Keeping (Records milestoneId input loaded) (recordVersion milestoneId input) own := by
  refine guardedAttempt last fun error own last => ?_
  split
  · exact guardedAttempt last fun error own last => ⟨last,fun _ ended => by cases ended⟩
  · exact ⟨last,fun _ ended => by cases ended⟩

/-- What is known of a submission that has returned. -/
def Returned (engagementId : String) (milestoneIndex : Nat) (user : PartyUser) (input : ProofInput) (own : List EscrowEvent)
    (v : MilestoneProofVersion) : Prop :=
  ∃ loaded m read, lastRead .milestone own = some loaded ∧ loaded.milestoneAt engagementId milestoneIndex = some m ∧
    Recorded m.id { input with submittedById := user.id } own v read

def Returns (engagementId : String) (milestoneIndex : Nat) (user : PartyUser) (input : ProofInput) (own : List EscrowEvent)
    (out : Except Exception (Milestone × MilestoneProofVersion)) : Prop :=
  ∀ updated v, out = .ok (updated,v) → Returned engagementId milestoneIndex user input own v

theorem returnedLater {engagementId : String} {milestoneIndex : Nat} {user : PartyUser} {v : MilestoneProofVersion} {e : EscrowEvent}
    (elsewhere : ∀ model, e.site ≠ .find model) (returned : Returned engagementId milestoneIndex user input own v) :
    Returned engagementId milestoneIndex user input (e :: own) v := by
  obtain ⟨loaded,m,read,last,there,recorded⟩ := returned
  exact ⟨loaded,m,read,(lastReadCons (elsewhere _)).trans last,there,(lastReadCons (elsewhere _)).trans recorded.last,
    resultLater recorded.result⟩

theorem returnsError {engagementId : String} {milestoneIndex : Nat} {user : PartyUser} {error : Exception} :
    Returns engagementId milestoneIndex user input own (.error error) := fun _ _ ended => by cases ended

theorem guardedRequirePartyRole {done : List EscrowEvent → Except Exception β → Prop} {engagement : Engagement} {user : PartyUser}
    {allowed : List PartyRole} {message : String} {k : PartyRole → Op β} (refused : ∀ error, done own (.error error))
    (rest : ∀ role, Guarded Keeping done (k role) own) :
    Guarded Keeping done (requirePartyRole engagement user allowed message >>= k) own := by
  unfold requirePartyRole
  split
  · split
    · exact rest _
    · exact refused _
  · exact refused _

theorem guardedWrites {done : List EscrowEvent → Except Exception β → Prop} {site : Site} {k : α → Op β}
    {f : Answer → Db → Except Exception (α × Db)} (last : lastRead .milestone own = some loaded) (elsewhere : ∀ model, site ≠ .find model)
    (keeps : ∀ i db value db', f i db = .ok (value,db') → Keeps db db') (refused : ∀ own error, done own (.error error))
    (rest : ∀ e : EscrowEvent, e.site = site → ∀ value, lastRead .milestone (e :: own) = some loaded → Guarded Keeping done (k value) (e :: own)) :
    Guarded Keeping done (write site f >>= k) own := by
  have still : ∀ e : EscrowEvent, e.site = site → lastRead .milestone (e :: own) = some loaded :=
    fun e here => (lastReadCons (here ▸ elsewhere .milestone)).trans last
  refine guardedBind (guardedTransact (fun thread i db value after ok => ?_) fun thread i db error _ => ⟨keepsSame rfl,refused _ _⟩)
  split at ok
  · contradiction
  · exact ⟨keeps i db value after ok,rest _ rfl value (still _ rfl)⟩

theorem guardedSubmitProof (engagementId : String) (milestoneIndex : Nat) (user : PartyUser) (input : ProofInput) :
    Guarded Keeping (Returns engagementId milestoneIndex user input) (submitProof engagementId milestoneIndex user input) own := by
  refine guardedBind (guardedQuery fun thread i loaded => ⟨keepsSame rfl,?_⟩)
  split
  · rename_i value found
    obtain ⟨m,engagement⟩ := value
    dsimp only at found
    split at found
    · contradiction
    · split at found
      · contradiction
      · rename_i there
        split at found
        · contradiction
        · cases found
          have last : lastRead .milestone (⟨thread,.find .milestone,i,loaded,loaded⟩ :: own) = some loaded := lastReadSelf rfl
          refine guardedRequirePartyRole (fun _ => returnsError) fun role => ?_
          split
          · exact returnsError
          · split
            · exact returnsError
            · refine guardedBind (guardedQuery fun thread i db => ⟨keepsSame rfl,?_⟩)
              refine guardedWrites ((lastReadCons fun same => by cases same).trans last) (by simp) ?_ (fun _ _ => returnsError) ?_
              · intro i db value after ok
                cases ok
                refine keepsWhere ?_
                exact fun _ => ⟨rfl,rfl,rfl,rfl,rfl⟩
              · intro e here count last
                refine guardedBind (guardedMono ?_ (guardedRecordVersion last))
                intro own out records
                cases out with
                | error error => exact returnsError
                | ok version =>
                  refine guardedBind (guardedTransact (fun thread i db updated after ok => ?_) fun thread i db error _ => ?_)
                  · split at ok
                    · contradiction
                    · obtain ⟨_,_,_,_,_,rfl⟩ := Db.updateMilestoneCases ok
                      refine ⟨keepsSame rfl,guardedBind (guardedQuery fun thread i db => ⟨keepsSame rfl,?_⟩)⟩
                      intro _ _ ended
                      cases ended
                      obtain ⟨read,recorded⟩ := records.2 version rfl
                      have returned : Returned engagementId milestoneIndex user input own version :=
                        ⟨loaded,m,read,records.1,there,recorded⟩
                      refine returnedLater ?_ (returnedLater ?_ returned)
                      · simp
                      · simp
                  · exact ⟨keepsSame rfl,returnsError⟩
  · exact returnsError

def Answers (request : Request) (own : List EscrowEvent) (out : Except Exception (Option MilestoneProofVersion)) : Prop :=
  match request with
  | .submitProof engagementId milestoneIndex user input => ∀ v, out = .ok (some v) → Returned engagementId milestoneIndex user input own v
  | .processEvent _ => True

theorem guardedHandler (self : Config) (request : Request) :
    Guarded Keeping (Answers request) (handler self request) [] := by
  cases request with
  | submitProof engagementId milestoneIndex user input =>
    refine guardedBind (guardedMono ?_ (guardedSubmitProof engagementId milestoneIndex user input))
    intro own out returns
    cases out with
    | ok value => exact fun v ended => by cases ended; exact returns value.1 value.2 rfl
    | error error => exact fun v ended => by cases ended
  | processEvent event =>
    refine guardedBind (guardedMono ?_ (guardedAffects ?_))
    · intro own out _
      cases out with
      | ok value => trivial
      | error error => trivial
    · refine actsProcessEvent self event ?_ ?_ ?_ ?_ ?_ ?_
      · exact actsMono (fun site db db' within => ⟨rfl,within.2⟩) (handlesEvent self _ _)
      · exact fun site db _ => ⟨rfl,Or.inl rfl⟩
      · exact fun db chainEvents => ⟨rfl,Or.inr ⟨_,rfl⟩⟩
      · exact fun id db engagements schedules chainEvents => ⟨rfl,Or.inr ⟨_,_,_,rfl⟩⟩
      · exact fun db => ⟨rfl,Or.inl rfl⟩
      · exact fun id db => ⟨rfl,Or.inl rfl⟩

end Walks

section Runs

variable (self : Config)

/-- Each version that is read or written has kept its content since. -/
def Kept (c : EscrowSnapshot) : Prop := ∀ e ∈ c.history, Keeps e.before c.world

theorem keptRun (db : Db) (moves : List SubmissionMove) :
    GuardedEnds (fun _ => Keeping) Answers Kept ((service self).run (Pool.initial db) moves) := by
  refine guardedRun (P := fun _ _ _ => True) ?_ ?_ (guardedHandler self) (guardedInitial fun e inside => absurd inside List.not_mem_nil)
    moves (meetsAlways (fun _ _ _ _ => trivial) _)
  · intro request c thread site i s' kept keeping _ e inside
    rcases List.mem_cons.mp inside with rfl | earlier
    · exact keeping
    · exact keepsTrans (kept e earlier) keeping
  · exact fun elapsed c kept e inside => kept e inside

theorem resultIff {c : EscrowSnapshot} {milestoneId : String} {user : PartyUser} {input : ProofInput} {read : Db}
    {own : List EscrowEvent} {v : MilestoneProofVersion} (kept : Kept c) (mine : ∀ e ∈ own, e ∈ c.history)
    (recorded : Recorded milestoneId { input with submittedById := user.id } own v read) :
    Carries input v ↔ ∀ latest ∈ latestVersion read milestoneId, latest.status = .submitted → Matches input latest := by
  cases recorded.result with
  | created free proofUrl content proofHash =>
    refine iff_of_true ⟨proofUrl,content,fun hash given => proofHash.trans given⟩ fun latest found waits => ?_
    exact absurd waits (free latest found)
  | completed latest found waits lacks e inside row stored same =>
    obtain ⟨d,there,rfl⟩ := lastReadMem recorded.last
    have before : d.before.proofVersions.get? latest.id = some latest := Table.memGet (latestMost found).1
    obtain ⟨now,found',url,content⟩ := kept d (mine d there) latest.id latest before
    obtain ⟨now',found'',url',content'⟩ := kept e (mine e inside) latest.id row stored
    cases found'.symm.trans found''
    have given : ∀ hash ∈ present input.proofHash, input.proofHash = some hash := fun hash given => (Option.filter_eq_some_iff.mp given).1
    subst same
    constructor
    · rintro carries _ found' _
      cases found'.symm.trans found
      exact ⟨(url.symm.trans url').trans carries.proofUrl,(content.symm.trans content').trans carries.content,fun _ _ => Or.inl lacks⟩
    · intro each
      have fits := each latest found waits
      exact ⟨(url'.symm.trans url).trans fits.proofUrl,(content'.symm.trans content).trans fits.content,given⟩
  | kept latest found waits whole same =>
    subst same
    constructor
    · rintro carries _ found' _
      cases found'.symm.trans found
      exact ⟨carries.proofUrl,carries.content,fun hash given => Or.inr (carries.proofHash hash given)⟩
    · intro each
      have fits := each v found waits
      exact ⟨fits.proofUrl,fits.content,fun hash given => (fits.proofHash hash given).resolve_left (whole hash given)⟩

/-- A submission returns its own content in exactly the runs in which the version that
it has read last does not await review, or matches what is submitted. -/
theorem ownContentIff (db : Db) (moves : List SubmissionMove) (k : Nat) (engagementId : String) (milestoneIndex : Nat) (user : PartyUser)
    (input : ProofInput) (v : MilestoneProofVersion)
    (ended : ((service self).run (Pool.initial db) moves).threads[k]? =
      some ⟨.submitProof engagementId milestoneIndex user input,.ret (some v)⟩) :
    Carries input v ↔ Fits engagementId milestoneIndex input (((service self).run (Pool.initial db) moves).own k) := by
  have run := keptRun self db moves
  have returned : Answers (.submitProof engagementId milestoneIndex user input) (((service self).run (Pool.initial db) moves).own k)
      (.ok (some v)) := guardedEnded run ended
  obtain ⟨loaded,m,read,last,there,recorded⟩ := returned v rfl
  have fits : Fits engagementId milestoneIndex input (((service self).run (Pool.initial db) moves).own k) ↔
      ∀ latest ∈ latestVersion read m.id, latest.status = .submitted → Matches input latest := by
    refine ⟨fun fits => fits loaded last m there read recorded.last,fun fits loaded' last' m' there' read' recorded' => ?_⟩
    cases last'.symm.trans last
    cases there'.symm.trans there
    cases recorded'.symm.trans recorded.last
    exact fits
  rw [fits]
  exact resultIff run.holds (fun e inside => List.mem_of_mem_filter inside) recorded

def placement : Db where
  engagements := .single { id := "e", companyAddress := "GC", recruiterAddress := "GR", arbiterAddress := "GA", totalAmount := 1000 }
  milestones := .single { id := "m", engagementId := "e", milestoneIndex := 0, name := "placed", kind := .placement, paymentPercent := 100 }

def submit (content : String) : Request := .submitProof "e" 0 { stellarAddress := some "GR" } { content := some content }

def granted (count : Nat) : List Answer := .replicate count { text := "v" }

def submitted : List SubmissionMove := [.start (submit "report")] ++ answered 0 (granted 7)

def version (content : String) : MilestoneProofVersion :=
  { id := "v", milestoneId := "m", versionNumber := 1, content := some content }

theorem ownContent : Carries { content := some "report" } (version "report") := by
  refine (ownContentIff {} placement submitted 0 "e" 0 { stellarAddress := some "GR" } { content := some "report" } (version "report")
    (endedEq (by decide +kernel))).mpr ?_
  decide +kernel

/-- Both submissions have superseded what awaited review before either records its own. -/
def together : List SubmissionMove :=
  [.start (submit "report"),.start (submit "contract")] ++ answered 0 (granted 3) ++ answered 1 (granted 3) ++
  answered 0 (granted 4) ++ answered 1 (granted 3)

/-- The second submission returns successfully, with the content of the first. -/
theorem contentDropped :
    ((service {}).run (Pool.initial placement) together).threads[1]? = some ⟨submit "contract",.ret (some (version "report"))⟩ ∧
    ¬ Carries { content := some "contract" } (version "report") :=
  ⟨endedEq (by decide +kernel),fun carries => absurd carries.content (by decide)⟩

end Runs

end HireSettle.Escrow.ProofSubmissions
