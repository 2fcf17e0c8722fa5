import HireSettle.Escrow.LatestVersions
import HireSettle.Escrow.ServedCalls

/-! The hash of a proof is stored twice, with the milestone and with the version.
A submission through the API writes both; the mark that an event of the contract
leaves overwrites the hash of the milestone and keeps the version under review. -/
namespace HireSettle.Escrow.ProofHashes
open Workflow ProofApprovals LatestVersions EventsService MilestonesService

inductive Request where
  | submitProof (engagementId : String) (milestoneIndex : Nat) (user : PartyUser) (input : ProofInput)
  | submitProofFlow (engagementId : String) (milestoneIndex : Nat) (proofHash : String)
  | rejectProof (engagementId : String) (milestoneIndex : Nat) (user : PartyUser) (reason : String) (versionNumber : Option Nat)
  | proofSubmitted (event : ContractEvent)

/-- The hash that a request marks a milestone with before it records the version. -/
def Request.marks : Request → Option String
  | .submitProofFlow _ _ proofHash => some proofHash
  | .proofSubmitted _ => some ""
  | .submitProof _ _ _ _ | .rejectProof _ _ _ _ _ => none

variable (self : Config)

def handler : Request → Op Unit
  | .submitProof engagementId milestoneIndex user input => do
      let _ ← ProofVersionsService.submitProof engagementId milestoneIndex user input
  | .submitProofFlow engagementId milestoneIndex proofHash => do let _ ← submitProofFlow self engagementId milestoneIndex proofHash
  | .rejectProof engagementId milestoneIndex user reason versionNumber => do
      let _ ← ProofVersionsService.rejectProof engagementId milestoneIndex user reason versionNumber
  | .proofSubmitted event => processEvent self { event with topic := ["proof_submitted"] }

def service : System Request Nat Site Answer Db Exception Unit where
  handler := handler self
  environment elapsed db := { db with clock := db.clock + elapsed }

abbrev ProofTurn := Turn Request Nat Answer

def hashOf (db : Db) (id : String) : Option String := (latestVersion db id).bind fun version => present version.proofHash

/-- While the milestone awaits review, its hash is the one that its latest version carries. -/
def Agrees (id : String) (db : Db) : Prop :=
  ∀ m ∈ db.milestones.get? id, m.status = .proofSubmitted → ∀ hash ∈ hashOf db id, m.proofHash = some hash

/-- A call of `recordVersion` that the database turns down. -/
def Refused (e : EscrowEvent) : Prop :=
  match e.site with
  | .find .proofVersion => e.answer.fails = true
  | .writeProofVersion _ => e.answer.fails = true ∨ (e.before.proofVersions.get? e.answer.text).isSome
  | _ => False

/-- The version that will stay the latest carries no other hash than the one the milestone is marked with. -/
def Uncontested (id hash : String) (e : EscrowEvent) : Prop :=
  match e.site with
  | .proofSubmittedAt engagementId milestoneIndex => e.answer.fails = false →
      ∀ m ∈ e.before.milestoneAt engagementId milestoneIndex, m.id = id → ∀ version ∈ latestVersion e.before id,
        version.status = .submitted ∨ self.proofVersions = false → ∀ carried ∈ present version.proofHash, carried = hash
  | _ => True

structure Careful (config : Config) (id hash : String) (e : EscrowEvent) : Prop where
  uncontested : Uncontested config id hash e
  refused : Refused e → Agrees id e.before

instance (id : String) (db : Db) : Decidable (Agrees id db) := by
  unfold Agrees
  infer_instance

instance (e : EscrowEvent) : Decidable (Refused e) := by
  unfold Refused
  generalize e.site = site
  induction site using Site.casesOn with
  | find model => induction model using Model.casesOn <;> infer_instance
  | _ => infer_instance

instance (id hash : String) (e : EscrowEvent) : Decidable (Uncontested self id hash e) := by
  unfold Uncontested
  generalize e.site = site
  induction site using Site.casesOn <;> infer_instance

instance (id hash : String) (e : EscrowEvent) : Decidable (Careful self id hash e) :=
  decidable_of_iff (Uncontested self id hash e ∧ (Refused e → Agrees id e.before)) ⟨fun both => ⟨both.1,both.2⟩,fun careful => ⟨careful.1,careful.2⟩⟩

section Rows

variable {id milestoneId hash : String} {db db' : Db} {input : ProofInput}

/-- What recording a version of the milestone leaves. -/
structure Recorded (milestoneId : String) (input : ProofInput) (db db' : Db) : Prop where
  milestones : db'.milestones = db.milestones
  others : ∀ id, id ≠ milestoneId → hashOf db' id = hashOf db id
  own : hashOf db' milestoneId = present input.proofHash ∨
    hashOf db' milestoneId = hashOf db milestoneId ∧ ∃ version ∈ latestVersion db milestoneId, version.status = .submitted

theorem agreesSame (milestones : db'.milestones.get? id = db.milestones.get? id) (hashes : hashOf db' id = hashOf db id)
    (agrees : Agrees id db) : Agrees id db' := by
  unfold Agrees
  rw [milestones,hashes]
  exact agrees

theorem agreesUnsubmitted (unsubmitted : ∀ m ∈ db.milestones.get? id, m.status ≠ .proofSubmitted) : Agrees id db :=
  fun m found status => absurd status (unsubmitted m found)

theorem hashStays {p : MilestoneProofVersion → Bool} {f : MilestoneProofVersion → MilestoneProofVersion} {keys : ∀ v, (f v).id = v.id}
    (keeps : ∀ row, (f row).milestoneId = row.milestoneId ∧ (f row).versionNumber = row.versionNumber)
    (same : ∀ row, (f row).proofHash = row.proofHash) : hashOf (db.updateVersionsWhere p f keys).2 id = hashOf db id := by
  rw [hashOf,hashOf,latestUpdated keeps,Option.bind_map]
  congr 1
  funext row
  simp only [Function.comp_apply]
  split
  · rw [same]
  · rfl

theorem recordedCreate {row : MilestoneProofVersion} {versions : Table MilestoneProofVersion}
    (made : db.proofVersions.create row = some versions) (hash : row.proofHash = present input.proofHash)
    (most : ∀ old ∈ db.proofVersions.rows, old.milestoneId = row.milestoneId → old.versionNumber < row.versionNumber) :
    Recorded row.milestoneId input db { db with proofVersions := versions } where
  milestones := rfl
  others id other := by rw [hashOf,hashOf,latestElsewhere made other.symm]
  own := by
    refine Or.inl ?_
    rw [hashOf,latestCreated made most,Option.bind_some,hash]
    cases input.proofHash with
    | none => rfl
    | some text => simp only [present,Option.filter_filter,Bool.and_self]

theorem recordedUpdate {version : MilestoneProofVersion} (latest : latestVersion db milestoneId = some version) :
    Recorded milestoneId input db
      { db with proofVersions := db.proofVersions.update version.id fun row => { row with proofHash := input.proofHash } } := by
  obtain ⟨stored,mine,_⟩ := latestMost latest
  have keeps : ∀ row : MilestoneProofVersion, { row with proofHash := input.proofHash }.milestoneId = row.milestoneId ∧
      { row with proofHash := input.proofHash }.versionNumber = row.versionNumber := fun _ => ⟨rfl,rfl⟩
  refine ⟨rfl,fun id other => ?_,Or.inl ?_⟩
  · rw [hashOf,hashOf,latestUpdateElsewhere keeps stored (mine.trans_ne other.symm)]
  · rw [hashOf,latestUpdate keeps,latest,Option.map_some,if_pos rfl,Option.bind_some]

end Rows

section Reviews

variable {id : String} {db db' : Db} {count : Nat} {p : MilestoneProofVersion → Bool} {f : MilestoneProofVersion → MilestoneProofVersion}
  {keys : ∀ v, (f v).id = v.id}

theorem reviewedMilestones (reviewed : db.updateVersionsWhere p f keys = (count,db')) : db'.milestones = db.milestones := by
  cases reviewed
  rfl

theorem agreesReviewed (reviewed : db.updateVersionsWhere p f keys = (count,db'))
    (keeps : ∀ row, (f row).milestoneId = row.milestoneId ∧ (f row).versionNumber = row.versionNumber)
    (same : ∀ row, (f row).proofHash = row.proofHash) (agrees : Agrees id db) : Agrees id db' := by
  have hashes : hashOf (db.updateVersionsWhere p f keys).2 id = hashOf db id := hashStays keeps same
  rw [reviewed] at hashes
  exact agreesSame (by rw [reviewedMilestones reviewed]) hashes agrees

theorem reviewedNone (reviewed : db.updateVersionsWhere (fun row => row.milestoneId = id && row.status = .submitted) f keys = (count,db'))
    (keeps : ∀ row, (f row).milestoneId = row.milestoneId ∧ (f row).versionNumber = row.versionNumber)
    (reviews : ∀ row, (f row).status ≠ .submitted) : ∀ version ∈ latestVersion db' id, version.status ≠ .submitted := by
  intro version latest submitted
  have mapped : latestVersion (db.updateVersionsWhere (fun row => row.milestoneId = id && row.status = .submitted) f keys).2 id = _ :=
    latestUpdated keeps
  rw [reviewed] at mapped
  obtain ⟨row,found,rfl⟩ := Option.map_eq_some_iff.mp (mapped.symm.trans latest)
  have mine := (latestMost found).2.1
  split at submitted
  · exact reviews row submitted
  · rename_i other
    simp [mine,submitted] at other

end Reviews

section Calls

variable {id milestoneId hash : String} {db db' : Db} {input : ProofInput} {c : EscrowSnapshot}
  {admits : List EscrowEvent → EscrowEvent → Prop} {lost : Prop}

/-- What a served `recordVersion` has done, with what a refusal entails. -/
def Records (milestoneId : String) (input : ProofInput) (db : Db) (lost : Prop) (out : Except Exception MilestoneProofVersion)
    (c : EscrowSnapshot) : Prop :=
  match out with
  | .ok _ => Recorded milestoneId input db c.world
  | .error _ => c.world = db ∧ lost

theorem servedCreateVersion {number : Nat} (refused : ∀ history e, admits history e → e.before = db → Refused e → lost) (here : c.world = db)
    (most : ∀ old ∈ db.proofVersions.rows, old.milestoneId = milestoneId → old.versionNumber < number) :
    Ensures admits (fun _ => True) (Records milestoneId input db lost) (ProofVersionsService.createVersion milestoneId number input) c := by
  subst here
  refine ensuresAttempt (fun thread i value db' ok _ => ⟨trivial,?_⟩) fun thread i error failed admitted => ⟨trivial,rfl,?_⟩
  · split at ok
    · contradiction
    · dsimp only at ok
      split at ok
      · contradiction
      · split at ok
        · contradiction
        · rename_i versions made
          cases ok
          exact recordedCreate made rfl most
  · refine refused _ _ admitted rfl ?_
    split at failed
    · rename_i fails
      exact Or.inl fails
    · dsimp only at failed
      split at failed
      · rename_i taken
        obtain ⟨old,found⟩ := Option.isSome_iff_exists.mp taken
        have its := List.find?_some found
        simp only [Bool.and_eq_true,decide_eq_true_eq] at its
        have less := most old (List.mem_of_find?_eq_some found) its.1
        omega
      · split at failed
        · rename_i taken
          exact Or.inr (Table.createTaken taken)
        · contradiction

theorem servedUpdateHash {version : MilestoneProofVersion} (refused : ∀ history e, admits history e → e.before = db → Refused e → lost)
    (here : c.world = db) (latest : latestVersion db milestoneId = some version) :
    Ensures admits (fun _ => True) (Records milestoneId input db lost)
      (ProofVersionsService.updateVersion milestoneId version.id fun row => { row with proofHash := input.proofHash }) c := by
  subst here
  have stored : c.world.proofVersions.get? version.id = some version := Table.memGet (latestMost latest).1
  refine ensuresAttempt (fun thread i value db' ok _ => ⟨trivial,?_⟩) fun thread i error failed admitted => ⟨trivial,rfl,?_⟩
  · split at ok
    · contradiction
    · obtain ⟨_,modified,same⟩ := exceptBind.mp ok
      obtain ⟨_,_,rfl⟩ := Db.requiredModify modified
      cases same
      exact recordedUpdate latest
  · refine refused _ _ admitted rfl ?_
    split at failed
    · rename_i fails
      exact Or.inl fails
    · simp [Table.modify,stored,required,bind,Except.bind] at failed
      cases failed

theorem servedAttempt {gives : Exception → Op MilestoneProofVersion}
    (refused : ∀ history e, admits history e → e.before = db → Refused e → lost) (here : c.world = db)
    (rest : ∀ error c', c'.world = db → lost → Ensures admits (fun _ => True) (Records milestoneId input db lost) (gives error) c') :
    Ensures admits (fun _ => True) (Records milestoneId input db lost) (ProofVersionsService.attemptVersion milestoneId input gives) c := by
  subst here
  have created : ∀ number c', c'.world = c.world →
      (∀ old ∈ c.world.proofVersions.rows, old.milestoneId = milestoneId → old.versionNumber < number) →
      Ensures admits (fun _ => True) (Records milestoneId input c.world lost)
        ((ProofVersionsService.createVersion milestoneId number input).handle gives) c' := by
    intro number c' same most
    refine ensuresHandle (ensuresMono ?_ (servedCreateVersion refused same most))
    intro out c' records
    cases out with
    | ok version => exact records
    | error error => exact rest error c' records.1 records.2
  refine ensuresBind (ensuresQuery fun thread i admitted => ⟨trivial,?_⟩)
  split
  · rename_i found answer
    split at answer
    · contradiction
    · cases answer
      dsimp only
      split
      · rename_i missing
        exact created _ _ rfl fun old there mine => absurd mine (latestNone missing old there)
      · rename_i version latest
        obtain ⟨stored,its,most⟩ := latestMost latest
        split
        · rename_i submitted
          split
          · exact servedUpdateHash refused rfl latest
          · exact ⟨rfl,fun _ _ => rfl,Or.inr ⟨rfl,version,latest,submitted⟩⟩
        · exact created _ _ rfl fun old there mine => Nat.lt_succ_of_le (most old there mine)
  · rename_i error failed
    refine ⟨rfl,refused _ _ admitted rfl ?_⟩
    split at failed
    · assumption
    · contradiction

theorem servedRecord (refused : ∀ history e, admits history e → e.before = db → Refused e → lost) (here : c.world = db) :
    Ensures admits (fun _ => True) (Records milestoneId input db lost) (ProofVersionsService.recordVersion milestoneId input) c := by
  refine servedAttempt refused here fun error c' same gone => ?_
  split
  · exact servedAttempt refused same fun error c' same gone => ⟨same,gone⟩
  · exact ⟨same,gone⟩

theorem servedConfigured {config : Config} (missing : config.proofVersions = false → lost)
    (refused : ∀ history e, admits history e → e.before = db → Refused e → lost) (here : c.world = db) :
    Ensures admits (fun _ => True) (Records milestoneId input db lost) (MilestonesService.recordVersion config milestoneId input) c := by
  unfold MilestonesService.recordVersion
  split
  · exact servedRecord refused here
  · rename_i none
    exact ⟨here,missing (Bool.eq_false_iff.mpr none)⟩

end Calls

section Turns

variable {self} {id milestoneId hash : String} {db db' : Db} {input : ProofInput} {c : EscrowSnapshot}
  {admits : List EscrowEvent → EscrowEvent → Prop}

abbrev Settles {α : Type} (admits : List EscrowEvent → EscrowEvent → Prop) (id : String) (p : Op α) (c : EscrowSnapshot) : Prop :=
  Ensures admits (fun _ => True) (fun _ c => Agrees id c.world) p c

theorem settlesReads {α : Type} {p : Op α} (reads : Reads Site.reads p) (agrees : Agrees id c.world) : Settles admits id p c := by
  refine ensuresMono (fun out c' same => ?_) (ensuresReads reads fun _ _ => trivial)
  exact same ▸ agrees

theorem agreesRecorded (other : id ≠ milestoneId) (recorded : Recorded milestoneId input db db') (agrees : Agrees id db) : Agrees id db' :=
  agreesSame (by rw [recorded.milestones]) (recorded.others id other) agrees

theorem agreesUpdated {milestoneId : String} {f : Milestone → Milestone} {keeps : ∀ m, (f m).id = m.id} {m : Milestone}
    (updated : db.updateMilestone milestoneId f keeps = .ok (m,db')) (agrees : Agrees id db)
    (own : id = milestoneId → ∀ row ∈ db.milestones.get? milestoneId, (f row).status = .proofSubmitted →
      ∀ hash ∈ hashOf db id, (f row).proofHash = some hash) : Agrees id db' := by
  obtain ⟨row,there,_,self,others,rfl⟩ := Db.updateMilestoneCases updated
  by_cases same : id = milestoneId
  · subst same
    intro m found status hash carried
    cases self.symm.trans found
    exact own rfl row there status hash carried
  · exact agreesSame (others id same) rfl agrees

theorem settlesSubmitProof (engagementId : String) (milestoneIndex : Nat) (user : PartyUser) (input : ProofInput) (agrees : Agrees id db)
    (here : c.world = db) : Settles admits id (ProofVersionsService.submitProof engagementId milestoneIndex user input) c := by
  have stays : ∀ c' : EscrowSnapshot, c'.world = db → Agrees id c'.world := fun _ same => same ▸ agrees
  refine ensuresFindOr (fun _ _ => trivial) (fun _ => stays) here fun loaded c found here => ?_
  have there : db.milestones.get? loaded.1.id = some loaded.1 := by
    split at found
    · contradiction
    · rename_i m at'
      split at found
      · contradiction
      · cases found
        exact Table.memGet (List.mem_of_find?_eq_some at')
  dsimp only
  unfold requirePartyRole
  split
  · split
    · rw [Process.retBind]
      split
      · exact stays _ here
      · split
        · exact stays _ here
        · rename_i pending
          refine ensuresNow (fun _ _ => trivial) (fun _ => stays) here fun c here => ?_
          refine ensuresBind (ensuresWrite (fun _ _ => trivial) (fun _ => stays) here fun thread i value db₁ _ ok _ => ⟨trivial,?_⟩)
          have reviewed := Except.ok.inj ok
          have kept : Agrees id db₁ := agreesReviewed reviewed (fun _ => ⟨rfl,rfl⟩) (fun _ => rfl) agrees
          have closed : ∀ version ∈ latestVersion db₁ loaded.1.id, version.status ≠ .submitted :=
            reviewedNone reviewed (fun _ => ⟨rfl,rfl⟩) fun _ => (by simp)
          refine ensuresBind (ensuresMono ?_ (servedRecord (fun _ _ _ _ _ => True.intro) rfl))
          intro out c records
          cases out with
          | error error => exact records.1 ▸ kept
          | ok version =>
            have recorded : Recorded loaded.1.id { input with submittedById := user.id } db₁ c.world := records
            have before : Agrees id c.world := by
              by_cases own : id = loaded.1.id
              · refine agreesUnsubmitted fun m found => ?_
                rw [recorded.milestones,reviewedMilestones reviewed,own,there] at found
                cases found
                rw [not_not.mp pending]
                simp
              · exact agreesRecorded own recorded kept
            refine ensuresBind (ensuresWrite (fun _ _ => trivial) (fun _ _ same => same ▸ before) rfl fun thread i value db₂ _ ok _ => ⟨trivial,?_⟩)
            refine settlesReads (readsBind readsNotify fun _ => trivial) (agreesUpdated ok before fun own row found _ hash carried => ?_)
            subst own
            rcases recorded.own with given | ⟨_,version,latest,submitted⟩
            · rw [given] at carried
              show (present input.proofHash).or row.proofHash = some hash
              rw [show present input.proofHash = some hash from carried]
              rfl
            · exact absurd submitted (closed version latest)
    · exact stays _ here
  · exact stays _ here

theorem settlesRejectProof (engagementId : String) (milestoneIndex : Nat) (user : PartyUser) (reason : String) (versionNumber : Option Nat)
    (agrees : Agrees id db) (here : c.world = db) :
    Settles admits id (ProofVersionsService.rejectProof engagementId milestoneIndex user reason versionNumber) c := by
  have stays : ∀ c' : EscrowSnapshot, c'.world = db → Agrees id c'.world := fun _ same => same ▸ agrees
  refine ensuresFindOr (fun _ _ => trivial) (fun _ => stays) here fun loaded c found here => ?_
  dsimp only
  unfold requirePartyRole
  split
  · split
    · rw [Process.retBind]
      split
      · exact stays _ here
      · refine ensuresBind (ensuresMono ?_ (ensuresReads (readsAssertReviewable versionNumber) fun _ _ => trivial))
        intro out c same
        have here := same.trans here
        cases out with
        | error error => exact stays _ here
        | ok latest =>
          dsimp only
          split
          · exact stays _ here
          · refine ensuresNow (fun _ _ => trivial) (fun _ => stays) here fun c here => ?_
            refine ensuresBind (ensuresWrite (fun _ _ => trivial) (fun _ => stays) here fun thread i value db₁ _ ok _ => ⟨trivial,?_⟩)
            have kept : Agrees id db₁ := agreesReviewed (Except.ok.inj ok) (fun _ => ⟨rfl,rfl⟩) (fun _ => rfl) agrees
            dsimp only
            split
            · exact kept
            · refine ensuresBind (ensuresWrite (fun _ _ => trivial) (fun _ _ same => same ▸ kept) rfl fun thread i value db₂ _ ok _ => ⟨trivial,?_⟩)
              have pending : Agrees id db₂ := agreesUpdated ok kept fun _ _ _ => (by simp)
              refine ensuresBind (ensuresWrite (fun _ _ => trivial) (fun _ _ same => same ▸ pending) rfl fun thread i value db₃ _ ok _ => ⟨trivial,?_⟩)
              cases ok
              exact settlesReads (readsBind readsNotify fun _ => trivial) (agreesSame rfl rfl pending)
    · exact stays _ here
  · exact stays _ here

theorem agreesMarked {m : Milestone} (found : db.milestones.get? id = some m) (marked : m.proofHash = some hash)
    (carries : ∀ carried ∈ hashOf db id, carried = hash) : Agrees id db := by
  intro m' found' _ carried there
  cases found.symm.trans found'
  rw [marked,carries carried there]

theorem settlesMark (engagementId : String) (milestoneIndex : Nat) (careful : ∀ history e, admits history e → Careful self id hash e)
    (agrees : Agrees id db) (here : c.world = db) : Settles admits id (markProofSubmitted self engagementId milestoneIndex hash) c := by
  have stays : ∀ c' : EscrowSnapshot, c'.world = db → Agrees id c'.world := fun _ same => same ▸ agrees
  refine ensuresBind (ensuresWrite (fun _ _ => trivial) (fun _ => stays) here fun thread i value db₁ fine ok admitted => ⟨trivial,?_⟩)
  obtain ⟨m,there,marks,_,updated⟩ := Db.updateMilestoneAtCases (by intro _; exact ⟨rfl,rfl⟩) ok
  obtain ⟨_,_,_,marked,others,same⟩ := Db.updateMilestoneCases updated
  have versions : db₁.proofVersions = db.proofVersions := by rw [same]
  have hashes : ∀ id, hashOf db₁ id = hashOf db id := by
    intro id
    rw [hashOf,hashOf,latestRows versions]
  have elsewhere : id ≠ m.id → Agrees id db₁ := fun other => agreesSame (others id other) (hashes id) agrees
  have contested : id = m.id → (∃ version ∈ latestVersion db id, version.status = .submitted) ∨ self.proofVersions = false →
      ∀ carried ∈ hashOf db id, carried = hash := by
    intro own kept carried inside
    obtain ⟨version,latest,its⟩ := Option.bind_eq_some_iff.mp inside
    refine (careful _ _ admitted).uncontested fine m there own.symm version latest ?_ carried its
    rcases kept with ⟨other,latest',submitted⟩ | missing
    · cases latest.symm.trans latest'
      exact Or.inl submitted
    · exact Or.inr missing
  have marksOwn : id = m.id → (∀ carried ∈ hashOf db id, carried = hash) → Agrees id db₁ := by
    intro own carries
    refine agreesMarked (own ▸ marked) rfl fun carried inside => ?_
    rw [hashes] at inside
    exact carries carried inside
  subst marks
  have missing : self.proofVersions = false → Agrees id db₁ := by
    intro none
    by_cases own : id = m.id
    · exact marksOwn own (contested own (Or.inr none))
    · exact elsewhere own
  have refused : ∀ history e, admits history e → e.before = db₁ → Refused e → Agrees id db₁ :=
    fun history e admitted same gone => same ▸ (careful history e admitted).refused gone
  refine ensuresBind (ensuresMono ?_ (servedConfigured missing refused rfl))
  intro out c records
  cases out with
  | error error => exact records.1 ▸ records.2
  | ok version =>
    have recorded : Recorded m.id { proofHash := some hash } db₁ c.world := records
    show Agrees id c.world
    by_cases own : id = m.id
    · refine agreesMarked (by rw [recorded.milestones,own,marked]) rfl fun carried inside => ?_
      rcases own ▸ recorded.own with given | ⟨kept,version,latest,submitted⟩
      · rw [given] at inside
        exact (Option.some.inj (Option.mem_filter_iff.mp inside).1).symm
      · rw [kept,hashes] at inside
        exact contested own (Or.inl ⟨version,latestRows versions id ▸ latest,submitted⟩) carried inside
    · exact agreesRecorded own recorded (elsewhere own)

theorem settlesFlow (engagementId : String) (milestoneIndex : Nat) (careful : ∀ history e, admits history e → Careful self id hash e)
    (agrees : Agrees id db) (here : c.world = db) : Settles admits id (submitProofFlow self engagementId milestoneIndex hash) c := by
  have stays : ∀ c' : EscrowSnapshot, c'.world = db → Agrees id c'.world := fun _ same => same ▸ agrees
  refine ensuresFindOr (fun _ _ => trivial) (fun _ => stays) here fun milestone c _ here => ?_
  split
  · exact stays _ here
  · refine ensuresBind (ensuresMono ?_ (settlesMark engagementId milestoneIndex careful agrees here))
    intro out c kept
    cases out with
    | error error => exact kept
    | ok updated =>
      refine settlesReads (readsBind (readsFind _ _) fun engagement => ?_) kept
      split
      · trivial
      · exact readsBind readsCreateNotification fun _ => trivial

theorem settlesHandler (payload : Json) (careful : ∀ history e, admits history e → Careful self id "" e) (agrees : Agrees id c.world) :
    Settles admits id (handleProofSubmitted self payload) c := by
  refine ensuresBind ?_
  cases indexAt self (destructurePayload payload) 1 with
  | error error => exact agrees
  | ok milestoneIndex =>
    refine ensuresBind (ensuresMono ?_ (settlesMark _ milestoneIndex careful agrees rfl))
    intro out c kept
    cases out with
    | error error => exact kept
    | ok updated => exact settlesReads (readsBind (readsAnnounce _ _) fun _ => trivial) kept

theorem readsFindProcessed (event : ContractEvent) : Reads Site.reads (findProcessed event) := readsQuery rfl _

theorem readsFindSaved (event : ContractEvent) : Reads Site.reads (findSaved event) := readsQuery rfl _

theorem settlesEvent (event : ContractEvent) (careful : ∀ history e, admits history e → Careful self id "" e) (agrees : Agrees id db)
    (here : c.world = db) : Settles admits id (processEvent self { event with topic := ["proof_submitted"] }) c := by
  have stays : ∀ c' : EscrowSnapshot, c'.world = db → Agrees id c'.world := fun _ same => same ▸ agrees
  refine ensuresBind (ensuresMono ?_ (ensuresReads (readsFindProcessed _) fun _ _ => trivial))
  intro out c same
  have here := same.trans here
  cases out with
  | error error => exact stays _ here
  | ok existing =>
    dsimp only
    split
    · exact stays _ here
    · have saved : Settles admits id (savedEvent { event with topic := ["proof_submitted"] }) c := by
        refine ensuresBind (ensuresMono ?_ (ensuresReads (readsFindSaved _) fun _ _ => trivial))
        intro out c same
        have here := same.trans here
        cases out with
        | error error => exact stays _ here
        | ok found =>
          dsimp only
          split
          · exact stays _ here
          · refine ensuresWrite (fun _ _ => trivial) (fun _ => stays) here fun thread i value db₁ _ ok _ => ⟨trivial,?_⟩
            dsimp only at ok
            split at ok
            · contradiction
            · split at ok
              · contradiction
              · cases ok
                exact agreesSame rfl rfl agrees
      refine ensuresBind (ensuresMono ?_ saved)
      intro out c kept
      cases out with
      | error error => exact kept
      | ok chainEvent =>
        dsimp only
        split
        · exact kept
        · refine ensuresBind (ensuresMono ?_ (settlesHandler _ careful kept))
          intro out c kept
          cases out with
          | error error => exact kept
          | ok writes =>
            refine ensuresWrite (fun _ _ => trivial) (fun _ _ same => same ▸ kept) rfl fun thread i value db₁ _ ok _ => ⟨trivial,?_⟩
            dsimp only at ok
            split at ok
            · contradiction
            · cases ok
              exact agreesSame rfl rfl kept

theorem settlesUnit {α : Type} {p : Op α} (settles : Settles admits id p c) : Settles admits id (p >>= fun _ => pure ()) c := by
  refine ensuresBind (ensuresMono ?_ settles)
  intro out c kept
  cases out <;> exact kept

theorem settlesRequest (request : Request) (agrees : Agrees id c.world) :
    Settles (fun _ e => ∀ hash ∈ request.marks, Careful self id hash e) id (handler self request) c := by
  cases request with
  | submitProof engagementId milestoneIndex user input => exact settlesUnit (settlesSubmitProof engagementId milestoneIndex user input agrees rfl)
  | submitProofFlow engagementId milestoneIndex proofHash =>
    exact settlesUnit (settlesFlow engagementId milestoneIndex (fun _ _ careful => careful proofHash rfl) agrees rfl)
  | rejectProof engagementId milestoneIndex user reason versionNumber =>
    exact settlesUnit (settlesRejectProof engagementId milestoneIndex user reason versionNumber agrees rfl)
  | proofSubmitted event => exact settlesEvent event (fun _ _ careful => careful "" rfl) agrees rfl

/-- Between two requests the hash of a milestone under review is the one of its
latest version, as long as no mark contradicts the version it leaves under review
and no mark is left without the version it announces. -/
theorem hashesAgree (self : Config) (id : String) (db : Db) (agrees : Agrees id db) (list : List ProofTurn)
    (careful : Meets (fun request _ e => ∀ hash ∈ request.marks, Careful self id hash e) ((service self).turns (Pool.initial db) list))
    (ended : ∀ t ∈ ((service self).turns (Pool.initial db) list).threads, ∃ out, t.process = Process.ofExcept out) :
    Agrees id ((service self).turns (Pool.initial db) list).world := by
  have finished : ∀ t ∈ ((service self).turns (Pool.initial db) list).threads, ∃ out, t.process = Process.ofExcept out ∧ True :=
    fun t inside => (ended t inside).imp fun _ same => ⟨same,trivial⟩
  exact turnsEnd (J := fun _ c => Agrees id c.world) (fun _ request c kept => ensuresMono (fun _ _ kept _ => kept) (settlesRequest request kept))
    (fun _ _ _ kept => kept) agrees list careful finished

def placement : Db where
  engagements := .single { id := "e", companyAddress := "GC", recruiterAddress := "GR", arbiterAddress := "GA", totalAmount := 1000 }
  milestones := .single { id := "m", engagementId := "e", milestoneIndex := 0, name := "placed", kind := .placement, paymentPercent := 100 }

def submit (input : ProofInput) : ProofTurn :=
  .serve (.submitProof "e" 0 { stellarAddress := some "GR" } input) (.replicate 7 { text := "v" })

/-- The contract reports the submission. -/
def reported : ProofTurn :=
  .serve (.proofSubmitted { ledger := 1, txHash := "tx", topic := [], value := .array [.text "e",.number 0] }) (.replicate 12 { text := "w" })

def unhashed : List ProofTurn :=
  [submit { proofUrl := some "url" },reported,
    .serve (.rejectProof "e" 0 { stellarAddress := some "GC" } "unsigned" none) (.replicate 7 {}),
    .serve (.submitProofFlow "e" 0 "hash") (.replicate 7 { text := "x" })]

theorem hashesAgreeLater :
    Agrees "m" ((service {}).turns (Pool.initial placement) unhashed).world ∧
    hashOf ((service {}).turns (Pool.initial placement) unhashed).world "m" = some "hash" := by
  have ended : ∀ t ∈ ((service {}).turns (Pool.initial placement) unhashed).threads, t.process.returned = some () := by
    decide +kernel
  exact ⟨hashesAgree {} "m" placement (by decide +kernel) unhashed (by decide +kernel)
    fun t inside => ⟨.ok (),Process.returnedEq (ended t inside)⟩,by decide +kernel⟩

def hashed : List ProofTurn := [submit { proofHash := some "hash" },reported]

theorem hashErased :
    Agrees "m" placement ∧ ((service {}).turns (Pool.initial placement) hashed).threads.map (fun t => t.process.returned) = [some (),some ()] ∧
    hashOf ((service {}).turns (Pool.initial placement) hashed).world "m" = some "hash" ∧
    (((service {}).turns (Pool.initial placement) hashed).world.milestones.get? "m").map Milestone.proofHash = some (some "") ∧
    ¬ Agrees "m" ((service {}).turns (Pool.initial placement) hashed).world := by
  decide +kernel

end Turns

end HireSettle.Escrow.ProofHashes
