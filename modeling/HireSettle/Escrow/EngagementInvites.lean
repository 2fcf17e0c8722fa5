import HireSettle.Escrow.MilestonePercents

/-! What the creation of an engagement and its preview leave behind. Both prepare it
first, and the preparation stores the rows of every input it accepts; both then read
from its result what it does not return. -/
namespace HireSettle.Escrow.EngagementInvites
open Workflow EngagementsService

variable {self : Config} {userId : String} {dto : CreateEngagementDto} {respond : Site → Answer} {db db' : Db}

/-- The template version that the input is merged over; `none` when the lookup of the template is refused. -/
def pinnedVersion (userId : String) (dto : CreateEngagementDto) (db : Db) : Option (Option EngagementTemplateVersion) :=
  match present dto.templateId with
  | none => some none
  | some templateId => do
      let template ← db.templates.get? templateId
      if template.companyId = userId then
        some (db.templateVersions.findFirst fun row => row.templateId = template.id && row.version = template.currentVersion)
      else none

def mergedMilestones (dto : CreateEngagementDto) (version : Option EngagementTemplateVersion) : Option (List MilestoneInput) :=
  dto.milestones.or (version.bind (·.milestones))

def mergedWindows (dto : CreateEngagementDto) (version : Option EngagementTemplateVersion) : List (Option Int) :=
  (dto.retentionDays.or (version.bind (·.retentionDays))).getD []

def mergedTitle (dto : CreateEngagementDto) (version : Option EngagementTemplateVersion) : Option String :=
  present (dto.jobTitle.or (version.bind (·.jobTitle)))

/-- The milestones have the names, kinds and shares of the inputs, and the retention milestones their windows in order. -/
structure Entered (windows : List (Option Int)) (inputs : List MilestoneInput) (rows : List Milestone) : Prop where
  names : rows.map Milestone.name = inputs.map MilestoneInput.name
  kinds : rows.map Milestone.kind = inputs.map MilestoneInput.kind
  percents : rows.map Milestone.paymentPercent = inputs.map MilestoneInput.paymentPercent
  retention : (rows.filter fun m => m.kind = .retention).map Milestone.retentionDays =
    (List.range (rows.filter fun m => m.kind = .retention).length).map fun i => windows[i]?.join

theorem milestoneDataEntered (engagementId id : String) (inputs : List MilestoneInput) :
    ∀ index windows, Entered windows inputs (milestoneData engagementId id index windows inputs) := by
  induction inputs with
  | nil => exact fun _ _ => ⟨rfl,rfl,rfl,rfl⟩
  | cons input inputs ih =>
    intro index windows
    cases kind : input.kind with
    | placement =>
      obtain ⟨names,kinds,percents,retention⟩ := ih (index + 1) windows
      constructor <;> simp [milestoneData,kind,names,kinds,percents,retention]
    | retention =>
      obtain ⟨names,kinds,percents,retention⟩ := ih (index + 1) windows.tail
      constructor
      case retention => simp [milestoneData,kind,retention,List.range_succ_eq_map,List.head?_eq_getElem?]
      all_goals simp [milestoneData,kind,names,kinds,percents]

theorem numberedInjective (id : String) {i j : Nat} (same : s!"{id}/{i}" = s!"{id}/{j}") : i = j := by
  have digits : i.repr = j.repr := by simpa [ToString.toString,String.append_assoc] using same
  rw [Nat.repr_eq_ofList_toDigits,Nat.repr_eq_ofList_toDigits] at digits
  simpa using congrArg (Nat.ofDigitChars 10 · 0) (String.ofList_injective digits)

section Rows

def Apart (m m' : Milestone) : Prop := m.milestoneIndex ≠ m'.milestoneIndex ∧ m.id ≠ m'.id

/-- No unique index of the milestones refuses the row. -/
def Free (db : Db) (m : Milestone) : Prop := db.milestoneAt m.engagementId m.milestoneIndex = none ∧ db.milestones.get? m.id = none

instance (m : Milestone) : Decidable (Free db m) := inferInstanceAs (Decidable (_ ∧ _))

theorem milestoneDataNumbers (engagementId id : String) (inputs : List MilestoneInput) (m : Milestone) :
    ∀ index windows, m ∈ milestoneData engagementId id index windows inputs →
      index ≤ m.milestoneIndex ∧ m.id = s!"{id}/{m.milestoneIndex}" := by
  induction inputs with
  | nil => nofun
  | cons input inputs ih =>
    intro index windows inside
    rcases List.mem_cons.mp inside with rfl | later
    · exact ⟨Nat.le_refl _,rfl⟩
    · obtain ⟨beyond,numbered⟩ := ih _ _ later
      exact ⟨Nat.le_of_succ_le beyond,numbered⟩

theorem milestoneDataApart (engagementId id : String) (inputs : List MilestoneInput) :
    ∀ index windows, (milestoneData engagementId id index windows inputs).Pairwise Apart := by
  induction inputs with
  | nil => exact fun _ _ => List.Pairwise.nil
  | cons input inputs ih =>
    intro index windows
    refine List.pairwise_cons.mpr ⟨fun m later => ?_,ih _ _⟩
    obtain ⟨beyond,numbered⟩ := milestoneDataNumbers engagementId id inputs m _ _ later
    have other : index ≠ m.milestoneIndex := Nat.ne_of_lt beyond
    exact ⟨other,fun same => other (numberedInjective id (same.trans numbered))⟩

theorem createFree {m : Milestone} (free : Free db m) : ∃ db', db.createMilestone m = .ok db' ∧
    db'.milestones.rows = db.milestones.rows ++ [m] ∧ db'.engagements = db.engagements ∧ db'.templates = db.templates ∧
    ∀ other, Apart m other → (Free db' other ↔ Free db other) := by
  obtain ⟨slot,id⟩ := free
  cases made : db.milestones.create m with
  | none =>
    have taken := Table.createTaken made
    rw [show db.milestones.get? (Keyed.key m) = none from id] at taken
    cases taken
  | some milestones =>
    obtain ⟨_,rows,get⟩ := Table.createGet made
    refine ⟨{ db with milestones := milestones },?_,rows,rfl,rfl,fun other apart => ?_⟩
    · simp [Db.createMilestone,slot,made]
    · have elsewhere : milestones.get? other.id = db.milestones.get? other.id := (get other.id).trans (if_neg apart.2.symm)
      have unslotted : milestones.findFirst (fun row => row.engagementId = other.engagementId && row.milestoneIndex = other.milestoneIndex) =
          db.milestones.findFirst fun row => row.engagementId = other.engagementId && row.milestoneIndex = other.milestoneIndex := by
        rw [Table.findFirstCreate made,if_neg (by simp [apart.1]),Option.or_none]
      exact and_congr (iff_of_eq (congrArg (· = none) unslotted)) (iff_of_eq (congrArg (· = none) elsewhere))

theorem createTaken {m : Milestone} (taken : ¬ Free db m) : ∃ error, db.createMilestone m = .error error := by
  unfold Db.createMilestone
  split
  · exact ⟨_,rfl⟩
  · rename_i unslotted
    cases made : db.milestones.create m with
    | none => exact ⟨_,rfl⟩
    | some milestones => exact absurd ⟨by simpa using unslotted,(Table.createGet made).1⟩ taken

/-- The rows of a list are stored when each of them is free, and else the whole statement fails. -/
theorem storesFree (db : Db) {rows : List Milestone} (apart : rows.Pairwise Apart) :
    if ∀ m ∈ rows, Free db m then ∃ db', rows.foldlM Db.createMilestone db = .ok db' ∧
      db'.milestones.rows = db.milestones.rows ++ rows ∧ db'.engagements = db.engagements ∧ db'.templates = db.templates
    else ∃ error, rows.foldlM Db.createMilestone db = .error error := by
  induction rows generalizing db with
  | nil => simp [pure,Except.pure]
  | cons m rows ih =>
    obtain ⟨others,apart⟩ := List.pairwise_cons.mp apart
    rw [List.foldlM_cons]
    by_cases free : Free db m
    · obtain ⟨mid,created,rows₁,engagements,templates,keeps⟩ := createFree free
      have later := ih mid apart
      have same : (∀ m ∈ rows, Free mid m) ↔ ∀ m' ∈ m :: rows, Free db m' := by
        rw [List.forall_mem_cons]
        exact ⟨fun all => ⟨free,fun m' there => (keeps m' (others m' there)).mp (all m' there)⟩,
          fun all m' there => (keeps m' (others m' there)).mpr (all.2 m' there)⟩
      rw [created]
      simp only [same] at later
      split
      · rename_i all
        rw [if_pos all] at later
        obtain ⟨db',stored,rows₂,engagements',templates'⟩ := later
        refine ⟨db',stored,?_,engagements'.trans engagements,templates'.trans templates⟩
        rw [rows₂,rows₁,List.append_assoc,List.singleton_append]
      · rename_i some
        rwa [if_neg some] at later
    · obtain ⟨error,failed⟩ := createTaken free
      rw [if_neg fun all => free (all m List.mem_cons_self),failed]
      exact ⟨error,rfl⟩

end Rows

/-- The milestones of the invite, with the id that the database gives them. -/
def invitedMilestones (dto : CreateEngagementDto) (respond : Site → Answer) (version : Option EngagementTemplateVersion)
    (inputs : List MilestoneInput) : List Milestone :=
  milestoneData dto.engagementId (respond (.createEngagement dto.engagementId)).text 0 (mergedWindows dto version) inputs

structure Storable (dto : CreateEngagementDto) (respond : Site → Answer) (db : Db) (version : Option EngagementTemplateVersion)
    (inputs : List MilestoneInput) : Prop where
  title : (mergedTitle dto version).isSome
  milestones : mergedMilestones dto version = some inputs
  whole : (inputs.map MilestoneInput.paymentPercent).sum = 100
  amount : dto.totalAmount.isSome
  written : (respond (.createEngagement dto.engagementId)).fails = false
  free : ∀ m ∈ invitedMilestones dto respond version inputs, Free db m

/-- What the preparation leaves of an input that it stores. -/
structure Stored (dto : CreateEngagementDto) (db db' : Db) (version : Option EngagementTemplateVersion) (inputs : List MilestoneInput)
    (row : Engagement) : Prop where
  engagements : db.engagements.create row = some db'.engagements
  id : row.id = dto.engagementId
  requiredApprovals : row.requiredApprovals = 1
  targetStartDate : row.targetStartDate = none
  milestones : ∃ rows, Entered (mergedWindows dto version) inputs rows ∧ db'.milestones.rows = db.milestones.rows ++ rows
  templates : db'.templates = db.templates

theorem createEngagementRuns (respond : Site → Answer) (row : Engagement) (milestones : String → List Milestone) (k : Engagement → Op Engagement)
    (fresh : db.engagements.get? row.id = none) (apart : ∀ id, (milestones id).Pairwise Apart) :
    if (respond (.createEngagement row.id)).fails = false ∧ ∀ m ∈ milestones (respond (.createEngagement row.id)).text, Free db m then
      ∃ db', (createEngagement row milestones >>= k).interpret respond db = (k row).interpret respond db' ∧
        db.engagements.create row = some db'.engagements ∧
        db'.milestones.rows = db.milestones.rows ++ milestones (respond (.createEngagement row.id)).text ∧ db'.templates = db.templates
    else ∃ error, (createEngagement row milestones >>= k).interpret respond db = (.error error,db) := by
  rw [createEngagement,interpretWrite]
  cases answered : (respond (.createEngagement row.id)).fails with
  | true =>
    rw [if_neg (by simp)]
    exact ⟨_,rfl⟩
  | false =>
    cases made : db.engagements.create row with
    | none =>
      have taken := Table.createTaken made
      rw [show db.engagements.get? (Keyed.key row) = none from fresh] at taken
      cases taken
    | some engagements =>
      have stores := storesFree { db with engagements := engagements } (apart (respond (.createEngagement row.id)).text)
      split at stores
      · rename_i free
        obtain ⟨db',stored,rows,same,templates⟩ := stores
        rw [if_pos ⟨rfl,free⟩]
        refine ⟨db',?_,congrArg some same.symm,rows,templates⟩
        simp [bind,Except.bind,stored,pure,Except.pure]
      · rename_i taken
        obtain ⟨error,failed⟩ := stores
        rw [if_neg fun both => taken both.2]
        exact ⟨error,by simp [bind,Except.bind,failed]⟩

theorem persistRuns (version : Option EngagementTemplateVersion) (fresh : db.engagements.get? dto.engagementId = none) :
    (∃ inputs row db', Storable dto respond db version inputs ∧ (persist dto version).interpret respond db = (.ok row,db') ∧
      Stored dto db db' version inputs row) ∨
    (∀ inputs, ¬ Storable dto respond db version inputs) ∧ ∃ error, (persist dto version).interpret respond db = (.error error,db) := by
  have titled : present (dto.jobTitle.or (version.bind (·.jobTitle))) = mergedTitle dto version := rfl
  have entered : dto.milestones.or (version.bind (·.milestones)) = mergedMilestones dto version := rfl
  unfold persist
  dsimp only
  rw [titled,entered]
  cases title : mergedTitle dto version with
  | none => exact Or.inr ⟨fun inputs storable => by simpa [title] using storable.title,_,rfl⟩
  | some jobTitle =>
    cases milestones : mergedMilestones dto version with
    | none => exact Or.inr ⟨fun inputs storable => by simpa [milestones] using storable.milestones,_,rfl⟩
    | some inputs =>
      have only : ∀ other, Storable dto respond db version other → other = inputs := fun other storable =>
        Option.some.inj (storable.milestones.symm.trans milestones)
      dsimp only
      by_cases whole : (inputs.map MilestoneInput.paymentPercent).sum = 100
      · rw [if_neg (not_not.mpr whole)]
        cases amount : dto.totalAmount with
        | none => exact Or.inr ⟨fun other storable => by simpa [amount] using storable.amount,_,rfl⟩
        | some totalAmount =>
          dsimp only
          let row : Engagement :=
            { id := dto.engagementId
              companyAddress := dto.companyAddress
              recruiterAddress := dto.recruiterAddress
              arbiterAddress := dto.arbiterAddress
              tokenAddress := dto.tokenAddress
              totalAmount := totalAmount
              jobTitle := jobTitle
              jobDescription := dto.jobDescription.or (version.bind (·.jobDescription))
              salaryRange := dto.salaryRange.or (version.bind (·.salaryRange))
              location := dto.location.or (version.bind (·.location))
              status := .pendingAcceptance
              templateVersionId := version.map (·.id) }
          have runs := createEngagementRuns respond row (fun id => milestoneData dto.engagementId id 0 (mergedWindows dto version) inputs)
            (fun row => notify >>= fun _ => .ret row) fresh fun id => milestoneDataApart _ id inputs 0 _
          split at runs
          · rename_i stores
            obtain ⟨db',ran,engagements,rows,templates⟩ := runs
            refine Or.inl ⟨inputs,_,db',⟨by rw [title]; rfl,milestones,whole,by rw [amount]; rfl,stores.1,stores.2⟩,ran,?_⟩
            exact ⟨engagements,rfl,rfl,rfl,⟨_,milestoneDataEntered _ _ inputs 0 _,rows⟩,templates⟩
          · rename_i refused
            refine Or.inr ⟨fun other storable => refused ⟨storable.written,?_⟩,runs⟩
            exact only other storable ▸ storable.free
      · rw [if_pos whole]
        exact Or.inr ⟨fun other storable => whole (only other storable ▸ storable.whole),_,rfl⟩

/-- The user, the input, the database and the answers of the environment are as the validation asks. No site is
called twice by the preparation, so `respond` stands for any answers. -/
structure Accepts (config : Config) (userId : String) (dto : CreateEngagementDto) (respond : Site → Answer) (db : Db)
    (version : Option EngagementTemplateVersion) (inputs : List MilestoneInput) : Prop extends Storable dto respond db version inputs where
  looked : (respond (.find .engagement)).fails = false
  fresh : db.engagements.get? dto.engagementId = none
  allowed : config.isTokenAllowed dto.tokenAddress = true
  pinned : pinnedVersion userId dto db = some version
  found : present dto.templateId ≠ none →
    (respond (.find .template)).fails = false ∧ (respond (.find .templateVersion)).fails = false

def Accepted (config : Config) (userId : String) (dto : CreateEngagementDto) (respond : Site → Answer) (db : Db) : Prop :=
  ∃ version inputs, Accepts config userId dto respond db version inputs

theorem findTemplateRuns {templateId : String} (present' : present dto.templateId = some templateId)
    {k : Option EngagementTemplateVersion → Op Engagement} :
    (∃ version, pinnedVersion userId dto db = some version ∧ (respond (.find .template)).fails = false ∧
      (respond (.find .templateVersion)).fails = false ∧
      (findTemplate templateId userId >>= k).interpret respond db = (k version).interpret respond db) ∨
    ((pinnedVersion userId dto db = none ∨ (respond (.find .template)).fails = true ∨ (respond (.find .templateVersion)).fails = true) ∧
      ∃ error, (findTemplate templateId userId >>= k).interpret respond db = (.error error,db)) := by
  simp only [findTemplate,Process.bindAssoc,interpretFind,pinnedVersion,present']
  cases looked : (respond (.find .template)).fails with
  | true => exact Or.inr ⟨Or.inr (Or.inl rfl),_,rfl⟩
  | false =>
    cases stored : db.templates.get? templateId with
    | none => exact Or.inr ⟨Or.inl rfl,_,rfl⟩
    | some template =>
      by_cases own : template.companyId = userId
      · simp only [own,ne_eq,not_true_eq_false,if_false,interpretFind]
        cases read : (respond (.find .templateVersion)).fails with
        | true => exact Or.inr ⟨Or.inr (Or.inr rfl),_,rfl⟩
        | false => exact Or.inl ⟨_,by simp [own],trivial,rfl,rfl⟩
      · refine Or.inr ⟨Or.inl (by simp [own]),.forbidden "Not authorized to use this template",?_⟩
        simp [own]
        rfl

theorem prepareRuns :
    (∃ version inputs row db', Accepts self userId dto respond db version inputs ∧
      (prepareEngagement self userId dto).interpret respond db = (.ok row,db') ∧ Stored dto db db' version inputs row) ∨
    ¬ Accepted self userId dto respond db ∧
      ∃ error, (prepareEngagement self userId dto).interpret respond db = (.error error,db) := by
  rw [prepareEngagement,interpretFind]
  cases looked : (respond (.find .engagement)).fails with
  | true => exact Or.inr ⟨fun ⟨_,_,accepts⟩ => absurd accepts.looked (by simp [looked]),_,rfl⟩
  | false =>
    by_cases fresh : db.engagements.get? dto.engagementId = none
    · by_cases allowed : self.isTokenAllowed dto.tokenAddress = true
      · simp only [fresh,allowed,Option.isSome_none,Bool.false_eq_true,if_false,Bool.not_true]
        cases templateId : present dto.templateId with
        | none =>
          have pinned : pinnedVersion userId dto db = some none := by simp only [pinnedVersion,templateId]
          rcases persistRuns none fresh with ⟨inputs,row,db',storable,ran,stored⟩ | ⟨refused,error,failed⟩
          · exact Or.inl ⟨none,inputs,row,db',⟨storable,looked,fresh,allowed,pinned,fun some => absurd templateId some⟩,ran,stored⟩
          · refine Or.inr ⟨?_,error,failed⟩
            rintro ⟨version,inputs,accepts⟩
            cases Option.some.inj (pinned.symm.trans accepts.pinned)
            exact refused inputs accepts.toStorable
        | some id =>
          rcases findTemplateRuns templateId with ⟨version,pinned,template,version',ran⟩ | ⟨missing,error,failed⟩
          · rcases persistRuns version fresh with ⟨inputs,row,db',storable,persisted,stored⟩ | ⟨refused,error,failed⟩
            · refine Or.inl ⟨version,inputs,row,db',⟨storable,looked,fresh,allowed,pinned,fun _ => ⟨template,version'⟩⟩,?_,stored⟩
              exact ran.trans persisted
            · refine Or.inr ⟨?_,error,ran.trans failed⟩
              rintro ⟨other,inputs,accepts⟩
              cases Option.some.inj (pinned.symm.trans accepts.pinned)
              exact refused inputs accepts.toStorable
          · refine Or.inr ⟨?_,error,failed⟩
            rintro ⟨version,inputs,accepts⟩
            obtain ⟨template,version'⟩ := accepts.found (by simp [templateId])
            simp [accepts.pinned,template,version'] at missing
      · refine Or.inr ⟨fun ⟨_,_,accepts⟩ => allowed accepts.allowed,.badRequest s!"Token {dto.tokenAddress} is not allowed",?_⟩
        simp only [fresh,allowed,Option.isSome_none,Bool.false_eq_true,if_false]
        rfl
    · obtain ⟨row,there⟩ := Option.ne_none_iff_exists'.mp fresh
      refine Or.inr ⟨fun ⟨_,_,accepts⟩ => fresh accepts.fresh,.conflict s!"Engagement {dto.engagementId} already exists",?_⟩
      simp only [there,Option.isSome_some,if_true]
      rfl

theorem persistUnnotified {version : Option EngagementTemplateVersion} {error : Exception}
    (thrown : ((persist dto version).interpret respond db).1 = .error error) : .notify ∉ (persist dto version).sites respond db := by
  unfold persist at thrown ⊢
  dsimp only at thrown ⊢
  split at thrown
  · nofun
  · nofun
  · split at thrown
    · rename_i unequal
      rw [if_pos unequal]
      nofun
    · rename_i whole
      rw [if_neg whole]
      split at thrown
      · nofun
      · refine sitesThrow thrown ?_ fun row db' thrown => ?_
        · rw [createEngagement,write,sitesTransact]
          simp
        · cases thrown

theorem findUnnotified (templateId userId : String) (db : Db) : .notify ∉ (findTemplate templateId userId).sites respond db := by
  have steps : Steps (fun site => site ≠ .notify) Eq (findTemplate templateId userId) := by
    refine stepsBind (stepsQuery (by simp) (fun _ => rfl) _) fun found => ?_
    split
    · trivial
    · split
      · trivial
      · exact stepsQuery (by simp) (fun _ => rfl) _
  intro inside
  simpa using sitesSteps steps db _ inside

theorem prepareUnnotified {error : Exception} (thrown : ((prepareEngagement self userId dto).interpret respond db).1 = .error error) :
    .notify ∉ (prepareEngagement self userId dto).sites respond db := by
  refine sitesThrow thrown (by simp [find]) fun existing db' thrown => ?_
  split at thrown
  · rename_i there
    rw [if_pos there]
    rintro ⟨⟩
  · rename_i fresh
    rw [if_neg fresh]
    split at thrown
    · rename_i refused
      rw [if_pos refused]
      rintro ⟨⟩
    · rename_i allowed
      rw [if_neg allowed]
      split at thrown
      · exact persistUnnotified thrown
      · exact sitesThrow thrown (findUnnotified _ _ _) fun version db' thrown => persistUnnotified thrown

def Untouched (db db' : Db) : Prop :=
  db'.engagements = db.engagements ∧ db'.milestones = db.milestones ∧ db'.templates = db.templates

/-- What follows the preparation throws, and adds no engagement. -/
def Fails (respond : Site → Answer) {α : Type} (p : Op α) : Prop :=
  ∀ db, ∃ error db', p.interpret respond db = (.error error,db') ∧ db'.engagements = db.engagements

theorem afterPrepare (self : Config) (userId : String) (dto : CreateEngagementDto) (db : Db) {α : Type} {k : Engagement → Op α} (fails : ∀ row, Fails respond (k row)) :
    ∃ error db', (prepareEngagement self userId dto >>= k).interpret respond db = (.error error,db') ∧
      (Untouched db db' ↔ ¬ Accepted self userId dto respond db) := by
  rw [interpretBind]
  rcases prepareRuns with ⟨version,inputs,row,db',accepts,ran,stored⟩ | ⟨refused,error,failed⟩
  · obtain ⟨error,db'',threw,same⟩ := fails row db'
    rw [ran]
    refine ⟨error,db'',threw,iff_of_false (fun untouched => ?_) (not_not.mpr ⟨version,inputs,accepts⟩)⟩
    have added := (Table.createGet stored.engagements).2.1
    rw [← same,untouched.1] at added
    simp at added
  · rw [failed]
    exact ⟨error,db,rfl,iff_of_true ⟨rfl,rfl,rfl⟩ refused⟩

/-- One engagement was added, as the input asks. -/
structure Created (dto : CreateEngagementDto) (version : Option EngagementTemplateVersion) (inputs : List MilestoneInput) (db db' : Db)
    (row : Engagement) : Prop where
  added : db.engagements.create row = some db'.engagements
  id : row.id = dto.engagementId
  requiredApprovals : row.requiredApprovals = dto.requiredApprovals.getD 1
  targetStartDate : row.targetStartDate = dto.targetStartDate
  milestones : ∃ rows, Entered (mergedWindows dto version) inputs rows ∧ db'.milestones.rows = db.milestones.rows ++ rows

def AllOrNothing (config : Config) (userId : String) (dto : CreateEngagementDto) (respond : Site → Answer) (db : Db) : Prop :=
  match (create config userId dto).interpret respond db with
  | (.error _,db') => Untouched db db' ∧ ¬ Accepted config userId dto respond db
  | (.ok row,db') => ∃ version inputs, pinnedVersion userId dto db = some version ∧ mergedMilestones dto version = some inputs ∧
      Created dto version inputs db db' row

theorem countFails (respond : Site → Answer) (templateId : Option String) : Fails respond (countTemplateUse templateId >>= fun _ => (.raise .typeError : Op Engagement)) := by
  intro db
  have steps : Steps anySite (fun db db' : Db => db'.engagements = db.engagements) (countTemplateUse templateId) := by
    refine stepsCountTemplateUse rfl (fun _ => rfl) (fun _ => ?_) (fun _ _ => ?_) templateId <;> rfl
  have same : ((countTemplateUse templateId).interpret respond db).2.engagements = db.engagements := by
    refine stepsInterpret (fun _ => ?_) (fun first second => ?_) steps db
    · rfl
    · exact second.trans first
  rw [interpretBind]
  generalize (countTemplateUse templateId).interpret respond db = out at same
  obtain ⟨error | value,db'⟩ := out
  · exact ⟨error,db',rfl,same⟩
  · exact ⟨_,db',rfl,same⟩

theorem createAllOrNothing (self : Config) (userId : String) (dto : CreateEngagementDto) (respond : Site → Answer) (db : Db) :
    AllOrNothing self userId dto respond db ↔ ¬ Accepted self userId dto respond db := by
  obtain ⟨error,db',threw,untouched⟩ := afterPrepare self userId dto db fun _ => countFails respond dto.templateId
  have runs : (create self userId dto).interpret respond db = (.error error,db') := threw
  rw [AllOrNothing,runs]
  exact ⟨fun ⟨_,refused⟩ => refused,fun refused => ⟨untouched.mpr refused,refused⟩⟩

-- a company with a template of two milestones, and an input that asks for two approvals
def stored : Db where
  templates := ⟨[{ id := "t", companyId := "c" }],by decide⟩
  templateVersions := ⟨[{
    id := "v", templateId := "t", version := 1, jobTitle := some "Engineer", retentionDays := some [some 90],
    milestones := some [{ name := "placed", kind := .placement, paymentPercent := 60 },
      { name := "retained", kind := .retention, paymentPercent := 40 }] }],by decide⟩

def invite : CreateEngagementDto where
  engagementId := "e"
  companyAddress := "GC"
  recruiterAddress := "GR"
  arbiterAddress := "GA"
  tokenAddress := "USDC"
  totalAmount := some 1000
  templateId := some "t"
  targetStartDate := some 100
  requiredApprovals := some 2

def answers (_ : Site) : Answer := { text := "m" }

theorem createStrands :
    ((create {} "c" invite).interpret answers stored).1 = .error .typeError ∧
    ((create {} "c" invite).interpret answers stored).2.engagements.rows.map
      (fun row => (row.id,row.requiredApprovals,row.targetStartDate)) = [("e",1,none)] ∧
    ((create {} "c" invite).interpret answers stored).2.templates.rows.map EngagementTemplate.usageCount = [1] ∧
    ¬ AllOrNothing {} "c" invite answers stored := by
  have threw : ((create {} "c" invite).interpret answers stored).1 = .error .typeError := by decide +kernel
  have added : ((create {} "c" invite).interpret answers stored).2.engagements.rows.length = 1 := by decide +kernel
  refine ⟨threw,by decide +kernel,by decide +kernel,fun holds => ?_⟩
  unfold AllOrNothing at holds
  generalize (create {} "c" invite).interpret answers stored = out at threw added holds
  obtain ⟨error | row,db'⟩ := out
  · rw [holds.1.1] at added
    cases added
  · cases threw

section Costs

structure Adds (preview : Preview) : Prop where
  amounts : (preview.milestones.map MilestoneCost.amount).sum = preview.totalAmount
  platformFees : (preview.milestones.map MilestoneCost.platformFee).sum = preview.totalAmount * preview.platformFeeBps / 10000
  totals : (preview.milestones.map MilestoneCost.total).sum = preview.totalCost

theorem splitLength (total : Int) (percents : List Int) : (splitByPercent total percents).length = percents.length := by
  have lengths : ∀ allocated, (splitAmounts total allocated percents).length = percents.length := by
    induction percents with
    | nil => exact fun _ => rfl
    | cons percent rest ih =>
      intro allocated
      cases rest with
      | nil => rfl
      | cons next rest => exact congrArg (· + 1) (ih _)
  exact lengths 0

/-- The last share takes what the others leave. -/
theorem splitSum (total : Int) {percents : List Int} (some : percents ≠ []) : (splitByPercent total percents).sum = total := by
  have sums : ∀ allocated, (splitAmounts total allocated percents).sum = total - allocated := by
    induction percents with
    | nil => exact absurd rfl some
    | cons percent rest ih =>
      intro allocated
      cases rest with
      | nil => simp [splitAmounts]
      | cons next rest =>
        simp only [splitAmounts,List.sum_cons]
        rw [ih (List.cons_ne_nil _ _)]
        omega
  exact (sums 0).trans (Int.sub_zero total)

theorem costSums (networkFee : Int) {data : List Milestone} {amounts fees : List Int} (filled : amounts.length = data.length)
    (paired : fees.length = data.length) (costs : List MilestoneCost)
    (made : costs = (data.zip (amounts.zip fees)).map fun (m,amount,fee) => milestoneCost networkFee m amount fee) :
    (costs.map MilestoneCost.amount).sum = amounts.sum ∧ (costs.map MilestoneCost.platformFee).sum = fees.sum ∧
      (costs.map MilestoneCost.total).sum = amounts.sum + fees.sum := by
  subst made
  induction data generalizing amounts fees with
  | nil =>
    cases List.eq_nil_of_length_eq_zero filled
    cases List.eq_nil_of_length_eq_zero paired
    exact ⟨rfl,rfl,rfl⟩
  | cons m data ih =>
    obtain ⟨amount,amounts,rfl⟩ := List.exists_cons_of_length_eq_add_one filled
    obtain ⟨fee,fees,rfl⟩ := List.exists_cons_of_length_eq_add_one paired
    obtain ⟨amountSum,feeSum,totalSum⟩ := ih (Nat.succ.inj filled) (Nat.succ.inj paired)
    refine ⟨congrArg (amount + ·) amountSum,congrArg (fee + ·) feeSum,?_⟩
    refine (congrArg (amount + fee + ·) totalSum).trans ?_
    simp only [List.sum_cons]
    omega

end Costs

/-- Nothing is stored and nobody is notified, and what is returned adds up. -/
structure Effectless (db db' : Db) (called : List Site) (out : Except Exception Preview) : Prop where
  untouched : Untouched db db'
  unnotified : .notify ∉ called
  adds : ∀ preview, out = .ok preview → Adds preview

theorem costFails {plan : Db → Option Plan} {k : Option Plan → Int → Op Preview} (fails : ∀ plan fee, Fails respond (k plan fee)) :
    Fails respond (do let plan ← find .user plan; let fee ← stellar .getFeeEstimate Answer.number; k plan fee) := by
  intro db
  rw [interpretFind]
  split
  · exact ⟨_,db,rfl,rfl⟩
  · rw [interpretStellar]
    split
    · exact ⟨_,db,rfl,rfl⟩
    · exact fails _ _ db

theorem previewFails (userId : String) (row : Engagement) : Fails respond (do
    let plan ← find .user fun db => do
      let company ← db.users.get? userId
      let planId ← company.planId
      db.plans.get? planId
    let networkFee ← stellar .getFeeEstimate Answer.number
    match mergedData row, previewedData row with
    | some merged, some data =>
        match merged.totalAmount with
        | none => .raise .syntaxError
        | some totalAmount => return breakdown merged.tokenAddress plan totalAmount networkFee data
    | _, _ => (.raise .typeError : Op Preview)) :=
  costFails fun _ _ db => ⟨_,db,rfl,rfl⟩

theorem previewEffectless (self : Config) (userId : String) (dto : CreateEngagementDto) (respond : Site → Answer) (db : Db) :
    Effectless db ((preview self userId dto).interpret respond db).2 ((preview self userId dto).sites respond db)
      ((preview self userId dto).interpret respond db).1 ↔ ¬ Accepted self userId dto respond db := by
  obtain ⟨error,db',threw,untouched⟩ := afterPrepare self userId dto db (previewFails userId)
  have runs : (preview self userId dto).interpret respond db = (.error error,db') := threw
  rw [runs]
  refine ⟨fun effectless => untouched.mp effectless.untouched,fun refused => ⟨untouched.mpr refused,?_,(by simp)⟩⟩
  rcases prepareRuns with ⟨version,inputs,row,mid,accepts,_⟩ | ⟨_,error',failed⟩
  · exact absurd ⟨version,inputs,accepts⟩ refused
  · have called : (preview self userId dto).sites respond db = (prepareEngagement self userId dto).sites respond db := by
      rw [preview,sitesBind,failed,List.append_nil]
    rw [called]
    exact prepareUnnotified (congrArg Prod.fst failed)

theorem previewStores :
    ((preview {} "c" invite).interpret answers stored).1 = .error .typeError ∧
    ((preview {} "c" invite).interpret answers stored).2.milestones.rows.map Milestone.id = ["m/0","m/1"] ∧
    .notify ∈ (preview {} "c" invite).sites answers stored ∧
    ¬ Effectless stored ((preview {} "c" invite).interpret answers stored).2 ((preview {} "c" invite).sites answers stored)
      ((preview {} "c" invite).interpret answers stored).1 := by
  have notified : .notify ∈ (preview {} "c" invite).sites answers stored := by decide +kernel
  exact ⟨by decide +kernel,by decide +kernel,notified,fun effectless => effectless.unnotified notified⟩

end HireSettle.Escrow.EngagementInvites
