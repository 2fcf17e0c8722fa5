import HireSettle.Common.Calls
import HireSettle.Workflow.Guards
import HireSettle.Workflow.Table
import HireSettle.Workflow.Turns

/-! The versions of engagement templates. An update reads the template, and then stores the
merged content as the next version and in the template itself, in one transaction. Nothing
but the unique index over the template and the version orders concurrent updates. -/
namespace HireSettle.Escrow.TemplateVersions
open Workflow

variable {J : Type}

-- `J` is the type of the JSON values
structure TemplateContent (J : Type) where
  name : String
  jobTitle : String
  jobDescription : Option String := none
  salaryRange : Option String := none
  location : Option String := none
  milestoneConfig : J
  deriving DecidableEq, Repr

structure EngagementTemplate (J : Type) extends TemplateContent J where
  id : String
  companyId : String
  currentVersion : Nat := 1
  archived : Bool := false
  usageCount : Nat := 0
  lastUsedAt : Option Nat := none
  isPublic : Bool := false
  createdAt : Nat := 0
  updatedAt : Nat := 0
  deriving DecidableEq, Repr

instance : Keyed (EngagementTemplate J) String := ⟨fun row => row.id⟩

structure EngagementTemplateVersion (J : Type) extends TemplateContent J where
  templateId : String
  version : Nat
  createdAt : Nat := 0
  deriving DecidableEq, Repr

-- `@@unique([templateId, version])`
instance : Keyed (EngagementTemplateVersion J) (String × Nat) := ⟨fun row => (row.templateId,row.version)⟩

structure World (J : Type) where
  templates : Table (EngagementTemplate J) := Table.empty
  versions : Table (EngagementTemplateVersion J) := Table.empty
  clock : Nat := 0

inductive Site where
  | findTemplate
  | createTemplate
  | updateTemplate
  | archiveTemplate
  deriving DecidableEq, Repr

abbrev Op (J : Type) := Process Site Answer (World J) Exception

structure UpdateEngagementTemplateDto (J : Type) where
  name : Option String := none
  jobTitle : Option String := none
  jobDescription : Option String := none
  salaryRange : Option String := none
  location : Option String := none
  milestoneConfig : Option J := none
  isPublic : Option Bool := none
  deriving DecidableEq, Repr

-- the id is what the environment answers
def createTemplate (companyId : String) (dto : TemplateContent J) (answer : Answer) (w : World J) :
    Except Exception (EngagementTemplate J × World J) :=
  if answer.fails then .error .database
  else
    let template : EngagementTemplate J :=
      { dto with id := answer.text, companyId := companyId, currentVersion := 1, createdAt := w.clock, updatedAt := w.clock }
    match w.templates.create template with
    | none => .error .uniqueViolation
    | some templates =>
        match w.versions.create { template.toTemplateContent with templateId := template.id, version := 1, createdAt := w.clock } with
        | none => .error .uniqueViolation
        | some versions => .ok (template,{ w with templates := templates, versions := versions })

def create (companyId : String) (dto : TemplateContent J) : Op J (EngagementTemplate J) :=
  .transact .createTemplate (createTemplate companyId dto)

def findTemplate (id : String) : Op J (Option (EngagementTemplate J)) :=
  .query .findTemplate fun answer w => if answer.fails then .error .database else .ok (w.templates.get? id)

def findOne (id companyId : String) : Op J (EngagementTemplate J) := do
  let found ← findTemplate id
  match found with
  | none => .raise (.notFound s!"Template {id} not found")
  | some template =>
      if template.companyId ≠ companyId then .raise (.forbidden "Not authorized to access this template")
      else return template

def merged (dto : UpdateEngagementTemplateDto J) (existing : TemplateContent J) : TemplateContent J where
  name := dto.name.getD existing.name
  jobTitle := dto.jobTitle.getD existing.jobTitle
  jobDescription := dto.jobDescription.or existing.jobDescription
  salaryRange := dto.salaryRange.or existing.salaryRange
  location := dto.location.or existing.location
  milestoneConfig := dto.milestoneConfig.getD existing.milestoneConfig

def updatedRow (content : TemplateContent J) (nextVersion : Nat) (isPublic : Bool) (updatedAt : Nat) (row : EngagementTemplate J) :
    EngagementTemplate J :=
  { row with toTemplateContent := content, currentVersion := nextVersion, isPublic := isPublic, updatedAt := updatedAt }

theorem updatedKey (content : TemplateContent J) (nextVersion : Nat) (isPublic : Bool) (updatedAt : Nat) (row : EngagementTemplate J) :
    Keyed.key (updatedRow content nextVersion isPublic updatedAt row) = Keyed.key row := rfl

def updateTemplate (id : String) (content : TemplateContent J) (nextVersion : Nat) (isPublic : Bool) (answer : Answer) (w : World J) :
    Except Exception (EngagementTemplate J × World J) :=
  if answer.fails then .error .database
  else match w.versions.create { content with templateId := id, version := nextVersion, createdAt := w.clock } with
    | none => .error .uniqueViolation
    | some versions =>
        match w.templates.modify id (updatedRow content nextVersion isPublic w.clock) (updatedKey content nextVersion isPublic w.clock) with
        | none => .error .recordNotFound
        | some (row,templates) => .ok (row,{ w with templates := templates, versions := versions })

def update (id companyId : String) (dto : UpdateEngagementTemplateDto J) : Op J (EngagementTemplate J) := do
  let existing ← findOne id companyId
  let content := merged dto existing.toTemplateContent
  let nextVersion := existing.currentVersion + 1
  let isPublic := dto.isPublic.getD existing.isPublic
  .transact .updateTemplate (updateTemplate id content nextVersion isPublic)

def archivedRow (updatedAt : Nat) (row : EngagementTemplate J) : EngagementTemplate J := { row with archived := true, updatedAt := updatedAt }

theorem archivedKey (updatedAt : Nat) (row : EngagementTemplate J) : Keyed.key (archivedRow updatedAt row) = Keyed.key row := rfl

def archiveTemplate (id : String) (answer : Answer) (w : World J) : Except Exception (Unit × World J) :=
  if answer.fails then .error .database
  else match w.templates.modify id (archivedRow w.clock) (archivedKey w.clock) with
    | none => .error .recordNotFound
    | some (_,templates) => .ok ((),{ w with templates := templates })

def remove (id companyId : String) : Op J Unit := do
  let _ ← findOne id companyId
  .transact .archiveTemplate (archiveTemplate id)

def copied (source : EngagementTemplate J) (name : String) : TemplateContent J := { source.toTemplateContent with name := name }

def clone (id companyId : String) (name : Option String) : Op J (EngagementTemplate J) := do
  let source ← findOne id companyId
  let original := source.name
  create companyId (copied source (name.getD s!"{original} (copy)"))

def adopt (id companyId : String) (name : Option String) : Op J (EngagementTemplate J) := do
  let found ← findTemplate id
  match found with
  | none => .raise (.notFound s!"Public template {id} not found")
  | some source =>
      if !source.isPublic || source.archived then .raise (.notFound s!"Public template {id} not found")
      else do
        let original := source.name
        create companyId (copied source (name.getD s!"{original} (adopted)"))

inductive Request (J : Type) where
  | create (companyId : String) (dto : TemplateContent J)
  | update (id companyId : String) (dto : UpdateEngagementTemplateDto J)
  | remove (id companyId : String)
  | clone (id companyId : String) (name : Option String)
  | adopt (id companyId : String) (name : Option String)

inductive Reply (J : Type) where
  | template (template : EngagementTemplate J)
  | success

def handler : Request J → Op J (Reply J)
  | .create companyId dto => do
      let template ← create companyId dto
      return .template template
  | .update id companyId dto => do
      let template ← update id companyId dto
      return .template template
  | .remove id companyId => do
      remove id companyId
      return .success
  | .clone id companyId name => do
      let template ← clone id companyId name
      return .template template
  | .adopt id companyId name => do
      let template ← adopt id companyId name
      return .template template

/-- Only the time passes by itself. -/
def service : System (Request J) Nat Site Answer (World J) Exception (Reply J) where
  handler := handler
  environment elapsed w := { w with clock := w.clock + elapsed }

abbrev TemplateEvent (J : Type) := Event Site Answer (World J)

abbrev TemplatePool (J : Type) := Pool (Request J) Site Answer (World J) Exception (Reply J)

abbrev TemplateMove (J : Type) := Move (Request J) Nat Answer

def contentOf (id : String) (n : Nat) (w : World J) : Option (TemplateContent J) :=
  (w.versions.get? (id,n)).map fun row => row.toTemplateContent

/-- The versions of a template are numbered from one to the current one, which has this content. -/
structure Numbered (w : World J) (id : String) (currentVersion : Nat) (content : TemplateContent J) : Prop where
  numbers : ∀ n, (w.versions.get? (id,n)).isSome ↔ 1 ≤ n ∧ n ≤ currentVersion
  content : contentOf id currentVersion w = some content

structure Versioned (w : World J) : Prop where
  numbered : ∀ id template, w.templates.get? id = some template →
    Numbered w id template.currentVersion template.toTemplateContent
  owned : ∀ id n row, w.versions.get? (id,n) = some row → (w.templates.get? id).isSome

/-- The update has stored its content as the version after the one that it has read, and in the template. -/
def Stored (pool : TemplatePool J) (k : Nat) (id : String) (dto : UpdateEngagementTemplateDto J) (template : EngagementTemplate J) : Prop :=
  template.id = id ∧ ∃ r ∈ pool.own k, ∃ existing, r.site = .findTemplate ∧ r.before.templates.get? id = some existing ∧
    template.currentVersion = existing.currentVersion + 1 ∧ template.toTemplateContent = merged dto existing.toTemplateContent ∧
    contentOf id existing.currentVersion pool.world = some existing.toTemplateContent ∧
    contentOf id template.currentVersion pool.world = some template.toTemplateContent

structure VersionsKept (pool : TemplatePool J) : Prop where
  versioned : Versioned pool.world
  unchanged : ∀ e ∈ pool.history, ∀ key row, e.before.versions.get? key = some row →
    e.after.versions.get? key = some row ∧ pool.world.versions.get? key = some row
  stored : ∀ (k : Nat) id companyId dto template, pool.threads[k]? = some ⟨.update id companyId dto,.ret (.template template)⟩ →
    Stored pool k id dto template
  alone : ∀ (k k' : Nat) id companyId companyId' dto dto' template template',
    pool.threads[k]? = some ⟨.update id companyId dto,.ret (.template template)⟩ →
    pool.threads[k']? = some ⟨.update id companyId' dto',.ret (.template template')⟩ → template.currentVersion = template'.currentVersion → k = k'
  thrown : ∀ (k : Nat) id companyId dto error, pool.threads[k]? = some ⟨.update id companyId dto,.raise error⟩ →
    ∀ e ∈ pool.own k, e.after = e.before

section Calls

variable {w w' : World J} {answer : Answer} {own : List (TemplateEvent J)} {request : Request J} {α : Type}

/-- A new row of the versions, and the templates beside it. -/
structure Adds (id : String) (n : Nat) (content : TemplateContent J) (w w' : World J) : Prop where
  free : w.versions.get? (id,n) = none
  added : contentOf id n w' = some content
  others : ∀ key, key ≠ (id,n) → w'.versions.get? key = w.versions.get? key

/-- What a call does to the templates and their versions. -/
inductive Effect (w w' : World J) : Prop where
  | archived (versions : w'.versions = w.versions)
      (kept : ∀ id, (w'.templates.get? id).map (fun t => (t.currentVersion,t.toTemplateContent)) =
        (w.templates.get? id).map fun t => (t.currentVersion,t.toTemplateContent))
  | created (template : EngagementTemplate J) (adds : Adds template.id 1 template.toTemplateContent w w') (current : template.currentVersion = 1)
      (free : w.templates.get? template.id = none) (there : w'.templates.get? template.id = some template)
      (others : ∀ id, id ≠ template.id → w'.templates.get? id = w.templates.get? id)
  | updated (id : String) (template old : EngagementTemplate J) (adds : Adds id template.currentVersion template.toTemplateContent w w')
      (found : w.templates.get? id = some old) (there : w'.templates.get? id = some template)
      (others : ∀ other, other ≠ id → w'.templates.get? other = w.templates.get? other) (next : template.currentVersion = old.currentVersion + 1)

theorem addsCreate {row : EngagementTemplateVersion J} {versions : Table (EngagementTemplateVersion J)} {templates : Table (EngagementTemplate J)}
    (created : w.versions.create row = some versions) :
    Adds row.templateId row.version row.toTemplateContent w { w with templates := templates, versions := versions } := by
  obtain ⟨free,_,rows⟩ := Table.createGet created
  refine ⟨free,?_,fun key differs => (rows key).trans (if_neg differs)⟩
  have there : versions.get? (row.templateId,row.version) = some row := (rows _).trans (if_pos rfl)
  simp only [contentOf,there,Option.map_some]

theorem createEffect {companyId : String} {dto : TemplateContent J} {template : EngagementTemplate J}
    (created : createTemplate companyId dto answer w = .ok (template,w')) : Effect w w' := by
  unfold createTemplate at created
  split at created
  · cases created
  dsimp only at created
  split at created
  · cases created
  rename_i templates stored
  split at created
  · cases created
  rename_i versions numbered
  cases created
  obtain ⟨free,_,rows⟩ := Table.createGet stored
  refine .created _ (addsCreate numbered) rfl free ((rows _).trans (if_pos rfl)) fun id differs => (rows id).trans (if_neg differs)

theorem archiveEffect {id : String} (archived : archiveTemplate id answer w = .ok ((),w')) : Effect w w' := by
  unfold archiveTemplate at archived
  split at archived
  · cases archived
  split at archived
  · cases archived
  rename_i modified
  cases archived
  obtain ⟨row,found,_,same⟩ := Table.modifyGet modified
  refine .archived rfl fun other => ?_
  by_cases here : other = id
  · subst here
    simp only [same,Table.getUpdateSelf found _ (archivedKey w.clock),found,Option.map_some,archivedRow]
  · simp only [same,Table.getUpdateOther _ here _ (archivedKey w.clock)]

/-- What an update has committed. -/
structure Updates (id : String) (content : TemplateContent J) (nextVersion : Nat) (template : EngagementTemplate J) (w w' : World J) : Prop where
  row : ∃ old, w.templates.get? id = some old
  there : w'.templates.get? id = some template
  named : template.id = id
  current : template.currentVersion = nextVersion
  fields : template.toTemplateContent = content
  adds : Adds id nextVersion content w w'
  others : ∀ other, other ≠ id → w'.templates.get? other = w.templates.get? other

theorem updateUpdates {id : String} {content : TemplateContent J} {nextVersion : Nat} {isPublic : Bool} {template : EngagementTemplate J}
    (updated : updateTemplate id content nextVersion isPublic answer w = .ok (template,w')) : Updates id content nextVersion template w w' := by
  unfold updateTemplate at updated
  split at updated
  · cases updated
  split at updated
  · cases updated
  rename_i versions numbered
  split at updated
  · cases updated
  rename_i modified
  cases updated
  obtain ⟨row,found,rfl,rfl⟩ := Table.modifyGet modified
  have key : row.id = id := Table.getKey found
  exact ⟨⟨row,found⟩,Table.getUpdateSelf found _ (updatedKey _ _ _ _),key,rfl,rfl,addsCreate numbered,
    fun _ differs => Table.getUpdateOther _ differs _ (updatedKey _ _ _ _)⟩

/-- What is known of each call, from those before it. -/
inductive Calls (own : List (TemplateEvent J)) (e : TemplateEvent J) : Prop where
  | idle (same : e.after = e.before)
  | effect (effect : Effect e.before e.after)
  | updates (id : String) (content : TemplateContent J) (existing template : EngagementTemplate J)
      (updates : Updates id content (existing.currentVersion + 1) template e.before e.after)
      (looked : ∃ r ∈ own, r.after = r.before ∧ r.before.templates.get? id = some existing)

/-- The end of an update: what it has stored, or that it has changed nothing. -/
def Ended (request : Request J) (own : List (TemplateEvent J)) (out : Except Exception (Reply J)) : Prop :=
  match request, out with
  | .update id _ dto, .ok (.template template) => ∃ e ∈ own, ∃ r ∈ own, ∃ existing, r.site = .findTemplate ∧ r.after = r.before ∧
      r.before.templates.get? id = some existing ∧
      Updates id (merged dto existing.toTemplateContent) (existing.currentVersion + 1) template e.before e.after
  | .update _ _ _, .error _ => ∀ e ∈ own, e.after = e.before
  | _, _ => True

theorem guardedFind {done : List (TemplateEvent J) → Except Exception (Option (EngagementTemplate J)) → Prop} {id : String}
    (fails : ∀ thread i w error, done (⟨thread,.findTemplate,i,w,w⟩ :: own) (.error error))
    (finds : ∀ thread i w, done (⟨thread,.findTemplate,i,w,w⟩ :: own) (.ok (w.templates.get? id))) :
    Guarded Calls done (findTemplate id) own := by
  refine guardedQuery fun thread i w => ⟨.idle rfl,?_⟩
  split
  · exact fails thread i w _
  · exact finds thread i w

theorem guardedOne {done : List (TemplateEvent J) → Except Exception (EngagementTemplate J) → Prop} {id companyId : String}
    (fails : ∀ thread i w error, done (⟨thread,.findTemplate,i,w,w⟩ :: own) (.error error))
    (finds : ∀ thread i w template, w.templates.get? id = some template → done (⟨thread,.findTemplate,i,w,w⟩ :: own) (.ok template)) :
    Guarded Calls done (findOne id companyId) own := by
  refine guardedBind (guardedFind (fun thread i w error => fails thread i w error) fun thread i w => ?_)
  cases found : w.templates.get? id with
  | none => exact fails thread i w _
  | some template =>
    dsimp only
    split
    · exact fails thread i w _
    · exact finds thread i w template found

theorem guardedCreate (companyId : String) (dto : TemplateContent J) : Guarded Calls anyOutcome (create companyId dto) own :=
  guardedTransact (fun _ _ _ _ _ created => ⟨.effect (createEffect created),trivial⟩) fun _ _ _ _ _ => ⟨.idle rfl,trivial⟩

theorem guardedUpdate (id companyId : String) (dto : UpdateEngagementTemplateDto J) :
    Guarded Calls (Ended (.update id companyId dto)) (handler (.update id companyId dto)) [] := by
  show Guarded _ _ (update id companyId dto >>= fun template => pure (Reply.template template)) []
  unfold update
  rw [Process.bindAssoc]
  refine guardedBind (guardedOne (fun thread i w error e inside => by rw [List.mem_singleton.mp inside]) fun thread i w existing found => ?_)
  refine guardedBind (guardedTransact (fun thread' i' w' template after updated => ?_) fun thread' i' w' error _ => ?_)
  · have updates := updateUpdates updated
    refine ⟨.updates id _ existing template updates ⟨_,List.mem_singleton_self _,rfl,found⟩,?_⟩
    exact ⟨_,List.mem_cons_self,_,List.mem_cons_of_mem _ (List.mem_singleton_self _),existing,rfl,rfl,found,updates⟩
  · refine ⟨.idle rfl,fun e inside => ?_⟩
    rcases List.mem_cons.mp inside with rfl | before
    · rfl
    · rw [List.mem_singleton.mp before]

theorem endedOther {out : Except Exception (Reply J)} (other : ∀ id companyId dto, request ≠ .update id companyId dto) : Ended request own out := by
  unfold Ended
  split
  · exact absurd rfl (other _ _ _)
  · exact absurd rfl (other _ _ _)
  · trivial

theorem guardedHandler (request : Request J) : Guarded Calls (Ended request) (handler request) [] := by
  cases request with
  | update id companyId dto => exact guardedUpdate id companyId dto
  | create companyId dto =>
    exact guardedMono (fun _ _ _ => endedOther (by simp)) (guardedThen (guardedCreate companyId dto) fun _ _ => trivial)
  | remove id companyId =>
    refine guardedMono (fun _ _ _ => endedOther (by simp)) (guardedThen (guardedBind (guardedOne (fun _ _ _ _ => trivial) fun _ _ _ _ _ => ?_)) fun _ _ => trivial)
    exact guardedTransact (fun _ _ _ _ _ archived => ⟨.effect (archiveEffect archived),trivial⟩) fun _ _ _ _ _ => ⟨.idle rfl,trivial⟩
  | clone id companyId name =>
    refine guardedMono (fun _ _ _ => endedOther (by simp)) (guardedThen (guardedBind (guardedOne (fun _ _ _ _ => trivial) fun _ _ _ _ _ => ?_)) fun _ _ => trivial)
    exact guardedCreate _ _
  | adopt id companyId name =>
    refine guardedMono (fun _ _ _ => endedOther (by simp)) (guardedThen (guardedBind (guardedFind (fun _ _ _ _ => trivial) fun _ _ w => ?_)) fun _ _ => trivial)
    dsimp only
    split
    · trivial
    · split
      · trivial
      · exact guardedCreate _ _

end Calls

section Runs

variable {w w' w'' : World J} {id : String} {n : Nat} {content : TemplateContent J} {c : Snapshot Site Answer (World J)}

/-- No template goes back, and no version changes. -/
structure Grows (w w' : World J) : Prop where
  templates : ∀ id template, w.templates.get? id = some template →
    ∃ later, w'.templates.get? id = some later ∧ template.currentVersion ≤ later.currentVersion
  versions : ∀ key row, w.versions.get? key = some row → w'.versions.get? key = some row

theorem growsRefl (w : World J) : Grows w w := ⟨fun _ template found => ⟨template,found,Nat.le_refl _⟩,fun _ _ found => found⟩

theorem growsTrans (first : Grows w w') (second : Grows w' w'') : Grows w w'' := by
  refine ⟨fun id template found => ?_,fun key row found => second.versions key row (first.versions key row found)⟩
  obtain ⟨later,found',more⟩ := first.templates id template found
  obtain ⟨latest,found'',more'⟩ := second.templates id later found'
  exact ⟨latest,found'',more.trans more'⟩

theorem addsVersions (adds : Adds id n content w w') {key : String × Nat} {row : EngagementTemplateVersion J}
    (found : w.versions.get? key = some row) : w'.versions.get? key = some row := by
  rw [adds.others key,found]
  rintro rfl
  cases adds.free.symm.trans found

theorem effectGrows (effect : Effect w w') : Grows w w' := by
  cases effect with
  | archived versions kept =>
    refine ⟨fun id template found => ?_,fun key row found => by rw [versions,found]⟩
    have same := kept id
    rw [found,Option.map_some,Option.map_eq_some_iff] at same
    obtain ⟨later,found',its⟩ := same
    exact ⟨later,found',(Prod.mk.inj its).1.ge⟩
  | created template adds current free there others =>
    refine ⟨fun id old found => ?_,fun _ _ => addsVersions adds⟩
    have differs : id ≠ template.id := by
      rintro rfl
      cases free.symm.trans found
    exact ⟨old,(others id differs).trans found,Nat.le_refl _⟩
  | updated id template old adds found there others next =>
    refine ⟨fun other row found' => ?_,fun _ _ => addsVersions adds⟩
    by_cases same : other = id
    · subst same
      cases found.symm.trans found'
      exact ⟨template,there,next ▸ Nat.le_succ _⟩
    · exact ⟨row,(others other same).trans found',Nat.le_refl _⟩

/-- The next version of a template after those that it has. -/
theorem numberedNext {current : Nat} (before : ∀ n, (w.versions.get? (id,n)).isSome ↔ 1 ≤ n ∧ n ≤ current)
    (adds : Adds id (current + 1) content w w') : Numbered w' id (current + 1) content := by
  refine ⟨fun n => ?_,adds.added⟩
  by_cases last : n = current + 1
  · subst last
    have there : (w'.versions.get? (id,current + 1)).isSome := by
      obtain ⟨row,found,_⟩ := Option.map_eq_some_iff.mp adds.added
      rw [found]
      rfl
    simp [there]
  · rw [adds.others (id,n) (fun same => last (Prod.mk.inj same).2),before n]
    omega

theorem numberedElsewhere {other : String} {current : Nat} {content' : TemplateContent J} (differs : other ≠ id) (adds : Adds id n content w w')
    (numbered : Numbered w other current content') : Numbered w' other current content' := by
  have same : ∀ m, w'.versions.get? (other,m) = w.versions.get? (other,m) := fun m => adds.others _ fun same => differs (Prod.mk.inj same).1
  exact ⟨fun m => by rw [same m,numbered.numbers m],by rw [contentOf,same,← numbered.content,contentOf]⟩

theorem ownedAdds (versioned : Versioned w) (adds : Adds id n content w w') (there : (w'.templates.get? id).isSome)
    (kept : ∀ other, other ≠ id → w'.templates.get? other = w.templates.get? other) {other : String} {m : Nat}
    {row : EngagementTemplateVersion J} (found : w'.versions.get? (other,m) = some row) : (w'.templates.get? other).isSome := by
  by_cases same : other = id
  · exact same ▸ there
  · rw [adds.others _ fun its => same (Prod.mk.inj its).1] at found
    rw [kept other same]
    exact versioned.owned other m row found

theorem effectVersioned (versioned : Versioned w) (effect : Effect w w') : Versioned w' := by
  cases effect with
  | archived versions kept =>
    refine ⟨fun id template found => ?_,fun id n row found => ?_⟩
    · have same := kept id
      rw [found,Option.map_some] at same
      obtain ⟨old,found',its⟩ := Option.map_eq_some_iff.mp same.symm
      obtain ⟨numbers,content⟩ := versioned.numbered id old found'
      obtain ⟨current,fields⟩ := Prod.mk.inj its
      rw [current] at numbers content
      rw [fields] at content
      exact ⟨fun n => by rw [versions,numbers n],by rw [contentOf,versions,← content,contentOf]⟩
    · have there := versioned.owned id n row (versions ▸ found)
      have same := congrArg Option.isSome (kept id)
      rw [Option.isSome_map,Option.isSome_map] at same
      exact same.trans there
  | created template adds current free there others =>
    refine ⟨fun id row found => ?_,fun id n row => ownedAdds versioned adds (by simp [there]) others⟩
    by_cases same : id = template.id
    · subst same
      cases there.symm.trans found
      rw [current]
      refine numberedNext (fun n => ⟨fun some => ?_,fun bounds => by omega⟩) adds
      obtain ⟨row,found⟩ := Option.isSome_iff_exists.mp some
      have owned := versioned.owned _ n row found
      simp [free] at owned
    · exact numberedElsewhere same adds (versioned.numbered id row ((others id same).symm.trans found))
  | updated id template old adds found there others next =>
    refine ⟨fun other row found' => ?_,fun other n row => ownedAdds versioned adds (by simp [there]) others⟩
    by_cases same : other = id
    · subst same
      cases there.symm.trans found'
      rw [next] at adds ⊢
      exact numberedNext (versioned.numbered other old found).numbers adds
    · exact numberedElsewhere same adds (versioned.numbered other row ((others other same).symm.trans found'))

structure Inv (c : Snapshot Site Answer (World J)) : Prop where
  versioned : Versioned c.world
  past : AllMeet (fun _ e => Versioned e.before ∧ Grows e.before e.after) c.history
  advances : Advances Grows c

/-- The unique index admits the next version only while the one that was read is the current one. -/
theorem updatesEffect (inv : Inv c) {existing template : EngagementTemplate J} (updates : Updates id content (existing.currentVersion + 1) template c.world w)
    (looked : ∃ r ∈ c.history, r.after = r.before ∧ r.before.templates.get? id = some existing) : Effect c.world w := by
  obtain ⟨old,found⟩ := updates.row
  obtain ⟨r,inside,same,shown⟩ := looked
  obtain ⟨row,found',more⟩ := (sinceMem inv.advances.since inside).templates id existing (same.symm ▸ shown)
  cases found.symm.trans found'
  have unused : ¬ (1 ≤ existing.currentVersion + 1 ∧ existing.currentVersion + 1 ≤ old.currentVersion) := by
    rw [← (inv.versioned.numbered id old found).numbers,updates.adds.free]
    simp
  have current := updates.current
  refine .updated id template old ?_ found updates.there updates.others (by omega)
  rw [current,updates.fields]
  exact updates.adds

theorem invRecord (inv : Inv c) {thread : Nat} {site : Site} {i : Answer} {w : World J}
    (calls : Calls (c.history.filter fun e => e.thread = thread) (c.event thread site i w)) : Inv (c.record thread site i w) := by
  have moved : ∀ {w}, Versioned w → Grows c.world w → Inv (c.record thread site i w) := fun versioned grows =>
    ⟨versioned,⟨⟨inv.versioned,grows⟩,inv.past⟩,advancesRecord growsRefl growsTrans grows inv.advances⟩
  have effected : Effect c.world w → Inv (c.record thread site i w) := fun effect =>
    moved (effectVersioned inv.versioned effect) (effectGrows effect)
  cases calls with
  | idle same =>
    have same : w = c.world := same
    subst same
    exact moved inv.versioned (growsRefl _)
  | effect effect => exact effected effect
  | updates id content existing template updates looked =>
    obtain ⟨r,mine,its⟩ := looked
    exact effected (updatesEffect inv updates ⟨r,(List.mem_filter.mp mine).1,its⟩)

theorem guardedTemplates (w : World J) (moves : List (TemplateMove J)) (versioned : Versioned w) :
    GuardedEnds (fun _ => Calls) Ended Inv (service.run (Pool.initial w) moves) := by
  refine guardedRun (P := fun _ _ _ => True) (fun request c thread site i w' inv calls _ => invRecord inv calls) (fun elapsed c inv => ?_)
    guardedHandler (guardedInitial ⟨versioned,trivial,advancesInitial⟩) moves (meetsAlways (fun _ _ _ _ => trivial) _)
  have numbered : ∀ id template, c.world.templates.get? id = some template → _ := inv.versioned.numbered
  refine ⟨⟨fun id template found => ⟨(numbered id template found).numbers,(numbered id template found).content⟩,inv.versioned.owned⟩,inv.past,fun recent e older same calm => ?_,inv.advances.found⟩
  have grows := inv.advances.since recent e older same calm
  exact ⟨grows.templates,grows.versions⟩

/-- A version is added by one event. -/
theorem addedAlone {history : List (TemplateEvent J)} (found : AllMeet (fun earlier e => ∀ d ∈ earlier, Grows d.after e.before) history)
    (key : String × Nat) :
    AllMeet (fun earlier e => (e.before.versions.get? key = none ∧ (e.after.versions.get? key).isSome) →
      ∀ d ∈ earlier, ¬ (d.before.versions.get? key = none ∧ (d.after.versions.get? key).isSome)) history := by
  refine meetsMono (fun earlier e grows adds d inside adds' => ?_) found
  obtain ⟨row,there⟩ := Option.isSome_iff_exists.mp adds'.2
  cases adds.1.symm.trans ((grows d inside).versions key row there)

end Runs

theorem versionsKept (w : World J) (moves : List (TemplateMove J)) (versioned : Versioned w) :
    VersionsKept (service.run (Pool.initial w) moves) := by
  have guarded := guardedTemplates w moves versioned
  generalize service.run (Pool.initial w) moves = pool at guarded
  have inv := guarded.holds
  have later : ∀ e ∈ pool.history, Grows e.after pool.world := fun e inside => sinceMem inv.advances.since inside
  have kept : ∀ e ∈ pool.history, Versioned e.before ∧ Grows e.before e.after := fun e inside => by
    obtain ⟨_,_,its⟩ := meetsAt inv.past inside
    exact its
  have content : ∀ {id n content} {w : World J}, contentOf id n w = some content → Grows w pool.world → contentOf id n pool.world = some content := by
    intro id n content w shown grows
    obtain ⟨row,found,its⟩ := Option.map_eq_some_iff.mp shown
    rw [contentOf,grows.versions _ row found,Option.map_some,its]
  refine ⟨inv.versioned,fun e inside key row found => ?_,fun k id companyId dto template ended => ?_,
    fun k k' id companyId companyId' dto dto' template template' ended ended' same => ?_,fun k id companyId dto error ended => ?_⟩
  · have now := (kept e inside).2.versions key row found
    exact ⟨now,(later e inside).versions key row now⟩
  · obtain ⟨e,mine,r,looked,existing,site,same,found,updates⟩ := guardedReturned guarded ended
    have inside := (List.mem_filter.mp mine).1
    have before := (List.mem_filter.mp looked).1
    refine ⟨updates.named,r,looked,existing,site,found,updates.current,updates.fields,?_,?_⟩
    · exact content ((kept r before).1.numbered id existing found).content (same ▸ later r before)
    · rw [updates.current,updates.fields]
      exact content updates.adds.added (later e inside)
  · obtain ⟨e,mine,_,_,_,_,_,_,updates⟩ := guardedReturned guarded ended
    obtain ⟨e',mine',_,_,_,_,_,_,updates'⟩ := guardedReturned guarded ended'
    obtain ⟨inside,thread⟩ := List.mem_filter.mp mine
    obtain ⟨inside',thread'⟩ := List.mem_filter.mp mine'
    have added := updates.adds
    have added' := updates'.adds
    rw [← updates.current,same] at added
    rw [← updates'.current] at added'
    have shows : ∀ {w : World J} {content}, contentOf id template'.currentVersion w = some content →
        (w.versions.get? (id,template'.currentVersion)).isSome := fun shown => by
      obtain ⟨row,found,_⟩ := Option.map_eq_some_iff.mp shown
      simp [found]
    have one := aloneSame (addedAlone inv.advances.found (id,template'.currentVersion)) inside inside' ⟨added.free,shows added.added⟩
      ⟨added'.free,shows added'.added⟩
    exact (of_decide_eq_true thread).symm.trans ((congrArg Event.thread one).trans (of_decide_eq_true thread'))
  · have thrown : pool.threads[k]? = some ⟨.update id companyId dto,Process.ofExcept (.error error)⟩ := ended
    exact guardedEnded guarded thrown

def edited : List (TemplateMove String) :=
  [.start (.create "c" { name := "n", jobTitle := "t", milestoneConfig := "m" }),.answer 0 { text := "x" },
    .start (.update "x" "c" { name := some "n2" }),.start (.update "x" "c" { jobTitle := some "t2" }),.answer 1 {},.answer 2 {},.answer 1 {},
    .answer 2 {},.start (.remove "x" "c"),.answer 3 {},.answer 3 {}]

theorem editedVersionsKept :
    contentOf "x" 2 (service.run (Pool.initial {}) edited).world = some { name := "n2", jobTitle := "t", milestoneConfig := "m" } ∧
    VersionsKept (service.run (Pool.initial {}) edited) := by
  have versioned : Versioned ({} : World String) :=
    ⟨fun _ _ found => (by cases found),fun _ _ _ found => (by cases found)⟩
  exact ⟨by decide +kernel,versionsKept {} edited versioned⟩

end HireSettle.Escrow.TemplateVersions
