import HireSettle.Escrow.ActivityFeed
import HireSettle.Workflow.CursorWalks

/-! The comments on a milestone: participants write them, the other participants are told,
and a reader goes through the thread page by page while comments are added to it. The
database's order of texts is a parameter. -/
namespace HireSettle.Escrow.MilestoneComments
open Workflow
open ActivityFeed (MilestoneComment RowMilestone Author)

structure Collation where
  le : String → String → Bool
  total : ∀ a b, le a b = true ∨ le b a = true
  trans : ∀ a b c, le a b = true → le b c = true → le a c = true
  antisymm : ∀ a b, le a b = true → le b a = true → a = b

structure Store where
  db : Db := {}
  comments : Table MilestoneComment := .empty

structure Recipient where
  id : Option String
  address : String
  deriving DecidableEq, Repr

def PARTICIPANTS : List PartyRole := [.company,.recruiter,.arbiter]

def PARTICIPANT_ONLY : String := "Only the company, recruiter and arbiter on this engagement can access milestone comments"

def load (store : Store) (engagementId : String) (milestoneIndex : Nat) : Except Exception (Milestone × Engagement) :=
  match store.db.milestoneAt engagementId milestoneIndex with
  | none => .error (.notFound s!"Milestone {milestoneIndex} not found on engagement {engagementId}")
  | some milestone =>
      match store.db.engagements.get? milestone.engagementId with
      | none => .error .database
      | some engagement => .ok (milestone,engagement)

def requirePartyRole (engagement : Engagement) (user : PartyUser) : Except Exception PartyRole :=
  match engagementPartyRole engagement user with
  | none => .error (.forbidden PARTICIPANT_ONLY)
  | some role => if role ∈ PARTICIPANTS then .ok role else .error (.forbidden PARTICIPANT_ONLY)

def Recipient.key (recipient : Recipient) : String := recipient.id.getD recipient.address

def parties (engagement : Engagement) : List Recipient :=
  [⟨engagement.companyId,engagement.companyAddress⟩,⟨engagement.recruiterId,engagement.recruiterAddress⟩,
    ⟨engagement.arbiterId,engagement.arbiterAddress⟩]

def isAuthor (author : PartyUser) (party : Recipient) : Bool :=
  sameText party.id author.id || sameText author.stellarAddress (some party.address)

def unseen (author : PartyUser) : List String → List Recipient → List Recipient
  | _, [] => []
  | seen, party :: rest =>
      if isAuthor author party || party.key ∈ seen then unseen author seen rest
      else party :: unseen author (party.key :: seen) rest

def recipients (engagement : Engagement) (author : PartyUser) : List Recipient := unseen author [] (parties engagement)

structure CreateComment where
  engagementId : String
  milestoneIndex : Nat
  user : PartyUser
  body : String
  deriving DecidableEq, Repr

/-- What the insert of a comment returns: the id, the author's row and the time, or a failure. -/
structure Inserted where
  id : String
  author : Author
  createdAt : Date
  fails : Bool := false
  filled : id ≠ ""

def create (store : Store) (dto : CreateComment) (answer : Inserted) : Except Exception ((MilestoneComment × List Recipient) × Store) := do
  let loaded ← load store dto.engagementId dto.milestoneIndex
  let _ ← requirePartyRole loaded.2 dto.user
  match dto.user.id with
  | none => .error .database
  | some authorId =>
      let comment : MilestoneComment :=
        { id := answer.id
          engagementId := dto.engagementId
          milestone := ⟨loaded.1.engagementId,loaded.1.milestoneIndex⟩
          authorId := authorId
          author := answer.author
          body := dto.body
          createdAt := answer.createdAt }
      if answer.fails then .error .database
      else match store.comments.create comment with
        | none => .error .uniqueViolation
        | some comments => .ok ((comment,recipients loaded.2 dto.user),{ store with comments })

variable (collation : Collation)

def commentLe (a b : MilestoneComment) : Prop :=
  a.createdAt.ms < b.createdAt.ms ∨ (a.createdAt.ms = b.createdAt.ms ∧ collation.le a.id b.id = true)

instance : DecidableRel (commentLe collation) := fun _ _ => inferInstanceAs (Decidable (_ ∨ _))

-- a cursor is looked up among all comments, and the first row from it on is skipped
def findMany (comments : Table MilestoneComment) (selects : MilestoneComment → Bool) (cursor : Option String) (take : Nat) : List MilestoneComment :=
  let rows := (comments.findMany selects).insertionSort (commentLe collation)
  match cursor with
  | none => rows.take take
  | some cursor =>
      match comments.get? cursor with
      | none => []
      | some from' => ((rows.filter fun row => commentLe collation from' row).drop 1).take take

def cursorPage {ρ : Type} (id : ρ → String) (items : List ρ) (limit : Nat) : List ρ × Option String :=
  let hasNextPage : Bool := items.length > limit
  let data := if hasNextPage then items.take limit else items
  (data,if hasNextPage then data.getLast?.map id else none)

def pageSize (limit : Option Int) : Nat := (min (max (limit.getD 20) 1) 100).toNat

def list (store : Store) (engagementId : String) (milestoneIndex : Nat) (user : PartyUser) (cursor : Option String) (limit : Option Int) :
    Except Exception (List MilestoneComment × Option String) := do
  let loaded ← load store engagementId milestoneIndex
  let _ ← requirePartyRole loaded.2 user
  let take := pageSize limit
  let items := findMany collation store.comments (fun row => row.milestone = ⟨loaded.1.engagementId,loaded.1.milestoneIndex⟩) (present cursor) (take + 1)
  return cursorPage MilestoneComment.id items take

/-- Comments that are created one after the other, some of them refused. -/
def created (store : Store) (posts : List (CreateComment × Inserted)) : Store :=
  posts.foldl (fun store post => match create store post.1 post.2 with
    | .ok out => out.2
    | .error _ => store) store

/-- A reader asks for the first page and then for the page after each cursor returned; before each further request others write. -/
def walk (posts : Nat → List (CreateComment × Inserted)) (engagementId : String) (milestoneIndex : Nat) (user : PartyUser) (limit : Option Int) :
    Nat → Nat → Store → Option String → Option (List MilestoneComment)
  | 0, _, _, _ => none
  | fuel + 1, request, store, cursor =>
      match list collation store engagementId milestoneIndex user cursor limit with
      | .error _ => none
      | .ok page =>
          match page.2 with
          | none => some page.1
          | some next =>
              (walk posts engagementId milestoneIndex user limit fuel (request + 1) (created store (posts request)) (some next)).map (page.1 ++ ·)

def Older (a b : MilestoneComment) : Prop := commentLe collation a b ∧ ¬ commentLe collation b a

instance : DecidableRel (Older collation) := fun _ _ => inferInstanceAs (Decidable (_ ∧ _))

/-- The thread as it stands, oldest first. -/
def thread (engagementId : String) (milestoneIndex : Nat) (store : Store) : List MilestoneComment :=
  (store.comments.findMany fun row => row.milestone = ⟨engagementId,milestoneIndex⟩).insertionSort (commentLe collation)

def storeAt (posts : Nat → List (CreateComment × Inserted)) (store : Store) : Nat → Store
  | 0 => store
  | request + 1 => created (storeAt posts store request) (posts request)

def Reads (store : Store) (engagementId : String) (milestoneIndex : Nat) (user : PartyUser) : Prop :=
  ∃ milestone engagement role, load store engagementId milestoneIndex = .ok (milestone,engagement) ∧ requirePartyRole engagement user = .ok role

def Filled (store : Store) : Prop := ∀ row ∈ store.comments.rows, row.id ≠ ""

section Order

variable {collation}

theorem leTotal (a b : MilestoneComment) : commentLe collation a b ∨ commentLe collation b a := by
  have texts := collation.total a.id b.id
  unfold commentLe
  rcases lt_trichotomy a.createdAt.ms b.createdAt.ms with before | same | after
  · exact .inl (.inl before)
  · rcases texts with first | second
    · exact .inl (.inr ⟨same,first⟩)
    · exact .inr (.inr ⟨same.symm,second⟩)
  · exact .inr (.inl after)

theorem leTrans (a b c : MilestoneComment) (first : commentLe collation a b) (second : commentLe collation b c) : commentLe collation a c := by
  rcases first with early | ⟨same,early⟩ <;> rcases second with late | ⟨same',late⟩
  · exact .inl (early.trans late)
  · exact .inl (same' ▸ early)
  · exact .inl (same.symm ▸ late)
  · exact .inr ⟨same.trans same',collation.trans _ _ _ early late⟩

theorem leAntisymm {a b : MilestoneComment} (first : commentLe collation a b) (second : commentLe collation b a) : a.id = b.id := by
  rcases first with early | ⟨same,early⟩ <;> rcases second with late | ⟨same',late⟩
  · omega
  · omega
  · omega
  · exact collation.antisymm _ _ early late

theorem olderTrans (a b c : MilestoneComment) (first : Older collation a b) (second : Older collation b c) : Older collation a c :=
  ⟨leTrans a b c first.1 second.1,fun back => first.2 (leTrans b c a second.1 back)⟩

theorem olderIrrefl (a : MilestoneComment) : ¬ Older collation a a := fun its => its.2 its.1

theorem olderApart {a b : MilestoneComment} (le : commentLe collation a b) (apart : a.id ≠ b.id) : Older collation a b :=
  ⟨le,fun back => apart (leAntisymm le back)⟩

variable {engagementId : String} {milestoneIndex : Nat} {store : Store}

theorem memThread {row : MilestoneComment} :
    row ∈ thread collation engagementId milestoneIndex store ↔ row ∈ store.comments.rows ∧ row.milestone = ⟨engagementId,milestoneIndex⟩ := by
  rw [thread,(List.perm_insertionSort _ _).mem_iff,Table.findMany,List.mem_filter]
  simp

theorem threadSorted : (thread collation engagementId milestoneIndex store).Pairwise (Older collation) := by
  have : Std.Total (commentLe collation) := ⟨leTotal⟩
  have : IsTrans MilestoneComment (commentLe collation) := ⟨leTrans⟩
  have sorted := List.pairwise_insertionSort (commentLe collation) (store.comments.findMany fun row => row.milestone = ⟨engagementId,milestoneIndex⟩)
  have distinct : (thread collation engagementId milestoneIndex store).Pairwise fun a b => a.id ≠ b.id := by
    refine List.pairwise_map.mp ?_
    refine (((List.perm_insertionSort _ _).map _).nodup_iff).mpr ?_
    exact store.comments.unique.sublist (List.filter_sublist.map _)
  exact sorted.imp₂ (fun _ _ le apart => olderApart le apart) distinct

/-- From a row of a sorted list on, without the row itself. -/
theorem fromCursor {row : MilestoneComment} {rows : List MilestoneComment} (sorted : rows.Pairwise (Older collation)) (inside : row ∈ rows) :
    (rows.filter fun other => commentLe collation row other).drop 1 = onwards (Older collation) rows (some row) := by
  induction rows with
  | nil => cases inside
  | cons first rest ih =>
    obtain ⟨before,later⟩ := List.pairwise_cons.mp sorted
    rcases List.mem_cons.mp inside with rfl | inside
    · have self' : commentLe collation row row := (leTotal row row).elim id id
      have all : ∀ other ∈ rest, commentLe collation row other := fun other there => (before other there).1
      rw [List.filter_cons_of_pos (by simpa using self'),List.drop_one,List.tail_cons,onwards,
        List.filter_cons_of_neg (by simpa using olderIrrefl row)]
      refine List.filter_congr fun other there => ?_
      simp [all other there,before other there]
    · have earlier := before row inside
      rw [List.filter_cons_of_neg (by simpa using earlier.2),ih later inside,onwards,onwards,
        List.filter_cons_of_neg (by simpa using fun its : Older collation row first => its.2 earlier.1)]

end Order

section Created

variable {store after : Store} {dto : CreateComment} {answer : Inserted} {posts : List (CreateComment × Inserted)}

theorem createAdds {out : MilestoneComment × List Recipient} (made : create store dto answer = .ok (out,after)) :
    after.db = store.db ∧ out.1.id ≠ "" ∧ ∀ row, row ∈ after.comments.rows ↔ row ∈ store.comments.rows ∨ row = out.1 := by
  unfold create at made
  obtain ⟨loaded,_,made⟩ := exceptBind.mp made
  obtain ⟨_,_,made⟩ := exceptBind.mp made
  split at made
  · cases made
  · dsimp only at made
    split at made
    · cases made
    · split at made
      · cases made
      · rename_i comments inserted
        cases made
        exact ⟨rfl,answer.filled,fun row => Table.memCreate inserted⟩

theorem createdGrows : (created store posts).db = store.db ∧ store.comments.rows ⊆ (created store posts).comments.rows ∧
    (Filled store → Filled (created store posts)) := by
  induction posts generalizing store with
  | nil => exact ⟨rfl,fun _ inside => inside,id⟩
  | cons post rest ih =>
    rw [created,List.foldl_cons]
    split
    · rename_i out made
      obtain ⟨db,filled,rows⟩ := createAdds made
      obtain ⟨db',grows,kept⟩ := @ih out.2
      refine ⟨db'.trans db,fun row inside => grows ((rows row).mpr (.inl inside)),fun before => kept fun row inside => ?_⟩
      rcases (rows row).mp inside with old | rfl
      · exact before row old
      · exact filled
    · exact ih

variable {all : Nat → List (CreateComment × Inserted)}

theorem storedGrows (request : Nat) : (storeAt all store request).db = store.db ∧
    (storeAt all store request).comments.rows ⊆ (storeAt all store (request + 1)).comments.rows ∧ (Filled store → Filled (storeAt all store request)) := by
  induction request with
  | zero => exact ⟨rfl,createdGrows.2.1,id⟩
  | succ request ih => exact ⟨createdGrows.1.trans ih.1,createdGrows.2.1,fun filled => createdGrows.2.2 (ih.2.2 filled)⟩

theorem storedLater {first last : Nat} (later : first ≤ last) : (storeAt all store first).comments.rows ⊆ (storeAt all store last).comments.rows := by
  induction last, later using Nat.le_induction with
  | base => exact fun _ inside => inside
  | succ last _ ih => exact fun row inside => (storedGrows last).2.1 (ih inside)

theorem storedQuiet {last : Nat} (quiet : ∀ request, last ≤ request → all request = []) (request : Nat) :
    (storeAt all store request).comments.rows ⊆ (storeAt all store last).comments.rows := by
  rcases Nat.le_total request last with before | later
  · exact storedLater before
  · induction request, later using Nat.le_induction with
    | base => exact fun _ inside => inside
    | succ request later ih =>
      rw [storeAt,quiet request later]
      exact ih

end Created

section Walks

variable {collation} {posts : Nat → List (CreateComment × Inserted)} {engagementId : String} {milestoneIndex : Nat} {user : PartyUser}
  {limit : Option Int} {store : Store}

theorem pageSizePositive (limit : Option Int) : 0 < pageSize limit := by
  unfold pageSize
  omega

theorem listPage (reads : Reads store engagementId milestoneIndex user) (filled : Filled store) {cursor : Option MilestoneComment}
    (inside : ∀ row ∈ cursor, row ∈ thread collation engagementId milestoneIndex store) :
    list collation store engagementId milestoneIndex user (cursor.map MilestoneComment.id) limit =
      .ok (cursorPage MilestoneComment.id ((onwards (Older collation) (thread collation engagementId milestoneIndex store) cursor).take (pageSize limit + 1))
        (pageSize limit)) := by
  obtain ⟨milestone,engagement,role,loaded,party⟩ := reads
  have found : milestone.engagementId = engagementId ∧ milestone.milestoneIndex = milestoneIndex := by
    unfold load at loaded
    split at loaded
    · cases loaded
    · rename_i other there
      split at loaded <;> cases loaded
      simpa [Db.milestoneAt] using List.find?_some there
  have rows : (store.comments.findMany fun row => row.milestone = ⟨milestone.engagementId,milestone.milestoneIndex⟩).insertionSort (commentLe collation) =
      thread collation engagementId milestoneIndex store := by rw [found.1,found.2]; rfl
  simp only [list,loaded,party,bind,Except.bind]
  refine congrArg (fun items => Except.ok (cursorPage MilestoneComment.id items _)) ?_
  unfold findMany
  simp only [rows]
  cases cursor with
  | none => simp [present,onwards]
  | some row =>
    have there := inside row rfl
    have stored := (memThread.mp there).1
    have given : present ((some row).map MilestoneComment.id) = some row.id := by simp [present,Option.filter_some,filled row stored]
    have look : store.comments.get? row.id = some row := Table.memGet stored
    simp only [given,look]
    rw [fromCursor threadSorted there]

theorem readsKept (reads : Reads store engagementId milestoneIndex user) (request : Nat) :
    Reads (storeAt posts store request) engagementId milestoneIndex user := by
  obtain ⟨milestone,engagement,role,loaded,party⟩ := reads
  refine ⟨milestone,engagement,role,?_,party⟩
  rw [load,(storedGrows request).1]
  exact loaded

theorem walkPages (reads : Reads store engagementId milestoneIndex user) (filled : Filled store) {fuel request : Nat} {cursor : Option MilestoneComment}
    (inside : ∀ row ∈ cursor, row ∈ thread collation engagementId milestoneIndex (storeAt posts store request)) :
    walk collation posts engagementId milestoneIndex user limit fuel request (storeAt posts store request) (cursor.map MilestoneComment.id) =
      pages (fetchOnwards (Older collation) (fun request => thread collation engagementId milestoneIndex (storeAt posts store request)) (pageSize limit))
        (pageSize limit) fuel request cursor := by
  induction fuel generalizing request cursor with
  | zero => rfl
  | succ fuel ih =>
    have open' : Reads (storeAt posts store request) engagementId milestoneIndex user := readsKept reads request
    have page := @listPage collation engagementId milestoneIndex user limit _ open' ((storedGrows request).2.2 filled) cursor inside
    have stored : ∀ row ∈ fetchOnwards (Older collation) (fun request => thread collation engagementId milestoneIndex (storeAt posts store request))
        (pageSize limit) request cursor, row ∈ thread collation engagementId milestoneIndex (storeAt posts store request) :=
      fun row there => (memOnwards.mp (List.mem_of_mem_take there)).1
    rw [walk,page,pages]
    rw [fetchOnwards] at stored ⊢
    generalize (onwards (Older collation) (thread collation engagementId milestoneIndex (storeAt posts store request)) cursor).take (pageSize limit + 1) = items at *
    by_cases more : pageSize limit < items.length
    · obtain none | ⟨front,last,ends⟩ := List.eq_nil_or_concat (items.take (pageSize limit))
      · have wide := congrArg List.length none
        have positive := pageSizePositive limit
        simp only [List.length_take,List.length_nil] at wide
        omega
      · rw [List.concat_eq_append] at ends
        have its : last ∈ items := List.mem_of_mem_take (by rw [ends]; simp)
        have there : ∀ row ∈ some last, row ∈ thread collation engagementId milestoneIndex (storeAt posts store (request + 1)) := by
          intro row same
          cases same
          obtain ⟨there,mine⟩ := memThread.mp (stored last its)
          exact memThread.mpr ⟨(storedGrows request).2.1 there,mine⟩
        have next := ih there
        simp only [cursorPage,more,decide_true,if_true,ends,List.getLast?_concat]
        exact congrArg (Option.map (front ++ [last] ++ ·)) next
    · simp only [cursorPage,more,decide_false,if_false,Bool.false_eq_true]
      rw [List.take_of_length_le (by omega)]

theorem threadGrows (request : Nat) : thread collation engagementId milestoneIndex (storeAt posts store request) ⊆
    thread collation engagementId milestoneIndex (storeAt posts store (request + 1)) := by
  intro row inside
  obtain ⟨there,mine⟩ := memThread.mp inside
  exact memThread.mpr ⟨(storedGrows request).2.1 there,mine⟩

end Walks

/-- Whatever is posted between the pages, a reader who has come to the end has read each comment that was there at the beginning, in order
and none twice; and who goes on comes to the end once the others are done. -/
theorem threadRead (posts : Nat → List (CreateComment × Inserted)) {store : Store} {engagementId : String} {milestoneIndex : Nat}
    {user : PartyUser} (limit : Option Int) (filled : Filled store) (reads : Reads store engagementId milestoneIndex user) :
    (∀ fuel items, walk collation posts engagementId milestoneIndex user limit fuel 0 store none = some items →
      items.Pairwise (Older collation) ∧
      (∀ row ∈ store.comments.rows, row.milestone = ⟨engagementId,milestoneIndex⟩ → row ∈ items) ∧
      ∀ row ∈ items, row.milestone = ⟨engagementId,milestoneIndex⟩ ∧ ∃ request, row ∈ (storeAt posts store request).comments.rows) ∧
    ((∃ last, ∀ request, last ≤ request → posts request = []) →
      ∃ fuel items, walk collation posts engagementId milestoneIndex user limit fuel 0 store none = some items) := by
  have asPages : ∀ fuel, walk collation posts engagementId milestoneIndex user limit fuel 0 store none =
      pages (fetchOnwards (Older collation) (fun request => thread collation engagementId milestoneIndex (storeAt posts store request)) (pageSize limit))
        (pageSize limit) fuel 0 none := fun fuel => by
    have start : ∀ row ∈ (none : Option MilestoneComment), row ∈ thread collation engagementId milestoneIndex (storeAt posts store 0) := by simp
    exact walkPages reads filled start
  constructor
  · intro fuel items walked
    rw [asPages] at walked
    have read := growingWalk olderTrans (fun _ => threadSorted) threadGrows (pageSizePositive limit) walked
    refine ⟨read.sorted,fun row there mine => ?_,fun row inside => ?_⟩
    · exact read.complete row (memOnwards.mpr ⟨memThread.mpr ⟨there,mine⟩,by simp⟩)
    · obtain ⟨request,_,there⟩ := read.stored row inside
      obtain ⟨stored,mine⟩ := memThread.mp there
      exact ⟨mine,request,stored⟩
  · rintro ⟨last,quiet⟩
    have bounded : ∀ request, thread collation engagementId milestoneIndex (storeAt posts store request) ⊆
        thread collation engagementId milestoneIndex (storeAt posts store last) := by
      intro request row inside
      obtain ⟨stored,mine⟩ := memThread.mp inside
      exact memThread.mpr ⟨storedQuiet quiet request stored,mine⟩
    obtain ⟨items,ended⟩ := growingEnds olderTrans olderIrrefl (fun _ => threadSorted) bounded (pageSizePositive limit) (Nat.lt_succ_self _)
    exact ⟨_,items,(asPages _).trans ended⟩

def byCharacter : Collation where
  le a b := a ≤ b
  total a b := by simpa using le_total a b
  trans a b c first second := by simpa using (of_decide_eq_true first).trans (of_decide_eq_true second)
  antisymm a b first second := le_antisymm (of_decide_eq_true first) (of_decide_eq_true second)

def company : PartyUser := { id := some "company-1", role := some .company }

def hired : Engagement where
  id := "ENG-001"
  companyAddress := "GCOMPANY"
  recruiterAddress := "GRECRUITER"
  arbiterAddress := "GARBITER"
  companyId := some "company-1"
  totalAmount := 1000

def offer : Milestone where
  id := "m0"
  engagementId := "ENG-001"
  milestoneIndex := 0
  name := "Offer accepted"
  kind := .placement
  paymentPercent := 100

def asked : MilestoneComment where
  id := "c1"
  engagementId := "ENG-001"
  milestone := ⟨"ENG-001",0⟩
  authorId := "company-1"
  author := ⟨"company-1","Acme",.company⟩
  body := "When?"
  createdAt := .epoch

def oneComment : Store where
  db := { engagements := .single hired, milestones := .single offer }
  comments := .single asked

def answers : Nat → List (CreateComment × Inserted)
  | 0 => [(⟨"ENG-001",0,company,"Monday"⟩,⟨"c2",⟨"company-1","Acme",.company⟩,.epoch,false,by decide⟩)]
  | _ => []

/-- The comment that was there is read, whatever the reader meets. -/
theorem askedRead : ∃ fuel items, walk byCharacter answers "ENG-001" 0 company (some 1) fuel 0 oneComment none = some items ∧
    items.Pairwise (Older byCharacter) ∧ asked ∈ items := by
  have filled : Filled oneComment := by
    intro row inside
    cases List.mem_singleton.mp inside
    decide
  have reads : Reads oneComment "ENG-001" 0 company := ⟨offer,hired,.company,by decide,by decide⟩
  obtain ⟨whole,ends⟩ := threadRead byCharacter answers (some 1) filled reads
  obtain ⟨fuel,items,walked⟩ := ends ⟨1,fun request later => by cases request with | zero => omega | succ request => rfl⟩
  obtain ⟨sorted,complete,_⟩ := whole fuel items walked
  exact ⟨fuel,items,walked,sorted,complete asked (List.mem_singleton_self _) rfl⟩

end HireSettle.Escrow.MilestoneComments
