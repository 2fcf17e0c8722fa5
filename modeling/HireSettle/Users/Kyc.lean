import HireSettle.Common.Calls
import HireSettle.Common.Users
import HireSettle.Workflow.Guards
import HireSettle.Workflow.Turns

/-! The identity check of a recruiter: documents are uploaded and wait for a review, and
an administrator approves or rejects. A request reads the status first and writes it some
calls later, so requests that overlap may each act on what the other has changed since. -/
namespace HireSettle.Users.Kyc
open Workflow

inductive KycStatus where
  | none' | pending | approved | rejected
  deriving DecidableEq, Repr

def KycStatus.text : KycStatus → String
  | .none' => "NONE"
  | .pending => "PENDING"
  | .approved => "APPROVED"
  | .rejected => "REJECTED"

structure KycReview where
  kycStatus : KycStatus := .none'
  kycReviewedAt : Option Nat := none
  kycReviewedBy : Option String := none
  kycRejectionReason : Option String := none
  deriving DecidableEq, Repr

structure KycUser where
  id : String
  role : UserRole
  kyc : KycReview := {}
  deriving DecidableEq, Repr

instance : Keyed KycUser String := ⟨KycUser.id⟩

structure KycDocument where
  id : String
  userId : String
  fileName : String
  fileSize : Nat
  mimeType : String
  s3Path : String
  s3Url : String
  uploadedAt : Nat
  deriving DecidableEq, Repr

instance : Keyed KycDocument String := ⟨KycDocument.id⟩

structure File where
  originalname : String
  mimetype : String
  size : Nat
  deriving DecidableEq, Repr

structure World where
  users : Table KycUser := .empty
  documents : Table KycDocument := .empty
  clock : Nat

inductive Decision where
  | approved | rejected
  deriving DecidableEq, Repr

def Decision.status : Decision → KycStatus
  | .approved => .approved
  | .rejected => .rejected

inductive Site where
  | findUser (userId : String)
  | uploadFile (key : String)
  | getPresignedUrl (key : String)
  | submit (userId : String)
  | countDocuments (userId : String)
  | review (userId : String)
  deriving DecidableEq, Repr

abbrev Op := Process Site Answer World Exception

def ALLOWED_KYC_MIME_TYPES : List String := ["image/jpeg","image/png","image/gif","application/pdf"]

def MAX_KYC_FILE_BYTES : Nat := 10 * 1024 * 1024

-- the pattern works on code units
def safeChar (c : Char) : List Char :=
  if c.isAlphanum || c = '.' || c = '_' || c = '-' then [c]
  else if c.toNat < 0x10000 then ['_'] else ['_','_']

def safeName (originalname : String) : String := String.ofList (originalname.toList.flatMap safeChar)

def findUser (userId : String) : Op (Option KycUser × Nat) :=
  .query (.findUser userId) fun i w => if i.fails then .error .database else .ok (w.users.get? userId,w.clock)

def submit (userId : String) (file : File) (key s3Url : String) (i : Answer) (w : World) : Except Exception (KycDocument × World) :=
  let document : KycDocument :=
    { id := i.text
      userId := userId
      fileName := file.originalname
      fileSize := file.size
      mimeType := file.mimetype
      s3Path := key
      s3Url := s3Url
      uploadedAt := w.clock }
  if i.fails then .error .database
  else match w.documents.create document with
    | none => .error .uniqueViolation
    | some documents =>
        -- the foreign key of the document, and the row to be updated
        match w.users.modify userId (fun row => { row with kyc := { kycStatus := .pending } }) (fun _ => rfl) with
        | none => .error .database
        | some out => .ok (document,{ w with documents, users := out.2 })

def submitDocument (userId : String) (file : File) : Op KycDocument := do
  let read ← findUser userId
  match read.1 with
  | none => .raise (.notFound "User not found")
  | some user =>
      if user.role ≠ .recruiter then .raise (.forbidden "Only recruiters can submit KYC documents")
      else if user.kyc.kycStatus = .approved then .raise (.badRequest "KYC is already approved")
      else if file.mimetype ∉ ALLOWED_KYC_MIME_TYPES then
        .raise (.badRequest ("Invalid file type. Allowed: " ++ ", ".intercalate ALLOWED_KYC_MIME_TYPES))
      else if file.size > MAX_KYC_FILE_BYTES then .raise (.badRequest "File size exceeds 10 MB limit")
      else do
        let key := "kyc/" ++ userId ++ "/" ++ toString read.2 ++ "-" ++ safeName file.originalname
        .query (.uploadFile key) fun i _ => if i.fails then .error .database else .ok ()
        let s3Url ← .query (.getPresignedUrl key) fun i _ => if i.fails then .error .database else .ok i.text
        .transact (.submit userId) (submit userId file key s3Url)

def reviewed (decision : Decision) (adminId : String) (reason : Option String) (now : Nat) : KycReview where
  kycStatus := decision.status
  kycReviewedAt := some now
  kycReviewedBy := some adminId
  kycRejectionReason := if decision = .rejected then reason else none

def writeReview (userId adminId : String) (decision : Decision) (reason : Option String) (i : Answer) (w : World) :
    Except Exception (KycUser × World) :=
  if i.fails then .error .database
  else match w.users.modify userId (fun row => { row with kyc := reviewed decision adminId reason w.clock }) (fun _ => rfl) with
    | none => .error .recordNotFound
    | some out => .ok (out.1,{ w with users := out.2 })

def review (userId adminId : String) (decision : Decision) (reason : Option String) : Op KycUser := do
  let read ← findUser userId
  match read.1 with
  | none => .raise (.notFound "User not found")
  | some user =>
      if user.role ≠ .recruiter then .raise (.badRequest "User is not a recruiter")
      else if user.kyc.kycStatus ≠ .pending then
        .raise (.badRequest ("KYC is not pending (current: " ++ user.kyc.kycStatus.text ++ ")"))
      else do
        let docCount ← .query (.countDocuments userId) fun i w =>
          if i.fails then .error .database else .ok (w.documents.count (·.userId = userId))
        if docCount = 0 then .raise (.badRequest "No KYC documents submitted")
        else .transact (.review userId) (writeReview userId adminId decision reason)

inductive Request where
  | submitDocument (userId : String) (file : File)
  | approve (userId adminId : String)
  | reject (userId adminId : String) (reason : Option String)
  deriving DecidableEq, Repr

inductive Reply where
  | document (document : KycDocument)
  | user (user : KycUser)
  deriving DecidableEq, Repr

def handler : Request → Op Reply
  | .submitDocument userId file => do
      let document ← submitDocument userId file
      return .document document
  | .approve userId adminId => do
      let user ← review userId adminId .approved none
      return .user user
  | .reject userId adminId reason => do
      let user ← review userId adminId .rejected reason
      return .user user

inductive Change where
  | clock (now : Nat)
  | register (id : String) (role : UserRole)
  | role (id : String) (role : UserRole)

def changed : Change → World → World
  | .clock now, w => { w with clock := now }
  | .register id role, w => { w with users := (w.users.create { id, role }).getD w.users }
  | .role id role, w => { w with users := w.users.update id (fun row => { row with role }) (fun _ => rfl) }

def service : System Request Change Site Answer World Exception Reply where
  handler := handler
  environment := changed

abbrev KycEvent := Event Site Answer World

def kycOf (w : World) (userId : String) : Option KycReview := (w.users.get? userId).map KycUser.kyc

/-- The columns of a review agree with its status. -/
def Consistent (kyc : KycReview) : Prop :=
  match kyc.kycStatus with
  | .none' | .pending => kyc.kycReviewedAt = none ∧ kyc.kycReviewedBy = none ∧ kyc.kycRejectionReason = none
  | .approved => kyc.kycReviewedAt.isSome ∧ kyc.kycReviewedBy.isSome ∧ kyc.kycRejectionReason = none
  | .rejected => kyc.kycReviewedAt.isSome ∧ kyc.kycReviewedBy.isSome

def Uploaded (history : List KycEvent) (key : String) : Prop := ∃ e ∈ history, e.site = .uploadFile key ∧ e.answer.fails = false

/-- Whoever is beyond the first status has documents, each of which was accepted and uploaded. -/
structure Orderly (c : Snapshot Site Answer World) : Prop where
  consistent : ∀ userId kyc, kycOf c.world userId = some kyc → Consistent kyc ∧
    (kyc.kycStatus ≠ .none' → ∃ document ∈ c.world.documents.rows, document.userId = userId)
  documents : ∀ document ∈ c.world.documents.rows, document.mimeType ∈ ALLOWED_KYC_MIME_TYPES ∧ document.fileSize ≤ MAX_KYC_FILE_BYTES ∧
    Uploaded c.history document.s3Path ∧ ∃ kyc, kycOf c.world document.userId = some kyc ∧ kyc.kycStatus ≠ .none'
  grown : ∀ e ∈ c.history, ∀ document ∈ e.before.documents.rows, document ∈ c.world.documents.rows

/-- A recruiter was read with a status of this kind. -/
def ReadAs (own : List KycEvent) (userId : String) (p : KycStatus → Prop) : Prop :=
  ∃ d ∈ own, ∃ user, d.site = .findUser userId ∧ d.after.users.get? userId = some user ∧ user.role = .recruiter ∧ p user.kyc.kycStatus

/-- The document of a user is stored and the review starts anew. -/
structure Submits (own : List KycEvent) (userId : String) (file : File) (e : KycEvent) : Prop where
  read : ReadAs own userId (· ≠ .approved)
  allowed : file.mimetype ∈ ALLOWED_KYC_MIME_TYPES ∧ file.size ≤ MAX_KYC_FILE_BYTES
  stored : ∃ document, e.before.documents.create document = some e.after.documents ∧ document.userId = userId ∧
    document.mimeType = file.mimetype ∧ document.fileSize = file.size ∧ Uploaded own document.s3Path
  others : ∀ other, other ≠ userId → kycOf e.after other = kycOf e.before other
  starts : (kycOf e.before userId).isSome ∧ kycOf e.after userId = some { kycStatus := .pending }

/-- A pending review with documents is decided. -/
structure Decides (own : List KycEvent) (userId adminId : String) (decision : Decision) (reason : Option String) (e : KycEvent) : Prop where
  read : ReadAs own userId (· = .pending)
  counted : ∃ d ∈ own, d.site = .countDocuments userId ∧ 0 < d.before.documents.count (·.userId = userId)
  documents : e.after.documents = e.before.documents
  others : ∀ other, other ≠ userId → kycOf e.after other = kycOf e.before other
  decides : (kycOf e.before userId).isSome ∧ kycOf e.after userId = some (reviewed decision adminId reason e.before.clock)

/-- A call leaves the reviews alone, or it is the write that its request is for, after the reads that allow it. -/
def Justified (request : Request) (own : List KycEvent) (e : KycEvent) : Prop :=
  (e.after.users = e.before.users ∧ e.after.documents = e.before.documents) ∨
  match request with
  | .submitDocument userId file => Submits own userId file e
  | .approve userId adminId => Decides own userId adminId .approved none e
  | .reject userId adminId reason => Decides own userId adminId .rejected reason e

section Calls

variable {userId : String} {file : File} {w w' : World}

theorem kycModify {f : KycUser → KycUser} {keeps : ∀ row, Keyed.key (f row) = Keyed.key row} {row : KycUser} {users : Table KycUser}
    (modified : w.users.modify userId f keeps = some (row,users)) :
    (∀ other, other ≠ userId → kycOf { w with users } other = kycOf w other) ∧ (kycOf w userId).isSome ∧
      ∃ old, w.users.get? userId = some old ∧ kycOf { w with users } userId = some (f old).kyc := by
  obtain ⟨old,found,_,same⟩ := Table.modifyGet modified
  refine ⟨fun other differs => ?_,by simp [kycOf,found],old,found,?_⟩
  · rw [kycOf,kycOf,same,Table.getUpdateOther _ differs]
  · rw [kycOf,same,Table.getUpdateSelf found,Option.map_some]

theorem submitSubmits {own : List KycEvent} {key s3Url : String} {thread : Nat} {i : Answer} {document : KycDocument}
    (read : ReadAs own userId (· ≠ .approved)) (allowed : file.mimetype ∈ ALLOWED_KYC_MIME_TYPES ∧ file.size ≤ MAX_KYC_FILE_BYTES)
    (uploaded : Uploaded own key) (made : submit userId file key s3Url i w = .ok (document,w')) :
    Submits own userId file ⟨thread,.submit userId,i,w,w'⟩ := by
  simp only [submit] at made
  split at made
  · cases made
  · split at made
    · cases made
    · rename_i documents created
      split at made
      · cases made
      · rename_i out modified
        cases made
        obtain ⟨others,there,old,found,here⟩ := kycModify modified
        exact ⟨read,allowed,⟨_,created,rfl,rfl,rfl,uploaded⟩,others,there,here⟩

theorem reviewDecides {own : List KycEvent} {adminId : String} {decision : Decision} {reason : Option String} {thread : Nat} {i : Answer} {row : KycUser}
    (read : ReadAs own userId (· = .pending)) (counted : ∃ d ∈ own, d.site = .countDocuments userId ∧ 0 < d.before.documents.count (·.userId = userId))
    (made : writeReview userId adminId decision reason i w = .ok (row,w')) :
    Decides own userId adminId decision reason ⟨thread,.review userId,i,w,w'⟩ := by
  simp only [writeReview] at made
  split at made
  · cases made
  · split at made
    · cases made
    · rename_i out modified
      cases made
      obtain ⟨others,there,old,found,here⟩ := kycModify modified
      exact ⟨read,counted,rfl,others,there,here⟩

theorem guardedSubmit (userId : String) (file : File) :
    Guarded (Justified (.submitDocument userId file)) anyOutcome (submitDocument userId file) [] := by
  unfold submitDocument findUser
  refine guardedBind (guardedQuery fun thread i w => ⟨.inl ⟨rfl,rfl⟩,?_⟩)
  cases i.fails with
  | true => trivial
  | false =>
    cases found : w.users.get? userId with
    | none => simp [Guarded,anyOutcome]
    | some user =>
      simp only [Bool.false_eq_true,if_false]
      split
      · trivial
      · split
        · trivial
        · split
          · trivial
          · split
            · trivial
            · rename_i recruiter unapproved type size
              have read : ∀ own, ReadAs (own ++ [⟨thread,.findUser userId,i,w,w⟩]) userId (· ≠ .approved) := by
                intro own
                exact ⟨_,List.mem_append_right _ (List.mem_singleton_self _),user,rfl,found,by simpa using recruiter,unapproved⟩
              refine guardedBind (guardedQuery fun thread' i' w' => ⟨.inl ⟨rfl,rfl⟩,?_⟩)
              cases fails : i'.fails with
              | true => trivial
              | false =>
                refine guardedBind (guardedQuery fun thread'' i'' w'' => ⟨.inl ⟨rfl,rfl⟩,?_⟩)
                cases i''.fails with
                | true => trivial
                | false =>
                  refine guardedTransact (fun last j v document v' made => ⟨.inr ?_,trivial⟩) fun _ _ _ _ _ => ⟨.inl ⟨rfl,rfl⟩,trivial⟩
                  refine submitSubmits (read [_,_]) ⟨by simpa using type,by simpa using size⟩ ?_ made
                  exact ⟨_,List.mem_cons_of_mem _ List.mem_cons_self,rfl,fails⟩

theorem guardedReview (userId adminId : String) (decision : Decision) (reason : Option String) :
    Guarded (fun own e => (e.after.users = e.before.users ∧ e.after.documents = e.before.documents) ∨ Decides own userId adminId decision reason e)
      anyOutcome (review userId adminId decision reason) [] := by
  unfold review findUser
  refine guardedBind (guardedQuery fun thread i w => ⟨.inl ⟨rfl,rfl⟩,?_⟩)
  cases i.fails with
  | true => trivial
  | false =>
    cases found : w.users.get? userId with
    | none => simp [Guarded,anyOutcome]
    | some user =>
      simp only [Bool.false_eq_true,if_false]
      split
      · trivial
      · split
        · trivial
        · rename_i recruiter pending
          refine guardedBind (guardedQuery fun thread' i' w' => ⟨.inl ⟨rfl,rfl⟩,?_⟩)
          cases i'.fails with
          | true => trivial
          | false =>
            simp only [Bool.false_eq_true,if_false]
            split
            · trivial
            · rename_i counted
              refine guardedTransact (fun last j v row v' made => ⟨.inr ?_,trivial⟩) fun _ _ _ _ _ => ⟨.inl ⟨rfl,rfl⟩,trivial⟩
              refine reviewDecides ?_ ⟨_,List.mem_cons_self,rfl,Nat.pos_of_ne_zero counted⟩ made
              exact ⟨_,List.mem_cons_of_mem _ List.mem_cons_self,user,rfl,found,by simpa using recruiter,by simpa using pending⟩

theorem guardedHandler (request : Request) : Guarded (Justified request) anyOutcome (handler request) [] := by
  cases request with
  | submitDocument userId file => exact guardedThen (guardedSubmit userId file) fun _ _ => trivial
  | approve userId adminId => exact guardedThen (guardedReview userId adminId .approved none) fun _ _ => trivial
  | reject userId adminId reason => exact guardedThen (guardedReview userId adminId .rejected reason) fun _ _ => trivial

end Calls

section Orders

variable {c : Snapshot Site Answer World} {userId : String}

theorem orderlyInitial {clock : Nat} : Orderly ⟨{ clock },[]⟩ := by
  constructor
  · simp [kycOf]
  · intro document inside
    cases inside
  · simp

/-- What a call leaves to be shown: the review it has written, and the document it has added. -/
theorem orderlyWritten {thread : Nat} {site : Site} {i : Answer} {w' : World} {userId : String} {kyc : KycReview} (orderly : Orderly c)
    (others : ∀ other, other ≠ userId → kycOf w' other = kycOf c.world other) (written : kycOf w' userId = some kyc)
    (consistent : Consistent kyc) (beyond : kyc.kycStatus ≠ .none') (shown : ∃ document ∈ w'.documents.rows, document.userId = userId)
    (grows : ∀ document ∈ c.world.documents.rows, document ∈ w'.documents.rows)
    (added : ∀ document ∈ w'.documents.rows, document ∈ c.world.documents.rows ∨ document.mimeType ∈ ALLOWED_KYC_MIME_TYPES ∧
      document.fileSize ≤ MAX_KYC_FILE_BYTES ∧ Uploaded c.history document.s3Path ∧ document.userId = userId) :
    Orderly (c.record thread site i w') := by
  have uploaded : ∀ key, Uploaded c.history key → Uploaded (c.record thread site i w').history key := by
    rintro key ⟨e,inside,its⟩
    exact ⟨e,List.mem_cons_of_mem _ inside,its⟩
  constructor
  · intro other kyc' found
    by_cases same : other = userId
    · subst same
      cases found.symm.trans written
      exact ⟨consistent,fun _ => shown⟩
    · obtain ⟨fine,there⟩ := orderly.consistent other kyc' ((others other same).symm.trans found)
      refine ⟨fine,fun status => ?_⟩
      obtain ⟨document,inside,its⟩ := there status
      exact ⟨document,grows document inside,its⟩
  · intro document inside
    rcases added document inside with old | ⟨type,size,stored,own⟩
    · obtain ⟨type,size,stored,kyc',found,status⟩ := orderly.documents document old
      refine ⟨type,size,uploaded _ stored,?_⟩
      by_cases same : document.userId = userId
      · exact ⟨kyc,same ▸ written,beyond⟩
      · exact ⟨kyc',(others _ same).trans found,status⟩
    · exact ⟨type,size,uploaded _ stored,kyc,own ▸ written,beyond⟩
  · intro e inside document there
    rcases List.mem_cons.mp inside with rfl | earlier
    · exact grows document there
    · exact grows document (orderly.grown e earlier document there)

theorem orderlyIdle {thread : Nat} {site : Site} {i : Answer} {w' : World} (orderly : Orderly c) (users : w'.users = c.world.users)
    (documents : w'.documents = c.world.documents) : Orderly (c.record thread site i w') := by
  have same : kycOf w' = kycOf c.world := by
    funext userId
    rw [kycOf,kycOf,users]
  constructor
  · intro userId kyc found
    rw [Snapshot.recordWorld,same] at found
    rw [Snapshot.recordWorld,documents]
    exact orderly.consistent userId kyc found
  · intro document inside
    rw [Snapshot.recordWorld,documents] at inside
    obtain ⟨type,size,⟨e,earlier,its⟩,found⟩ := orderly.documents document inside
    exact ⟨type,size,⟨e,List.mem_cons_of_mem _ earlier,its⟩,by rwa [Snapshot.recordWorld,same]⟩
  · intro e inside document there
    rw [Snapshot.recordWorld,documents]
    rcases List.mem_cons.mp inside with rfl | earlier
    · exact there
    · exact orderly.grown e earlier document there

theorem consistentReviewed (decision : Decision) (adminId : String) (reason : Option String) (now : Nat) : Consistent (reviewed decision adminId reason now) := by
  cases decision <;> simp [Consistent,reviewed,Decision.status]

theorem orderlyRecord {request : Request} {own : List KycEvent} {thread : Nat} {site : Site} {i : Answer} {w' : World} (orderly : Orderly c)
    (mine : own ⊆ c.history) (justified : Justified request own (c.event thread site i w')) : Orderly (c.record thread site i w') := by
  have decided : ∀ userId adminId decision reason, Decides own userId adminId decision reason (c.event thread site i w') →
      Orderly (c.record thread site i w') := by
    intro userId adminId decision reason its
    obtain ⟨d,inside,_,counted⟩ := its.counted
    obtain ⟨document,stored,owner⟩ := List.countP_pos_iff.mp counted
    have same : w'.documents = c.world.documents := its.documents
    refine orderlyWritten orderly its.others its.decides.2 (consistentReviewed _ _ _ _) (by cases decision <;> simp [reviewed,Decision.status]) ?_ ?_ ?_
    · rw [same]
      exact ⟨document,orderly.grown d (mine inside) document stored,by simpa using owner⟩
    · rw [same]
      exact fun _ inside => inside
    · rw [same]
      exact fun _ inside => .inl inside
  rcases justified with ⟨users,documents⟩ | its
  · exact orderlyIdle orderly users documents
  · cases request with
    | submitDocument userId file =>
      obtain ⟨document,created,owner,type,size,uploaded⟩ := its.stored
      have inside : ∀ row, row ∈ w'.documents.rows ↔ row ∈ c.world.documents.rows ∨ row = document := fun row => Table.memCreate created
      refine orderlyWritten orderly its.others its.starts.2 (by simp [Consistent]) (by simp) ?_ ?_ ?_
      · exact ⟨document,(inside document).mpr (.inr rfl),owner⟩
      · exact fun row there => (inside row).mpr (.inl there)
      · intro row there
        rcases (inside row).mp there with old | rfl
        · exact .inl old
        · obtain ⟨e,before,its'⟩ := uploaded
          exact .inr ⟨type ▸ its.allowed.1,size ▸ its.allowed.2,⟨e,mine before,its'⟩,owner⟩
    | approve userId adminId => exact decided userId adminId .approved none its
    | reject userId adminId reason => exact decided userId adminId .rejected reason its

theorem kycChanged {change : Change} {w : World} {userId : String} {kyc : KycReview} (found : kycOf (changed change w) userId = some kyc) :
    kycOf w userId = some kyc ∨ kyc = {} := by
  cases change with
  | clock now => exact .inl found
  | register id role =>
    cases created : w.users.create { id, role } with
    | none =>
      have same : changed (.register id role) w = w := by simp [changed,created]
      exact .inl (same ▸ found)
    | some users =>
      have same : changed (.register id role) w = { w with users } := by simp [changed,created]
      rw [same,kycOf,(Table.createGet created).2.2] at found
      split at found
      · exact .inr (Option.some.inj found).symm
      · exact .inl found
  | role id role =>
    refine .inl ?_
    simp only [changed,kycOf,Table.getUpdate] at found ⊢
    split at found
    · simpa [Option.map_map,Function.comp_def] using found
    · exact found

theorem kycStays (change : Change) {w : World} {userId : String} {kyc : KycReview} (found : kycOf w userId = some kyc) :
    kycOf (changed change w) userId = some kyc := by
  cases change with
  | clock now => exact found
  | register id role =>
    cases created : w.users.create { id, role } with
    | none =>
      have same : changed (.register id role) w = w := by simp [changed,created]
      rwa [same]
    | some users =>
      have same : changed (.register id role) w = { w with users } := by simp [changed,created]
      rw [same,kycOf,(Table.createGet created).2.2,if_neg]
      · exact found
      · rintro rfl
        have free : w.users.get? userId = none := (Table.createGet created).1
        simp [kycOf,free] at found
  | role id role =>
    simp only [changed,kycOf,Table.getUpdate] at found ⊢
    split
    · simpa [Option.map_map,Function.comp_def] using found
    · exact found

theorem orderlyChanged (change : Change) (orderly : Orderly c) : Orderly { c with world := changed change c.world } := by
  have documents : (changed change c.world).documents = c.world.documents := by cases change <;> rfl
  constructor
  · intro userId kyc found
    simp only [documents]
    rcases kycChanged found with old | rfl
    · exact orderly.consistent userId kyc old
    · simp [Consistent]
  · intro document inside
    simp only [documents] at inside
    obtain ⟨type,size,uploaded,kyc,found,status⟩ := orderly.documents document inside
    exact ⟨type,size,uploaded,kyc,kycStays change found,status⟩
  · intro e inside document there
    simp only [documents]
    exact orderly.grown e inside document there

end Orders

def Approved (userId : String) (w : World) : Prop := ∃ kyc, kycOf w userId = some kyc ∧ kyc.kycStatus = .approved

instance (userId : String) (w : World) : Decidable (Approved userId w) :=
  decidable_of_iff ((kycOf w userId).any fun kyc => kyc.kycStatus = .approved) (by cases found : kycOf w userId <;> simp [Approved,found])

def Approves (userId : String) (e : KycEvent) : Prop := ¬ Approved userId e.before ∧ Approved userId e.after

/-- A user who is not approved stays so until a call approves. -/
def Awaits (userId : String) (c : Snapshot Site Answer World) : Prop :=
  Since (fun e => ¬ Approves userId e) (fun w w' => ¬ Approved userId w → ¬ Approved userId w') c

section Runs

theorem awaitsChanged {change : Change} {c : Snapshot Site Answer World} {userId : String} (awaits : Awaits userId c) :
    Awaits userId { c with world := changed change c.world } := by
  intro recent e older same calm before approved
  obtain ⟨kyc,found,status⟩ := approved
  rcases kycChanged found with old | rfl
  · exact awaits recent e older same calm before ⟨kyc,old,status⟩
  · cases status

/-- The invariant of a run, at its end and before each of its calls. -/
def Kept (c : Snapshot Site Answer World) : Prop :=
  Orderly c ∧ (∀ userId, Awaits userId c) ∧ AllMeet (fun earlier e => ∀ userId, Awaits userId ⟨e.before,earlier⟩) c.history

theorem keptRun (clock : Nat) (moves : List (Move Request Change Answer)) :
    GuardedPool Justified Kept (service.run (Pool.initial { clock }) moves) := by
  refine guardedRun (P := fun _ _ _ => True) ?_ ?_ guardedHandler (guardedInitial ⟨orderlyInitial,fun _ => sinceInitial,trivial⟩) moves
    (meetsAlways (fun _ _ _ _ => trivial) _)
  · intro request c thread site i w' kept justified _
    refine ⟨orderlyRecord kept.1 (fun _ inside => List.mem_of_mem_filter inside) justified,fun userId => ?_,kept.2.1,kept.2.2⟩
    refine sinceRecord (fun _ stays => stays) (fun first second before => second (first before)) (fun quiet before => ?_) (kept.2.1 userId)
    exact fun approved => quiet ⟨before,approved⟩
  · intro change c kept
    exact ⟨orderlyChanged change kept.1,fun userId => awaitsChanged (kept.2.1 userId),kept.2.2⟩

/-- Whatever overlaps, a review agrees with its status and has documents that were accepted and uploaded, and each call that writes one
is the submission or the decision that was asked for, after a read that allowed it. -/
theorem kycInOrder (clock : Nat) (moves : List (Move Request Change Answer)) :
    Orderly (service.run (Pool.initial { clock }) moves).snapshot ∧
    Meets (fun request earlier e => Justified request (earlier.filter fun d => d.thread = e.thread) e) (service.run (Pool.initial { clock }) moves) :=
  ⟨(keptRun clock moves).holds.1,(keptRun clock moves).seen⟩

theorem readBefore {request : Request} {own : List KycEvent} {e : KycEvent} {userId : String} (justified : Justified request own e)
    (before : Approved userId e.before) (after : ¬ Approved userId e.after) : ReadAs own userId (· ≠ .approved) := by
  have decided : ∀ userId' adminId decision reason, Decides own userId' adminId decision reason e → ReadAs own userId (· ≠ .approved) := by
    intro userId' adminId decision reason its
    by_cases same : userId = userId'
    · subst same
      obtain ⟨d,inside,user,site,found,role,status⟩ := its.read
      exact ⟨d,inside,user,site,found,role,by simp [status]⟩
    · exact absurd (by rwa [Approved,its.others userId same]) after
  rcases justified with ⟨users,_⟩ | its
  · exact absurd (by rwa [Approved,kycOf,users]) after
  · cases request with
    | submitDocument userId' file =>
      by_cases same : userId = userId'
      · subst same
        exact its.read
      · exact absurd (by rwa [Approved,its.others userId same]) after
    | approve userId' adminId => exact decided _ _ _ _ its
    | reject userId' adminId reason => exact decided _ _ _ _ its

/-- An approval is undone only by a request that had read the user before the approval. -/
theorem approvalUndone (clock : Nat) (moves : List (Move Request Change Answer)) {earlier : List KycEvent} {e : KycEvent} {userId : String}
    (there : e :: earlier <:+ (service.run (Pool.initial { clock }) moves).history) (before : Approved userId e.before)
    (after : ¬ Approved userId e.after) :
    ∃ recent d older, earlier = recent ++ d :: older ∧ d.thread = e.thread ∧ d.site = .findUser userId ∧ ∃ a ∈ recent, Approves userId a := by
  have guarded := keptRun clock moves
  have known := guarded.known e (there.subset List.mem_cons_self)
  have justified := meetsIff.mp guarded.seen earlier e there _ (List.getElem?_eq_getElem known)
  obtain ⟨d,inside,user,site,found,_,status⟩ := readBefore justified before after
  obtain ⟨inside,thread⟩ := List.mem_filter.mp inside
  obtain ⟨recent,older,same⟩ := List.append_of_mem inside
  refine ⟨recent,d,older,same,of_decide_eq_true thread,site,?_⟩
  by_contra quiet
  have awaits := meetsIff.mp guarded.holds.2.2 earlier e there userId
  refine awaits recent d older same (fun a inside approves => quiet ⟨a,inside,approves⟩) ?_ before
  rintro ⟨kyc,its,approved⟩
  rw [kycOf,found] at its
  cases its
  exact status approved

end Runs

/-- Two administrators read one review; the second rejects what the first has approved. -/
def overlapping : List (Move Request Change Answer) :=
  [.environment (.register "rec" .recruiter),.start (.submitDocument "rec" ⟨"id.pdf","application/pdf",1000⟩),
    .answer 0 {},.answer 0 {},.answer 0 { text := "url" },.answer 0 { text := "d1" },
    .start (.approve "rec" "ada"),.start (.reject "rec" "bo" (some "blurred")),
    .answer 1 {},.answer 1 {},.answer 2 {},.answer 2 {},.answer 1 {},.answer 2 {}]

theorem overlaps : (service.run (Pool.initial { clock := 3 }) overlapping).history ≠ [] :=
  List.ne_nil_of_length_pos (by decide)

theorem rejectedAfterApproval :
    ∃ recent d older, (service.run (Pool.initial { clock := 3 }) overlapping).history.tail = recent ++ d :: older ∧
      d.thread = ((service.run (Pool.initial { clock := 3 }) overlapping).history.head overlaps).thread ∧
      d.site = .findUser "rec" ∧ ∃ a ∈ recent, Approves "rec" a :=
  approvalUndone 3 overlapping (by rw [List.cons_head_tail]) (by decide) (by decide)

end HireSettle.Users.Kyc
