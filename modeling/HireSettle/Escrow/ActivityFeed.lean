import HireSettle.Escrow.PartialReleases
import HireSettle.Workflow.Keyset
import HireSettle.Workflow.Texts
import HireSettle.Workflow.Dates

/-! The activity feed of an engagement: the rows of six tables merged newest first
and read in pages that resume after a cursor. A row stands here with the milestone
and the author that the query includes. -/
namespace HireSettle.Escrow.ActivityFeed
open Workflow

structure RowMilestone where
  engagementId : String
  milestoneIndex : Nat
  deriving DecidableEq, Repr

structure Author where
  id : String
  name : String
  role : UserRole
  deriving DecidableEq, Repr

structure EngagementAuditLog where
  id : String
  engagementId : String
  fromStatus : String
  toStatus : String
  changedBy : String
  reason : Option String := none
  createdAt : Date

structure EngagementNote where
  id : String
  engagementId : String
  authorId : String
  body : String
  createdAt : Date

structure MilestoneAuditLog where
  id : String
  milestone : RowMilestone
  fromStatus : MilestoneStatus
  toStatus : MilestoneStatus
  changedBy : String
  action : Option String := none
  details : Option Json := none
  createdAt : Date

structure ProofVersion where
  id : String
  milestone : RowMilestone
  versionNumber : Nat
  submittedById : String
  submittedAt : Date
  status : ProofVersionStatus := .submitted
  rejectionReason : Option String := none

structure PartialRelease where
  id : String
  engagementId : String
  milestone : RowMilestone
  proposedById : String
  releaseAmount : Int
  remainderAmount : Int
  remainderAction : PartialRemainderAction
  status : PartialReleaseStatus := .proposed
  txHash : Option String := none
  createdAt : Date

structure MilestoneComment where
  id : String
  engagementId : String
  milestone : RowMilestone
  authorId : String
  author : Author
  body : String
  createdAt : Date

instance : Keyed EngagementAuditLog String := ⟨EngagementAuditLog.id⟩
instance : Keyed EngagementNote String := ⟨EngagementNote.id⟩
instance : Keyed MilestoneAuditLog String := ⟨MilestoneAuditLog.id⟩
instance : Keyed ProofVersion String := ⟨ProofVersion.id⟩
instance : Keyed PartialRelease String := ⟨PartialRelease.id⟩
instance : Keyed MilestoneComment String := ⟨MilestoneComment.id⟩

structure Store where
  engagements : Table Engagement
  engagementAuditLogs : Table EngagementAuditLog := .empty
  engagementNotes : Table EngagementNote := .empty
  milestoneAuditLogs : Table MilestoneAuditLog := .empty
  milestoneProofVersions : Table ProofVersion := .empty
  milestonePartialReleases : Table PartialRelease := .empty
  milestoneComments : Table MilestoneComment := .empty

/-- How the database orders the rows of one time in each of the six queries of a request. -/
structure Orders where
  engagementAuditLogs : Arrangement EngagementAuditLog (·.createdAt.ms)
  engagementNotes : Arrangement EngagementNote (·.createdAt.ms)
  milestoneAuditLogs : Arrangement MilestoneAuditLog (·.createdAt.ms)
  milestoneProofVersions : Arrangement ProofVersion (·.submittedAt.ms)
  milestonePartialReleases : Arrangement PartialRelease (·.createdAt.ms)
  milestoneComments : Arrangement MilestoneComment (·.createdAt.ms)

inductive ActivityType where
  | statusChange | note | milestoneAudit | proofVersion | partialRelease | milestoneComment
  deriving DecidableEq, Repr

inductive ActivityData where
  | statusChange (fromStatus toStatus : String) (reason : Option String)
  | note (body : String)
  | milestoneAudit (fromStatus toStatus : MilestoneStatus) (action : Option String) (details : Option Json)
  | proofVersion (versionNumber : Nat) (status : ProofVersionStatus) (rejectionReason : Option String)
  | partialRelease (status : PartialReleaseStatus) (releaseAmount remainderAmount : String)
      (remainderAction : PartialRemainderAction) (txHash : Option String)
  | milestoneComment (body : String) (author : Author)

structure Cursor where
  timestamp : Date
  id : String
  deriving DecidableEq, Repr

structure ActivityItem extends Cursor where
  type : ActivityType
  actorId : Option String
  milestoneIndex : Option Nat
  data : ActivityData

/-- How the runtime reads a date text other than the one `toISOString` writes, and malformed UTF-8. -/
structure Runtime where
  otherDate : String → Option Date
  replaced : List Nat → String

namespace ActivityFeedService

def encodeCursor (item : Cursor) : String := Base64Url.write (utf8 (item.timestamp.toISOString ++ "|" ++ item.id))

def decodeCursor (runtime : Runtime) (cursor : String) : Except Exception Cursor :=
  let bytes := Base64Url.bytes cursor
  let text := ((readUtf8 bytes).getD (runtime.replaced bytes)).toList
  let iso := String.ofList (text.takeWhile (· ≠ '|'))
  -- splitting at every bar and joining the rest again leaves what follows the first bar
  match (Date.parse iso).or (runtime.otherDate iso),text.dropWhile (· ≠ '|') with
  | some timestamp,_ :: rest => .ok ⟨timestamp,String.ofList rest⟩
  | _,_ => .error (.badRequest "Invalid cursor")

def compare (a b : Cursor) : Int :=
  let diff := b.timestamp.ms - a.timestamp.ms
  if diff ≠ 0 then diff else if textBefore b.id a.id then -1 else if textBefore a.id b.id then 1 else 0

def findMany {ρ : Type} [Keyed ρ String] {time : ρ → Int} (order : Arrangement ρ time) (table : Table ρ) (selects : ρ → Bool)
    (after : Option Cursor) (take : Nat) : List ρ :=
  (order.arrange (table.findMany fun r => selects r && after.all fun cursor => time r ≤ cursor.timestamp.ms)).take take

def statusChange (e : EngagementAuditLog) : ActivityItem where
  id := "status_change:" ++ e.id
  type := .statusChange
  timestamp := e.createdAt
  actorId := some e.changedBy
  milestoneIndex := none
  data := .statusChange e.fromStatus e.toStatus e.reason

def note (n : EngagementNote) : ActivityItem where
  id := "note:" ++ n.id
  type := .note
  timestamp := n.createdAt
  actorId := some n.authorId
  milestoneIndex := none
  data := .note n.body

def milestoneAudit (a : MilestoneAuditLog) : ActivityItem where
  id := "milestone_audit:" ++ a.id
  type := .milestoneAudit
  timestamp := a.createdAt
  actorId := some a.changedBy
  milestoneIndex := some a.milestone.milestoneIndex
  data := .milestoneAudit a.fromStatus a.toStatus a.action a.details

def proofVersion (v : ProofVersion) : ActivityItem where
  id := "proof_version:" ++ v.id
  type := .proofVersion
  timestamp := v.submittedAt
  actorId := some v.submittedById
  milestoneIndex := some v.milestone.milestoneIndex
  data := .proofVersion v.versionNumber v.status v.rejectionReason

def partialRelease (r : PartialRelease) : ActivityItem where
  id := "partial_release:" ++ r.id
  type := .partialRelease
  timestamp := r.createdAt
  actorId := some r.proposedById
  milestoneIndex := some r.milestone.milestoneIndex
  data := .partialRelease r.status (toString r.releaseAmount) (toString r.remainderAmount) r.remainderAction r.txHash

def milestoneComment (c : MilestoneComment) : ActivityItem where
  id := "milestone_comment:" ++ c.id
  type := .milestoneComment
  timestamp := c.createdAt
  actorId := some c.authorId
  milestoneIndex := some c.milestone.milestoneIndex
  data := .milestoneComment c.body c.author

structure Page where
  items : List ActivityItem
  nextCursor : Option String

def pageSize (limit : Option Int) : Nat := (min (max (limit.getD 20) 1) 100).toNat

def getActivity (runtime : Runtime) (orders : Orders) (store : Store) (engagementId : String) (user : PartyUser)
    (cursor : Option String) (limit : Option Int) : Except Exception Page := do
  match store.engagements.get? engagementId with
  | none => .error (.notFound s!"Engagement {engagementId} not found")
  | some engagement =>
    if user.role ≠ some .admin ∧ engagementPartyRole engagement user = none then
      .error (.forbidden "You are not a participant of this engagement")
    else
      let take := pageSize limit
      let after ← (present cursor).mapM (decodeCursor runtime)
      let statusChanges := findMany orders.engagementAuditLogs store.engagementAuditLogs (·.engagementId = engagementId) after (take + 1)
      let notes := findMany orders.engagementNotes store.engagementNotes (·.engagementId = engagementId) after (take + 1)
      let milestoneAudits := findMany orders.milestoneAuditLogs store.milestoneAuditLogs (·.milestone.engagementId = engagementId)
        after (take + 1)
      let proofVersions := findMany orders.milestoneProofVersions store.milestoneProofVersions
        (·.milestone.engagementId = engagementId) after (take + 1)
      let partialReleases := findMany orders.milestonePartialReleases store.milestonePartialReleases (·.engagementId = engagementId)
        after (take + 1)
      let comments := findMany orders.milestoneComments store.milestoneComments (·.engagementId = engagementId) after (take + 1)
      let items := statusChanges.map statusChange ++ notes.map note ++ milestoneAudits.map milestoneAudit ++
        proofVersions.map proofVersion ++ partialReleases.map partialRelease ++ comments.map milestoneComment
      let sorted := (items.filter fun item => after.all fun cursor => compare cursor item.toCursor < 0).insertionSort
        fun a b => compare a.toCursor b.toCursor ≤ 0
      let page := sorted.take take
      let nextCursor := if take < sorted.length then page.getLast?.map fun item => encodeCursor item.toCursor else none
      .ok ⟨page,nextCursor⟩

end ActivityFeedService
end HireSettle.Escrow.ActivityFeed
