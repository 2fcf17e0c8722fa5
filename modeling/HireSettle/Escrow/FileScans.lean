import HireSettle.Escrow.Disputes
import HireSettle.Workflow.Guards

/-! The malware scan of uploaded files, and what hands out links to them. A file is the
row of an evidence or of a message with an attachment. A scan reads the row while the
file is pending, downloads and scans it, and then records the verdict. -/
namespace HireSettle.Escrow.FileScans
open Workflow

inductive FileScanStatus where
  | pending | clean | infected
  deriving DecidableEq, Repr

structure DisputeEvidence where
  id : String
  milestoneId : String
  uploadedBy : String
  fileName : String
  mimeType : String
  s3Path : String
  s3Url : Option String := none
  scanStatus : FileScanStatus := .pending
  scannedAt : Option Nat := none
  deriving DecidableEq, Repr

instance : Keyed DisputeEvidence String := ⟨DisputeEvidence.id⟩

structure DisputeMessage where
  id : String
  disputeId : String
  authorId : String
  body : String
  attachmentS3Key : Option String := none
  attachmentName : Option String := none
  attachmentSize : Option Nat := none
  attachmentMimeType : Option String := none
  attachmentScanStatus : Option FileScanStatus := none
  attachmentScannedAt : Option Nat := none
  createdAt : Nat := 0
  deriving DecidableEq, Repr

instance : Keyed DisputeMessage String := ⟨DisputeMessage.id⟩

structure World where
  evidence : Table DisputeEvidence := Table.empty
  messages : Table DisputeMessage := Table.empty
  db : Db := {}

inductive FileScanKind where
  | evidence | disputeMessage
  deriving DecidableEq, Repr

structure FileScanJobData where
  kind : FileScanKind
  id : String
  deriving DecidableEq, Repr

inductive Site where
  | loadPendingTarget (file : FileScanJobData)
  | getObject
  | scan
  | markClean (file : FileScanJobData)
  | markInfected (file : FileScanJobData)
  | moveObject
  | notify
  | findEvidence
  | findDispute
  | findMessages
  | getPresignedUrl (file : FileScanJobData)
  deriving DecidableEq, Repr

abbrev Op := Process Site Answer World Exception

def statusOf (file : FileScanJobData) (w : World) : Option FileScanStatus :=
  match file.kind with
  | .evidence => (w.evidence.get? file.id).map DisputeEvidence.scanStatus
  | .disputeMessage => (w.messages.get? file.id).bind DisputeMessage.attachmentScanStatus

def read {α : Type} (site : Site) (f : World → α) : Op α :=
  .query site fun answer w => if answer.fails then .error .database else .ok (f w)

namespace FileScanService

def QUARANTINE_PREFIX : String := "quarantine/"

structure ScanTarget where
  key : String
  fileName : String
  uploaderId : String
  deriving DecidableEq, Repr

def pendingTarget (file : FileScanJobData) (w : World) : Option ScanTarget :=
  match file.kind with
  | .evidence =>
      match w.evidence.get? file.id with
      | none => none
      | some evidence =>
          if evidence.scanStatus ≠ .pending then none
          else some { key := evidence.s3Path, fileName := evidence.fileName, uploaderId := evidence.uploadedBy }
  | .disputeMessage =>
      match w.messages.get? file.id with
      | none => none
      | some message =>
          match present message.attachmentS3Key with
          | none => none
          | some key =>
              if message.attachmentScanStatus ≠ some .pending then none
              else some { key := key, fileName := message.attachmentName.getD "attachment", uploaderId := message.authorId }

def loadPendingTarget (file : FileScanJobData) : Op (Option ScanTarget) := read (.loadPendingTarget file) (pendingTarget file)

def cleanEvidence (scannedAt : Nat) (row : DisputeEvidence) : DisputeEvidence :=
  { row with scanStatus := .clean, scannedAt := some scannedAt }

def cleanMessage (scannedAt : Nat) (row : DisputeMessage) : DisputeMessage :=
  { row with attachmentScanStatus := some .clean, attachmentScannedAt := some scannedAt }

def infectedEvidence (quarantineKey : String) (scannedAt : Nat) (row : DisputeEvidence) : DisputeEvidence :=
  { row with scanStatus := .infected, scannedAt := some scannedAt, s3Path := quarantineKey, s3Url := none }

def infectedMessage (quarantineKey : String) (scannedAt : Nat) (row : DisputeMessage) : DisputeMessage :=
  { row with attachmentScanStatus := some .infected, attachmentScannedAt := some scannedAt, attachmentS3Key := some quarantineKey }

/-- The update of the one row of a file, by its id. -/
def updateFile (file : FileScanJobData) (onEvidence : DisputeEvidence → DisputeEvidence) (onMessage : DisputeMessage → DisputeMessage)
    (keepsEvidence : ∀ row, Keyed.key (onEvidence row) = Keyed.key row) (keepsMessage : ∀ row, Keyed.key (onMessage row) = Keyed.key row)
    (answer : Answer) (w : World) : Except Exception (Unit × World) :=
  if answer.fails then .error .database
  else match file.kind with
    | .evidence =>
        match w.evidence.modify file.id onEvidence keepsEvidence with
        | none => .error .recordNotFound
        | some (_,evidence) => .ok ((),{ w with evidence := evidence })
    | .disputeMessage =>
        match w.messages.modify file.id onMessage keepsMessage with
        | none => .error .recordNotFound
        | some (_,messages) => .ok ((),{ w with messages := messages })

def markClean (file : FileScanJobData) (answer : Answer) (w : World) : Except Exception (Unit × World) :=
  updateFile file (cleanEvidence w.db.clock) (cleanMessage w.db.clock) (fun _ => rfl) (fun _ => rfl) answer w

def markInfected (file : FileScanJobData) (quarantineKey : String) (answer : Answer) (w : World) : Except Exception (Unit × World) :=
  updateFile file (infectedEvidence quarantineKey w.db.clock) (infectedMessage quarantineKey w.db.clock) (fun _ => rfl) (fun _ => rfl) answer w

-- the objects of the bucket are not part of the state
def moveObject : Op Unit := .query .moveObject fun answer _ => if answer.fails then .error .database else .ok ()

def scan (file : FileScanJobData) : Op Unit := do
  let target ← loadPendingTarget file
  match target with
  | none => return
  | some target => do
      Process.query .getObject fun answer _ => if answer.fails then .error .database else .ok ()
      -- the verdict is what the environment answers
      let infected ← .query .scan fun answer _ => if answer.fails then .error .database else .ok (decide (answer.number ≠ 0))
      if !infected then .transact (.markClean file) (markClean file)
      else do
        let quarantineKey := QUARANTINE_PREFIX ++ target.key
        .transact (.markInfected file) (markInfected file quarantineKey)
        moveObject.handle fun _ => return
        .query .notify fun answer _ => if answer.fails then .error .database else .ok ()

end FileScanService

def getPresignedUrl (file : FileScanJobData) : Op String :=
  .query (.getPresignedUrl file) fun answer _ => if answer.fails then .error .database else .ok answer.text

namespace MilestonesService

def checkPartyAccess (engagement : Engagement) (user : DisputeActor) : Except Exception Unit :=
  if user.role = .admin then .ok ()
  else match present user.stellarAddress with
    | none => .error (.forbidden "Not a party to this engagement")
    | some address =>
        if address ∈ [engagement.companyAddress,engagement.recruiterAddress,engagement.arbiterAddress] then .ok ()
        else .error (.forbidden "Not a party to this engagement")

structure EvidenceUrl where
  id : String
  fileName : String
  mimeType : String
  url : String
  deriving DecidableEq, Repr

-- the evidence with its milestone and its engagement
def withEngagement (evidenceId : String) (w : World) : Option (DisputeEvidence × Milestone × Engagement) := do
  let evidence ← w.evidence.get? evidenceId
  let milestone ← w.db.milestones.get? evidence.milestoneId
  let engagement ← w.db.engagements.get? milestone.engagementId
  some (evidence,milestone,engagement)

def getEvidenceDownloadUrl (engagementId : String) (milestoneIndex : Nat) (evidenceId : String) (user : DisputeActor) : Op EvidenceUrl := do
  let found ← read .findEvidence fun w => withEngagement evidenceId w
  match found with
  | none => .raise (.notFound s!"Evidence {evidenceId} not found on milestone {milestoneIndex}")
  | some (evidence,milestone,engagement) =>
      if milestone.engagementId ≠ engagementId ∨ milestone.milestoneIndex ≠ milestoneIndex then
        .raise (.notFound s!"Evidence {evidenceId} not found on milestone {milestoneIndex}")
      else do
        Process.ofExcept (checkPartyAccess engagement user)
        if evidence.scanStatus ≠ .clean then
          .raise (.conflict (if evidence.scanStatus = .infected then "This file failed malware scanning and has been quarantined"
            else "This file is still being scanned for malware; try again shortly"))
        else do
          let url ← getPresignedUrl { kind := .evidence, id := evidence.id }
          return { id := evidence.id, fileName := evidence.fileName, mimeType := evidence.mimeType, url := url }

end MilestonesService

namespace DisputesService

def canView (dispute : Dispute) (engagement : Engagement) (appeal : Option DisputeAppeal) (user : DisputeActor) : Bool :=
  user.role = .admin || Escrow.DisputesService.isParty engagement user ||
    (some user.id = dispute.arbiterId || some user.id = appeal.bind DisputeAppeal.arbiterId) ||
    (present user.stellarAddress).any fun address => address = engagement.arbiterAddress

def assertCanAccessMessages (dispute : Dispute) (engagement : Engagement) (appeal : Option DisputeAppeal) (actor : DisputeActor) :
    Except Exception Unit :=
  if canView dispute engagement appeal actor then .ok () else .error (.forbidden "Not a party to this dispute")

structure Author where
  id : String
  name : Option String
  email : Option String
  deriving DecidableEq, Repr

structure ListedMessage where
  id : String
  disputeId : String
  body : String
  author : Option Author
  attachmentName : Option String
  attachmentSize : Option Nat
  attachmentMimeType : Option String
  attachmentScanStatus : Option FileScanStatus
  attachmentUrl : Option String
  createdAt : Nat
  deriving DecidableEq, Repr

def withParties (disputeId : String) (w : World) : Option (Dispute × Engagement × Option DisputeAppeal) := do
  let dispute ← w.db.disputes.get? disputeId
  let engagement ← w.db.engagements.get? dispute.engagementId
  some (dispute,engagement,w.db.appeals.get? disputeId)

def author (authorId : String) (w : World) : Option Author :=
  (w.db.users.get? authorId).map fun user => { id := user.id, name := user.name, email := user.email }

def rows (disputeId : String) (w : World) : List (DisputeMessage × Option Author) :=
  ((w.messages.findMany fun row => row.disputeId = disputeId).insertionSort fun a b => a.createdAt ≤ b.createdAt).map fun row =>
    (row,author row.authorId w)

def attachmentUrl (m : DisputeMessage) : Op (Option String) :=
  if (present m.attachmentS3Key).isSome ∧ m.attachmentScanStatus = some .clean then
    (do
      let url ← getPresignedUrl { kind := .disputeMessage, id := m.id }
      return some url : Op (Option String)).handle fun _ => return none
  else return none

def listed (m : DisputeMessage) (author : Option Author) (url : Option String) : ListedMessage :=
  { id := m.id
    disputeId := m.disputeId
    body := m.body
    author := author
    attachmentName := m.attachmentName
    attachmentSize := m.attachmentSize
    attachmentMimeType := m.attachmentMimeType
    attachmentScanStatus := m.attachmentScanStatus
    attachmentUrl := url
    createdAt := m.createdAt }

-- the links are asked for together; none of them waits for another
def listMessages (disputeId : String) (actor : DisputeActor) : Op (List ListedMessage) := do
  let found ← read .findDispute fun w => withParties disputeId w
  match found with
  | none => .raise (.notFound s!"Dispute {disputeId} not found")
  | some (dispute,engagement,appeal) => do
      Process.ofExcept (assertCanAccessMessages dispute engagement appeal actor)
      let rows ← read .findMessages fun w => rows disputeId w
      Process.foldEach (fun messages (m,author) => do
        let url ← attachmentUrl m
        return messages ++ [listed m author url]) [] rows

end DisputesService

inductive Request where
  | scan (file : FileScanJobData)
  | getEvidenceDownloadUrl (engagementId : String) (milestoneIndex : Nat) (evidenceId : String) (user : DisputeActor)
  | listMessages (disputeId : String) (actor : DisputeActor)
  deriving DecidableEq, Repr

inductive Reply where
  | scanned
  | evidence (url : MilestonesService.EvidenceUrl)
  | messages (messages : List DisputesService.ListedMessage)
  deriving DecidableEq, Repr

def handler : Request → Op Reply
  | .scan file => do
      FileScanService.scan file
      return .scanned
  | .getEvidenceDownloadUrl engagementId milestoneIndex evidenceId user => do
      let url ← MilestonesService.getEvidenceDownloadUrl engagementId milestoneIndex evidenceId user
      return .evidence url
  | .listMessages disputeId actor => do
      let messages ← DisputesService.listMessages disputeId actor
      return .messages messages

/-- Only the time passes by itself. -/
def service : System Request Nat Site Answer World Exception Reply where
  handler := handler
  environment elapsed w := { w with db := { w.db with clock := w.db.clock + elapsed } }

abbrev FileEvent := Event Site Answer World

abbrev FilePool := Pool Request Site Answer World Exception Reply

abbrev FileMove := Move Request Nat Answer

end HireSettle.Escrow.FileScans
