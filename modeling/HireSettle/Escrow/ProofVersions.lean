import HireSettle.Escrow.PartialReleases

/-! The proofs submitted for a milestone, as numbered versions. Only the latest
version can be reviewed, and a version awaiting review is reused. -/
namespace HireSettle.Escrow
open Workflow

structure ProofInput where
  proofUrl : Option String := none
  content : Option String := none
  proofHash : Option String := none
  submittedById : Option String := none
  deriving DecidableEq, Repr

def latestFirst (a b : MilestoneProofVersion) : Prop := b.versionNumber ≤ a.versionNumber

instance : DecidableRel latestFirst := fun _ _ => inferInstanceAs (Decidable (_ ≤ _))

namespace ProofVersionsService

def latest (milestoneId : String) : Op (Option MilestoneProofVersion) :=
  find .proofVersion fun db =>
    ((db.proofVersions.findMany fun row => row.milestoneId = milestoneId).insertionSort latestFirst).head?

def updateVersion (milestoneId id : String) (f : MilestoneProofVersion → MilestoneProofVersion)
    (keeps : ∀ v, (f v).id = v.id := by intro _; rfl) : Op MilestoneProofVersion :=
  write (.writeProofVersion milestoneId) fun _ db => do
    let (row,proofVersions) ← required (db.proofVersions.modify id f keeps)
    return (row,{ db with proofVersions := proofVersions })

-- the unique indexes on the id and on (milestoneId, versionNumber)
def createVersion (milestoneId : String) (versionNumber : Nat) (input : ProofInput) : Op MilestoneProofVersion :=
  write (.writeProofVersion milestoneId) fun answer db =>
    let row : MilestoneProofVersion :=
      { id := answer.text
        milestoneId := milestoneId
        versionNumber := versionNumber
        proofUrl := input.proofUrl
        content := input.content
        proofHash := present input.proofHash
        submittedById := input.submittedById
        submittedAt := db.clock }
    if (db.proofVersions.findFirst fun v => v.milestoneId = milestoneId && v.versionNumber = versionNumber).isSome then
      .error .uniqueViolation
    else match db.proofVersions.create row with
      | none => .error .uniqueViolation
      | some proofVersions => .ok (row,{ db with proofVersions := proofVersions })

-- one attempt of `recordVersion`; `lost` is what follows when the creation throws
def attemptVersion (milestoneId : String) (input : ProofInput) (lost : Exception → Op MilestoneProofVersion) :
    Op MilestoneProofVersion := do
  let found ← latest milestoneId
  match found with
  | none => (createVersion milestoneId 1 input).handle lost
  | some version =>
      if version.status = .submitted then
        if (present input.proofHash).isSome ∧ present version.proofHash = none then
          updateVersion milestoneId version.id fun row => { row with proofHash := input.proofHash }
        else return version
      else (createVersion milestoneId (version.versionNumber + 1) input).handle lost

def recordVersion (milestoneId : String) (input : ProofInput) : Op MilestoneProofVersion :=
  attemptVersion milestoneId input fun error =>
    if isUniqueViolation error then attemptVersion milestoneId input .raise else .raise error

def assertReviewable (milestoneId : String) (versionNumber : Option Nat) : Op (Option MilestoneProofVersion) := do
  let found ← latest milestoneId
  match found,versionNumber with
  | none, some _ => .raise (.conflict "This milestone has no proof versions.")
  | none, none => return none
  | some version, _ =>
      if versionNumber.any (· ≠ version.versionNumber) then
        .raise (.conflict
          s!"Proof version {versionNumber.getD 0} is outdated; only the latest version ({version.versionNumber}) can be reviewed.")
      else match version.status with
        | .submitted => return some version
        | .approved => .raise (.conflict s!"Proof version {version.versionNumber} has already been approved.")
        | .rejected => .raise (.conflict s!"Proof version {version.versionNumber} has already been rejected.")

def markApproved (milestoneId : String) (reviewedById : Option String) : Op (Option MilestoneProofVersion) := do
  let found ← latest milestoneId
  match found with
  | none => return none
  | some version =>
      if version.status ≠ .submitted then return none
      else do
        let at' ← now
        let updated ← updateVersion milestoneId version.id fun row =>
          { row with status := .approved, reviewedById := reviewedById, reviewedAt := some at' }
        return some updated

def submitProof (engagementId : String) (milestoneIndex : Nat) (user : PartyUser) (input : ProofInput) :
    Op (Milestone × MilestoneProofVersion) := do
  let (milestone,engagement) ← load engagementId milestoneIndex
  let _ ← requirePartyRole engagement user [.recruiter] "Only the recruiter can submit proof"
  if present input.proofUrl = none ∧ present input.content = none ∧ present input.proofHash = none then
    .raise (.badRequest "Provide at least one of proofUrl, content or proofHash.")
  else if milestone.status ≠ .pending then
    .raise (.unprocessable
      "Proof can only be submitted on a PENDING milestone (new, or after the previous proof was rejected).")
  else do
    let at' ← now
    let _ ← write (.writeProofVersion milestone.id) fun _ db => .ok (db.updateVersionsWhere
      (fun row => row.milestoneId = milestone.id && row.status = .submitted)
      (fun row => { row with
        status := .rejected
        reviewedAt := some at'
        rejectionReason := some "Superseded by a new submission" }))
    let version ← recordVersion milestone.id { input with submittedById := user.id }
    let updated ← write (.proofSubmitted milestone.id) fun _ db => db.updateMilestone milestone.id fun row =>
      { row with status := .proofSubmitted, proofHash := (present input.proofHash).or row.proofHash }
    notify
    return (updated,version)

def rejectProof (engagementId : String) (milestoneIndex : Nat) (user : PartyUser) (reason : String)
    (versionNumber : Option Nat) : Op (Milestone × MilestoneProofVersion) := do
  let (milestone,engagement) ← load engagementId milestoneIndex
  let _ ← requirePartyRole engagement user [.company] "Only the company can reject proof"
  if milestone.status ≠ .proofSubmitted then .raise (.unprocessable "Only submitted proof can be rejected.")
  else do
    let latest ← assertReviewable milestone.id versionNumber
    match latest with
    | none => .raise (.unprocessable "This milestone has no versioned proof to reject.")
    | some latest => do
        let at' ← now
        let count ← write (.writeProofVersion milestone.id) fun _ db => .ok (db.updateVersionsWhere
          (fun row => row.id = latest.id && row.status = .submitted)
          (fun row => { row with
            status := .rejected
            reviewedById := user.id
            reviewedAt := some at'
            rejectionReason := some reason }))
        if count = 0 then .raise (.conflict "This proof version has already been reviewed.")
        else do
          let updated ← write (.proofRejected milestone.id) fun _ db =>
            db.updateMilestone milestone.id fun row => { row with status := .pending }
          let _ ← write (.deleteApprovals milestone.id) fun _ db =>
            .ok ((),{ db with approvals := db.approvals.deleteMany fun row => row.milestoneId = milestone.id })
          notify
          return (updated,{ latest with status := .rejected, rejectionReason := some reason })

end ProofVersionsService

end HireSettle.Escrow
