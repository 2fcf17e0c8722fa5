import HireSettle.Escrow.Database

/-! Partial releases: one party proposes paying out a part of a milestone, the other
approves, and the second approval executes it on-chain. The remainder is refunded
or kept in escrow. Also the party checks that the milestone services share. -/
namespace HireSettle.Escrow
open Workflow

/-- JavaScript's `!!s && s === t`. -/
def sameText (s t : Option String) : Bool :=
  match s with
  | some text => text != "" && t = some text
  | none => false

def engagementPartyRole (engagement : Engagement) (user : PartyUser) : Option PartyRole :=
  let isSide (id : Option String) (address : String) :=
    sameText user.id id || sameText user.stellarAddress (some address)
  if isSide engagement.companyId engagement.companyAddress then some .company
  else if isSide engagement.recruiterId engagement.recruiterAddress then some .recruiter
  else if isSide engagement.arbiterId engagement.arbiterAddress then some .arbiter
  else none

def requirePartyRole (engagement : Engagement) (user : PartyUser) (allowed : List PartyRole) (message : String) :
    Op PartyRole :=
  match engagementPartyRole engagement user with
  | some role => if role ∈ allowed then .ret role else .raise (.forbidden message)
  | none => .raise (.forbidden message)

-- `findUnique` of a milestone including its engagement
def load (engagementId : String) (milestoneIndex : Nat) : Op (Milestone × Engagement) :=
  findOr .milestone fun db =>
    match db.milestoneAt engagementId milestoneIndex with
    | none => .error (.notFound s!"Milestone {milestoneIndex} not found on engagement {engagementId}")
    | some milestone =>
        match db.engagements.get? milestone.engagementId with
        | none => .error .database
        | some engagement => .ok (milestone,engagement)

namespace PartialReleaseService

structure PartialReleaseTerms where
  releaseAmount : Option Int := none
  releasePercent : Option Int := none
  remainderAction : PartialRemainderAction
  reason : Option String := none

structure Split where
  releaseAmount : Int
  remainderAmount : Int
  deriving DecidableEq, Repr

def PARTIAL_RELEASE_STATUSES : List MilestoneStatus := [.proofSubmitted,.disputed]

def computeSplit (totalAmount alreadyReleased : Int) (terms : PartialReleaseTerms) : Except Exception Split :=
  let remaining := totalAmount - alreadyReleased
  let checked (releaseAmount : Int) : Except Exception Split :=
    if releaseAmount ≤ 0 ∨ remaining ≤ releaseAmount then
      .error (.badRequest
        s!"A partial release must be greater than 0 and less than the {remaining} stroops remaining in escrow.")
    else .ok ⟨releaseAmount,remaining - releaseAmount⟩
  if remaining ≤ 0 then .error (.unprocessable "Nothing is left in escrow for this milestone.")
  else match terms.releaseAmount,terms.releasePercent with
    | some amount, none => checked amount
    | none, some percent => checked ((remaining * percent).tdiv 100)
    | _, _ => .error (.badRequest "Provide exactly one of releaseAmount or releasePercent.")

def hasDualApproval (release : MilestonePartialRelease) : Bool :=
  release.companyApprovedAt.isSome && release.recruiterApprovedAt.isSome

-- the unique index on milestoneId where status = 'PROPOSED'
def openProposal (db : Db) (milestoneId : String) : Option MilestonePartialRelease :=
  db.partialReleases.findFirst (fun r => r.milestoneId = milestoneId && r.status = .proposed)

def approvedBy (role : PartyRole) (userId : Option String) (at' : Nat) (release : MilestonePartialRelease) :
    MilestonePartialRelease :=
  match role with
  | .company => { release with companyApproverId := userId, companyApprovedAt := some at' }
  | _ => { release with recruiterApproverId := userId, recruiterApprovedAt := some at' }

def approvedAt (role : PartyRole) (release : MilestonePartialRelease) : Option Nat :=
  match role with
  | .company => release.companyApprovedAt
  | _ => release.recruiterApprovedAt

def propose (engagementId : String) (milestoneIndex : Nat) (user : PartyUser) (terms : PartialReleaseTerms) :
    Op MilestonePartialRelease := do
  let (milestone,engagement) ← load engagementId milestoneIndex
  let role ← requirePartyRole engagement user [.company,.recruiter]
    "Only the company or recruiter can propose a partial release"
  if milestone.status ∉ PARTIAL_RELEASE_STATUSES then
    .raise (.unprocessable "Partial releases are only possible once proof is submitted or disputed.")
  else match milestone.amount with
    | none => .raise (.unprocessable "Milestone amount is not set.")
    | some amount => do
        let conflict : Exception := .conflict "A partial release proposal is already open on this milestone."
        let existing ← find .partialRelease fun db => openProposal db milestone.id
        if existing.isSome then .raise conflict
        else do
          let split ← .ofExcept (computeSplit amount (milestone.paymentReleased.getD 0) terms)
          let at' ← now
          let release ← (write (.createRelease user) fun answer db =>
            let row := approvedBy role user.id at'
              { id := answer.text
                milestoneId := milestone.id
                engagementId := engagementId
                proposedById := user.id.getD ""
                releaseAmount := split.releaseAmount
                remainderAmount := split.remainderAmount
                remainderAction := terms.remainderAction
                reason := terms.reason }
            if (openProposal db milestone.id).isSome then .error .uniqueViolation
            else match db.partialReleases.create row with
              | none => .error .uniqueViolation
              | some releases => .ok (row,{ db with partialReleases := releases })).handle fun error =>
                if isUniqueViolation error then .raise conflict else .raise error
          audit
          notify
          return release

def findOpen (milestoneId releaseId : String) : Op MilestonePartialRelease := do
  let found ← find .partialRelease fun db => db.partialReleases.get? releaseId
  match found with
  | none => .raise (.notFound s!"Partial release {releaseId} not found on this milestone")
  | some release =>
      if release.milestoneId ≠ milestoneId then
        .raise (.notFound s!"Partial release {releaseId} not found on this milestone")
      else match release.status with
        | .proposed => return release
        | .executed => .raise (.conflict "This partial release is executed.")
        | .rejected => .raise (.conflict "This partial release is rejected.")
        | .failed => .raise (.conflict "This partial release is failed.")

def findRelease (releaseId : String) : Op MilestonePartialRelease :=
  findOr .partialRelease fun db => required (db.partialReleases.get? releaseId)

def refundReason (releaseId txHash : String) : String :=
  s!"Remainder of partial release {releaseId} refunded on-chain (tx {txHash})"

-- the catch of the on-chain call
def failed (releaseId : String) (error : Exception) : Op String := do
  let _ ← write (.failRelease releaseId) fun answer db => db.updateRelease releaseId fun r =>
    { r with status := .failed, failureReason := some answer.text, executedAt := none }
  audit
  .raise error

def pay (release : MilestonePartialRelease) (milestone : Milestone) (engagement : Engagement) (at' : Nat) : Op Unit := do
  let previouslyReleased := milestone.paymentReleased.getD 0
  let refundRemainder := release.remainderAction = .refund
  let _ ← write (.payRelease release.id) fun _ db => db.updateMilestone milestone.id (fun m =>
    { m with
      paymentReleased := some (previouslyReleased + release.releaseAmount)
      status := if refundRemainder then .confirmed else m.status
      confirmedAt := if refundRemainder then some at' else m.confirmedAt })
  let _ ← write (.addReleasedAmount engagement.id) fun _ db => db.updateEngagement engagement.id fun e =>
    { e with releasedAmount := e.releasedAmount + release.releaseAmount }

def execute (release : MilestonePartialRelease) (milestone : Milestone) (engagement : Engagement) :
    Op MilestonePartialRelease := do
  if !hasDualApproval release then
    .raise (.conflict "Both the company and the recruiter must approve before funds move.")
  else do
    let at' ← now
    let count ← write (.claimRelease release.id) fun _ db => .ok (db.updateReleasesWhere
      (fun r => r.id = release.id && r.status = .proposed && r.executedAt.isNone)
      (fun r => { r with executedAt := some at' }))
    if count = 0 then findRelease release.id
    else do
      let refundRemainder := release.remainderAction = .refund
      let txHash ← (stellar (.releasePartialMilestonePayment release.id engagement.id milestone.milestoneIndex
        release.releaseAmount refundRemainder) Answer.text).handle (failed release.id)
      pay release milestone engagement at'
      if refundRemainder then
        write (.refundRemainder release.id) fun _ db => .ok ((),db.upsertRefund
          { milestoneId := milestone.id
            amount := release.remainderAmount
            status := .completed
            reason := some (refundReason release.id txHash) })
      let executed ← write (.executeRelease release.id) fun _ db => db.updateRelease release.id fun r =>
        { r with status := .executed, txHash := some txHash }
      audit
      notify
      notify
      return executed

def approve (engagementId : String) (milestoneIndex : Nat) (releaseId : String) (user : PartyUser) :
    Op MilestonePartialRelease := do
  let (milestone,engagement) ← load engagementId milestoneIndex
  let role ← requirePartyRole engagement user [.company,.recruiter]
    "Only the company or recruiter can approve a partial release"
  let release ← findOpen milestone.id releaseId
  let at' ← now
  let count ← write (.approveRelease release.id user) fun _ db => .ok (db.updateReleasesWhere
    (fun r => r.id = release.id && r.status = .proposed && (approvedAt role r).isNone)
    (approvedBy role user.id at') (by intro r; cases role <;> rfl))
  if count = 0 then .raise (.conflict "You have already approved this partial release.")
  else do
    let updated ← findRelease release.id
    if !hasDualApproval updated then return updated
    else execute updated milestone engagement

def reject (engagementId : String) (milestoneIndex : Nat) (releaseId : String) (user : PartyUser) :
    Op MilestonePartialRelease := do
  let (milestone,engagement) ← load engagementId milestoneIndex
  let _ ← requirePartyRole engagement user [.company,.recruiter]
    "Only the company or recruiter can reject a partial release"
  let release ← findOpen milestone.id releaseId
  let count ← write (.rejectRelease release.id) fun _ db => .ok (db.updateReleasesWhere
    (fun r => r.id = release.id && r.status = .proposed && r.executedAt.isNone)
    (fun r => { r with status := .rejected }))
  if count = 0 then .raise (.conflict "This partial release is no longer open.")
  else do
    audit
    return { release with status := .rejected }

inductive Request where
  | propose (engagementId : String) (milestoneIndex : Nat) (user : PartyUser) (terms : PartialReleaseTerms)
  | approve (engagementId : String) (milestoneIndex : Nat) (releaseId : String) (user : PartyUser)
  | reject (engagementId : String) (milestoneIndex : Nat) (releaseId : String) (user : PartyUser)

def handler : Request → Op MilestonePartialRelease
  | .propose engagementId milestoneIndex user terms => propose engagementId milestoneIndex user terms
  | .approve engagementId milestoneIndex releaseId user => approve engagementId milestoneIndex releaseId user
  | .reject engagementId milestoneIndex releaseId user => reject engagementId milestoneIndex releaseId user

-- the environment lets time pass
def service : System Request Nat Site Answer Db Exception MilestonePartialRelease where
  handler := handler
  environment elapsed db := { db with clock := db.clock + elapsed }

end PartialReleaseService

end HireSettle.Escrow
