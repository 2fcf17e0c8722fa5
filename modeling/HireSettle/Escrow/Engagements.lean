import HireSettle.Escrow.Milestones

/-! Engagements: the invite that a company creates with its milestones, its
acceptance, which submits the engagement on-chain from the rows it read and then
marks it active, and the two ways to cancel it. -/
namespace HireSettle.Escrow
open Workflow

structure CreateEngagementDto where
  engagementId : String
  companyAddress : String
  recruiterAddress : String
  arbiterAddress : String
  tokenAddress : String
  -- `BigInt(totalAmount)`, none when it throws
  totalAmount : Option Int
  templateId : Option String := none
  jobTitle : Option String := none
  jobDescription : Option String := none
  salaryRange : Option String := none
  location : Option String := none
  targetStartDate : Option Nat := none
  milestones : Option (List MilestoneInput) := none
  retentionDays : Option (List (Option Int)) := none
  requiredApprovals : Option Nat := none

def EngagementStatus.text : EngagementStatus → String
  | .pendingAcceptance => "PENDING_ACCEPTANCE"
  | .active => "ACTIVE"
  | .completed => "COMPLETED"
  | .cancelled => "CANCELLED"
  | .replacementRequested => "REPLACEMENT_REQUESTED"
  | .accountMerged => "ACCOUNT_MERGED"

def Milestone.onChain (m : Milestone) : ChainMilestone :=
  { name := m.name
    kind := m.kind
    paymentPercent := m.paymentPercent
    retentionDays := if m.kind = .retention then m.retentionDays else none }

variable (self : Config)

namespace EngagementsService

def splitAmounts (total : Int) : Int → List Int → List Int
  | _, [] => []
  | allocated, [_] => [total - allocated]
  | allocated, percent :: rest =>
      let share := (total * percent).tdiv 100
      share :: splitAmounts total (allocated + share) rest

def splitByPercent (total : Int) (percents : List Int) : List Int := splitAmounts total 0 percents

-- the retention windows are taken in order, one for each retention milestone
def milestoneData (engagementId id : String) : Nat → List (Option Int) → List MilestoneInput → List Milestone
  | _, _, [] => []
  | index, days, m :: rest =>
      let row : Milestone :=
        { id := s!"{id}/{index}"
          engagementId := engagementId
          milestoneIndex := index
          name := m.name
          kind := m.kind
          paymentPercent := m.paymentPercent
          retentionDays := if m.kind = .retention then days.head?.join else none
          status := if m.kind = .retention then .locked else .pending }
      row :: milestoneData engagementId id (index + 1) (if m.kind = .retention then days.tail else days) rest

def findTemplate (templateId userId : String) : Op (Option EngagementTemplateVersion) := do
  let found ← find .template fun db => db.templates.get? templateId
  match found with
  | none => .raise (.notFound s!"Template {templateId} not found")
  | some template =>
      if template.companyId ≠ userId then .raise (.forbidden "Not authorized to use this template")
      else find .templateVersion fun db =>
        db.templateVersions.findFirst fun row => row.templateId = template.id && row.version = template.currentVersion

def createEngagement (engagement : Engagement) (milestones : String → List Milestone) : Op Engagement :=
  write (.createEngagement engagement.id) fun answer db => do
    let db ← match db.engagements.create engagement with
      | none => .error .uniqueViolation
      | some engagements => .ok { db with engagements := engagements }
    let db ← (milestones answer.text).foldlM Db.createMilestone db
    return (engagement,db)

-- the engagement and its milestones are persisted here
def persist (dto : CreateEngagementDto) (templateVersion : Option EngagementTemplateVersion) : Op Engagement :=
  let jobTitle := dto.jobTitle.or (templateVersion.bind (·.jobTitle))
  let retentionDays := dto.retentionDays.or (templateVersion.bind (·.retentionDays))
  match present jobTitle, dto.milestones.or (templateVersion.bind (·.milestones)) with
  | none, _ => .raise (.badRequest "jobTitle is required (either provide it or use a template)")
  | some _, none => .raise (.badRequest "milestones are required (either provide them or use a template)")
  | some jobTitle, some milestones =>
      if (milestones.map MilestoneInput.paymentPercent).sum ≠ 100 then
        .raise (.badRequest "Milestone paymentPercent values must sum to exactly 100")
      else match dto.totalAmount with
        | none => .raise .syntaxError
        | some totalAmount => do
            let engagement ← createEngagement
              { id := dto.engagementId
                companyAddress := dto.companyAddress
                recruiterAddress := dto.recruiterAddress
                arbiterAddress := dto.arbiterAddress
                tokenAddress := dto.tokenAddress
                totalAmount := totalAmount
                jobTitle := jobTitle
                jobDescription := dto.jobDescription.or (templateVersion.bind (·.jobDescription))
                salaryRange := dto.salaryRange.or (templateVersion.bind (·.salaryRange))
                location := dto.location.or (templateVersion.bind (·.location))
                status := .pendingAcceptance
                templateVersionId := templateVersion.map (·.id) }
              fun id => milestoneData dto.engagementId id 0 (retentionDays.getD []) milestones
            notify
            return engagement

def prepareEngagement (userId : String) (dto : CreateEngagementDto) : Op Engagement := do
  let existing ← find .engagement fun db => db.engagements.get? dto.engagementId
  if existing.isSome then .raise (.conflict s!"Engagement {dto.engagementId} already exists")
  else if !self.isTokenAllowed dto.tokenAddress then .raise (.badRequest s!"Token {dto.tokenAddress} is not allowed")
  else match present dto.templateId with
    | none => persist dto none
    | some templateId => do
        let templateVersion ← findTemplate templateId userId
        persist dto templateVersion

def countTemplateUse (templateId : Option String) : Op Unit :=
  match present templateId with
  | none => return
  | some id => do
      let at' ← now
      write (.countTemplateUse id) fun _ db => do
        let (_,templates) ← required (db.templates.modify id (fun row =>
          { row with usageCount := row.usageCount + 1, lastUsedAt := some at' }) fun _ => rfl)
        return ((),{ db with templates := templates })

theorem stepsCountTemplateUse {at' : Site → Bool} {R : Db → Db → Prop} (clock : at' .clock = true)
    (counts : ∀ id, at' (.countTemplateUse id) = true) (stays : ∀ db, R db db) (moves : ∀ db templates, R db { db with templates := templates })
    (templateId : Option String) : Steps at' R (countTemplateUse templateId) := by
  unfold countTemplateUse
  split
  · trivial
  · refine stepsBind (stepsQuery clock stays _) fun at' => stepsWrite (counts _) stays fun i db value db' ok => ?_
    obtain ⟨_,_,same⟩ := exceptBind.mp ok
    cases same
    exact moves _ _

-- `prepareEngagement` returns the serialized row, so `mergedData` is undefined
def create (userId : String) (dto : CreateEngagementDto) : Op Engagement := do
  let _ ← prepareEngagement self userId dto
  countTemplateUse dto.templateId
  .raise .typeError

-- what `preview` takes from that row, which has neither property
def mergedData (_ : Engagement) : Option CreateEngagementDto := none

def previewedData (_ : Engagement) : Option (List Milestone) := none

structure MilestoneCost where
  milestoneIndex : Nat
  name : String
  kind : MilestoneKind
  paymentPercent : Int
  amount : Int
  platformFee : Int
  total : Int
  networkFee : Int
  deriving DecidableEq, Repr

structure Preview where
  tokenAddress : String
  plan : Option String
  platformFeeBps : Int
  totalAmount : Int
  platformFee : Int
  totalCost : Int
  fundingFee : Int
  perMilestoneReleaseFee : Int
  networkFeeTotal : Int
  milestones : List MilestoneCost
  deriving DecidableEq, Repr

def milestoneCost (networkFee : Int) (m : Milestone) (amount platformFee : Int) : MilestoneCost :=
  { milestoneIndex := m.milestoneIndex
    name := m.name
    kind := m.kind
    paymentPercent := m.paymentPercent
    amount := amount
    platformFee := platformFee
    total := amount + platformFee
    networkFee := networkFee }

-- one contract call funds the escrow, and one releases each milestone
def breakdown (tokenAddress : String) (plan : Option Plan) (totalAmount networkFee : Int) (data : List Milestone) : Preview :=
  let platformFeeBps := (plan.map Plan.platformFeeBps).getD 0
  let percents := data.map Milestone.paymentPercent
  let amounts := splitByPercent totalAmount percents
  let platformFees := splitByPercent ((totalAmount * platformFeeBps).tdiv 10000) percents
  let platformFee := platformFees.sum
  { tokenAddress := tokenAddress
    plan := plan.map Plan.id
    platformFeeBps := platformFeeBps
    totalAmount := totalAmount
    platformFee := platformFee
    totalCost := totalAmount + platformFee
    fundingFee := networkFee
    perMilestoneReleaseFee := networkFee
    networkFeeTotal := networkFee * (data.length + 1)
    milestones := (data.zip (amounts.zip platformFees)).map fun (m,amount,fee) => milestoneCost networkFee m amount fee }

def preview (userId : String) (dto : CreateEngagementDto) : Op Preview := do
  let prepared ← prepareEngagement self userId dto
  let plan ← find .user fun db => do
    let company ← db.users.get? userId
    let planId ← company.planId
    db.plans.get? planId
  let networkFee ← stellar .getFeeEstimate Answer.number
  match mergedData prepared, previewedData prepared with
  | some merged, some data =>
      match merged.totalAmount with
      | none => .raise .syntaxError
      | some totalAmount => return breakdown merged.tokenAddress plan totalAmount networkFee data
  | _, _ => .raise .typeError

def findWithMilestones (engagementId : String) : Op (Option (Engagement × List Milestone)) :=
  find .engagement fun db => (db.engagements.get? engagementId).map fun row => (row,db.milestonesOf engagementId)

-- the retention milestones with the ledger and the time of their unlock
def unlockEstimates (createdLedger currentLedger : Int) (at' : Nat) (milestones : List Milestone) : List (Milestone × Int × Int) :=
  milestones.filterMap fun m => do
    let days ← if m.kind = .retention then nonzero m.retentionDays else none
    let validAfterLedger := createdLedger + days * LEDGERS_PER_DAY
    some (m,validAfterLedger,ledgerToDateTime validAfterLedger currentLedger at')

def scheduleUnlock (db : Db) (estimate : Milestone × Int × Int) : Except Exception Db := do
  let (m,validAfterLedger,unlockEstimatedAt) := estimate
  let (_,db) ← db.updateMilestone m.id fun row =>
    { row with validAfterLedger := some validAfterLedger, unlockEstimatedAt := some unlockEstimatedAt }
  db.createSchedule (scheduleFor m validAfterLedger unlockEstimatedAt)

-- the transaction of the acceptance
def activate (engagementId txHash : String) (createdLedger : Int) (estimates : List (Milestone × Int × Int)) (db : Db) :
    Except Exception (Engagement × Db) := do
  let (engagement,db) ← db.updateEngagement engagementId fun row =>
    { row with txHash := some txHash, createdLedger := some createdLedger, status := .active }
  let db ← estimates.foldlM scheduleUnlock db
  return (engagement,db)

def acceptInvite (engagementId : String) (stellarAddress : Option String) : Op Engagement := do
  let found ← findWithMilestones engagementId
  match found with
  | none => .raise (.notFound s!"Engagement {engagementId} not found")
  | some (engagement,milestones) =>
      if some engagement.recruiterAddress ≠ stellarAddress then
        .raise (.forbidden "You are not the invited recruiter for this engagement")
      else if engagement.status ≠ .pendingAcceptance then
        .raise (.conflict s!"Engagement is not pending acceptance (current status: {engagement.status.text})")
      else do
        let balance ← stellar (.checkTokenBalance engagement.id) Answer.number
        if balance < engagement.totalAmount then
          .raise (.badRequest
            s!"Insufficient company token balance. Required: {engagement.totalAmount} stroops, available: {balance}")
        else do
          let (txHash,createdLedger) ← stellar (.submitCreateEngagement engagement.id (milestones.map Milestone.onChain))
            fun answer => (answer.text,answer.number)
          let currentLedger ← stellar .getLatestLedger Answer.number
          let at' ← now
          let estimates := unlockEstimates createdLedger currentLedger at' milestones
          let accepted ← write (.activateEngagement engagementId) fun _ db =>
            activate engagementId txHash createdLedger estimates db
          notify
          return accepted

def declineInvite (engagementId : String) (stellarAddress : Option String) : Op Engagement := do
  let found ← find .engagement fun db => db.engagements.get? engagementId
  match found with
  | none => .raise (.notFound s!"Engagement {engagementId} not found")
  | some engagement =>
      if some engagement.recruiterAddress ≠ stellarAddress then
        .raise (.forbidden "You are not the invited recruiter for this engagement")
      else if engagement.status ≠ .pendingAcceptance then
        .raise (.conflict s!"Engagement is not pending acceptance (current status: {engagement.status.text})")
      else do
        let updated ← write (.declineInvite engagementId) fun _ db =>
          db.updateEngagement engagementId fun row => { row with status := .cancelled }
        notify
        return updated

def cancelEngagement (engagementId : String) (stellarAddress : Option String) : Op Engagement := do
  let found ← find .engagement fun db => db.engagements.get? engagementId
  match found with
  | none => .raise (.notFound s!"Engagement {engagementId} not found")
  | some engagement =>
      if some engagement.companyAddress ≠ stellarAddress then
        .raise (.forbidden "Only the company party may cancel this engagement")
      else if engagement.status = .cancelled ∨ engagement.status = .completed then
        .raise (.conflict s!"Cannot cancel an engagement with status '{engagement.status.text}'")
      else do
        stellar (.cancelEngagement engagementId) fun _ => ()
        let updated ← write (.markCancelled engagementId) fun _ db =>
          db.updateEngagement engagementId fun row => { row with status := .cancelled }
        notify
        return updated

def requestReplacement (engagementId : String) (stellarAddress : Option String) : Op Engagement := do
  let found ← find .engagement fun db => db.engagements.get? engagementId
  match found with
  | none => .raise (.notFound s!"Engagement {engagementId} not found")
  | some engagement =>
      if some engagement.companyAddress ≠ stellarAddress then
        .raise (.forbidden "Only the company party may request a candidate replacement")
      else if engagement.status = .cancelled ∨ engagement.status = .completed ∨ engagement.status = .replacementRequested then
        .raise (.conflict s!"Cannot request replacement for an engagement with status '{engagement.status.text}'")
      else do
        let updated ← write (.requestReplacement engagementId) fun _ db =>
          db.updateEngagement engagementId fun row => { row with status := .replacementRequested }
        notify
        return updated

def checkParticipant (engagement : Engagement) (user : User) : Except Exception Unit :=
  if user.role = .admin then .ok ()
  else match present user.stellarAddress with
    | none => .error (.forbidden "You are not a participant of this engagement")
    | some address =>
        if address ∈ [engagement.companyAddress,engagement.recruiterAddress,engagement.arbiterAddress] then .ok ()
        else .error (.forbidden "You are not a participant of this engagement")

def createNote (engagementId : String) (user : User) (body : String) : Op EngagementNote := do
  let found ← find .engagement fun db => db.engagements.get? engagementId
  match found with
  | none => .raise (.notFound s!"Engagement {engagementId} not found")
  | some engagement => do
      Process.ofExcept (checkParticipant engagement user)
      write (.createNote engagementId) fun answer db =>
        let row : EngagementNote := ⟨answer.text,engagementId,user.id,body⟩
        match db.engagementNotes.create row with
        | none => .error .uniqueViolation
        | some notes => .ok (row,{ db with engagementNotes := notes })

def archive (engagementId : String) : Op Engagement := do
  let found ← find .engagement fun db => db.engagements.get? engagementId
  match found with
  | none => .raise (.notFound s!"Engagement {engagementId} not found")
  | some engagement =>
      if engagement.archivedAt.isSome then .raise (.conflict s!"Engagement {engagementId} is already archived")
      else write (.archive engagementId) fun _ db =>
        db.updateEngagement engagementId fun row => { row with archivedAt := some db.clock }

def restore (engagementId : String) : Op Engagement := do
  let found ← find .engagement fun db => db.engagements.get? engagementId
  match found with
  | none => .raise (.notFound s!"Engagement {engagementId} not found")
  | some engagement =>
      if engagement.archivedAt.isNone then .raise (.conflict s!"Engagement {engagementId} is not archived")
      else write (.restore engagementId) fun _ db =>
        db.updateEngagement engagementId fun row => { row with archivedAt := none }

def updateTags (engagementId : String) (tags : List String) : Op Engagement := do
  let found ← find .engagement fun db => db.engagements.get? engagementId
  if found.isNone then .raise (.notFound s!"Engagement {engagementId} not found")
  else write (.updateTags engagementId) fun _ db =>
    db.updateEngagement engagementId fun row => { row with tags := tags }

end EngagementsService

end HireSettle.Escrow
