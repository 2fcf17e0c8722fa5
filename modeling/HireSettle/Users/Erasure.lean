import HireSettle.Auth.Accounts
import HireSettle.Escrow.Database

/-! The erasure of an account. A user asks for it with a password or a signed challenge
nonce, which closes the account; a daily job wipes what is left once the retention window
has passed. The row of the user has all its columns here. The nonces live in the memory
of the server. -/
namespace HireSettle.Users
open Workflow
open HireSettle.Auth.Accounts (DeleteAccountDto)

inductive AdminSubRole where
  | superAdmin | ops | finance | support
  deriving DecidableEq, Repr

inductive KycStatus where
  | none | pending | approved | rejected
  deriving DecidableEq, Repr

structure UserRow extends User where
  company : Option String := none
  companyOwnerId : Option String := none
  adminSubRole : Option AdminSubRole := none
  webhookUrl : Option String := none
  webhookSecret : Option String := none
  timezone : Option String := some "UTC"
  rateLimitOverride : Option Int := none
  avatarUrl : Option String := none
  verifiedAt : Option Nat := none
  anonymizedAt : Option Nat := none
  kycStatus : KycStatus := .none
  kycReviewedAt : Option Nat := none
  kycReviewedBy : Option String := none
  kycRejectionReason : Option String := none
  locale : String := "en"
  allowedCustomFields : List String := []
  slackWebhookUrl : Option String := none
  discordWebhookUrl : Option String := none
  teamsWebhookUrl : Option String := none
  batchWindowSeconds : Int := 60
  taxCountry : Option String := none
  taxId : Option String := none
  pendingEmail : Option String := none
  emailChangeToken : Option String := none
  emailChangeTokenExpiresAt : Option Nat := none
  calendarTokenHash : Option String := none
  calendarTokenCreatedAt : Option Nat := none
  updatedAt : Nat := 0
  deriving DecidableEq, Repr

instance : Keyed UserRow String := ⟨fun row => row.id⟩

structure Notification where
  id : String
  userId : String
  deriving DecidableEq, Repr

instance : Keyed Notification String := ⟨Notification.id⟩

structure NotificationPreference where
  id : String
  userId : String
  deriving DecidableEq, Repr

instance : Keyed NotificationPreference String := ⟨NotificationPreference.id⟩

structure PushSubscription where
  id : String
  userId : String
  endpoint : String
  userAgent : Option String := none
  deriving DecidableEq, Repr

instance : Keyed PushSubscription String := ⟨PushSubscription.id⟩

structure SecurityEvent where
  id : String
  userId : Option String
  ip : Option String := none
  userAgent : Option String := none
  deriving DecidableEq, Repr

instance : Keyed SecurityEvent String := ⟨SecurityEvent.id⟩

-- an engagement with the candidate who was placed
structure PlacedEngagement extends Escrow.Engagement where
  candidateName : Option String := none
  candidateEmail : Option String := none
  candidatePhone : Option String := none
  candidateStartDate : Option Nat := none
  candidateRole : Option String := none
  placedAt : Option Nat := none
  deriving DecidableEq, Repr

instance : Keyed PlacedEngagement String := ⟨fun row => row.id⟩

structure ChallengeNonce where
  stellarAddress : String
  nonce : String
  expiresAt : Nat
  deriving DecidableEq, Repr

instance : Keyed ChallengeNonce String := ⟨ChallengeNonce.stellarAddress⟩

structure World where
  users : Table UserRow
  clock : Nat := 0
  nonces : Table ChallengeNonce := Table.empty
  engagements : Table PlacedEngagement := Table.empty
  deletionRequests : Table Auth.DataDeletionRequest := Table.empty
  refreshTokens : Table Auth.RefreshToken := Table.empty
  notifications : Table Notification := Table.empty
  notificationPreferences : Table NotificationPreference := Table.empty
  pushSubscriptions : Table PushSubscription := Table.empty
  securityEvents : Table SecurityEvent := Table.empty

inductive Site where
  | generateNonce
  | consumeNonce
  | findUser
  | scrypt
  | countEngagements
  | closeAccount
  | deleteObject (key : String)
  | anonymize (userId : String)
  | now
  | findDue
  deriving DecidableEq, Repr

abbrev Op := Process Site Answer World Exception

structure ParsedUrl where
  hostname : String
  pathname : String
  deriving DecidableEq, Repr

structure Config where
  verifyPassword : (password passwordHash : String) → Bool
  verifyWalletSignature : (stellarAddress nonce signature : String) → Bool
  parseUrl : String → Option ParsedUrl
  -- a time moved by some days in the calendar of the server
  setDate : (at' : Nat) → (days : Int) → Int
  piiAnonymizationWindowDays : Int := 30
  s3Bucket : String := ""

variable (config : Config)

namespace AuthService

def nonceLifetime : Nat := 5 * 60 * 1000

-- `Math.random().toString(36).slice(2)` is what the environment answers
def generateNonce (stellarAddress : String) : Op String :=
  .transact .generateNonce fun answer w =>
    let nonce := s!"hiresettle:{stellarAddress}:{w.clock}:{answer.text}"
    let expiresAt := w.clock + nonceLifetime
    .ok (nonce,{ w with nonces := w.nonces.upsert { stellarAddress := stellarAddress, nonce := nonce, expiresAt := expiresAt } fun row =>
      { row with nonce := nonce, expiresAt := expiresAt } })

def removeNonce (stellarAddress : String) (w : World) : World :=
  { w with nonces := w.nonces.deleteMany fun row => row.stellarAddress = stellarAddress }

def consumeNonce (stellarAddress nonce : String) : Op Bool :=
  .transact .consumeNonce fun _ w =>
    match w.nonces.get? stellarAddress with
    | none => .ok (false,w)
    | some entry =>
        if entry.expiresAt < w.clock then .ok (false,removeNonce stellarAddress w)
        else if entry.nonce ≠ nonce then .ok (false,w)
        else .ok (true,removeNonce stellarAddress w)

def checkPassword (password passwordHash : String) : Op Bool :=
  .query .scrypt fun _ _ => .ok (config.verifyPassword password passwordHash)

end AuthService

namespace GdprService

def findUser (userId : String) : Op (Option UserRow) :=
  .query .findUser fun answer w => if answer.fails then .error .database else .ok (w.users.get? userId)

def requireReauthentication (user : UserRow) (dto : DeleteAccountDto) : Op Unit :=
  match present dto.password with
  | some password =>
      match present user.credentials.passwordHash with
      | none => .raise (.badRequest "Account does not support password re-authentication")
      | some passwordHash => do
          let ok ← AuthService.checkPassword config password passwordHash
          if ok then return else .raise (.unauthorized "Invalid password")
  | none =>
      match present dto.signature with
      | some signature =>
          match present user.stellarAddress with
          | none => .raise (.badRequest "Account has no Stellar address for signature re-authentication")
          | some stellarAddress =>
              match present dto.nonce with
              | none => .raise (.badRequest "nonce is required when providing a signature")
              | some nonce =>
                  if config.verifyWalletSignature stellarAddress nonce signature then return
                  else .raise (.unauthorized "Invalid signature or expired challenge nonce")
      | none => .raise (.unauthorized "Re-authentication required: provide password or a signed challenge nonce")

def active : Escrow.EngagementStatus → Bool
  | .active => true
  | .replacementRequested => true
  | _ => false

def takesPart (user : UserRow) (row : PlacedEngagement) : Bool :=
  row.companyId = some user.id || row.recruiterId = some user.id || row.arbiterId = some user.id ||
    (present user.stellarAddress).any fun stellarAddress =>
      row.companyAddress = stellarAddress || row.recruiterAddress = stellarAddress || row.arbiterAddress = stellarAddress

-- with the time at which the check has passed
def assertNoActiveEngagements (user : UserRow) : Op Nat := do
  let (activeCount,now) ← .query .countEngagements fun answer w =>
    if answer.fails then .error .database
    else .ok (w.engagements.count fun row => active row.status && takesPart user row,w.clock)
  if 0 < activeCount then
    .raise (.conflict s!"Cannot delete account while {activeCount} active engagement(s) are in progress. Complete or cancel them first.")
  else return now

def closedRow (deletedAt updatedAt : Nat) (row : UserRow) : UserRow :=
  { row with
    name := none
    email := none
    credentials := { row.credentials with googleId := none }
    deletedAt := some deletedAt
    updatedAt := updatedAt }

theorem closedKey (deletedAt updatedAt : Nat) (row : UserRow) : Keyed.key (closedRow deletedAt updatedAt row) = Keyed.key row := rfl

def closeAccount (userId : String) (deletedAt : Nat) (requestId : String) (w : World) : Except Exception (Unit × World) :=
  match w.users.modify userId (closedRow deletedAt w.clock) (closedKey deletedAt w.clock) with
  | none => .error .recordNotFound
  | some (_,users) =>
      match w.deletionRequests.create { id := requestId, userId := userId } with
      | none => .error .uniqueViolation
      | some requests => .ok ((),{ w with users := users, deletionRequests := requests })

def requestErasure (userId : String) (dto : DeleteAccountDto) : Op String := do
  let found ← findUser userId
  match found with
  | none => .raise (.notFound "User not found")
  | some user =>
      if user.deletedAt.isSome then .raise (.conflict "Account deletion has already been requested")
      else do
        requireReauthentication config user dto
        let now ← assertNoActiveEngagements user
        .transact .closeAccount fun answer w =>
          if answer.fails then .error .database else closeAccount userId now answer.text w
        return "Account closed and PII anonymised. A deletion request has been queued for admin review."

end GdprService

namespace PiiAnonymizationSchedulerService

def BATCH_SIZE : Nat := 100

def dropSlash (pathname : String) : String := if pathname.startsWith "/" then (pathname.drop 1).toString else pathname

def extractS3Key (url : String) : Option String :=
  match config.parseUrl url with
  | none => none
  | some parsed =>
      let pathname := dropSlash parsed.pathname
      if parsed.hostname.startsWith (config.s3Bucket ++ ".") then present (some pathname)
      else match pathname.splitOn "/" with
        | bucket :: part :: parts =>
            if bucket = config.s3Bucket then present (some (String.intercalate "/" (part :: parts))) else none
        | _ => none

-- the orphan cleanup removes what could not be deleted
def deleteAvatar (avatarUrl : String) : Op Unit :=
  match extractS3Key config avatarUrl with
  | none => return
  | some key =>
      (Process.query (.deleteObject key) fun answer _ => if answer.fails then .error .database else .ok () : Op Unit).handle
        fun _ => return

def anonymizedRow (at' : Nat) (row : UserRow) : UserRow :=
  { row with
    email := none
    name := none
    company := none
    avatarUrl := none
    credentials := { row.credentials with
      passwordHash := none
      totpSecret := none
      totpEnabled := false
      failedLoginAttempts := 0
      lockedUntil := none }
    webhookUrl := none
    webhookSecret := none
    rateLimitOverride := none
    anonymizedAt := some at'
    updatedAt := at' }

theorem anonymizedKey (at' : Nat) (row : UserRow) : Keyed.key (anonymizedRow at' row) = Keyed.key row := rfl

def withoutCandidate (row : PlacedEngagement) : PlacedEngagement :=
  { row with candidateName := none, candidateEmail := none, candidatePhone := none, candidateStartDate := none, candidateRole := none }

def wipeCandidates (stellarAddress : Option String) (engagements : Table PlacedEngagement) : Table PlacedEngagement :=
  match present stellarAddress with
  | none => engagements
  | some stellarAddress =>
      engagements.updateMany (fun row => row.companyAddress = stellarAddress || row.recruiterAddress = stellarAddress) withoutCandidate

def wipe (userId : String) (w : World) : Except Exception (Unit × World) :=
  match w.users.modify userId (anonymizedRow w.clock) (anonymizedKey w.clock) with
  | none => .error .recordNotFound
  | some (row,users) => .ok ((),{ w with
      users := users
      refreshTokens := w.refreshTokens.updateMany (fun row => row.userId = userId && row.revokedAt.isNone) fun row =>
        { row with revokedAt := some w.clock }
      notifications := w.notifications.deleteMany fun row => row.userId = userId
      notificationPreferences := w.notificationPreferences.deleteMany fun row => row.userId = userId
      pushSubscriptions := w.pushSubscriptions.deleteMany fun row => row.userId = userId
      securityEvents := w.securityEvents.updateMany (fun row => row.userId = some userId) fun row =>
        { row with ip := none, userAgent := none }
      engagements := wipeCandidates row.stellarAddress w.engagements })

def anonymizeUser (userId : String) (avatarUrl : Option String) : Op Unit := do
  (present avatarUrl).elim (.ret ()) (deleteAvatar config)
  .transact (.anonymize userId) fun answer w => if answer.fails then .error .database else wipe userId w

def due (cutoff : Int) (row : UserRow) : Bool := (row.deletedAt.any fun at' => at' < cutoff) && row.anonymizedAt.isNone

-- `orderBy: { deletedAt: 'asc' }`
def earlier (a b : UserRow) : Prop := a.deletedAt.getD 0 ≤ b.deletedAt.getD 0

instance : DecidableRel earlier := fun a b => inferInstanceAs (Decidable (a.deletedAt.getD 0 ≤ b.deletedAt.getD 0))

def findDue (cutoff : Int) : Op (List UserRow) :=
  .query .findDue fun answer w =>
    if answer.fails then .error .database
    else .ok (((w.users.findMany (due cutoff)).insertionSort earlier).take BATCH_SIZE)

def anonymizeEach (totalProcessed : Nat) (user : UserRow) : Op Nat :=
  (do
    anonymizeUser config user.id user.avatarUrl
    return totalProcessed + 1 : Op Nat).handle fun _ => return totalProcessed

-- the loop, for so many batches at most
def anonymizeBatches (cutoff : Int) : Nat → Nat → Op (Option Nat)
  | 0, _ => return none
  | fuel + 1, totalProcessed => do
      let batch ← findDue cutoff
      let totalProcessed ← .foldEach (anonymizeEach config) totalProcessed batch
      if batch.length = BATCH_SIZE then anonymizeBatches cutoff fuel totalProcessed
      else return some totalProcessed

def anonymizeDueAccounts (fuel : Nat) : Op (Option Nat) := do
  let now ← .query .now fun _ w => .ok w.clock
  anonymizeBatches config (config.setDate now (-config.piiAnonymizationWindowDays)) fuel 0

end PiiAnonymizationSchedulerService

inductive Request where
  | generateNonce (stellarAddress : String)
  | consumeNonce (stellarAddress nonce : String)
  | requestErasure (userId : String) (dto : DeleteAccountDto)
  | anonymizeUser (userId : String) (avatarUrl : Option String)
  deriving DecidableEq, Repr

inductive Reply where
  | nonce (text : String)
  | consumed (ok : Bool)
  | message (text : String)
  | done
  deriving DecidableEq, Repr

def handler : Request → Op Reply
  | .generateNonce stellarAddress => return .nonce (← AuthService.generateNonce stellarAddress)
  | .consumeNonce stellarAddress nonce => return .consumed (← AuthService.consumeNonce stellarAddress nonce)
  | .requestErasure userId dto => return .message (← GdprService.requestErasure config userId dto)
  | .anonymizeUser userId avatarUrl => do
      PiiAnonymizationSchedulerService.anonymizeUser config userId avatarUrl
      return .done

def service : System Request Nat Site Answer World Exception Reply where
  handler := handler config
  environment elapsed w := { w with clock := w.clock + elapsed }

abbrev ErasurePool := Pool Request Site Answer World Exception Reply

abbrev ErasureEvent := Event Site Answer World

end HireSettle.Users
