import HireSettle.Auth.Sessions
import HireSettle.Workflow.Guards

/-! Logging in and closing accounts. An administrator deactivates and reactivates a user,
a user asks for the erasure of its own account. The login looks whether the account is
deactivated, the exchange of a refresh token does not look at the account at all. -/
namespace HireSettle.Auth.Accounts
open Workflow

structure AccountConfig extends Config where
  verifyPassword : (password passwordHash : String) → Bool
  verifyTotpCode : (totpSecret : Option String) → (code : String) → (now : Nat) → Bool
  verifyWalletSignature : (stellarAddress nonce signature : String) → Bool
  toLowerCase : String → String

structure LoginDto where
  email : String
  password : String
  totpCode : Option String := none
  deriving DecidableEq, Repr

structure DeleteAccountDto where
  password : Option String := none
  signature : Option String := none
  nonce : Option String := none
  deriving DecidableEq, Repr

variable (self : AccountConfig)

def maxFailedAttempts : Nat := 5

def lockoutDurationMinutes : Nat := 15

def findUser (p : User → Bool) : Op (Option User × Nat) :=
  .query .findUser fun answer w => if answer.fails then .error .database else .ok (w.users.findFirst p,w.clock)

def updateUser (id : String) (f : User → User) (keeps : ∀ row, (f row).id = row.id := by intro _; rfl) : Op User :=
  .transact (.updateUser id) fun answer w =>
    if answer.fails then .error .database
    else match w.users.modify id f keeps with
      | none => .error .recordNotFound
      | some (row,users) => .ok (row,{ w with users := users })

def logSecurityEvent : Op Nat := .query .logEvent fun answer w => if answer.fails then .error .database else .ok w.clock

-- the scrypt key is derived off the main thread
def checkPassword (password passwordHash : String) : Op (Bool × Nat) :=
  .query .scrypt fun _ w => .ok (self.verifyPassword password passwordHash,w.clock)

def handleFailedLogin : Option String → Op Unit
  | none => logSecurityEvent >>= fun _ => return
  | some userId => do
      let _ ← logSecurityEvent
      let (found,now) ← findUser (fun row => row.id = userId)
      match found with
      | none => return
      | some user =>
          let newFailedAttempts := user.credentials.failedLoginAttempts + 1
          let lockedUntil := now + lockoutDurationMinutes * 60 * 1000
          if maxFailedAttempts ≤ newFailedAttempts then do
            let _ ← updateUser userId fun row => { row with
              credentials := { row.credentials with failedLoginAttempts := newFailedAttempts, lockedUntil := some lockedUntil } }
            return
          else do
            let _ ← updateUser userId fun row => { row with
              credentials := { row.credentials with failedLoginAttempts := newFailedAttempts } }
            return

def resetFailedAttempts (userId : String) : Op Unit := do
  let _ ← updateUser userId fun row => { row with
    credentials := { row.credentials with failedLoginAttempts := 0, lockedUntil := none } }
  return

-- `Math.ceil` of the remaining seconds
def retryAfterSeconds (lockedUntil now : Nat) : Int := -(((now : Int) - lockedUntil) / 1000)

-- the second factor, where the user has one
def totpAccepts (user : User) (code : Option String) (now : Nat) : Except Exception Bool :=
  if user.credentials.totpEnabled then
    match present code with
    | none => .error (.unauthorized "TOTP code required for 2FA-enabled account")
    | some code => .ok (self.verifyTotpCode user.credentials.totpSecret code now)
  else .ok true

def loginUser (dto : LoginDto) (user : User) (passwordHash : String) : Op TokenPair := do
  let (verified,now) ← checkPassword self dto.password passwordHash
  if !verified then do
    handleFailedLogin (some user.id)
    .raise (.unauthorized "Invalid email or password")
  else if user.deactivatedAt.isSome then do
    let _ ← logSecurityEvent
    .raise (.forbidden "Your account has been deactivated. Please contact an administrator.")
  else match user.credentials.lockedUntil.filter (now < ·) with
    | some lockedUntil => do
        let now ← logSecurityEvent
        .raise (.tooManyRequests "Account temporarily locked due to repeated failed login attempts" (retryAfterSeconds lockedUntil now))
    | none => do
        let isValid ← Process.ofExcept (totpAccepts self user dto.totpCode now)
        if !isValid then do
          handleFailedLogin (some user.id)
          .raise (.unauthorized "Invalid TOTP code")
        else do
          resetFailedAttempts user.id
          let _ ← logSecurityEvent
          AuthService.issueTokenPair self.toConfig user

def login (dto : LoginDto) : Op TokenPair := do
  let email := self.toLowerCase dto.email
  let (found,_) ← findUser (fun row => row.email = some email)
  match found with
  | none => do
      handleFailedLogin none
      .raise (.unauthorized "Invalid email or password")
  | some user =>
      match present user.credentials.passwordHash with
      | none => do
          handleFailedLogin (some user.id)
          .raise (.unauthorized "Invalid email or password")
      | some passwordHash => loginUser self dto user passwordHash

def deactivateUser (id : String) : Op User := do
  let (found,now) ← findUser (fun row => row.id = id)
  match found with
  | none => .raise (.notFound "User not found")
  | some user =>
      if user.deactivatedAt.isSome then .raise (.badRequest "User is already deactivated")
      else updateUser id fun row => { row with deactivatedAt := some now }

def reactivateUser (id : String) : Op User := do
  let (found,_) ← findUser (fun row => row.id = id)
  match found with
  | none => .raise (.notFound "User not found")
  | some user =>
      if user.deactivatedAt.isNone then .raise (.badRequest "User is not deactivated")
      else updateUser id fun row => { row with deactivatedAt := none }

def requireReauthentication (user : User) (dto : DeleteAccountDto) : Op Unit :=
  match present dto.password with
  | some password =>
      match present user.credentials.passwordHash with
      | none => .raise (.badRequest "Account does not support password re-authentication")
      | some passwordHash => do
          let (ok,_) ← checkPassword self password passwordHash
          if ok then return else .raise (.unauthorized "Invalid password")
  | none =>
      match present dto.signature with
      | some signature =>
          match present user.stellarAddress with
          | none => .raise (.badRequest "Account has no Stellar address for signature re-authentication")
          | some stellarAddress =>
              match present dto.nonce with
              | none => .raise (.badRequest "nonce is required when providing a signature")
              | some nonce =>
                  if self.verifyWalletSignature stellarAddress nonce signature then return
                  else .raise (.unauthorized "Invalid signature or expired challenge nonce")
      | none => .raise (.unauthorized "Re-authentication required: provide password or a signed challenge nonce")

-- the engagements of the user are counted in another table
def assertNoActiveEngagements : Op Nat := do
  let (activeCount,now) ← .query .countEngagements fun answer w =>
    if answer.fails then .error .database else .ok (answer.number,w.clock)
  if 0 < activeCount then
    .raise (.conflict s!"Cannot delete account while {activeCount} active engagement(s) are in progress. Complete or cancel them first.")
  else return now

def closeAccount (userId : String) (now : Nat) (requestId : String) (w : World) : Except Exception (Unit × World) :=
  match w.users.modify userId fun row => { row with
      name := none, email := none, credentials := { row.credentials with googleId := none }, deletedAt := some now } with
  | none => .error .recordNotFound
  | some (_,users) =>
      match w.deletionRequests.create { id := requestId, userId := userId } with
      | none => .error .uniqueViolation
      | some requests => .ok ((),{ w with users := users, deletionRequests := requests })

def requestErasure (userId : String) (dto : DeleteAccountDto) : Op String := do
  let (found,_) ← findUser (fun row => row.id = userId)
  match found with
  | none => .raise (.notFound "User not found")
  | some user =>
      if user.deletedAt.isSome then .raise (.conflict "Account deletion has already been requested")
      else do
        requireReauthentication self user dto
        let now ← assertNoActiveEngagements
        .transact (.closeAccount userId) fun answer w =>
          if answer.fails then .error .database else closeAccount userId now answer.text w
        return "Account closed and PII anonymised. A deletion request has been queued for admin review."

inductive Request where
  | login (dto : LoginDto)
  | refresh (service : Service) (refreshToken : String)
  | deactivateUser (id : String)
  | reactivateUser (id : String)
  | requestErasure (userId : String) (dto : DeleteAccountDto)

inductive Reply where
  | tokens (pair : TokenPair)
  | user (row : User)
  | message (text : String)
  deriving DecidableEq, Repr

def handler : Request → Op Reply
  | .login dto => return .tokens (← login self dto)
  | .refresh .auth refreshToken => return .tokens (← AuthService.refresh self.toConfig refreshToken)
  | .refresh .session refreshToken => return .tokens (← SessionService.refresh self.toConfig refreshToken)
  | .deactivateUser id => return .user (← deactivateUser id)
  | .reactivateUser id => return .user (← reactivateUser id)
  | .requestErasure userId dto => return .message (← requestErasure self userId dto)

def service : System Request Nat Site Answer World Exception Reply where
  handler := handler self
  environment elapsed w := { w with clock := w.clock + elapsed }

end HireSettle.Auth.Accounts
