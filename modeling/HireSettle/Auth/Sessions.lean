import HireSettle.Common.Calls
import HireSettle.Common.Users
import HireSettle.Workflow.Pool

/-! Refresh tokens and their families. A login opens a family, each refresh consumes
one token of it and stores the next, and a token presented twice is to revoke the
family. Two services implement the exchange: `AuthService` and `SessionService`,
which also expires idle sessions and stamps their use. Times are milliseconds;
the signer sees whole seconds. Signing and hashing are parameters. -/
namespace HireSettle.Auth
open Workflow

structure RefreshToken where
  id : String
  userId : String
  tokenHash : String
  familyId : String
  expiresAt : Nat
  consumedAt : Option Nat := none
  revokedAt : Option Nat := none
  lastUsedAt : Option Nat := none
  createdAt : Nat
  deriving DecidableEq, Repr

instance : Keyed RefreshToken String := ⟨RefreshToken.id⟩

structure DataDeletionRequest where
  id : String
  userId : String
  deriving DecidableEq, Repr

instance : Keyed DataDeletionRequest String := ⟨DataDeletionRequest.id⟩

structure World where
  users : Table User
  tokens : Table RefreshToken
  clock : Nat
  deletionRequests : Table DataDeletionRequest := .empty

inductive Site where
  | findToken
  | findSession
  | randomBytes
  | sign
  | createSession (familyId : String)
  | rotate (id : String)
  | revokeFamily (familyId : String)
  | revokeSession (id : String)
  | logEvent
  | findUser
  | scrypt
  | updateUser (id : String)
  | countEngagements
  | closeAccount (userId : String)
  deriving DecidableEq, Repr

abbrev Op := Process Site Answer World Exception

structure Config where
  signRefresh : (sub familyId : String) → (second : Nat) → String
  signAccess : User → (second : Nat) → String
  sha256 : String → String
  refreshDays : Nat := 7
  idleDays : Nat := 7

structure TokenPair where
  accessToken : String
  refreshToken : String
  user : User
  deriving DecidableEq, Repr

variable (self : Config)

def day : Nat := 24 * 60 * 60 * 1000

def Config.hashRefreshToken (token : String) : String := self.sha256 token

def Config.refreshExpiryDate (now : Nat) : Nat := now + self.refreshDays * day

def Config.signAccessToken (user : User) (now : Nat) : String := self.signAccess user (now / 1000)

def Config.isSessionIdle (token : RefreshToken) (now : Nat) : Bool :=
  token.lastUsedAt.getD token.createdAt < now - self.idleDays * day

def storedToken (w : World) (tokenHash : String) : Option RefreshToken :=
  w.tokens.findFirst (fun row => row.tokenHash = tokenHash)

def RefreshToken.live (row : RefreshToken) : Bool := row.consumedAt.isNone && row.revokedAt.isNone

-- `findUnique` with its user, and the time at which the method goes on
def findStored (tokenHash : String) : Op (Option (RefreshToken × User) × Nat) :=
  .query .findToken fun answer w =>
    if answer.fails then .error .database
    else match storedToken w tokenHash with
      | none => .ok (none,w.clock)
      | some row =>
          match w.users.get? row.userId with
          | none => .error .database
          | some user => .ok (some (row,user),w.clock)

def signRefreshToken (user : User) (familyId : String) : Op (String × Nat) :=
  .query .sign fun answer w =>
    if answer.fails then .error .jwt
    else .ok (self.signRefresh user.id familyId (w.clock / 1000),w.clock)

abbrev Tx := StateT World (Except Exception)

def createToken (row : RefreshToken) : Tx Unit := fun w =>
  if (storedToken w row.tokenHash).isSome then .error .uniqueViolation
  else match w.tokens.create row with
    | none => .error .uniqueViolation
    | some tokens => .ok ((),{ w with tokens := tokens })

def revokeFamilyRows (familyId : String) (now : Nat) : Tx Unit := fun w =>
  let revoked := w.tokens.updateMany (fun row => row.familyId = familyId && row.revokedAt.isNone)
    (fun row => { row with revokedAt := some now })
  .ok ((),{ w with tokens := revoked })

def revokeFamily (familyId : String) (now : Nat) : Op Unit :=
  .transact (.revokeFamily familyId) fun answer w =>
    if answer.fails then .error .database else revokeFamilyRows familyId now w

def reuseDetected : Exception := .unauthorized "Refresh token reuse detected"

structure Rules where
  checksIdle : Bool
  stampsUse : Bool

def consumeToken (rules : Rules) (id : String) (now : Nat) : Tx Nat := fun w =>
  let consumed := w.tokens.updateMany (fun row => row.id = id && row.live) (fun row =>
    { row with
      consumedAt := some now
      lastUsedAt := if rules.stampsUse then some now else row.lastUsedAt })
  .ok (w.tokens.count (fun row => row.id = id && row.live),{ w with tokens := consumed })

def rotation (rules : Rules) (stored : RefreshToken) (next : String) (nextExpiresAt now : Nat) (id : String) :
    Tx Nat := do
  let consumed ← consumeToken rules stored.id now
  if consumed ≠ 1 then
    revokeFamilyRows stored.familyId now
    throw reuseDetected
  let clock := (← get).clock
  createToken
    { id := id
      userId := stored.userId
      tokenHash := self.hashRefreshToken next
      familyId := stored.familyId
      expiresAt := nextExpiresAt
      lastUsedAt := if rules.stampsUse then some now else none
      createdAt := clock }
  return clock

def rotate (rules : Rules) (stored : RefreshToken) (next : String) (nextExpiresAt now : Nat) : Op Nat :=
  .transact (.rotate stored.id) fun answer w =>
    if answer.fails then .error .database else rotation self rules stored next nextExpiresAt now answer.text w

def refreshWith (rules : Rules) (refreshToken : String) : Op TokenPair := do
  let (found,now) ← findStored (self.hashRefreshToken refreshToken)
  match found with
  | none => .raise (.unauthorized "Invalid refresh token")
  | some (stored,user) =>
      if stored.consumedAt.isSome then do
        revokeFamily stored.familyId now
        .raise reuseDetected
      else if stored.revokedAt.isSome ∨ stored.expiresAt ≤ now then
        .raise (.unauthorized "Refresh token is no longer valid")
      else if rules.checksIdle && self.isSessionIdle stored now then
        .raise (.unauthorized "Session has expired due to inactivity")
      else do
        let (next,signedAt) ← signRefreshToken self user stored.familyId
        let rotatedAt ← rotate self rules stored next (self.refreshExpiryDate signedAt) now
        return ⟨self.signAccessToken user rotatedAt,next,user⟩

def AuthService.refresh (refreshToken : String) : Op TokenPair :=
  refreshWith self { checksIdle := false, stampsUse := false } refreshToken

def SessionService.refresh (refreshToken : String) : Op TokenPair :=
  refreshWith self { checksIdle := true, stampsUse := true } refreshToken

def issueWith (stampsUse : Bool) (user : User) : Op TokenPair := do
  let familyId ← .query .randomBytes fun answer _ => .ok answer.text
  let (token,signedAt) ← signRefreshToken self user familyId
  let createdAt ← .transact (.createSession familyId) fun answer w =>
    if answer.fails then .error .database
    else (do
      createToken
        { id := answer.text
          userId := user.id
          tokenHash := self.hashRefreshToken token
          familyId := familyId
          expiresAt := self.refreshExpiryDate signedAt
          lastUsedAt := if stampsUse then some signedAt else none
          createdAt := w.clock }
      return w.clock : Tx Nat) w
  return ⟨self.signAccessToken user createdAt,token,user⟩

def AuthService.issueTokenPair (user : User) : Op TokenPair := issueWith self false user

def SessionService.issueTokenPair (user : User) : Op TokenPair := issueWith self true user

def revokeRow (id : String) (now : Nat) : Op Unit :=
  .transact (.revokeSession id) fun answer w =>
    if answer.fails then .error .database
    else match w.tokens.get? id with
      | none => .error .recordNotFound
      | some _ => .ok ((),{ w with tokens := w.tokens.update id (fun row => { row with revokedAt := some now }) })

def logEvent : Op Unit := .query .logEvent fun answer _ => if answer.fails then .error .database else .ok ()

def logout (refreshToken : String) : Op Unit := do
  let (stored,now) ← .query .findToken fun answer w =>
    if answer.fails then .error .database
    else .ok (storedToken w (self.hashRefreshToken refreshToken),w.clock)
  match stored with
  | some row => if row.revokedAt.isNone then revokeRow row.id now else pure ()
  | none => pure ()
  logEvent

def revokeSession (sessionId userId : String) (currentRefreshToken : Option String) : Op Bool := do
  let (found,now) ← .query .findSession fun answer w =>
    if answer.fails then .error .database else .ok (w.tokens.get? sessionId,w.clock)
  match found with
  | none => .raise (.badRequest "Session not found")
  | some session =>
      if session.userId ≠ userId then .raise (.forbidden "You can only revoke your own sessions")
      else if session.revokedAt.isSome then .raise (.badRequest "Session already revoked")
      else do
        revokeRow sessionId now
        return match currentRefreshToken with
          | some token => token ≠ "" && session.tokenHash = self.hashRefreshToken token
          | none => false

structure ListedSession where
  id : String
  familyId : String
  createdAt : Nat
  expiresAt : Nat
  lastUsedAt : Option Nat := none
  isCurrent : Bool
  deriving DecidableEq, Repr

def latestFirst (a b : RefreshToken) : Prop := b.createdAt ≤ a.createdAt

instance : DecidableRel latestFirst := fun _ _ => inferInstanceAs (Decidable (_ ≤ _))

def sessionsOf (stampsUse : Bool) (userId : String) (w : World) : List ListedSession :=
  ((w.tokens.findMany fun row => row.userId = userId && row.revokedAt.isNone && w.clock < row.expiresAt).insertionSort
    latestFirst).map fun row =>
    { id := row.id
      familyId := row.familyId
      createdAt := row.createdAt
      expiresAt := row.expiresAt
      lastUsedAt := if stampsUse then row.lastUsedAt else none
      isCurrent := row.consumedAt.isNone }

def getSessions (stampsUse : Bool) (userId : String) : Op (List ListedSession) :=
  .query .findSession fun answer w => if answer.fails then .error .database else .ok (sessionsOf stampsUse userId w)

def AuthService.getSessions (userId : String) : Op (List ListedSession) := Auth.getSessions false userId

def SessionService.getSessions (userId : String) : Op (List ListedSession) := Auth.getSessions true userId

inductive Service where
  | auth | session
  deriving DecidableEq, Repr

inductive Request where
  | issueTokenPair (service : Service) (user : User)
  | refresh (service : Service) (refreshToken : String)
  | logout (refreshToken : String)
  | revokeSession (sessionId userId : String) (currentRefreshToken : Option String)

inductive Reply where
  | tokens (pair : TokenPair)
  | revoked (isCurrentSession : Bool)
  deriving DecidableEq, Repr

def handler : Request → Op Reply
  | .issueTokenPair .auth user => return .tokens (← AuthService.issueTokenPair self user)
  | .issueTokenPair .session user => return .tokens (← SessionService.issueTokenPair self user)
  | .refresh .auth refreshToken => return .tokens (← AuthService.refresh self refreshToken)
  | .refresh .session refreshToken => return .tokens (← SessionService.refresh self refreshToken)
  | .logout refreshToken => do
      logout self refreshToken
      return .revoked false
  | .revokeSession sessionId userId currentRefreshToken =>
      return .revoked (← revokeSession self sessionId userId currentRefreshToken)

-- the environment lets time pass
def service : System Request Nat Site Answer World Exception Reply where
  handler := handler self
  environment elapsed w := { w with clock := w.clock + elapsed }

end HireSettle.Auth
