import HireSettle.Common.SystemConfig
import HireSettle.Users.Erasure
import HireSettle.Workflow.Guards

/-! The change of an email address. A request leaves the new address in the row of the
user, with a token that is mailed to it; whoever presents the token has the address
confirmed. The confirmation reads the row by its token and writes it by its id later. -/
namespace HireSettle.Users.EmailChanges
open Workflow

inductive SecurityEventAction where
  | emailVerification | roleChange
  deriving DecidableEq, Repr

structure LoggedEvent extends SecurityEvent where
  action : SecurityEventAction
  deriving DecidableEq, Repr

instance : Keyed LoggedEvent String := ⟨fun row => row.id⟩

-- of the text of a mail only the token in its link
structure Mail where
  recipient : String
  subject : String
  token : Option String := none
  deriving DecidableEq, Repr

structure World where
  users : Table UserRow
  clock : Nat := 0
  outbox : List Mail := []
  securityEvents : Table LoggedEvent := Table.empty

/-- What one request asks for. -/
structure Change where
  userId : String
  token : String
  email : String
  expiresAt : Nat
  deriving DecidableEq, Repr

inductive Site where
  | findUser
  | findByEmail
  | generateToken (userId : String)
  | storeChange (change : Change)
  | sendConfirmation
  | sendNotification
  | findByToken
  | now
  | findTaken
  | wipe (userId : String)
  | swapEmail (userId : String)
  | log
  deriving DecidableEq, Repr

abbrev Op := Process Site Answer World Exception

structure Config where
  toLowerCase : String → String
  createHmac : (secret data : String) → String
  jwtSecret : Option String := none

variable (config : Config)

def EMAIL_TOKEN_TTL_H : Nat := 24

-- `randomBytes(24)` in hex is what the environment answers
def generateEmailChangeToken (userId nonce : String) : String :=
  let hmac := config.createHmac (config.jwtSecret.getD "fallback-secret") s!"{userId}:{nonce}"
  s!"{nonce}.{hmac}"

def pendingRow (change : Change) (updatedAt : Nat) (row : UserRow) : UserRow :=
  { row with
    pendingEmail := some change.email
    emailChangeToken := some change.token
    emailChangeTokenExpiresAt := some change.expiresAt
    updatedAt := updatedAt }

theorem pendingKey (change : Change) (updatedAt : Nat) (row : UserRow) : Keyed.key (pendingRow change updatedAt row) = Keyed.key row := rfl

def storeChange (change : Change) (answer : Answer) (w : World) : Except Exception (Unit × World) :=
  if answer.fails then .error .database
  else if w.users.rows.any fun row => row.id ≠ change.userId && row.emailChangeToken = some change.token then .error .uniqueViolation
  else match w.users.modify change.userId (pendingRow change w.clock) (pendingKey change w.clock) with
    | none => .error .recordNotFound
    | some (_,users) => .ok ((),{ w with users := users })

def wipedRow (updatedAt : Nat) (row : UserRow) : UserRow :=
  { row with pendingEmail := none, emailChangeToken := none, emailChangeTokenExpiresAt := none, updatedAt := updatedAt }

theorem wipedKey (updatedAt : Nat) (row : UserRow) : Keyed.key (wipedRow updatedAt row) = Keyed.key row := rfl

def wipe (userId : String) (answer : Answer) (w : World) : Except Exception (Unit × World) :=
  if answer.fails then .error .database
  else match w.users.modify userId (wipedRow w.clock) (wipedKey w.clock) with
    | none => .error .recordNotFound
    | some (_,users) => .ok ((),{ w with users := users })

def swappedRow (email : String) (updatedAt : Nat) (row : UserRow) : UserRow := { wipedRow updatedAt row with email := some email }

theorem swappedKey (email : String) (updatedAt : Nat) (row : UserRow) : Keyed.key (swappedRow email updatedAt row) = Keyed.key row := rfl

def swapEmail (userId email : String) (answer : Answer) (w : World) : Except Exception (Unit × World) :=
  if answer.fails then .error .database
  else if w.users.rows.any fun row => row.id ≠ userId && row.email = some email then .error .uniqueViolation
  else match w.users.modify userId (swappedRow email w.clock) (swappedKey email w.clock) with
    | none => .error .recordNotFound
    | some (_,users) => .ok ((),{ w with users := users })

-- a mail that could not be handed over is an error of the transport
def sendMail (mail : Mail) (answer : Answer) (w : World) : Except Exception (Unit × World) :=
  if answer.fails then .error .typeError else .ok ((),{ w with outbox := mail :: w.outbox })

-- the id is what the environment answers
def log (userId : String) (action : SecurityEventAction) (answer : Answer) (w : World) : Except Exception (Unit × World) :=
  if answer.fails then .error .database
  else match w.securityEvents.create { id := answer.text, userId := some userId, action := action } with
    | none => .error .uniqueViolation
    | some events => .ok ((),{ w with securityEvents := events })

def read {α : Type} (site : Site) (f : World → α) : Op α :=
  .query site fun answer w => if answer.fails then .error .database else .ok (f w)

def sendEmailChangeConfirmation (email token : String) : Op Unit :=
  .transact .sendConfirmation (sendMail { recipient := email, subject := "✉️ Confirm your new email – HireSettle", token := some token })

def sendEmailChangeNotification (oldEmail : String) : Op Unit :=
  .transact .sendNotification (sendMail { recipient := oldEmail, subject := "⚠️ Email change requested – HireSettle" })

def requestEmailChange (userId newEmail : String) : Op String := do
  let email := trim (config.toLowerCase newEmail)
  let found ← read .findUser fun w => w.users.get? userId
  match found with
  | none => .raise (.notFound "User not found")
  | some user =>
      if user.email.map config.toLowerCase = some email then
        .raise (.badRequest "New email must be different from the current email")
      else do
        let taken ← read .findByEmail fun w => w.users.findFirst fun row => row.email = some email
        if taken.isSome then .raise (.conflict "This email address is already registered")
        else do
          let (token,expiresAt) ← .query (.generateToken userId) fun answer w =>
            .ok (generateEmailChangeToken config userId answer.text,w.clock + EMAIL_TOKEN_TTL_H * 60 * 60 * 1000)
          let change : Change := { userId := userId, token := token, email := email, expiresAt := expiresAt }
          .transact (.storeChange change) (storeChange change)
          sendEmailChangeConfirmation email token
          (present user.email).elim (.ret ()) sendEmailChangeNotification
          return "A confirmation link has been sent to your new email address. It expires in 24 hours."

def confirmEmailChange (token : String) : Op (String × String) := do
  let found ← read .findByToken fun w => w.users.findFirst fun row => row.emailChangeToken = some token
  match found with
  | none => .raise (.badRequest "Invalid or expired email confirmation token")
  | some user => do
      let now ← .query .now fun _ w => .ok w.clock
      if user.emailChangeTokenExpiresAt.all fun expiresAt => expiresAt < now then
        .raise (.badRequest "Email confirmation token has expired. Please request a new one.")
      else match present user.pendingEmail with
        | none => .raise (.badRequest "No pending email change found")
        | some newEmail => do
            let taken ← read .findTaken fun w => w.users.findFirst fun row => row.email = some newEmail && row.id ≠ user.id
            if taken.isSome then do
              .transact (.wipe user.id) (wipe user.id)
              .raise (.conflict "The email address is no longer available. Please request a new email change.")
            else do
              .transact (.swapEmail user.id) (swapEmail user.id newEmail)
              .transact .log (log user.id .emailVerification)
              return ("Email address updated successfully.",newEmail)

inductive Request where
  | requestEmailChange (userId newEmail : String)
  | confirmEmailChange (token : String)
  deriving DecidableEq, Repr

inductive Reply where
  | message (text : String)
  | updated (text email : String)
  deriving DecidableEq, Repr

def handler : Request → Op Reply
  | .requestEmailChange userId newEmail => do
      let text ← requestEmailChange config userId newEmail
      return .message text
  | .confirmEmailChange token => do
      let (text,email) ← confirmEmailChange token
      return .updated text email

/-- Only the time passes by itself. -/
def service : System Request Nat Site Answer World Exception Reply where
  handler := handler config
  environment elapsed w := { w with clock := w.clock + elapsed }

abbrev EmailEvent := Event Site Answer World

abbrev EmailPool := Pool Request Site Answer World Exception Reply

abbrev EmailMove := Move Request Nat Answer

end HireSettle.Users.EmailChanges
