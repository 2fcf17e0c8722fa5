import HireSettle.Common.SystemConfig
import HireSettle.Common.Users
import HireSettle.Workflow.Guards
import HireSettle.Workflow.Sequential

/-! Recovery codes for the second factor. A code is looked up by its hash among the
unused ones of the user and then marked by its id, whether or not it is still unused.
A new set replaces the old one in a single transaction. -/
namespace HireSettle.Auth.TwoFactorService
open Workflow

structure RecoveryCode where
  id : String
  userId : String
  codeHash : String
  usedAt : Option Nat := none
  deriving DecidableEq, Repr

instance : Keyed RecoveryCode String := ⟨RecoveryCode.id⟩

/-- The id of a code is a uuid: that of a deleted one is not given again. -/
structure World where
  users : Table User := .empty
  recoveryCodes : IssuedTable RecoveryCode := .empty
  clock : Nat := 0

-- five random bytes, and the ids of the rows that are created
structure Answer where
  fails : Bool := false
  bytes : Fin 5 → Fin 256 := fun _ => 0
  ids : Nat → String := fun _ => ""

inductive Site where
  | findUser
  | randomBytes
  | replaceCodes (userId : String)
  | findCode
  | markCode (id : String)
  deriving DecidableEq, Repr

abbrev Op := Process Site Answer World Exception

structure Config where
  sha256 : String → String
  toUpperCase : String → String
  verifyTotpCode : (secret : Option String) → (code : String) → (now : Nat) → Bool

variable (config : Config)

def find {α : Type} (site : Site) (f : World → α) : Op α :=
  .query site fun answer w => if answer.fails then .error .database else .ok (f w)

def write {α : Type} (site : Site) (f : Answer → World → Except Exception (α × World)) : Op α :=
  .transact site fun answer w => if answer.fails then .error .database else f answer w

def hex (bytes : List Nat) : String := String.ofList (bytes.flatMap fun b => [(b / 16).digitChar,(b % 16).digitChar])

def randomHex : Op String := .query .randomBytes fun answer _ => .ok (hex (List.ofFn fun i => (answer.bytes i).val))

-- five random bytes, a hyphen, and five more
def drawCode (codes : List String) : Op (List String) := do
  let first ← randomHex
  let second ← randomHex
  return codes ++ [config.toUpperCase first ++ "-" ++ config.toUpperCase second]

def createMany (codes : IssuedTable RecoveryCode) : List RecoveryCode → Except Exception (IssuedTable RecoveryCode)
  | [] => .ok codes
  | row :: rest =>
      match codes.create row with
      | none => .error .uniqueViolation
      | some codes => createMany codes rest

def replaceCodes (userId : String) (codes : List String) : Op Unit :=
  write (.replaceCodes userId) fun answer w => do
    let kept := w.recoveryCodes.deleteMany fun row => row.userId = userId
    let recoveryCodes ← createMany kept (codes.zipIdx.map fun (code,i) =>
      { id := answer.ids i, userId := userId, codeHash := config.sha256 code })
    return ((),{ w with recoveryCodes := recoveryCodes })

def createRecoveryCodes (userId : String) : Op (List String) := do
  let codes ← .foldEach (fun codes _ => drawCode config codes) [] (List.range 10)
  replaceCodes config userId codes
  return codes

def regenerateRecoveryCodes (userId totpCode : String) : Op (List String) := do
  let (user,now) ← find .findUser fun w => (w.users.get? userId,w.clock)
  match user with
  | none => .raise (.badRequest "User not found")
  | some user =>
      if !user.credentials.totpEnabled then .raise (.badRequest "2FA is not enabled")
      else if !config.verifyTotpCode user.credentials.totpSecret totpCode now then .raise (.unauthorized "Invalid TOTP code")
      else createRecoveryCodes config userId

def normalise (rawCode : String) : String := config.toUpperCase (trim rawCode)

def unusedCode (userId codeHash : String) (row : RecoveryCode) : Bool :=
  row.userId = userId && row.codeHash = codeHash && row.usedAt.isNone

def markCode (id : String) : Op Unit :=
  write (.markCode id) fun _ w =>
    match w.recoveryCodes.get? id with
    | none => .error .recordNotFound
    | some _ => .ok ((),{ w with recoveryCodes := w.recoveryCodes.update id fun row => { row with usedAt := some w.clock } })

def consumeRecoveryCode (userId rawCode : String) : Op Bool := do
  let codeHash := config.sha256 (normalise config rawCode)
  let record ← find .findCode fun w => w.recoveryCodes.findFirst (unusedCode userId codeHash)
  match record with
  | none => return false
  | some record => do
      markCode record.id
      return true

inductive Request where
  | consumeRecoveryCode (userId rawCode : String)
  | regenerateRecoveryCodes (userId totpCode : String)
  deriving DecidableEq, Repr

inductive Reply where
  | consumed (accepted : Bool)
  | regenerated (recoveryCodes : List String)
  deriving DecidableEq, Repr

def handler : Request → Op Reply
  | .consumeRecoveryCode userId rawCode => return .consumed (← consumeRecoveryCode config userId rawCode)
  | .regenerateRecoveryCodes userId totpCode => return .regenerated (← regenerateRecoveryCodes config userId totpCode)

def service : System Request Nat Site Answer World Exception Reply where
  handler := handler config
  environment elapsed w := { w with clock := w.clock + elapsed }

end HireSettle.Auth.TwoFactorService
