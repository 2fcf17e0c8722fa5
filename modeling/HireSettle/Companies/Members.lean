import HireSettle.Common.Calls
import HireSettle.Common.Users
import HireSettle.Workflow.Pool

/-! The members of a company, the transfer of its ownership and the invites to its
team. A membership row says which role a user has in whose company; a user without
one is taken for the owner of a company of their own. Each request passes the
guards of its route first. -/
namespace HireSettle.Companies
open Workflow

inductive CompanyRole where
  | owner | member | billing
  deriving DecidableEq, Repr

def CompanyRole.text : CompanyRole → String
  | .owner => "OWNER"
  | .member => "MEMBER"
  | .billing => "BILLING"

structure CompanyMember where
  companyId : String
  memberId : String
  companyRole : CompanyRole := .member
  spendingLimit : Option Int := none
  deriving DecidableEq, Repr

-- the unique index
instance : Keyed CompanyMember (String × String) := ⟨fun row => (row.companyId,row.memberId)⟩

structure User where
  id : String
  role : UserRole := .company
  email : Option String := none
  name : Option String := none
  company : Option String := none
  companyOwnerId : Option String := none
  passwordHash : Option String := none
  deriving DecidableEq, Repr

instance : Keyed User String := ⟨User.id⟩

structure OwnershipTransfer where
  id : String
  companyId : String
  fromOwnerId : String
  toMemberId : String
  expiresAt : Nat
  acceptedAt : Option Nat := none
  cancelledAt : Option Nat := none
  createdAt : Nat
  deriving DecidableEq, Repr

instance : Keyed OwnershipTransfer String := ⟨OwnershipTransfer.id⟩

def OwnershipTransfer.pending (row : OwnershipTransfer) : Bool := row.acceptedAt.isNone && row.cancelledAt.isNone

structure TeamInvite where
  id : String
  companyOwnerId : String
  email : String
  token : String
  expiresAt : Nat
  acceptedAt : Option Nat := none
  deriving DecidableEq, Repr

instance : Keyed TeamInvite String := ⟨TeamInvite.id⟩

structure Db where
  users : Table User := .empty
  members : Table CompanyMember := .empty
  transfers : Table OwnershipTransfer := .empty
  invites : Table TeamInvite := .empty
  clock : Nat := 0

inductive Model where
  | user | companyMember | ownershipTransfer | teamInvite
  deriving DecidableEq, Repr

inductive Site where
  | find (model : Model)
  | isEnabled (flagName : String)
  | hashPassword
  | createMember (companyId memberId : String)
  | deleteMember (companyId memberId : String)
  | setSpendingLimit (companyId memberId : String)
  | cancelTransfers (companyId : String)
  | createTransfer (fromOwnerId toMemberId : String)
  | acceptTransfer (fromOwnerId toMemberId : String)
  | cancelTransfer (id : String)
  | deleteInvites (companyOwnerId email : String)
  | createInvite (companyOwnerId email : String)
  | sendMail (recipient companyName : String)
  | acceptInvite (companyOwnerId : String)
  deriving DecidableEq, Repr

abbrev Op := Process Site Answer Db Exception

structure PasswordPolicyConfig where
  minLength : Nat := 8
  requireUppercase : Bool := true
  requireLowercase : Bool := true
  requireNumber : Bool := true
  requireSpecial : Bool := false

structure Config where
  policy : PasswordPolicyConfig := {}
  secret : String := "fallback-secret"
  toLowerCase : String → String := id
  hmac : String → String → String
  scrypt : String → String → String

/-- The user of a request, as its token tells. -/
structure AuthUser where
  id : String
  role : UserRole := .company
  deriving DecidableEq, Repr

variable (self : Config)

def find {α : Type} (model : Model) (f : Db → α) : Op α :=
  .query (.find model) fun answer db => if answer.fails then .error .database else .ok (f db)

def write {α : Type} (site : Site) (f : Answer → Db → Except Exception (α × Db)) : Op α :=
  .transact site fun answer db => if answer.fails then .error .database else f answer db

def required {α : Type} : Option α → Except Exception α
  | some value => .ok value
  | none => .error .recordNotFound

def Db.createMember (db : Db) (row : CompanyMember) : Except Exception Db :=
  if (db.users.get? row.companyId).isNone || (db.users.get? row.memberId).isNone then .error .database
  else match db.members.create row with
    | none => .error .uniqueViolation
    | some members => .ok { db with members := members }

def Db.updateMember (db : Db) (companyId memberId : String) (f : CompanyMember → CompanyMember)
    (keeps : ∀ row, ((f row).companyId,(f row).memberId) = (row.companyId,row.memberId) := by intro _; rfl) : Except Exception Db := do
  let (_,members) ← required (db.members.modify (companyId,memberId) f keeps)
  return { db with members := members }

def Db.upsertMember (db : Db) (row : CompanyMember) (f : CompanyMember → CompanyMember)
    (keeps : ∀ row, ((f row).companyId,(f row).memberId) = (row.companyId,row.memberId) := by intro _; rfl) : Except Exception Db :=
  match db.members.get? (row.companyId,row.memberId) with
  | some _ => db.updateMember row.companyId row.memberId f keeps
  | none => db.createMember row

def membershipOf (db : Db) (userId : String) : Option CompanyMember := db.members.findFirst fun row => row.memberId = userId

-- no row: the original single-user company
def companyRoleOf (db : Db) (userId : String) : CompanyRole := ((membershipOf db userId).map CompanyMember.companyRole).getD .owner

def companyIdOf (db : Db) (userId : String) : String := ((membershipOf db userId).map CompanyMember.companyId).getD userId

def RolesGuard.canActivate (user : AuthUser) : Op Unit :=
  if user.role = .company then return
  else .raise (.forbidden s!"Role '{user.role.text}' is not authorised. Required: COMPANY")

def CompanyRoleGuard.canActivate (user : AuthUser) (required : List CompanyRole) : Op Unit :=
  if user.role ≠ .company then .raise (.forbidden "Company role required")
  else do
    let companyRole ← find .companyMember fun db => companyRoleOf db user.id
    let roles := " or ".intercalate (required.map CompanyRole.text)
    if companyRole ∉ required then .raise (.forbidden s!"This action requires company role: {roles}. Your role: {companyRole.text}")
    else return

-- the cache or the flag's row tells
def FeatureFlagsService.isEnabled (flagName : String) : Op Bool :=
  .query (.isEnabled flagName) fun answer _ => if answer.fails then .error .database else .ok (answer.text = "true")

namespace BillingController

def addMember (companyId memberId : String) (companyRole : CompanyRole) : Op Unit := do
  if memberId = companyId then .raise (.badRequest "Cannot add yourself as a member")
  else do
    let existing ← find .companyMember fun db => db.members.get? (companyId,memberId)
    if existing.isSome then .raise (.badRequest "User is already a member of this company")
    else write (.createMember companyId memberId) fun _ db => do
      let db ← db.createMember { companyId := companyId, memberId := memberId, companyRole := companyRole }
      return ((),db)

def removeMember (companyId memberId : String) : Op Unit := do
  let existing ← find .companyMember fun db => db.members.get? (companyId,memberId)
  if existing.isNone then .raise (.badRequest "User is not a member of this company")
  else write (.deleteMember companyId memberId) fun _ db => do
    let _ ← required (db.members.get? (companyId,memberId))
    return ((),{ db with members := db.members.deleteMany fun row => row.companyId = companyId && row.memberId = memberId })

end BillingController

namespace CompaniesService

def TRANSFER_TTL_MS : Nat := 7 * 24 * 60 * 60 * 1000

def resolveCompanyId (userId : String) : Op String := find .companyMember fun db => companyIdOf db userId

def initiateTransfer (currentOwnerId newOwnerId : String) : Op OwnershipTransfer := do
  if currentOwnerId = newOwnerId then .raise (.badRequest "You cannot transfer ownership to yourself")
  else do
    let companyId ← resolveCompanyId currentOwnerId
    let membership ← find .companyMember fun db => db.members.get? (companyId,newOwnerId)
    if membership.isNone then
      .raise (.badRequest
        ("The proposed new owner is not a member of your company. " ++ "Invite them first via POST /team-invites."))
    else do
      write (.cancelTransfers companyId) fun _ db => .ok ((),{ db with
        transfers := db.transfers.updateMany (fun row => row.companyId = companyId && row.pending)
          fun row => { row with cancelledAt := some db.clock } })
      write (.createTransfer currentOwnerId newOwnerId) fun answer db =>
        let row : OwnershipTransfer :=
          { id := answer.text
            companyId := companyId
            fromOwnerId := currentOwnerId
            toMemberId := newOwnerId
            expiresAt := db.clock + TRANSFER_TTL_MS
            createdAt := db.clock }
        match db.transfers.create row with
        | none => .error .uniqueViolation
        | some transfers => .ok (row,{ db with transfers := transfers })

def newestFirst (a b : OwnershipTransfer) : Prop := b.createdAt ≤ a.createdAt

instance : DecidableRel newestFirst := fun _ _ => inferInstanceAs (Decidable (_ ≤ _))

def pendingFor (db : Db) (userId : String) : Option OwnershipTransfer :=
  ((db.transfers.findMany fun row => row.toMemberId = userId && row.pending).insertionSort newestFirst).head?

def consume (transfer : OwnershipTransfer) (db : Db) : Except Exception (Unit × Db) := do
  let (_,transfers) ← required (db.transfers.modify transfer.id fun row => { row with acceptedAt := some db.clock })
  let db := { db with transfers := transfers }
  let db ← db.upsertMember { companyId := transfer.companyId, memberId := transfer.fromOwnerId, companyRole := .member }
    fun row => { row with companyRole := .member }
  let db ← db.updateMember transfer.companyId transfer.toMemberId fun row => { row with companyRole := .owner }
  return ((),db)

def acceptTransfer (acceptingUserId : String) : Op String := do
  let (found,now) ← find .ownershipTransfer fun db => (pendingFor db acceptingUserId,db.clock)
  match found with
  | none => .raise (.notFound "No pending ownership transfer found for your account")
  | some transfer =>
      if transfer.expiresAt < now then
        .raise (.badRequest "This ownership transfer has expired. The current owner must initiate a new one.")
      else do
        write (.acceptTransfer transfer.fromOwnerId transfer.toMemberId) fun _ db => consume transfer db
        return transfer.companyId

def cancelTransfer (currentOwnerId : String) : Op Unit := do
  let companyId ← resolveCompanyId currentOwnerId
  let found ← find .ownershipTransfer fun db =>
    db.transfers.findFirst fun row => row.companyId = companyId && row.fromOwnerId = currentOwnerId && row.pending
  match found with
  | none => .raise (.notFound "No pending ownership transfer to cancel")
  | some transfer => write (.cancelTransfer transfer.id) fun _ db => do
      let (_,transfers) ← required (db.transfers.modify transfer.id fun row => { row with cancelledAt := some db.clock })
      return ((),{ db with transfers := transfers })

def setMemberSpendingLimit (companyOwnerId memberId : String) (spendingLimit : Option Int) : Op Unit := do
  let companyId ← resolveCompanyId companyOwnerId
  let membership ← find .companyMember fun db => db.members.get? (companyId,memberId)
  if membership.isNone then .raise (.notFound "Member not found in this company")
  else write (.setSpendingLimit companyId memberId) fun _ db => do
    let db ← db.updateMember companyId memberId fun row => { row with spendingLimit := spendingLimit }
    return ((),db)

end CompaniesService

namespace PasswordPolicyService

def special : List Char := "!@#$%^&*()_+-=[]\x7b\x7d;\x27:\x22\x5c|,.<>/?\x60~".toList

def getUnmetRequirements (policy : PasswordPolicyConfig) (password : String) : List String :=
  (if password = "" || utf16Length password < policy.minLength then [s!"Password must be at least {policy.minLength} characters"] else []) ++
  (if policy.requireUppercase && !password.toList.any (fun c => 'A' ≤ c ∧ c ≤ 'Z') then
    ["Password must contain at least one uppercase letter"] else []) ++
  (if policy.requireLowercase && !password.toList.any (fun c => 'a' ≤ c ∧ c ≤ 'z') then
    ["Password must contain at least one lowercase letter"] else []) ++
  (if policy.requireNumber && !password.toList.any (fun c => '0' ≤ c ∧ c ≤ '9') then
    ["Password must contain at least one number"] else []) ++
  (if policy.requireSpecial && !password.toList.any (· ∈ special) then
    ["Password must contain at least one special character"] else [])

def validate (policy : PasswordPolicyConfig) (password : String) : Except Exception Unit :=
  match getUnmetRequirements policy password with
  | [] => .ok ()
  -- the message of the exception is the array
  | unmet => .error (.badRequest (",".intercalate unmet))

end PasswordPolicyService

namespace TeamInvitesService

def INVITE_TTL_MS : Nat := 7 * 24 * 60 * 60 * 1000

def userByEmail (db : Db) (email : String) : Option User := db.users.findFirst fun row => row.email = some email

def inviteByToken (db : Db) (token : String) : Option TeamInvite := db.invites.findFirst fun row => row.token = token

def generateToken (companyOwnerId nonce : String) : String :=
  nonce ++ "." ++ self.hmac self.secret (companyOwnerId ++ ":" ++ nonce)

def sendInviteEmail (recipient companyName : String) : Op Unit :=
  .query (.sendMail recipient companyName) fun _ _ => .ok ()

def createInvite (db : Db) (row : TeamInvite) : Except Exception Db :=
  if (db.users.get? row.companyOwnerId).isNone then .error .database
  else if (inviteByToken db row.token).isSome then .error .uniqueViolation
  else match db.invites.create row with
    | none => .error .uniqueViolation
    | some invites => .ok { db with invites := invites }

def sendInvite (companyOwnerId email : String) : Op TeamInvite := do
  let owner ← find .user fun db => db.users.get? companyOwnerId
  match owner.filter (·.role = .company) with
  | none => .raise (.forbidden "Only COMPANY users can send team invites")
  | some owner =>
      let email := self.toLowerCase email
      let existing ← find .user fun db => userByEmail db email
      if existing.isSome then .raise (.conflict "A user with this email is already registered")
      else do
        let (nonce,now) ← write (.deleteInvites companyOwnerId email) fun answer db => .ok ((answer.text,db.clock),{ db with
          invites := db.invites.deleteMany fun row =>
            row.companyOwnerId = companyOwnerId && row.email = email && row.acceptedAt.isNone })
        let token := generateToken self companyOwnerId nonce
        let invite ← write (.createInvite companyOwnerId email) fun answer db => do
          let row : TeamInvite :=
            { id := answer.text, companyOwnerId := companyOwnerId, email := email, token := token, expiresAt := now + INVITE_TTL_MS }
          let db ← createInvite db row
          return (row,db)
        sendInviteEmail email ((owner.company.or owner.name).getD "your team")
        return invite

def hashPassword (salt password : String) : String := "scrypt:" ++ salt ++ ":" ++ self.scrypt password salt

def createUser (db : Db) (row : User) : Except Exception Db :=
  if row.email.any fun email => (userByEmail db email).isSome then .error .uniqueViolation
  else match db.users.create row with
    | none => .error .uniqueViolation
    | some users => .ok { db with users := users }

def accepted (invite : TeamInvite) (user : User) (db : Db) : Except Exception (User × Db) := do
  let db ← createUser db user
  let (_,invites) ← required (db.invites.modify invite.id fun row => { row with acceptedAt := some db.clock })
  return (user,{ db with invites := invites })

def acceptInvite (token name password : String) : Op User := do
  let (found,now) ← find .teamInvite fun db => (inviteByToken db token,db.clock)
  match found with
  | none => .raise (.notFound "Invite not found or already used")
  | some invite =>
      if invite.acceptedAt.isSome then .raise (.badRequest "This invite has already been accepted")
      else if invite.expiresAt < now then .raise (.badRequest "This invite has expired")
      else do
        Process.ofExcept (PasswordPolicyService.validate self.policy password)
        let email := invite.email
        let existingUser ← find .user fun db => userByEmail db email
        if existingUser.isSome then .raise (.conflict "A user with this email is already registered")
        else do
          let owner ← find .user fun db => db.users.get? invite.companyOwnerId
          let passwordHash ← Process.query .hashPassword fun answer _ => .ok (hashPassword self answer.text password)
          (write (.acceptInvite invite.companyOwnerId) fun answer db =>
            accepted invite
              { id := answer.text
                role := .company
                email := some email
                name := some name
                company := owner.bind User.company
                companyOwnerId := some invite.companyOwnerId
                passwordHash := some passwordHash } db).handle fun error =>
            if isUniqueViolation error then .raise (.conflict "Email is already registered") else .raise error

end TeamInvitesService

inductive Request where
  | addMember (user : AuthUser) (memberId : String) (companyRole : CompanyRole)
  | removeMember (user : AuthUser) (memberId : String)
  | setMemberSpendingLimit (user : AuthUser) (memberId : String) (spendingLimit : Option Int)
  | initiateTransfer (user : AuthUser) (newOwnerId : String)
  | acceptTransfer (user : AuthUser)
  | cancelTransfer (user : AuthUser)
  | sendInvite (user : AuthUser) (email : String)
  | acceptInvite (token name password : String)
  deriving DecidableEq, Repr

inductive Reply where
  | done
  | transfer (row : OwnershipTransfer)
  | company (companyId : String)
  | invite (row : TeamInvite)
  | user (row : User)
  deriving DecidableEq, Repr

def owned (user : AuthUser) (p : Op Reply) : Op Reply := do
  RolesGuard.canActivate user
  CompanyRoleGuard.canActivate user [.owner]
  p

def handler : Request → Op Reply
  | .addMember user memberId companyRole => owned user do
      BillingController.addMember user.id memberId companyRole
      return .done
  | .removeMember user memberId => owned user do
      BillingController.removeMember user.id memberId
      return .done
  | .setMemberSpendingLimit user memberId spendingLimit => owned user do
      CompaniesService.setMemberSpendingLimit user.id memberId spendingLimit
      return .done
  | .initiateTransfer user newOwnerId => owned user do
      let transfer ← CompaniesService.initiateTransfer user.id newOwnerId
      return .transfer transfer
  | .acceptTransfer user => do
      RolesGuard.canActivate user
      let companyId ← CompaniesService.acceptTransfer user.id
      return .company companyId
  | .cancelTransfer user => owned user do
      CompaniesService.cancelTransfer user.id
      return .done
  | .sendInvite user email => do
      RolesGuard.canActivate user
      let isEnabled ← FeatureFlagsService.isEnabled "team_invites"
      if !isEnabled then .raise (.badRequest "Team invites feature is currently disabled")
      else do
        let invite ← TeamInvitesService.sendInvite self user.id email
        return .invite invite
  | .acceptInvite token name password => do
      let user ← TeamInvitesService.acceptInvite self token name password
      return .user user

def service : System Request Nat Site Answer Db Exception Reply where
  handler := handler self
  environment passed db := { db with clock := db.clock + passed }

abbrev CompanyMove := Move Request Nat Answer

end HireSettle.Companies
