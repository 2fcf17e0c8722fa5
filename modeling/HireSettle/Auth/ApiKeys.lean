import HireSettle.Common.Calls
import HireSettle.Common.Users
import HireSettle.Workflow.Guards
import HireSettle.Workflow.Turns

/-! API keys: their creation and revocation, and the two guards in front of a route, of
which one authenticates the key of a request and one asks for its scopes. The hash
function is a parameter of which nothing is assumed. -/
namespace HireSettle.Auth.ApiKeys
open Workflow

inductive ApiKeyScope where
  | engagementsRead | engagementsWrite | milestonesRead | milestonesWrite | webhooksManage | notificationsRead
  deriving DecidableEq, Repr

def ApiKeyScope.text : ApiKeyScope → String
  | .engagementsRead => "engagements:read"
  | .engagementsWrite => "engagements:write"
  | .milestonesRead => "milestones:read"
  | .milestonesWrite => "milestones:write"
  | .webhooksManage => "webhooks:manage"
  | .notificationsRead => "notifications:read"

structure CreateApiKeyDto where
  userId : String
  name : String
  companyId : Option String := none
  expiresAt : Option Nat := none
  scopes : Option (List ApiKeyScope) := none
  deriving DecidableEq, Repr

structure ApiKey where
  id : String
  name : String
  keyPrefix : String
  keyHash : String
  userId : String
  companyId : Option String
  scopes : List ApiKeyScope
  expiresAt : Option Nat
  revokedAt : Option Nat := none
  lastUsedAt : Option Nat := none
  createdAt : Nat
  deriving DecidableEq, Repr

instance : Keyed ApiKey String := ⟨ApiKey.id⟩

structure World where
  users : Table User := .empty
  apiKeys : Table ApiKey := .empty
  clock : Nat

structure ApiKeyAuthUser where
  id : String
  email : Option String
  stellarAddress : Option String
  role : UserRole
  companyId : Option String
  apiKeyId : String
  scopes : List ApiKeyScope
  deriving DecidableEq, Repr

structure CreatedApiKey where
  id : String
  name : String
  keyPrefix : String
  userId : String
  companyId : Option String
  scopes : List ApiKeyScope
  expiresAt : Option Nat
  createdAt : Nat
  apiKey : String
  deriving DecidableEq, Repr

structure RevokedApiKey where
  id : String
  name : String
  keyPrefix : String
  userId : String
  scopes : List ApiKeyScope
  revokedAt : Option Nat
  deriving DecidableEq, Repr

inductive Site where
  | findUser (userId : String)
  | createApiKey (dto : CreateApiKeyDto) (rawKey : String)
  | findApiKeyById (id : String)
  | revokeApiKey (id : String)
  | findApiKey (keyHash : String)
  | touchApiKey (id : String)
  deriving DecidableEq, Repr

abbrev Op := Process Site Answer World Exception

-- `message` is what an exception that is no HTTP one reads
structure Config where
  hashKey : String → String
  message : Exception → String

variable (config : Config)

def KEY_PREFIX : String := "hs_"

def createApiKey (dto : CreateApiKeyDto) (user : User) (rawKey : String) (i : Answer) (w : World) : Except Exception (ApiKey × World) :=
  let record : ApiKey :=
    { id := i.text
      name := dto.name
      keyPrefix := String.ofList (rawKey.toList.take 11)
      keyHash := config.hashKey rawKey
      userId := user.id
      companyId := some (dto.companyId.getD user.id)
      scopes := dto.scopes.getD []
      expiresAt := dto.expiresAt
      createdAt := w.clock }
  if i.fails || (w.users.get? user.id).isNone then .error .database
  else if (w.apiKeys.findFirst (·.keyHash = record.keyHash)).isSome then .error .uniqueViolation
  else match w.apiKeys.create record with
    | none => .error .uniqueViolation
    | some apiKeys => .ok (record,{ w with apiKeys })

def create (dto : CreateApiKeyDto) : Op CreatedApiKey := do
  let read ← .query (.findUser dto.userId) fun i w =>
    if i.fails then .error .database else .ok (w.users.get? dto.userId,i.text,w.clock)
  match read.1 with
  | none => .raise (.notFound "User not found or unavailable")
  | some user =>
      let rawKey := KEY_PREFIX ++ read.2.1
      if user.deletedAt.isSome || user.deactivatedAt.isSome then .raise (.notFound "User not found or unavailable")
      else if dto.expiresAt.any (· ≤ read.2.2) then .raise (.badRequest "expiresAt must be in the future")
      else do
        let record ← .transact (.createApiKey dto rawKey) (createApiKey config dto user rawKey)
        return {
          id := record.id
          name := record.name
          keyPrefix := record.keyPrefix
          userId := record.userId
          companyId := record.companyId
          scopes := record.scopes
          expiresAt := record.expiresAt
          createdAt := record.createdAt
          apiKey := rawKey }

def revokeApiKey (id : String) (i : Answer) (w : World) : Except Exception (ApiKey × World) :=
  if i.fails then .error .database
  else match w.apiKeys.modify id (fun row => { row with revokedAt := some w.clock }) (fun _ => rfl) with
    | none => .error .recordNotFound
    | some out => .ok (out.1,{ w with apiKeys := out.2 })

def revoke (id : String) : Op RevokedApiKey := do
  let key ← .query (.findApiKeyById id) fun i w => if i.fails then .error .database else .ok (w.apiKeys.get? id)
  match key with
  | none => .raise (.notFound "API key not found")
  | some key =>
      if key.revokedAt.isSome then .raise (.badRequest "API key already revoked")
      else do
        let row ← .transact (.revokeApiKey id) (revokeApiKey id)
        return {
          id := row.id
          name := row.name
          keyPrefix := row.keyPrefix
          userId := row.userId
          scopes := row.scopes
          revokedAt := row.revokedAt }

def hashesEqual (a b : String) : Bool := a = b

def checkRecord (keyHash : String) (record : Option ApiKey) (user : ApiKey → Option User) (now : Nat) : Except Exception ApiKeyAuthUser :=
  match record with
  | none => .error (.unauthorized "Invalid API key")
  | some record =>
      if !hashesEqual record.keyHash keyHash then .error (.unauthorized "Invalid API key")
      else if record.revokedAt.isSome then .error (.unauthorized "API key has been revoked")
      else if record.expiresAt.any (· ≤ now) then .error (.unauthorized "API key has expired")
      else match user record with
        | none => .error .typeError
        | some user =>
            if user.deactivatedAt.isSome || user.deletedAt.isSome then .error (.unauthorized "API key owner is unavailable")
            else .ok {
              id := user.id
              email := user.email
              stellarAddress := user.stellarAddress
              role := user.role
              companyId := record.companyId
              apiKeyId := record.id
              scopes := record.scopes }

def findApiKey (keyHash : String) (w : World) : Except Exception ApiKeyAuthUser :=
  checkRecord keyHash (w.apiKeys.findFirst (·.keyHash = keyHash)) (fun record => w.users.get? record.userId) w.clock

def touchApiKey (id : String) (i : Answer) (w : World) : World :=
  if i.fails then w else { w with apiKeys := w.apiKeys.update id (fun row => { row with lastUsedAt := some w.clock }) (fun _ => rfl) }

def authenticate (rawKey : String) : Op ApiKeyAuthUser :=
  if rawKey = "" then .raise (.unauthorized "Missing API key")
  else do
    let keyHash := config.hashKey rawKey
    let checked ← .query (.findApiKey keyHash) fun i w => if i.fails then .error .database else .ok (findApiKey keyHash w)
    let user ← .ofExcept checked
    -- not awaited, and its failure is swallowed
    .call (.touchApiKey user.apiKeyId) (touchApiKey user.apiKeyId) fun _ _ => .ret user

def errorMessage : Exception → String
  | .badRequest message | .unauthorized message | .forbidden message | .notFound message | .conflict message | .unprocessable message
  | .tooManyRequests message _ => message
  | error => config.message error

def canActivate (header : Option String) : Op ApiKeyAuthUser :=
  match present header with
  | none => .raise (.unauthorized "API key required")
  | some rawKey => (authenticate config rawKey).handle fun error => .raise (.unauthorized (errorMessage config error))

def checkScopes (requiredScopes : List ApiKeyScope) (user : ApiKeyAuthUser) : Except Exception Unit :=
  if requiredScopes.length = 0 then .ok ()
  else if user.scopes.length = 0 then .ok ()
  else if requiredScopes.any user.scopes.contains then .ok ()
  else .error (.forbidden ("API key lacks required scope. Required one of: " ++ ", ".intercalate (requiredScopes.map ApiKeyScope.text)))

inductive Request where
  | create (dto : CreateApiKeyDto)
  | revoke (id : String)
  | access (header : Option String) (requiredScopes : List ApiKeyScope)
  deriving DecidableEq, Repr

inductive Reply where
  | created (key : CreatedApiKey)
  | revoked (key : RevokedApiKey)
  | user (user : ApiKeyAuthUser)
  deriving DecidableEq, Repr

def access (header : Option String) (requiredScopes : List ApiKeyScope) : Op Reply := do
  let user ← canActivate config header
  .ofExcept (checkScopes requiredScopes user)
  return .user user

def handler : Request → Op Reply
  | .create dto => do
      let key ← create config dto
      return .created key
  | .revoke id => do
      let key ← revoke id
      return .revoked key
  | .access header requiredScopes => access config header requiredScopes

inductive Change where
  | clock (now : Nat)
  | users (table : Table User)

def service : System Request Change Site Answer World Exception Reply where
  handler := handler config
  environment
    | .clock now, w => { w with clock := now }
    | .users users, w => { w with users }

abbrev KeyEvent := Event Site Answer World

/-- What a key is issued with, and keeps. -/
structure Terms where
  keyHash : String
  userId : String
  companyId : Option String
  scopes : List ApiKeyScope
  expiresAt : Option Nat
  deriving DecidableEq, Repr

def ApiKey.terms (row : ApiKey) : Terms := ⟨row.keyHash,row.userId,row.companyId,row.scopes,row.expiresAt⟩

def CreateApiKeyDto.terms (dto : CreateApiKeyDto) (rawKey : String) : Terms :=
  ⟨config.hashKey rawKey,dto.userId,some (dto.companyId.getD dto.userId),dto.scopes.getD [],dto.expiresAt⟩

def Issues (e : KeyEvent) (dto : CreateApiKeyDto) (rawKey id : String) : Prop :=
  e.site = .createApiKey dto rawKey ∧ e.before.apiKeys.get? id = none ∧ (e.after.apiKeys.get? id).isSome

def Revokes (e : KeyEvent) (id : String) : Prop :=
  e.site = .revokeApiKey id ∧ e.answer.fails = false ∧ (e.before.apiKeys.get? id).isSome

/-- The key was issued and not revoked, it has not expired, and its owner may log in. -/
structure Stands (earlier : List KeyEvent) (w : World) (rawKey : String) (dto : CreateApiKeyDto) (id : String) (owner : User) : Prop where
  issued : ∃ e ∈ earlier, ∃ other, Issues e dto other id ∧ config.hashKey other = config.hashKey rawKey
  unrevoked : ∀ e ∈ earlier, ¬ Revokes e id
  current : ∀ expiresAt ∈ dto.expiresAt, w.clock < expiresAt
  owned : w.users.get? dto.userId = some owner
  available : owner.deactivatedAt = none ∧ owner.deletedAt = none

def Permits (requiredScopes scopes : List ApiKeyScope) : Prop :=
  requiredScopes = [] ∨ scopes = [] ∨ ∃ scope ∈ requiredScopes, scope ∈ scopes

def authUser (dto : CreateApiKeyDto) (id : String) (owner : User) : ApiKeyAuthUser where
  id := owner.id
  email := owner.email
  stellarAddress := owner.stellarAddress
  role := owner.role
  companyId := some (dto.companyId.getD dto.userId)
  apiKeyId := id
  scopes := dto.scopes.getD []

/-- What any one call may do to the keys. -/
structure Does (e : KeyEvent) : Prop where
  keeps : ∀ id row, e.before.apiKeys.get? id = some row → ∃ row', e.after.apiKeys.get? id = some row' ∧ row'.terms = row.terms ∧
    (row'.revokedAt.isSome ↔ row.revokedAt.isSome ∨ Revokes e id)
  adds : ∀ id row, e.before.apiKeys.get? id = none → e.after.apiKeys.get? id = some row → ∃ dto rawKey,
    e.site = .createApiKey dto rawKey ∧ row.terms = dto.terms config rawKey ∧ row.revokedAt = none ∧
    (∀ id' row', e.before.apiKeys.get? id' = some row' → row'.keyHash ≠ row.keyHash) ∧
    ∀ id' row', e.before.apiKeys.get? id' = none → e.after.apiKeys.get? id' = some row' → id' = id

/-- The table of keys against the calls that have been made. -/
structure Ledger (c : Snapshot Site Answer World) : Prop where
  kept : ∀ e ∈ c.history, ∀ dto rawKey id, Issues e dto rawKey id → ∃ row, c.world.apiKeys.get? id = some row ∧ row.terms = dto.terms config rawKey
  issued : ∀ id row, c.world.apiKeys.get? id = some row → ∃ e ∈ c.history, ∃ dto rawKey, Issues e dto rawKey id
  known : ∀ e ∈ c.history, ∀ id, Revokes e id → (c.world.apiKeys.get? id).isSome
  revoked : ∀ id row, c.world.apiKeys.get? id = some row → (row.revokedAt.isSome ↔ ∃ e ∈ c.history, Revokes e id)
  alone : ∀ id id' row row', c.world.apiKeys.get? id = some row → c.world.apiKeys.get? id' = some row' → row.keyHash = row'.keyHash → id = id'

section Calls

variable {e : KeyEvent} {w w' : World} {id rawKey : String} {dto : CreateApiKeyDto}

theorem doesUnchanged (idle : ∀ id, ¬ Revokes e id) (same : e.after.apiKeys = e.before.apiKeys) : Does config e := by
  constructor
  · intro id row found
    exact ⟨row,by rw [same,found],rfl,by simp [idle id]⟩
  · intro id row absent found
    rw [same,absent] at found
    cases found

theorem doesSite (same : e.after = e.before) (other : ∀ id, e.site ≠ .revokeApiKey id) : Does config e :=
  doesUnchanged config (fun id its => other id its.1) (by rw [same])

theorem doesRow (id : String) (f : ApiKey → ApiKey) (keeps : ∀ row, Keyed.key (f row) = Keyed.key row)
    (written : e.after.apiKeys = e.before.apiKeys.update id f keeps)
    (terms : ∀ row, (f row).terms = row.terms) (revokes : ∀ row, (f row).revokedAt.isSome ↔ row.revokedAt.isSome ∨ Revokes e id)
    (others : ∀ other, other ≠ id → ¬ Revokes e other) : Does config e := by
  constructor
  · intro key row found
    by_cases same : key = id
    · subst same
      exact ⟨f row,by rw [written,Table.getUpdateSelf found],terms row,revokes row⟩
    · exact ⟨row,by rw [written,Table.getUpdateOther _ same,found],rfl,by simp [others key same]⟩
  · intro key row absent found
    simp [written,absent] at found

theorem createDoes {thread : Nat} {i : Answer} {user : User} {record : ApiKey} (own : user.id = dto.userId)
    (made : createApiKey config dto user rawKey i w = .ok (record,w')) : Does config ⟨thread,.createApiKey dto rawKey,i,w,w'⟩ := by
  simp only [createApiKey] at made
  split at made
  · cases made
  · split at made
    · cases made
    · rename_i fresh
      split at made
      · cases made
      · rename_i apiKeys inserted
        cases made
        obtain ⟨_,_,gets⟩ := Table.createGet inserted
        have idle : ∀ id, ¬ Revokes ⟨thread,.createApiKey dto rawKey,i,w,{ w with apiKeys }⟩ id := by
          intro id its
          cases its.1
        constructor
        · intro id row found
          refine ⟨row,?_,rfl,by simp [idle id]⟩
          rw [gets,if_neg]
          · exact found
          · rintro rfl
            simp_all
        · intro id row absent found
          rw [gets] at found
          split at found
          · rename_i its
            cases found
            refine ⟨dto,rawKey,rfl,by simp [ApiKey.terms,CreateApiKeyDto.terms,own],rfl,?_,?_⟩
            · intro id' row' found' same
              have absent' := Table.findFirstNone (by simpa using fresh) found'
              simp [same] at absent'
            · intro id' row' absent' found'
              rw [gets] at found'
              split at found'
              · rename_i its'
                rw [its,its']
              · exact absurd (absent'.symm.trans found') (by simp)
          · exact absurd (absent.symm.trans found) (by simp)

theorem revokeDoes {thread : Nat} {i : Answer} : Does config ⟨thread,.revokeApiKey id,i,w,Process.applied (revokeApiKey id) i w⟩ := by
  cases fails : i.fails with
  | true =>
    have same : Process.applied (revokeApiKey id) i w = w := by simp [Process.applied,revokeApiKey,fails]
    refine doesUnchanged config (fun other its => ?_) (by rw [same])
    have stored := its.2.1
    simp [fails] at stored
  | false =>
    cases found : w.apiKeys.get? id with
    | none =>
      have same : Process.applied (revokeApiKey id) i w = w := by simp [Process.applied,revokeApiKey,fails,Table.modify,found]
      refine doesUnchanged config (fun other its => ?_) (by rw [same])
      obtain ⟨site,_,stored⟩ := its
      cases site
      simp [found] at stored
    | some row =>
      refine doesRow config id (fun row => { row with revokedAt := some w.clock }) (fun _ => rfl) ?_ (fun _ => rfl) (fun row => ?_) fun other differs its => ?_
      · simp [Process.applied,revokeApiKey,fails,Table.modify,found]
      · simp [Revokes,fails,found]
      · cases its.1
        exact differs rfl

theorem touchDoes {thread : Nat} {i : Answer} : Does config ⟨thread,.touchApiKey id,i,w,touchApiKey id i w⟩ := by
  have idle : ∀ other, ¬ Revokes ⟨thread,.touchApiKey id,i,w,touchApiKey id i w⟩ other := by
    intro other its
    cases its.1
  cases fails : i.fails with
  | true => exact doesUnchanged config idle (by simp [touchApiKey,fails])
  | false =>
    refine doesRow config id (fun row => { row with lastUsedAt := some w.clock }) (fun _ => rfl) (by simp [touchApiKey,fails]) (fun _ => rfl) (fun row => ?_) fun other _ => idle other
    simp [idle id]

end Calls

section Ledgers

variable {c : Snapshot Site Answer World} {config}

theorem ledgerInitial {users : Table User} {clock : Nat} : Ledger config ⟨{ users, clock },[]⟩ := by
  constructor <;> simp

theorem ledgerRecord {thread : Nat} {site : Site} {i : Answer} {w' : World} (ledger : Ledger config c)
    (does : Does config (c.event thread site i w')) : Ledger config (c.record thread site i w') := by
  constructor
  · intro e inside dto rawKey id its
    rcases List.mem_cons.mp inside with rfl | earlier
    · obtain ⟨site,absent,stored⟩ := its
      obtain ⟨row,found⟩ := Option.isSome_iff_exists.mp stored
      obtain ⟨dto',rawKey',site',terms,_⟩ := does.adds id row absent found
      cases site.symm.trans site'
      exact ⟨row,found,terms⟩
    · obtain ⟨row,found,terms⟩ := ledger.kept e earlier dto rawKey id its
      obtain ⟨row',found',same,_⟩ := does.keeps id row found
      exact ⟨row',found',same.trans terms⟩
  · intro id row found
    cases before : c.world.apiKeys.get? id with
    | none =>
      obtain ⟨dto,rawKey,site,_⟩ := does.adds id row before found
      exact ⟨_,List.mem_cons_self,dto,rawKey,site,before,Option.isSome_iff_exists.mpr ⟨row,found⟩⟩
    | some old =>
      obtain ⟨e,inside,its⟩ := ledger.issued id old before
      exact ⟨e,List.mem_cons_of_mem _ inside,its⟩
  · intro e inside id its
    have stored : (c.world.apiKeys.get? id).isSome := by
      rcases List.mem_cons.mp inside with rfl | earlier
      · exact its.2.2
      · exact ledger.known e earlier id its
    obtain ⟨row,found⟩ := Option.isSome_iff_exists.mp stored
    obtain ⟨row',found',_⟩ := does.keeps id row found
    exact Option.isSome_iff_exists.mpr ⟨row',found'⟩
  · intro id row found
    cases before : c.world.apiKeys.get? id with
    | none =>
      obtain ⟨_,_,_,_,unrevoked,_⟩ := does.adds id row before found
      simp only [unrevoked,Option.isSome_none,Bool.false_eq_true,false_iff,not_exists,not_and]
      intro e inside its
      rcases List.mem_cons.mp inside with rfl | earlier
      · have stored : (c.world.apiKeys.get? id).isSome := its.2.2
        simp [before] at stored
      · have stored := ledger.known e earlier id its
        simp [before] at stored
    | some old =>
      obtain ⟨row',found',_,marked⟩ := does.keeps id old before
      cases found.symm.trans found'
      rw [marked,ledger.revoked id old before]
      simp only [Snapshot.recordHistory,List.mem_cons,or_and_right,exists_or,exists_eq_left]
      exact or_comm
  · intro id id' row row' found found' same
    cases before : c.world.apiKeys.get? id with
    | none =>
      obtain ⟨_,_,_,_,_,fresh,single⟩ := does.adds id row before found
      cases before' : c.world.apiKeys.get? id' with
      | none => exact (single id' row' before' found').symm
      | some old =>
        obtain ⟨_,there,terms,_⟩ := does.keeps id' old before'
        cases found'.symm.trans there
        exact absurd ((congrArg Terms.keyHash terms).symm.trans same.symm) (fresh id' old before')
    | some old =>
      obtain ⟨_,there,terms,_⟩ := does.keeps id old before
      cases found.symm.trans there
      cases before' : c.world.apiKeys.get? id' with
      | none =>
        obtain ⟨_,_,_,_,_,fresh,_⟩ := does.adds id' row' before' found'
        exact absurd ((congrArg Terms.keyHash terms).symm.trans same) (fresh id old before)
      | some old' =>
        obtain ⟨_,there',terms',_⟩ := does.keeps id' old' before'
        cases found'.symm.trans there'
        exact ledger.alone id id' old old' before before' ((congrArg Terms.keyHash terms).symm.trans (same.trans (congrArg Terms.keyHash terms')))

theorem checkedIff {keyHash : String} {record : Option ApiKey} {users : ApiKey → Option User} {now : Nat} {user : ApiKeyAuthUser} :
    checkRecord keyHash record users now = .ok user ↔ ∃ row owner, record = some row ∧ row.keyHash = keyHash ∧ row.revokedAt = none ∧
      (∀ expiresAt ∈ row.expiresAt, now < expiresAt) ∧ users row = some owner ∧ (owner.deactivatedAt = none ∧ owner.deletedAt = none) ∧
      user = ⟨owner.id,owner.email,owner.stellarAddress,owner.role,row.companyId,row.id,row.scopes⟩ := by
  cases record with
  | none => simp [checkRecord]
  | some row =>
    by_cases hash : row.keyHash = keyHash
    · cases expires : row.expiresAt <;> cases found : users row <;>
        simp [checkRecord,hashesEqual,hash,expires,found,ite_eq_iff,@eq_comm _ user]
    · simp [checkRecord,hashesEqual,hash]

theorem scopesIff {requiredScopes : List ApiKeyScope} {user : ApiKeyAuthUser} :
    checkScopes requiredScopes user = .ok () ↔ Permits requiredScopes user.scopes := by
  simp only [checkScopes,Permits,List.length_eq_zero_iff]
  split
  · simp_all
  · split
    · simp_all
    · split <;> simp_all

theorem ledgerFinds {rawKey : String} {user : ApiKeyAuthUser} (ledger : Ledger config c) :
    findApiKey (config.hashKey rawKey) c.world = .ok user ↔
      ∃ dto id owner, Stands config c.history c.world rawKey dto id owner ∧ user = authUser dto id owner := by
  rw [findApiKey,checkedIff]
  constructor
  · rintro ⟨row,owner,found,hash,unrevoked,current,owned,available,rfl⟩
    obtain ⟨stored,_⟩ := Table.findFirstGet found
    obtain ⟨e,inside,dto,other,issued⟩ := ledger.issued row.id row stored
    obtain ⟨row',stored',terms⟩ := ledger.kept e inside dto other row.id issued
    cases stored.symm.trans stored'
    obtain ⟨same,userId,companyId,scopes,expiresAt⟩ := Terms.mk.inj terms
    refine ⟨dto,row.id,owner,⟨⟨e,inside,other,issued,same.symm.trans hash⟩,fun e' inside' its => ?_,expiresAt ▸ current,userId ▸ owned,available⟩,?_⟩
    · have marked := (ledger.revoked row.id row stored).mpr ⟨e',inside',its⟩
      simp [unrevoked] at marked
    · rw [authUser,companyId,scopes]
  · rintro ⟨dto,id,owner,⟨⟨e,inside,other,issued,hash⟩,unrevoked,current,owned,available⟩,rfl⟩
    obtain ⟨row,stored,terms⟩ := ledger.kept e inside dto other id issued
    obtain ⟨same,userId,companyId,scopes,expiresAt⟩ := Terms.mk.inj terms
    have key : row.id = id := Table.getKey stored
    have unmarked : row.revokedAt = none := by
      refine Option.not_isSome_iff_eq_none.mp fun marked => ?_
      obtain ⟨e',inside',its⟩ := (ledger.revoked id row stored).mp marked
      exact unrevoked e' inside' its
    have first : c.world.apiKeys.findFirst (·.keyHash = config.hashKey rawKey) = some row := by
      cases found : c.world.apiKeys.findFirst (·.keyHash = config.hashKey rawKey) with
      | none =>
        have absent := Table.findFirstNone found stored
        simp [same,hash] at absent
      | some row' =>
        obtain ⟨stored',its⟩ := Table.findFirstGet found
        have other' : row'.keyHash = config.hashKey rawKey := by simpa using its
        have one := ledger.alone _ _ row row' stored stored' (by rw [same,hash,other'])
        rw [← one] at stored'
        rw [stored.symm.trans stored']
    refine ⟨row,owner,first,same.trans hash,unmarked,expiresAt ▸ current,userId ▸ owned,available,?_⟩
    rw [authUser,companyId,scopes,key]

end Ledgers

section Runs

variable {header : Option String} {requiredScopes : List ApiKeyScope}

/-- The one read that a request for a route makes, and what it gives. -/
def Found (header : Option String) (own : List KeyEvent) (user : ApiKeyAuthUser) : Prop :=
  ∃ e ∈ own, ∃ rawKey, present header = some rawKey ∧ e.site = .findApiKey (config.hashKey rawKey) ∧ e.answer.fails = false ∧
    findApiKey (config.hashKey rawKey) e.before = .ok user

def Ends (request : Request) (own : List KeyEvent) (out : Except Exception Reply) : Prop :=
  match request with
  | .access header requiredScopes => ∀ user, out = .ok (.user user) ↔ Found config header own user ∧ Permits requiredScopes user.scopes
  | _ => True

def Calls (_ : Request) (_ : List KeyEvent) (e : KeyEvent) : Prop := Does config e

theorem guardedAccess (header : Option String) (requiredScopes : List ApiKeyScope) :
    Guarded (Calls config (.access header requiredScopes)) (Ends config (.access header requiredScopes)) (access config header requiredScopes) [] := by
  unfold access
  have activated : Guarded (Calls config (.access header requiredScopes)) (fun own out => ∀ user, out = .ok user ↔ Found config header own user)
      (canActivate config header) [] := by
    unfold canActivate
    cases given : present header with
    | none => simp [Guarded,Found]
    | some rawKey =>
      have filled : rawKey ≠ "" := by simpa using (Option.filter_eq_some_iff.mp given).2
      dsimp only
      unfold authenticate
      rw [if_neg filled]
      refine guardedHandle (guardedBind (guardedQuery fun thread i w => ⟨doesSite config rfl (by simp),?_⟩))
      have only : ∀ own user, (∀ e ∈ own, ∀ keyHash, e.site ≠ .findApiKey keyHash) →
          (Found config header (own ++ [⟨thread,.findApiKey (config.hashKey rawKey),i,w,w⟩]) user ↔
            i.fails = false ∧ findApiKey (config.hashKey rawKey) w = .ok user) := by
        intro own user others
        constructor
        · rintro ⟨e,inside,other,given',site,works,found⟩
          cases given.symm.trans given'
          rcases List.mem_append.mp inside with before | its
          · exact absurd site (others e before _)
          · cases List.mem_singleton.mp its
            exact ⟨works,found⟩
        · rintro ⟨works,found⟩
          exact ⟨_,List.mem_append_right _ (List.mem_singleton_self _),rawKey,given,rfl,works,found⟩
      cases fails : i.fails with
      | true =>
        intro user
        have none := only [] user (by simp)
        simp_all
      | false =>
        cases checked : findApiKey (config.hashKey rawKey) w with
        | error error =>
          intro user
          have none := only [] user (by simp)
          simp_all
        | ok user =>
          refine fun thread' i' w' => ⟨touchDoes config,fun other => ?_⟩
          have its := only [⟨thread',.touchApiKey user.apiKeyId,i',w',touchApiKey user.apiKeyId i' w'⟩] other (by simp)
          simp_all
  refine guardedBind (guardedMono (fun own out ends => ?_) activated)
  cases out with
  | error error =>
    intro user
    have none := ends user
    simp_all
  | ok user =>
    have its : Found config header own user := (ends user).mp rfl
    refine guardedBind (guardedOfExcept ?_)
    cases scopes : checkScopes requiredScopes user with
    | error error =>
      refine fun other => ⟨fun never => (by cases never),fun found => ?_⟩
      cases (ends other).mpr found.1
      rw [scopesIff.mpr found.2] at scopes
      cases scopes
    | ok _ =>
      refine fun other => ⟨fun same => ?_,fun found => ?_⟩
      · cases same
        exact ⟨its,scopesIff.mp scopes⟩
      · cases (ends other).mpr found.1
        rfl

theorem guardedCreate (dto : CreateApiKeyDto) : Guarded (Calls config (.create dto)) (Ends config (.create dto)) (handler config (.create dto)) [] := by
  refine guardedBind (guardedMono (fun _ out _ => ?_) (?_ : Guarded (Calls config (.create dto)) anyOutcome (create config dto) []))
  · cases out <;> trivial
  · unfold create
    refine guardedBind (guardedQuery fun thread i w => ⟨doesSite config rfl (by simp),?_⟩)
    cases i.fails with
    | true => trivial
    | false =>
      cases found : w.users.get? dto.userId with
      | none => trivial
      | some user =>
        simp only [Bool.false_eq_true,if_false]
        split
        · trivial
        · split
          · trivial
          · refine guardedBind (guardedTransact (fun _ _ _ record after made => ?_) fun _ _ _ error _ => ?_)
            · exact ⟨createDoes config (Table.getKey found) made,trivial⟩
            · exact ⟨doesSite config rfl (by simp),trivial⟩

theorem guardedRevoke (id : String) : Guarded (Calls config (.revoke id)) (Ends config (.revoke id)) (handler config (.revoke id)) [] := by
  refine guardedBind (guardedMono (fun _ out _ => ?_) (?_ : Guarded (Calls config (.revoke id)) anyOutcome (revoke id) []))
  · cases out <;> trivial
  · unfold revoke
    refine guardedBind (guardedQuery fun thread i w => ⟨doesSite config rfl (by simp),?_⟩)
    cases i.fails with
    | true => trivial
    | false =>
      cases w.apiKeys.get? id with
      | none => trivial
      | some key =>
        simp only [Bool.false_eq_true,if_false]
        split
        · trivial
        · refine guardedThen (fun thread' i' w' => ⟨revokeDoes config,?_⟩) fun _ _ => trivial
          exact guardedOfExcept trivial

theorem guardedHandler (request : Request) : Guarded (Calls config request) (Ends config request) (handler config request) [] := by
  cases request with
  | create dto => exact guardedCreate config dto
  | revoke id => exact guardedRevoke config id
  | access header requiredScopes => exact guardedAccess config header requiredScopes

/-- The table agrees with the calls now, and did before each of them. -/
def Ledgers (c : Snapshot Site Answer World) : Prop :=
  Ledger config c ∧ AllMeet (fun earlier e => Ledger config ⟨e.before,earlier⟩) c.history

theorem ledgersRun (users : Table User) (clock : Nat) (moves : List (Move Request Change Answer)) :
    GuardedEnds (Calls config) (Ends config) (Ledgers config) ((service config).run (Pool.initial { users, clock }) moves) := by
  refine guardedRun (P := fun _ _ _ => True) ?_ ?_ (guardedHandler config) (guardedInitial ⟨ledgerInitial,trivial⟩) moves (meetsAlways (fun _ _ _ _ => trivial) _)
  · intro request c thread site i w' ledgers does _
    exact ⟨ledgerRecord ledgers.1 does,ledgers.1,ledgers.2⟩
  · intro change c ledgers
    cases change <;> exact ⟨⟨ledgers.1.kept,ledgers.1.issued,ledgers.1.known,ledgers.1.revoked,ledgers.1.alone⟩,ledgers.2⟩

/-- A request with a key comes through to a route exactly if, when the key was read, it had been issued and not revoked, it had not
expired, its owner could log in, and it was issued for the route. -/
theorem keysAdmit (users : Table User) (clock : Nat) (moves : List (Move Request Change Answer)) {k : Nat} {header : Option String}
    {requiredScopes : List ApiKeyScope} {out : Except Exception Reply}
    (ended : ((service config).run (Pool.initial { users, clock }) moves).threads[k]? = some ⟨.access header requiredScopes,Process.ofExcept out⟩)
    (user : ApiKeyAuthUser) :
    out = .ok (.user user) ↔ ∃ e earlier rawKey dto id owner,
      e :: earlier <:+ ((service config).run (Pool.initial { users, clock }) moves).history ∧ e.thread = k ∧
      present header = some rawKey ∧ e.site = .findApiKey (config.hashKey rawKey) ∧ e.answer.fails = false ∧
      Stands config earlier e.before rawKey dto id owner ∧ Permits requiredScopes (dto.scopes.getD []) ∧ user = authUser dto id owner := by
  have guarded := ledgersRun config users clock moves
  have ends : Ends config (.access header requiredScopes) _ out := guardedEnded guarded ended
  rw [ends user]
  constructor
  · rintro ⟨⟨e,inside,rawKey,given,site,works,found⟩,permits⟩
    obtain ⟨inside,thread⟩ := List.mem_filter.mp inside
    obtain ⟨earlier,suffix,ledger⟩ := meetsAt guarded.holds.2 inside
    obtain ⟨dto,id,owner,stands,rfl⟩ := (ledgerFinds ledger).mp found
    exact ⟨e,earlier,rawKey,dto,id,owner,suffix,of_decide_eq_true thread,given,site,works,stands,permits,rfl⟩
  · rintro ⟨e,earlier,rawKey,dto,id,owner,suffix,thread,given,site,works,stands,permits,rfl⟩
    have ledger := meetsIff.mp guarded.holds.2 earlier e suffix
    have inside := suffix.subset List.mem_cons_self
    exact ⟨⟨e,List.mem_filter.mpr ⟨inside,decide_eq_true thread⟩,rawKey,given,site,works,(ledgerFinds ledger).mpr ⟨dto,id,owner,stands,rfl⟩⟩,permits⟩

end Runs

def plain : Config where
  hashKey rawKey := "#" ++ rawKey
  message _ := ""

def ats : CreateApiKeyDto where
  userId := "acme"
  name := "ATS"
  scopes := some [.engagementsRead]

def readsThenRevoked : List (Move Request Change Answer) :=
  [.start (.create ats),.answer 0 { text := "0f3c" },.answer 0 { text := "k1" },
    .start (.access (some "hs_0f3c") [.engagementsRead,.engagementsWrite]),.answer 1 {},
    .start (.revoke "k1"),.answer 2 {},.answer 2 {},.answer 1 {}]

def acmeUser : ApiKeyAuthUser where
  id := "acme"
  email := none
  stellarAddress := none
  role := .company
  companyId := some "acme"
  apiKeyId := "k1"
  scopes := [.engagementsRead]

/-- The request has read the key before it is revoked. -/
theorem readBeforeRevoked : ∃ e earlier rawKey dto id owner,
    e :: earlier <:+ ((service plain).run (Pool.initial { users := .single { id := "acme" }, clock := 5 }) readsThenRevoked).history ∧ e.thread = 1 ∧
    present (some "hs_0f3c") = some rawKey ∧ e.site = .findApiKey (plain.hashKey rawKey) ∧ e.answer.fails = false ∧
    Stands plain earlier e.before rawKey dto id owner ∧ Permits [.engagementsRead,.engagementsWrite] (dto.scopes.getD []) ∧
    acmeUser = authUser dto id owner := by
  have ended : ((service plain).run (Pool.initial { users := .single { id := "acme" }, clock := 5 }) readsThenRevoked).threads[1]? =
      some ⟨.access (some "hs_0f3c") [.engagementsRead,.engagementsWrite],Process.ofExcept (.ok (.user acmeUser))⟩ := endedEq (by decide)
  exact (keysAdmit plain _ 5 readsThenRevoked ended acmeUser).mp rfl

end HireSettle.Auth.ApiKeys
