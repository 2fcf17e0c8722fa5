import HireSettle.Auth.Accounts
import HireSettle.Auth.SessionReuse

/-! Closed accounts, deactivated or erased. What a login or a refresh does is settled by its
first read: it goes on to open a session only if that read has found a user who is not
deactivated, or a refresh token that can still be used, whoever owns it. -/
namespace HireSettle.Auth.Accounts
open Workflow

abbrev AccountEvent := Event Site Answer World

abbrev AccountPool := Pool Request Site Answer World Exception Reply

abbrev AccountMove := Move Request Nat Answer

def closed (user : User) : Bool := user.deactivatedAt.isSome || user.deletedAt.isSome

variable (self : AccountConfig)

-- the user whose account the first read of a request finds
def subject : Request → World → Option User
  | .login dto, w => w.users.findFirst (fun row => row.email = some (self.toLowerCase dto.email))
  | .refresh _ token, w => (storedToken w (self.hashRefreshToken token)).bind fun row => w.users.get? row.userId
  | _, _ => none

def idleRule : Service → Bool
  | .auth => false
  | .session => true

/-- The token is stored, not consumed, revoked, expired or idle. -/
def Usable (kind : Service) (token : String) (w : World) : Prop :=
  ∃ row, storedToken w (self.hashRefreshToken token) = some row ∧ row.live = true ∧ w.clock < row.expiresAt ∧
    (idleRule kind && self.isSessionIdle row w.clock) = false

/-- What the first read must have found for a session to be opened. -/
def Leads : Request → World → Prop
  | .login dto, w => ∃ user, subject self (.login dto) w = some user ∧ user.deactivatedAt = none
  | .refresh kind token, w => Usable self kind token w
  | _, _ => False

def Creates (e : AccountEvent) : Prop := ∃ row ∈ e.after.tokens.rows, e.before.tokens.get? row.id = none

def Led (request : Request) (own : List AccountEvent) : Prop := ∃ first, own.getLast? = some first ∧ Leads self request first.before

/-- An erased account has no email. -/
def Erased (w : World) : Prop := ∀ user ∈ w.users.rows, user.deletedAt.isSome → user.email = none

structure Follows (config : AccountConfig) (request : Request) (own : List AccountEvent) (e : AccountEvent) : Prop where
  creates : Creates e → Led config request own
  erased : Erased e.before → Erased e.after

def Ends (request : Request) (own : List AccountEvent) (out : Except Exception α) : Prop := ∀ value, out = .ok value → Led self request own

def Answered (request : Request) (own : List AccountEvent) (out : Except Exception Reply) : Prop :=
  ∀ pair, out = .ok (.tokens pair) → Led self request own

section Calls

def Keeps (_ : Site) (w w' : World) : Prop := Erased w → Erased w'

structure Barren (site : Site) (w w' : World) : Prop where
  keeps : Keeps site w w'
  known : ∀ row ∈ w'.tokens.rows, w.tokens.get? row.id ≠ none

theorem barrenUsers {site : Site} {w w' : World} (same : w'.tokens = w.tokens) (keeps : Keeps site w w') : Barren site w w' := by
  refine ⟨keeps,fun row inside absent => ?_⟩
  rw [same] at inside
  cases absent.symm.trans (Table.memGet inside)

theorem barrenStay (site : Site) (w : World) : Barren site w w := barrenUsers rfl id

theorem barrenQuery {site : Site} (f : Answer → World → Except Exception α) : Acts Barren (Process.query site f) :=
  actsQuery (barrenStay site) f

theorem erasedModify {w : World} {id : String} {f : User → User} {keeps : ∀ row, (f row).id = row.id} {row : User} {users : Table User}
    (blank : ∀ row, (row.deletedAt.isSome → row.email = none) → (f row).deletedAt.isSome → (f row).email = none)
    (modified : w.users.modify id f keeps = some (row,users)) (erased : Erased w) :
    ∀ user ∈ users.rows, user.deletedAt.isSome → user.email = none := by
  obtain ⟨_,_,_,rfl⟩ := Table.modifyGet modified
  intro user inside
  obtain ⟨old,there,rfl⟩ := (Table.memUpdateMany _).mp inside
  split
  · exact blank old (erased old there)
  · exact erased old there

theorem barrenUpdateUser (id : String) {f : User → User} {keeps : ∀ row, (f row).id = row.id}
    (blank : ∀ row, (row.deletedAt.isSome → row.email = none) → (f row).deletedAt.isSome → (f row).email = none) :
    Acts Barren (updateUser id f keeps) := by
  refine actsTransact (barrenStay _) fun i w value w' ok => ?_
  split at ok <;> try contradiction
  split at ok <;> try contradiction
  rename_i row users modified
  cases ok
  exact barrenUsers rfl (erasedModify blank modified)

theorem barrenFailedLogin (userId : Option String) : Acts Barren (handleFailedLogin userId) := by
  cases userId with
  | none => exact actsBind (barrenQuery _) fun _ => trivial
  | some userId =>
    refine actsBind (barrenQuery _) fun _ => actsBind (barrenQuery _) fun ⟨found,now⟩ => ?_
    cases found with
    | none => trivial
    | some user =>
      dsimp only
      split
      · exact actsBind (barrenUpdateUser userId fun _ blank => blank) fun _ => trivial
      · exact actsBind (barrenUpdateUser userId fun _ blank => blank) fun _ => trivial

theorem barrenRevokeFamily (familyId : String) (now : Nat) : Acts Barren (revokeFamily familyId now) := by
  refine actsTransact (barrenStay _) fun i w value w' ok => ?_
  split at ok <;> try contradiction
  cases ok
  refine ⟨id,fun row inside absent => ?_⟩
  obtain ⟨old,there,same⟩ := List.mem_map.mp inside
  have key : old.id = row.id := by
    subst same
    split <;> rfl
  rw [← key] at absent
  cases absent.symm.trans (Table.memGet there)

theorem keepsBarren {p : Op α} (acts : Acts Barren p) : Acts Keeps p := actsMono (fun _ _ _ barren => barren.keeps) acts

theorem keepsCreate {site : Site} {row : RefreshToken} {w w' : World} (created : createToken row w = .ok ((),w')) : Keeps site w w' := by
  obtain ⟨_,tokens,_,rfl⟩ := createTokenCases created
  exact id

theorem keepsIssue (config : Config) (stampsUse : Bool) (user : User) : Acts Keeps (issueWith config stampsUse user) := by
  refine actsBind (keepsBarren (barrenQuery _)) fun familyId => actsBind (keepsBarren (barrenQuery _)) fun ⟨token,signedAt⟩ => ?_
  refine actsBind (actsTransact (fun _ => id) fun i w value w' ok => ?_) fun _ => trivial
  split at ok <;> try contradiction
  obtain ⟨_,_,created,last⟩ := bodyCommits.mp ok
  cases last
  exact keepsCreate created

theorem keepsRotate (config : Config) (rules : Rules) (stored : RefreshToken) (next : String) (nextExpiresAt now : Nat) :
    Acts Keeps (rotate config rules stored next nextExpiresAt now) := by
  refine actsTransact (fun _ => id) fun i w value w' ok => ?_
  split at ok <;> try contradiction
  obtain ⟨_,tokens,_,_,_,_,_,created⟩ := rotationCommits ok
  have keeps : Keeps (.rotate stored.id) { w with tokens := tokens } w' := keepsCreate created
  exact keeps

theorem keepsLogin (dto : LoginDto) (user : User) (passwordHash : String) : Acts Keeps (loginUser self dto user passwordHash) := by
  refine actsBind (keepsBarren (barrenQuery _)) fun ⟨verified,now⟩ => ?_
  dsimp only
  split
  · exact actsBind (keepsBarren (barrenFailedLogin _)) fun _ => trivial
  · split
    · exact actsBind (keepsBarren (barrenQuery _)) fun _ => trivial
    · split
      · exact actsBind (keepsBarren (barrenQuery _)) fun _ => trivial
      · refine actsBind (actsOfExcept _) fun isValid => ?_
        split
        · exact actsBind (keepsBarren (barrenFailedLogin _)) fun _ => trivial
        · refine actsBind (actsBind (keepsBarren (barrenUpdateUser user.id fun _ blank => blank)) fun _ => trivial) fun _ => ?_
          exact actsBind (keepsBarren (barrenQuery _)) fun _ => keepsIssue _ _ _

variable {self} {request : Request} {own : List AccountEvent}

theorem ledSuffix {older newer : List AccountEvent} (suffix : older <:+ newer) (led : Led self request older) : Led self request newer := by
  obtain ⟨later,rfl⟩ := suffix
  obtain ⟨first,found,leads⟩ := led
  exact ⟨first,by rw [List.getLast?_append,found,Option.some_or],leads⟩

/-- After a first read that leads on, anything may follow. -/
theorem guardedLed {p : Op α} (acts : Acts Keeps p) (led : Led self request own) :
    Guarded (Follows self request) (Ends self request) p own := by
  induction p generalizing own with
  | ret value => exact fun _ _ => led
  | raise error => exact fun _ _ => led
  | call site update next ih => exact fun thread i s => ⟨⟨fun _ => led,(acts i s).1⟩,ih i s (acts i s).2 (ledSuffix (List.suffix_cons _ _) led)⟩

theorem guardedRaise {error : Exception} : Guarded (Follows self request) (Ends self request) (.raise error : Op α) own :=
  fun _ same => by cases same

theorem followsBarren {e : AccountEvent} (barren : Barren e.site e.before e.after) : Follows self request own e := by
  refine ⟨fun creates => ?_,barren.keeps⟩
  obtain ⟨row,inside,absent⟩ := creates
  exact absurd absent (barren.known row inside)

theorem followsRead {thread : Nat} {site : Site} {i : Answer} {w : World} : Follows self request own ⟨thread,site,i,w,w⟩ :=
  followsBarren (barrenStay site w)

theorem guardedBarren {p : Op α} {k : α → Op β} (acts : Acts Barren p)
    (rest : ∀ value own, Guarded (Follows self request) (Ends self request) (k value) own) :
    Guarded (Follows self request) (Ends self request) (p >>= k) own := by
  refine guardedBind (guardedMono ?_ (guardedActs (fun _ _ _ barren => followsBarren barren) acts))
  intro own out _
  cases out with
  | ok value => exact rest value own
  | error error => exact fun _ same => by cases same

theorem guardedLogin (dto : LoginDto) :
    Guarded (Follows self (.login dto)) (Ends self (.login dto)) (login self dto) [] := by
  refine guardedBind (guardedQuery fun thread i w => ⟨followsRead,?_⟩)
  split
  · rename_i found out
    split at out
    · contradiction
    · cases out
      dsimp only
      split
      · exact guardedBarren (barrenFailedLogin none) fun _ _ => guardedRaise
      · rename_i user found
        split
        · exact guardedBarren (barrenFailedLogin _) fun _ _ => guardedRaise
        · rename_i passwordHash _
          cases active : user.deactivatedAt with
          | none => exact guardedLed (keepsLogin self dto user passwordHash) ⟨_,rfl,user,found,active⟩
          | some since =>
            refine guardedBarren (barrenQuery _) fun ⟨verified,now⟩ own => ?_
            dsimp only
            split
            · exact guardedBarren (barrenFailedLogin _) fun _ _ => guardedRaise
            · rw [if_pos (by rw [active]; rfl)]
              exact guardedBarren (barrenQuery _) fun _ _ => guardedRaise
  · exact fun _ same => by cases same

theorem guardedRefresh (kind : Service) (rules : Rules) (same : rules.checksIdle = idleRule kind) (token : String) :
    Guarded (Follows self (.refresh kind token)) (Ends self (.refresh kind token)) (refreshWith self.toConfig rules token) [] := by
  refine guardedBind (guardedQuery fun thread i w => ⟨followsRead,?_⟩)
  split
  · rename_i found out
    split at out
    · contradiction
    · split at out
      · cases out
        exact guardedRaise
      · rename_i row stored
        split at out
        · contradiction
        · rename_i user owner
          cases out
          dsimp only
          split
          · exact guardedBarren (barrenRevokeFamily _ _) fun _ _ => guardedRaise
          · rename_i unconsumed
            split
            · exact guardedRaise
            · rename_i valid
              split
              · exact guardedRaise
              · rename_i awake
                refine guardedLed ?_ ⟨_,rfl,row,stored,?_,?_,?_⟩
                · refine actsBind (keepsBarren (barrenQuery _)) fun signed => ?_
                  exact actsBind (keepsRotate _ _ _ _ _ _) fun _ => trivial
                · simp only [not_or,Bool.not_eq_true,Option.isSome_eq_false_iff] at unconsumed valid
                  rw [RefreshToken.live,unconsumed,valid.1]
                  rfl
                · exact Nat.lt_of_not_le fun expired => valid (Or.inr expired)
                · rw [← same]
                  exact Bool.eq_false_of_not_eq_true awake
  · exact fun _ same => by cases same

theorem barrenDeactivate (id : String) : Acts Barren (deactivateUser id) := by
  refine actsBind (barrenQuery _) fun ⟨found,now⟩ => ?_
  cases found with
  | none => trivial
  | some user =>
    dsimp only
    split
    · trivial
    · exact barrenUpdateUser id fun _ blank => blank

theorem barrenReactivate (id : String) : Acts Barren (reactivateUser id) := by
  refine actsBind (barrenQuery _) fun ⟨found,_⟩ => ?_
  cases found with
  | none => trivial
  | some user =>
    dsimp only
    split
    · trivial
    · exact barrenUpdateUser id fun _ blank => blank

theorem barrenReauthentication (user : User) (dto : DeleteAccountDto) : Acts Barren (requireReauthentication self user dto) := by
  unfold requireReauthentication
  split
  · split
    · trivial
    · refine actsBind (barrenQuery _) fun ⟨ok,_⟩ => ?_
      dsimp only
      split <;> trivial
  · split
    · split
      · trivial
      · split
        · trivial
        · split <;> trivial
    · trivial

theorem barrenErasure (userId : String) (dto : DeleteAccountDto) : Acts Barren (requestErasure self userId dto) := by
  refine actsBind (barrenQuery _) fun ⟨found,_⟩ => ?_
  cases found with
  | none => trivial
  | some user =>
    dsimp only
    split
    · trivial
    · refine actsBind (barrenReauthentication user dto) fun _ => actsBind (actsBind (barrenQuery _) fun ⟨activeCount,now⟩ => ?_) fun now => ?_
      · dsimp only
        split <;> trivial
      · refine actsBind (actsTransact (barrenStay _) fun i w value w' ok => ?_) fun _ => trivial
        split at ok <;> try contradiction
        unfold closeAccount at ok
        split at ok <;> try contradiction
        rename_i row users modified
        split at ok <;> try contradiction
        cases ok
        exact barrenUsers rfl (erasedModify (fun _ _ _ => rfl) modified)

theorem guardedTokens {p : Op TokenPair} (guarded : Guarded (Follows self request) (Ends self request) p own) :
    Guarded (Follows self request) (Answered self request) (p >>= fun pair => .ret (.tokens pair)) own := by
  refine guardedBind (guardedMono ?_ guarded)
  intro own out ends
  cases out with
  | ok pair => exact fun _ _ => ends pair rfl
  | error error => exact fun _ same => by cases same

theorem guardedOther {p : Op α} {reply : α → Reply} (acts : Acts Barren p) (other : ∀ value pair, reply value ≠ .tokens pair) :
    Guarded (Follows self request) (Answered self request) (p >>= fun value => .ret (reply value)) own := by
  refine guardedBind (guardedMono ?_ (guardedActs (fun _ _ _ barren => followsBarren barren) acts))
  intro own out _
  cases out with
  | ok value => exact fun pair same => absurd (Except.ok.inj same) (other value pair)
  | error error => exact fun _ same => by cases same

theorem guardedHandler (request : Request) : Guarded (Follows self request) (Answered self request) (handler self request) [] := by
  cases request with
  | login dto => exact guardedTokens (guardedLogin dto)
  | refresh kind token =>
    cases kind with
    | auth => exact guardedTokens (guardedRefresh .auth _ rfl token)
    | session => exact guardedTokens (guardedRefresh .session _ rfl token)
  | deactivateUser id => exact guardedOther (barrenDeactivate id) fun _ _ same => by cases same
  | reactivateUser id => exact guardedOther (barrenReactivate id) fun _ _ same => by cases same
  | requestErasure userId dto => exact guardedOther (barrenErasure userId dto) fun _ _ same => by cases same

end Calls

section Runs

structure Spared (c : Snapshot Site Answer World) : Prop where
  now : Erased c.world
  before : ∀ e ∈ c.history, Erased e.before

def FirstRead (pool : AccountPool) (k : Nat) (request : Request) (first : AccountEvent) : Prop :=
  (pool.threads[k]?).map Thread.request = some request ∧ (pool.own k).getLast? = some first

/-- No refresh starts from a usable token of a closed account. -/
def Unpresented (pool : AccountPool) : Prop :=
  ∀ k kind token first, FirstRead pool k (.refresh kind token) first → Usable self kind token first.before →
    ∀ user, subject self (.refresh kind token) first.before = some user → closed user = false

theorem firstRead {pool : AccountPool} {k : Nat} {request : Request} {first : AccountEvent} (read : FirstRead pool k request first) :
    first ∈ pool.history := (List.mem_filter.mp (List.mem_of_getLast? read.2)).1

end Runs

def plainAccounts : AccountConfig where
  toConfig := plain
  verifyPassword password passwordHash := passwordHash = s!"scrypt:{password}"
  verifyTotpCode _ _ _ := false
  verifyWalletSignature _ _ _ := false
  toLowerCase := id

def ann : User := { id := "ann", email := some "ann@x", credentials := { passwordHash := some "scrypt:pw" } }

def openAccount : World where
  users := .single ann
  tokens := .single (session "s0" "ann.f.0" none)
  clock := 1000

theorem openErased : Erased openAccount := by
  intro user inside gone
  cases List.mem_singleton.mp inside
  cases gone

def annLogin : LoginDto := { email := "ann@x", password := "pw" }

def deactivates : List AccountMove := [.start (.deactivateUser "ann"),.answer 0 {},.answer 0 {}]

end HireSettle.Auth.Accounts
