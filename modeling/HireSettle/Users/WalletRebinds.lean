import HireSettle.Users.EmailChanges

/-! Another wallet for a user. The nonce that both wallets sign is to come from a challenge
that the authentication service remembers; the request carries the nonce itself, and
nothing looks it up. The memory of the challenges and what issues them are parameters. -/
namespace HireSettle.Users.WalletRebinds
open Workflow
open EmailChanges (LoggedEvent SecurityEventAction)

variable {μ : Type}

structure World (μ : Type) where
  users : Table UserRow
  challenges : μ
  clock : Nat := 0
  engagements : Table Escrow.Engagement := Table.empty
  securityEvents : Table LoggedEvent := Table.empty

inductive Site where
  | generateRebindChallenge (userId : String)
  | findUser
  | countEngagements (stellarAddress : String)
  | findTaken
  | bindAddress (userId : String)
  | log
  deriving DecidableEq, Repr

abbrev Op (μ : Type) := Process Site Answer (World μ) Exception

structure Config (μ : Type) where
  isValidStellarAddress : String → Bool
  verifySignature : (address nonce signature : String) → Bool
  -- the nonce, or what is thrown
  generateRebindChallenge : (userId : String) → Answer → (now : Nat) → μ → Except Exception (String × μ)

structure RequestMeta where
  ip : Option String := none
  userAgent : Option String := none
  deriving DecidableEq, Repr

structure Rebind where
  userId : String
  newAddress : String
  nonce : String
  newSignature : String
  oldSignature : Option String := none
  requestMeta : RequestMeta := {}
  deriving DecidableEq, Repr

variable (config : Config μ)

def getRebindChallenge (userId : String) : Op μ String :=
  .transact (.generateRebindChallenge userId) fun answer w =>
    (config.generateRebindChallenge userId answer w.clock w.challenges).map fun (nonce,challenges) =>
      (nonce,{ w with challenges := challenges })

def read {α : Type} (site : Site) (f : World μ → α) : Op μ α :=
  .query site fun answer w => if answer.fails then .error .database else .ok (f w)

/-- The proofs that the user holds both wallets. -/
def checkSignatures (user : UserRow) (request : Rebind) : Except Exception Unit :=
  if !config.verifySignature request.newAddress request.nonce request.newSignature then
    .error (.badRequest "Invalid signature from new Stellar address. Sign the nonce with your new keypair.")
  else match present user.stellarAddress with
    | none => .ok ()
    | some stellarAddress =>
        match present request.oldSignature with
        | none => .error (.badRequest "oldSignature is required when the account already has a linked Stellar address.")
        | some oldSignature =>
            if !config.verifySignature stellarAddress request.nonce oldSignature then
              .error (.badRequest "Invalid signature from old Stellar address. Sign the nonce with your current keypair.")
            else .ok ()

def active : Escrow.EngagementStatus → Bool
  | .active => true
  | .pendingAcceptance => true
  | .replacementRequested => true
  | _ => false

def activeCount (stellarAddress : String) (w : World μ) : Nat :=
  w.engagements.count fun row => active row.status &&
    (row.companyAddress = stellarAddress || row.recruiterAddress = stellarAddress || row.arbiterAddress = stellarAddress)

def assertNoActiveEngagements (user : UserRow) : Op μ Unit :=
  match present user.stellarAddress with
  | none => return
  | some stellarAddress => do
      let count ← read (.countEngagements stellarAddress) fun w => activeCount stellarAddress w
      if 0 < count then
        .raise (.forbidden ("Cannot rebind Stellar address while you have active funded engagements. " ++
          "Complete or cancel all active engagements first."))
      else return

def boundRow (newAddress : String) (updatedAt : Nat) (row : UserRow) : UserRow :=
  { row with stellarAddress := some newAddress, updatedAt := updatedAt }

theorem boundKey (newAddress : String) (updatedAt : Nat) (row : UserRow) : Keyed.key (boundRow newAddress updatedAt row) = Keyed.key row := rfl

def holder (userId newAddress : String) (row : UserRow) : Bool := row.stellarAddress = some newAddress && row.id ≠ userId

def bindAddress (userId newAddress : String) (answer : Answer) (w : World μ) : Except Exception (Unit × World μ) :=
  if answer.fails then .error .database
  else if w.users.rows.any (holder userId newAddress) then .error .uniqueViolation
  else match w.users.modify userId (boundRow newAddress w.clock) (boundKey newAddress w.clock) with
    | none => .error .recordNotFound
    | some (_,users) => .ok ((),{ w with users := users })

-- the id is what the environment answers
def log (userId : String) (action : SecurityEventAction) (requestMeta : RequestMeta) (answer : Answer) (w : World μ) : Except Exception (Unit × World μ) :=
  if answer.fails then .error .database
  else match w.securityEvents.create { id := answer.text, userId := some userId, ip := requestMeta.ip, userAgent := requestMeta.userAgent, action := action } with
    | none => .error .uniqueViolation
    | some events => .ok ((),{ w with securityEvents := events })

def rebindStellarAddress (request : Rebind) : Op μ (String × String) := do
  if !config.isValidStellarAddress request.newAddress then .raise (.badRequest "Invalid Stellar address format")
  else do
    let found ← read .findUser fun w => w.users.get? request.userId
    match found with
    | none => .raise (.notFound "User not found")
    | some user =>
        if user.stellarAddress = some request.newAddress then
          .raise (.badRequest "New Stellar address must be different from the current one")
        else do
          Process.ofExcept (checkSignatures config user request)
          assertNoActiveEngagements user
          let taken ← read .findTaken fun w => w.users.findFirst (holder request.userId request.newAddress)
          if taken.isSome then .raise (.conflict "This Stellar address is already linked to another account")
          else do
            .transact (.bindAddress request.userId) (bindAddress request.userId request.newAddress)
            .transact .log (log request.userId .roleChange request.requestMeta)
            return ("Stellar address updated successfully.",request.newAddress)

inductive Request where
  | getRebindChallenge (userId : String)
  | rebindStellarAddress (request : Rebind)
  deriving DecidableEq, Repr

inductive Reply where
  | nonce (nonce : String)
  | updated (text stellarAddress : String)
  deriving DecidableEq, Repr

def handler : Request → Op μ Reply
  | .getRebindChallenge userId => do
      let nonce ← getRebindChallenge config userId
      return .nonce nonce
  | .rebindStellarAddress request => do
      let (text,stellarAddress) ← rebindStellarAddress config request
      return .updated text stellarAddress

/-- Only the time passes by itself. -/
def service : System Request Nat Site Answer (World μ) Exception Reply where
  handler := handler config
  environment elapsed w := { w with clock := w.clock + elapsed }

abbrev RebindEvent (μ : Type) := Event Site Answer (World μ)

abbrev RebindPool (μ : Type) := Pool Request Site Answer (World μ) Exception Reply

variable (usable : (userId nonce : String) → μ → Prop)

def REBIND_CHALLENGE_LIFETIME : Nat := 10 * 60 * 1000

/-- The challenge has been answered with the nonce. -/
def Issues (userId nonce : String) (d : RebindEvent μ) : Prop :=
  d.site = .generateRebindChallenge userId ∧
    ∃ challenges, config.generateRebindChallenge userId d.answer d.before.clock d.before.challenges = .ok (nonce,challenges)

def Succeeds (pool : RebindPool μ) (k : Nat) (request : Rebind) : Prop :=
  (∃ p, pool.threads[k]? = some ⟨.rebindStellarAddress request,p⟩) ∧ ∃ e ∈ pool.own k, e.site = .bindAddress request.userId ∧
    bindAddress request.userId request.newAddress e.answer e.before = .ok ((),e.after)

/-- The nonce was issued to the user in time, and the call takes it out of the memory. -/
def Redeems (pool : RebindPool μ) (k : Nat) (request : Rebind) : Prop :=
  ∃ d ∈ pool.history, Issues config request.userId request.nonce d ∧ ∃ e ∈ pool.own k, d.before.clock ≤ e.before.clock ∧
    e.before.clock ≤ d.before.clock + REBIND_CHALLENGE_LIFETIME ∧
    usable request.userId request.nonce e.before.challenges ∧ ¬ usable request.userId request.nonce e.after.challenges

structure FreshRebinds (pool : RebindPool μ) : Prop where
  redeems : ∀ k request, Succeeds pool k request → Redeems config usable pool k request
  alone : ∀ k k' request request', Succeeds pool k request → Succeeds pool k' request' → request.nonce = request'.nonce → k = k'

/-- The call does not refuse the request. -/
def Admits (request : Rebind) (e : RebindEvent μ) : Prop :=
  match e.site with
  | .findUser => e.answer.fails = false ∧ ∃ user ∈ e.before.users.get? request.userId,
      user.stellarAddress ≠ some request.newAddress ∧ checkSignatures config user request = .ok ()
  | .countEngagements stellarAddress => e.answer.fails = false ∧ activeCount stellarAddress e.before = 0
  | .findTaken => e.answer.fails = false ∧ e.before.users.findFirst (holder request.userId request.newAddress) = none
  | .bindAddress userId => e.answer.fails = false ∧ e.before.users.rows.any (holder userId request.newAddress) = false ∧
      (e.before.users.get? userId).isSome
  | _ => True

/-- The address has come to be written, and none of the calls has refused it. -/
def Admitted (pool : RebindPool μ) (k : Nat) (request : Rebind) : Prop :=
  (∃ p, pool.threads[k]? = some ⟨.rebindStellarAddress request,p⟩) ∧ (∃ e ∈ pool.own k, e.site = .bindAddress request.userId) ∧ ∀ e ∈ pool.own k, Admits config request e

section Calls

variable {request : Rebind} {own : List (RebindEvent μ)} {α : Type} {w w' : World μ} {answer : Answer}

theorem bindWrites {userId newAddress : String} : (∃ w', bindAddress userId newAddress answer w = .ok ((),w')) ↔
    answer.fails = false ∧ w.users.rows.any (holder userId newAddress) = false ∧ (w.users.get? userId).isSome := by
  unfold bindAddress Table.modify
  cases answer.fails with
  | true => simp
  | false =>
    cases w.users.rows.any (holder userId newAddress) with
    | true => simp
    | false => cases w.users.get? userId <;> simp

theorem bindKeeps {userId newAddress : String} (bound : bindAddress userId newAddress answer w = .ok ((),w')) : w'.challenges = w.challenges := by
  unfold bindAddress at bound
  split at bound
  · cases bound
  split at bound
  · cases bound
  split at bound <;> cases bound
  rfl

theorem logKeeps {userId : String} {action : SecurityEventAction} {requestMeta : RequestMeta}
    (logged : log userId action requestMeta answer w = .ok ((),w')) : w'.challenges = w.challenges := by
  unfold log at logged
  split at logged
  · cases logged
  split at logged <;> cases logged
  rfl

/-- What is known of each call of a rebind, from those before it. -/
structure Calls (request : Rebind) (own : List (RebindEvent μ)) (e : RebindEvent μ) : Prop where
  kept : e.after.challenges = e.before.challenges
  passed : ∀ d ∈ own, Admits config request d
  last : (∃ d ∈ own, d.site = .bindAddress request.userId) → e.site = .log
  writes : e.site = .bindAddress request.userId → Admits config request e →
    bindAddress request.userId request.newAddress e.answer e.before = .ok ((),e.after)

/-- The calls before the address is written. -/
def Known (request : Rebind) (own : List (RebindEvent μ)) : Prop :=
  ∀ d ∈ own, Admits config request d ∧ d.site ≠ .bindAddress request.userId

variable {config}

theorem knownCons {e : RebindEvent μ} (known : Known config request own) (admits : Admits config request e)
    (other : e.site ≠ .bindAddress request.userId) : Known config request (e :: own) := by
  intro d inside
  rcases List.mem_cons.mp inside with rfl | before
  · exact ⟨admits,other⟩
  · exact known d before

theorem callsOther {e : RebindEvent μ} (known : Known config request own) (kept : e.after.challenges = e.before.challenges)
    (other : e.site ≠ .bindAddress request.userId) : Calls config request own e :=
  ⟨kept,fun d inside => (known d inside).1,fun ⟨d,inside,site⟩ => absurd site (known d inside).2,fun site => absurd site other⟩

theorem guardedRead {done : List (RebindEvent μ) → Except Exception α → Prop} {site : Site} {f : World μ → α}
    (known : Known config request own) (other : site ≠ .bindAddress request.userId) (fails : ∀ own error, done own (.error error))
    (finds : ∀ thread i w, i.fails = false → done (⟨thread,site,i,w,w⟩ :: own) (.ok (f w))) :
    Guarded (Calls config request) done (read site f) own := by
  refine guardedQuery fun thread i w => ⟨callsOther known rfl other,?_⟩
  split
  · exact fails _ _
  · rename_i works
    exact finds thread i w (Bool.eq_false_iff.mpr works)

theorem guardedEngagements (user : UserRow) (known : Known config request own) :
    Guarded (Calls config request) (fun own' out => out = .ok () → Known config request own') (assertNoActiveEngagements user) own := by
  unfold assertNoActiveEngagements
  cases present user.stellarAddress with
  | none => exact fun _ => known
  | some stellarAddress =>
    refine guardedBind (guardedRead known (by simp) (fun _ _ => nofun) fun thread i w works => ?_)
    dsimp only
    split
    · exact nofun
    · rename_i none
      exact fun _ => knownCons known ⟨works,Nat.eq_zero_of_not_pos none⟩ (by simp)

theorem guardedWrite {newAddress : String} (same : request.newAddress = newAddress) (known : Known config request own) :
    Guarded (Calls config request) anyOutcome (do
      .transact (.bindAddress request.userId) (bindAddress request.userId newAddress)
      .transact .log (log request.userId .roleChange request.requestMeta)
      return ("Stellar address updated successfully.",newAddress)) own := by
  subst same
  refine guardedBind (guardedTransact (fun thread i w value w' bound => ⟨⟨bindKeeps bound,fun d inside => (known d inside).1,?_,?_⟩,?_⟩)
    fun thread i w error thrown => ⟨⟨rfl,fun d inside => (known d inside).1,?_,?_⟩,trivial⟩)
  · exact fun ⟨d,inside,site⟩ => absurd site (known d inside).2
  · exact fun _ _ => bound
  · have admits : Admits config request ⟨thread,.bindAddress request.userId,i,w,w'⟩ := bindWrites.mp ⟨w',bound⟩
    have passed : ∀ d ∈ ⟨thread,.bindAddress request.userId,i,w,w'⟩ :: own, Admits config request d := by
      intro d inside
      rcases List.mem_cons.mp inside with rfl | before
      · exact admits
      · exact (known d before).1
    refine guardedBind (guardedTransact (fun _ _ _ _ _ logged => ⟨⟨logKeeps logged,passed,fun _ => rfl,?_⟩,trivial⟩)
      fun _ _ _ _ _ => ⟨⟨rfl,passed,fun _ => rfl,?_⟩,trivial⟩)
    · exact fun site => absurd site (by simp)
    · exact fun site => absurd site (by simp)
  · exact fun ⟨d,inside,site⟩ => absurd site (known d inside).2
  · intro _ admits
    obtain ⟨w',bound⟩ := bindWrites.mpr admits
    cases thrown.symm.trans bound

theorem guardedRebind (request : Rebind) : Guarded (Calls config request) anyOutcome (rebindStellarAddress config request) [] := by
  unfold rebindStellarAddress
  split
  · trivial
  refine guardedBind (guardedRead (fun _ inside => absurd inside List.not_mem_nil) (by simp) (fun _ _ => trivial) fun thread i w works => ?_)
  cases found : w.users.get? request.userId with
  | none => trivial
  | some user =>
    dsimp only
    split
    · trivial
    rename_i differs
    cases signed : checkSignatures config user request with
    | error error => trivial
    | ok _ =>
      have known : Known config request [⟨thread,.findUser,i,w,w⟩] :=
        knownCons (fun _ inside => absurd inside List.not_mem_nil) ⟨works,user,found,differs,signed⟩ (by simp)
      refine guardedBind (guardedOfExcept ?_)
      refine guardedBind (guardedMono (fun own out passed => ?_) (guardedEngagements user known))
      cases out with
      | error error => trivial
      | ok _ =>
        refine guardedBind (guardedRead (passed rfl) (by simp) (fun _ _ => trivial) fun thread i w works => ?_)
        dsimp only
        split
        · trivial
        · rename_i free
          exact guardedWrite rfl (knownCons (passed rfl) ⟨works,by simpa using free⟩ (by simp))

variable (config) in
/-- Of the calls of the challenges nothing is asked. -/
def AnyCalls : Request → List (RebindEvent μ) → RebindEvent μ → Prop
  | .getRebindChallenge _, _, _ => True
  | .rebindStellarAddress request, own, e => Calls config request own e

theorem guardedHandler (request : Request) : Guarded (AnyCalls config request) anyOutcome (handler config request) [] := by
  cases request with
  | getRebindChallenge userId =>
    exact guardedThen (guardedTransact (fun _ _ _ _ _ _ => ⟨trivial,trivial⟩) fun _ _ _ _ _ => ⟨trivial,trivial⟩) fun _ _ => trivial
  | rebindStellarAddress request => exact guardedThen (guardedRebind request) fun _ _ => trivial

end Calls

section Runs

variable {pool : RebindPool μ} {k : Nat} {request : Rebind} {config}

theorem guardedRebinds (w : World μ) (moves : List (Move Request Nat Answer)) :
    GuardedEnds (AnyCalls config) (fun _ => anyOutcome) (fun _ => True) ((service config).run (Pool.initial w) moves) :=
  guardedRun (P := fun _ _ _ => True) (fun _ _ _ _ _ _ _ _ _ => trivial) (fun _ _ _ => trivial) (guardedHandler)
    (guardedInitial trivial) moves (meetsAlways (fun _ _ _ _ => trivial) _)

theorem succeedsIff (guarded : GuardedEnds (AnyCalls config) (fun _ => anyOutcome) (fun _ => True) pool) {p : Op μ Reply}
    (there : pool.threads[k]? = some ⟨.rebindStellarAddress request,p⟩) : Succeeds pool k request ↔ Admitted config pool k request := by
  have own : AllMeet (Calls config request) (pool.own k) := guardedOwn guarded there
  constructor
  · rintro ⟨_,e,inside,site,bound⟩
    have admits : Admits config request e := by
      simp only [Admits,site]
      exact bindWrites.mp ⟨_,bound⟩
    refine ⟨⟨p,there⟩,⟨e,inside,site⟩,fun d inside' => ?_⟩
    rcases meetsPair own inside' inside with rfl | ⟨earlier,before,calls⟩ | ⟨earlier,before,calls⟩
    · exact admits
    · have last := calls.last ⟨e,before,site⟩
      simp only [Admits,last]
    · exact calls.passed d before
  · rintro ⟨_,⟨e,inside,site⟩,all⟩
    obtain ⟨_,_,calls⟩ := meetsAt own inside
    exact ⟨⟨p,there⟩,e,inside,site,calls.writes site (all e inside)⟩

/-- A rebind takes no nonce out. -/
theorem neverRedeems (guarded : GuardedEnds (AnyCalls config) (fun _ => anyOutcome) (fun _ => True) pool) {p : Op μ Reply}
    (there : pool.threads[k]? = some ⟨.rebindStellarAddress request,p⟩) (usable : (userId nonce : String) → μ → Prop) :
    ¬ Redeems config usable pool k request := by
  rintro ⟨_,_,_,e,inside,_,_,open',closed⟩
  obtain ⟨_,_,calls⟩ := meetsAt (guardedOwn guarded there) inside
  exact closed (calls.kept.symm ▸ open')

end Runs

theorem rebindsFreshIff (w : World μ) (moves : List (Move Request Nat Answer)) :
    FreshRebinds config usable ((service config).run (Pool.initial w) moves) ↔
      ∀ k request, ¬ Admitted config ((service config).run (Pool.initial w) moves) k request := by
  have guarded : GuardedEnds (AnyCalls config) (fun _ => anyOutcome) (fun _ => True) ((service config).run (Pool.initial w) moves) :=
    guardedRebinds w moves
  generalize (service config).run (Pool.initial w) moves = pool at guarded
  constructor
  · intro fresh k request admitted
    obtain ⟨p,there⟩ := admitted.1
    exact neverRedeems guarded there usable (fresh.redeems k request ((succeedsIff guarded there).mpr admitted))
  · intro none
    have never : ∀ k request, ¬ Succeeds pool k request := fun k request succeeds => by
      obtain ⟨p,there⟩ := succeeds.1
      exact none k request ((succeedsIff guarded there).mp succeeds)
    exact ⟨fun k request succeeds => absurd succeeds (never k request),fun k _ request _ succeeds => absurd succeeds (never k request)⟩

/-- Challenges as they are described: the nonce of a user, until when. -/
def described : Config (List (String × String × Nat)) where
  isValidStellarAddress _ := true
  -- a key signs by its name
  verifySignature address _ signature := signature = address
  generateRebindChallenge userId answer now challenges := .ok (answer.text,(userId,answer.text,now + REBIND_CHALLENGE_LIFETIME) :: challenges)

def outstanding (userId nonce : String) (challenges : List (String × String × Nat)) : Prop :=
  ∃ expiresAt, (userId,nonce,expiresAt) ∈ challenges

def walletUsers : World (List (String × String × Nat)) where
  users := ⟨[{ id := "u", stellarAddress := some "G1" },{ id := "v" }],by decide⟩
  challenges := []

-- the wallet of u moves on and back again with the nonce of v
def replayed : List (Move Request Nat Answer) :=
  [.start (.getRebindChallenge "v"),.answer 0 { text := "n" },.environment 3600000,
    .start (.rebindStellarAddress { userId := "u", newAddress := "G2", nonce := "n", newSignature := "G2", oldSignature := some "G1" }),
    .answer 1 {},.answer 1 {},.answer 1 {},.answer 1 {},.answer 1 { text := "e1" },
    .start (.rebindStellarAddress { userId := "u", newAddress := "G1", nonce := "n", newSignature := "G1", oldSignature := some "G2" }),
    .answer 2 {},.answer 2 {},.answer 2 {},.answer 2 {},.answer 2 { text := "e2" }]

/-- An old nonce of another user moves a wallet twice. -/
theorem challengeReplayed : ¬ FreshRebinds described outstanding ((service described).run (Pool.initial walletUsers) replayed) := by
  intro fresh
  have first : Succeeds ((service described).run (Pool.initial walletUsers) replayed) 1
      { userId := "u", newAddress := "G2", nonce := "n", newSignature := "G2", oldSignature := some "G1" } :=
    ⟨⟨_,rfl⟩,_,List.mem_of_getElem? (i := 1) rfl,rfl,rfl⟩
  have second : Succeeds ((service described).run (Pool.initial walletUsers) replayed) 2
      { userId := "u", newAddress := "G1", nonce := "n", newSignature := "G1", oldSignature := some "G2" } :=
    ⟨⟨_,rfl⟩,_,List.mem_of_getElem? (i := 1) rfl,rfl,rfl⟩
  exact absurd (fresh.alone 1 2 _ _ first second rfl) (by decide)

end HireSettle.Users.WalletRebinds
