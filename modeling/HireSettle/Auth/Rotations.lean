import HireSettle.Auth.SessionReuse
import HireSettle.Workflow.Sequential

/-! The tokens of one family, refreshed call after call. A refresh token is signed over
its user, its family and the second of the signing, so a refresh within the second of
the token it presents signs that token again, and the table refuses its hash. -/
namespace HireSettle.Auth
open Workflow

def Service.rules : Service → Rules
  | .auth => { checksIdle := false, stampsUse := false }
  | .session => { checksIdle := true, stampsUse := true }

-- how long each of its three calls takes, and the id its row is given
structure Call where
  service : Service
  read : Nat
  sign : Nat
  rotate : Nat
  id : String
  deriving DecidableEq, Repr

def Call.answers (call : Call) : List (Nat × Answer) := [(call.read,{}),(call.sign,{}),(call.rotate,{ text := call.id })]

/-- The row holds the token its family was signed at this second, and no token of a later second is stored. -/
structure Newest (config : Config) (w : World) (row : RefreshToken) (user : User) (second : Nat) : Prop where
  stored : storedToken w (config.hashRefreshToken (config.signRefresh user.id row.familyId second)) = some row
  owner : w.users.get? row.userId = some user
  live : row.live = true
  past : second ≤ w.clock / 1000
  unsigned : ∀ later, second < later → storedToken w (config.hashRefreshToken (config.signRefresh user.id row.familyId later)) = none

variable (self : Config)

def refreshed (pool : AuthPool) (token : String) (call : Call) : AuthPool :=
  (service self).serveTimed pool (.refresh call.service token) call.answers

def Answers (pool : AuthPool) (token : String) (call : Call) (pair : TokenPair) : Prop :=
  (refreshed self pool token call).threads[pool.threads.length]? = some ⟨.refresh call.service token,.ret (.tokens pair)⟩

/-- Each call presents the token that the previous one returned, neither expired nor idle when it is read. -/
def Presented : AuthPool → String → List Call → Prop
  | _, _, [] => True
  | pool, token, call :: rest =>
      (∀ row, storedToken pool.world (self.hashRefreshToken token) = some row → pool.world.clock + call.read < row.expiresAt ∧
        (call.service = .session → self.isSessionIdle row (pool.world.clock + call.read) = false)) ∧
      pool.world.tokens.get? call.id = none ∧
      ∀ pair, Answers self pool token call pair → Presented (refreshed self pool token call) pair.refreshToken rest

/-- Every call returns a token that was not stored before and is stored and live after it. -/
def Renews (familyId : String) : AuthPool → String → List Call → Prop
  | _, _, [] => True
  | pool, token, call :: rest =>
      ∃ pair row, Answers self pool token call pair ∧
        (∀ old ∈ pool.world.tokens.rows, old.tokenHash ≠ self.hashRefreshToken pair.refreshToken) ∧
        storedToken (refreshed self pool token call).world (self.hashRefreshToken pair.refreshToken) = some row ∧
        row.live = true ∧ row.familyId = familyId ∧ Renews familyId (refreshed self pool token call) pair.refreshToken rest

/-- Each call signs in a later second than the token it presents was signed in. -/
def Spaced : (clock second : Nat) → List Call → Prop
  | _, _, [] => True
  | clock, second, call :: rest =>
      second < (clock + call.read + call.sign) / 1000 ∧
        Spaced (clock + call.read + call.sign + call.rotate) ((clock + call.read + call.sign) / 1000) rest

section Step

variable {self} {w : World} {row : RefreshToken} {user : User} {second : Nat} {call : Call}

theorem storedUpdate {p : RefreshToken → Bool} {f : RefreshToken → RefreshToken} {keeps : ∀ r, Keyed.key (f r) = Keyed.key r}
    (same : ∀ r, (f r).tokenHash = r.tokenHash) (hash : String) :
    (storedToken { w with tokens := w.tokens.updateMany p f keeps } hash).isSome = (storedToken w hash).isSome := by
  rw [storedToken,Table.findFirstUpdateMany _ keeps (fun r => by rw [same r]),Option.isSome_map,storedToken]

theorem consumesLive (rules : Rules) (found : w.tokens.get? row.id = some row) (live : row.live = true) (now : Nat) :
    ∃ tokens, consumeToken rules row.id now w = .ok (1,{ w with tokens := tokens }) ∧
      (∀ hash, (storedToken { w with tokens := tokens } hash).isSome = (storedToken w hash).isSome) ∧
      ∀ id, w.tokens.get? id = none → tokens.get? id = none := by
  have count := Table.countKey w.tokens row.id RefreshToken.live
  rw [found,Option.any_some,if_pos live] at count
  refine ⟨_,congrArg (fun n => Except.ok (n,_)) count,storedUpdate fun _ => rfl,fun id free => ?_⟩
  rw [Table.getUpdateMany,free,Option.map_none]

theorem rotationStores (rules : Rules) (found : w.tokens.get? row.id = some row) (live : row.live = true) {next id : String}
    (free : storedToken w (self.hashRefreshToken next) = none) (new : w.tokens.get? id = none) (nextExpiresAt now : Nat) :
    ∃ tokens created, rotation self rules row next nextExpiresAt now id w = .ok (w.clock,{ w with tokens := tokens }) ∧
      storedToken { w with tokens := tokens } (self.hashRefreshToken next) = some created ∧
      created.live = true ∧ created.userId = row.userId ∧ created.familyId = row.familyId ∧
      ∀ hash, hash ≠ self.hashRefreshToken next → storedToken w hash = none → storedToken { w with tokens := tokens } hash = none := by
  obtain ⟨consumed,consumes,hashes,ids⟩ := consumesLive rules found live now
  have absent {hash : String} (unknown : storedToken w hash = none) : storedToken { w with tokens := consumed } hash = none := by
    rw [← Option.isNone_iff_eq_none,← Option.not_isSome,hashes,unknown,Option.isSome_none,Bool.not_false]
  let created : RefreshToken :=
    { id := id
      userId := row.userId
      tokenHash := self.hashRefreshToken next
      familyId := row.familyId
      expiresAt := nextExpiresAt
      lastUsedAt := if rules.stampsUse then some now else none
      createdAt := w.clock }
  obtain ⟨tokens,stores⟩ : ∃ tokens, consumed.create created = some tokens := by
    rw [Table.create,dif_pos (show consumed.get? (Keyed.key created) = none from ids id new)]
    exact ⟨_,rfl⟩
  have found (hash : String) : storedToken { w with tokens := tokens } hash =
      (storedToken { w with tokens := consumed } hash).or (if self.hashRefreshToken next = hash then some created else none) := by
    rw [storedToken,Table.findFirstCreate stores]
    simp only [decide_eq_true_eq]
    rfl
  refine ⟨tokens,created,?_,?_,rfl,rfl,rfl,fun hash other free => ?_⟩
  · refine bodyCommits.mpr ⟨1,_,consumes,?_⟩
    refine bodyCommits.mpr ⟨_,_,rfl,bodyCommits.mpr ⟨(),{ w with tokens := tokens },?_,rfl⟩⟩
    rw [createToken,absent free]
    simp only [Option.isSome_none,Bool.false_eq_true,if_false]
    rw [show consumed.create _ = some tokens from stores]
  · rw [found,absent free,Option.none_or,if_pos rfl]
  · rw [found,absent free,Option.none_or,if_neg other.symm]

theorem rotationRefused (rules : Rules) (found : w.tokens.get? row.id = some row) (live : row.live = true) {next : String}
    (taken : (storedToken w (self.hashRefreshToken next)).isSome) (nextExpiresAt now : Nat) (id : String) :
    rotation self rules row next nextExpiresAt now id w = .error .uniqueViolation := by
  obtain ⟨consumed,consumes,hashes,_⟩ := consumesLive rules found live now
  refine bodyThrows.mpr (Or.inr ⟨1,_,consumes,bodyThrows.mpr (Or.inr ⟨_,_,rfl,bodyThrows.mpr (Or.inl ?_)⟩)⟩)
  rw [createToken,hashes,taken,if_pos rfl]

theorem timedFinds {hash : String} {k : Option (RefreshToken × User) × Nat → Op Reply} {elapsed : Nat} {rest : List (Nat × Answer)}
    (stored : storedToken w hash = some row) (owner : w.users.get? row.userId = some user) :
    (findStored hash >>= k).timed (service self).environment ((elapsed,{}) :: rest) w =
      (k (some (row,user),w.clock + elapsed)).timed (service self).environment rest { w with clock := w.clock + elapsed } := by
  refine timedQuery ?_
  rw [if_neg (by simp)]
  rw [show storedToken ((service self).environment elapsed w) hash = some row from stored]
  dsimp only
  rw [show ((service self).environment elapsed w).users.get? row.userId = some user from owner]
  rfl

theorem timedSigns {familyId : String} {k : String × Nat → Op Reply} {elapsed : Nat} {rest : List (Nat × Answer)} :
    (signRefreshToken self user familyId >>= k).timed (service self).environment ((elapsed,{}) :: rest) w =
      (k (self.signRefresh user.id familyId ((w.clock + elapsed) / 1000),w.clock + elapsed)).timed (service self).environment rest
        { w with clock := w.clock + elapsed } := timedQuery rfl

theorem liveParts (live : row.live = true) : row.consumedAt.isSome = false ∧ row.revokedAt.isSome = false := by
  simpa [RefreshToken.live] using live

theorem handlerRefresh (kind : Service) (token : String) :
    handler self (.refresh kind token) = refreshWith self kind.rules token >>= fun pair => .ret (.tokens pair) := by
  cases kind <;> rfl

/-- A refresh whose token is live, unexpired and not idle signs the next one and tries to store it. -/
theorem refreshSigns {token : String} (stored : storedToken w (self.hashRefreshToken token) = some row)
    (owner : w.users.get? row.userId = some user) (live : row.live = true) (unexpired : w.clock + call.read < row.expiresAt)
    (awake : call.service = .session → self.isSessionIdle row (w.clock + call.read) = false) :
    (handler self (.refresh call.service token)).timed (service self).environment call.answers w =
      (rotate self call.service.rules row (self.signRefresh user.id row.familyId ((w.clock + call.read + call.sign) / 1000))
          (self.refreshExpiryDate (w.clock + call.read + call.sign)) (w.clock + call.read) >>= fun rotatedAt =>
        .ret (.tokens ⟨self.signAccessToken user rotatedAt,
          self.signRefresh user.id row.familyId ((w.clock + call.read + call.sign) / 1000),user⟩)).timed
        (service self).environment [(call.rotate,{ text := call.id })] { w with clock := w.clock + call.read + call.sign } := by
  have fits : (call.service.rules.checksIdle && self.isSessionIdle row (w.clock + call.read)) = false := by
    cases kind : call.service with
    | auth => rfl
    | session => rw [awake kind,Bool.and_false]
  obtain ⟨unconsumed,unrevoked⟩ := liveParts live
  rw [handlerRefresh,refreshWith,Process.bindAssoc,Call.answers,timedFinds stored owner]
  dsimp only
  rw [unconsumed,unrevoked,fits,if_neg Bool.false_ne_true,if_neg (by simp; omega),if_neg Bool.false_ne_true,Process.bindAssoc,timedSigns]
  dsimp only
  rw [Process.bindAssoc]
  rfl

theorem answersUnique {pool : AuthPool} {token : String} {pair pair' : TokenPair} (answers : Answers self pool token call pair)
    (answers' : Answers self pool token call pair') : pair = pair' := by
  have same := Option.some.inj (answers.symm.trans answers')
  cases same
  rfl

theorem answersIff {pool : AuthPool} {token : String} {pair : TokenPair} :
    Answers self pool token call pair ↔
      ((handler self (.refresh call.service token)).timed (service self).environment call.answers pool.world).1 = .ret (.tokens pair) := by
  rw [Answers,refreshed,(servedTimed _ _ _ _).1,List.getElem?_concat_length]
  simp only [Option.some.injEq,Thread.mk.injEq,true_and]
  rfl

variable {pool : AuthPool}

/-- In a later second the next token is new, and it is the newest from then on. -/
theorem refreshStores (hashes : Function.Injective self.sha256) (signs : ∀ sub familyId, Function.Injective (self.signRefresh sub familyId))
    (newest : Newest self pool.world row user second) (unexpired : pool.world.clock + call.read < row.expiresAt)
    (awake : call.service = .session → self.isSessionIdle row (pool.world.clock + call.read) = false)
    (new : pool.world.tokens.get? call.id = none) (later : second < (pool.world.clock + call.read + call.sign) / 1000) :
    ∃ accessToken created,
      Answers self pool (self.signRefresh user.id row.familyId second) call
        ⟨accessToken,self.signRefresh user.id row.familyId ((pool.world.clock + call.read + call.sign) / 1000),user⟩ ∧
      created.familyId = row.familyId ∧
      (refreshed self pool (self.signRefresh user.id row.familyId second) call).world.clock =
        pool.world.clock + call.read + call.sign + call.rotate ∧
      Newest self (refreshed self pool (self.signRefresh user.id row.familyId second) call).world created user
        ((pool.world.clock + call.read + call.sign) / 1000) := by
  obtain ⟨tokens,created,rotated,stored,alive,owner,family,others⟩ :=
    rotationStores (w := { pool.world with clock := pool.world.clock + call.read + call.sign + call.rotate })
      call.service.rules (Table.findFirstGet newest.stored).1 newest.live (newest.unsigned _ later) new
      (self.refreshExpiryDate (pool.world.clock + call.read + call.sign)) (pool.world.clock + call.read)
  have ends := (refreshSigns newest.stored newest.owner newest.live unexpired awake).trans (timedTransact rotated)
  have world : (refreshed self pool (self.signRefresh user.id row.familyId second) call).world =
      { pool.world with tokens := tokens, clock := pool.world.clock + call.read + call.sign + call.rotate } :=
    (servedTimed _ _ _ _).2.trans (congrArg Prod.snd ends)
  refine ⟨_,created,answersIff.mpr (congrArg Prod.fst ends),family,by rw [world],?_⟩
  rw [world]
  refine ⟨family ▸ stored,owner ▸ newest.owner,alive,by dsimp only; omega,fun second' past => ?_⟩
  rw [family]
  refine others _ (fun same => ?_) (newest.unsigned second' (later.trans past))
  exact absurd (signs _ _ (hashes same)) (Nat.ne_of_gt past)

/-- In the same second the next token is the one it presents. -/
theorem refreshRepeats (newest : Newest self pool.world row user second) (unexpired : pool.world.clock + call.read < row.expiresAt)
    (awake : call.service = .session → self.isSessionIdle row (pool.world.clock + call.read) = false)
    (early : ¬ second < (pool.world.clock + call.read + call.sign) / 1000) (pair : TokenPair) :
    ¬ Answers self pool (self.signRefresh user.id row.familyId second) call pair := by
  have same : (pool.world.clock + call.read + call.sign) / 1000 = second := by
    have past := newest.past
    omega
  have refused : rotation self call.service.rules row
      (self.signRefresh user.id row.familyId ((pool.world.clock + call.read + call.sign) / 1000))
      (self.refreshExpiryDate (pool.world.clock + call.read + call.sign)) (pool.world.clock + call.read) call.id
      { pool.world with clock := pool.world.clock + call.read + call.sign + call.rotate } = .error .uniqueViolation := by
    have found : ({ pool.world with clock := pool.world.clock + call.read + call.sign + call.rotate } : World).tokens.get? row.id = some row :=
      (Table.findFirstGet newest.stored).1
    refine rotationRefused _ found newest.live ?_ _ _ _
    rw [same]
    exact Option.isSome_of_eq_some newest.stored
  have ends := (refreshSigns newest.stored newest.owner newest.live unexpired awake).trans (timedThrows refused)
  rw [answersIff,ends]
  nofun

end Step

/-- Every refresh of a family returns a new token, stored and live, exactly if each signs in a later second than the one before. -/
theorem renewsSpaced (hashes : Function.Injective self.sha256) (signs : ∀ sub familyId, Function.Injective (self.signRefresh sub familyId))
    {pool : AuthPool} {row : RefreshToken} {user : User} {second : Nat} (newest : Newest self pool.world row user second)
    (calls : List Call) (presented : Presented self pool (self.signRefresh user.id row.familyId second) calls) :
    Renews self row.familyId pool (self.signRefresh user.id row.familyId second) calls ↔ Spaced pool.world.clock second calls := by
  induction calls generalizing pool row second with
  | nil => exact iff_of_true trivial trivial
  | cons call rest ih =>
    obtain ⟨readable,new,onwards⟩ := presented
    obtain ⟨unexpired,awake⟩ := readable row newest.stored
    by_cases later : second < (pool.world.clock + call.read + call.sign) / 1000
    · obtain ⟨accessToken,created,answers,family,clock,newest'⟩ := refreshStores hashes signs newest unexpired awake new later
      have next := ih newest' (family ▸ onwards _ answers)
      rw [clock,family] at next
      rw [Spaced,← next]
      constructor
      · rintro ⟨pair,_,answers',_,_,_,_,renews⟩
        cases answersUnique answers answers'
        exact ⟨later,renews⟩
      · rintro ⟨_,renews⟩
        refine ⟨_,created,answers,fun old inside same => ?_,family ▸ newest'.stored,newest'.live,family,renews⟩
        have absent := List.find?_eq_none.mp (newest.unsigned _ later) old inside
        simp [same] at absent
    · refine iff_of_false ?_ fun spaced => later spaced.1
      rintro ⟨pair,_,answers,_⟩
      exact refreshRepeats newest unexpired awake later pair answers

theorem plainHashes : Function.Injective plain.sha256 := fun _ _ same => (String.append_right_inj "sha256:").mp (by simpa [plain,ToString.toString] using same)

theorem plainSigns (sub familyId : String) : Function.Injective (plain.signRefresh sub familyId) := by
  intro second second' same
  have digits : second.repr = second'.repr := by simpa [plain,ToString.toString,String.append_assoc] using same
  rw [Nat.repr_eq_ofList_toDigits,Nat.repr_eq_ofList_toDigits] at digits
  simpa using congrArg (Nat.ofDigitChars 10 · 0) (String.ofList_injective digits)

theorem firstNewest : Newest plain firstToken (session "s0" "ann.f.0" none) { id := "ann" } 0 := by
  refine ⟨rfl,rfl,rfl,Nat.le_refl 0,fun later past => ?_⟩
  have other : plain.sha256 (plain.signRefresh "ann" "f" 0) ≠ plain.hashRefreshToken (plain.signRefresh "ann" "f" later) := fun same =>
    absurd (plainSigns "ann" "f" (plainHashes same)) (Nat.ne_of_lt past)
  refine List.find?_eq_none.mpr fun row inside => ?_
  cases List.mem_singleton.mp inside
  exact fun same => other (of_decide_eq_true same)

def secondLater : Call := { service := .session, read := 1000, sign := 0, rotate := 0, id := "s1" }

def sameSecond : Call := { service := .auth, read := 500, sign := 0, rotate := 0, id := "s1" }

/-- A refresh one second after the login. -/
theorem renewsOnce : Renews plain "f" (Pool.initial firstToken) "ann.f.0" [secondLater] := by
  have presented : Presented plain (Pool.initial firstToken) "ann.f.0" [secondLater] := by
    refine ⟨fun row found => ?_,rfl,fun _ _ => trivial⟩
    cases (show some (session "s0" "ann.f.0" none) = some row from found)
    exact ⟨by decide +kernel,fun _ => by decide +kernel⟩
  have newest : Newest plain (Pool.initial firstToken : AuthPool).world (session "s0" "ann.f.0" none) { id := "ann" } 0 := firstNewest
  exact (renewsSpaced plain plainHashes plainSigns newest [secondLater] presented).mpr ⟨by decide +kernel,trivial⟩

/-- A refresh half a second after the login signs the same token again, and fails. -/
theorem sameSecondFails :
    Newest plain firstToken (session "s0" "ann.f.0" none) { id := "ann" } 0 ∧
    Presented plain (Pool.initial firstToken) "ann.f.0" [sameSecond] ∧
    (refreshed plain (Pool.initial firstToken) "ann.f.0" sameSecond).threads =
      [⟨.refresh .auth "ann.f.0",.raise .uniqueViolation⟩] ∧
    ¬ Renews plain "f" (Pool.initial firstToken) "ann.f.0" [sameSecond] := by
  have fails : (refreshed plain (Pool.initial firstToken) "ann.f.0" sameSecond).threads =
      [⟨.refresh .auth "ann.f.0",.raise .uniqueViolation⟩] := rfl
  refine ⟨firstNewest,⟨fun row found => ?_,rfl,fun _ _ => trivial⟩,fails,?_⟩
  · cases (show some (session "s0" "ann.f.0" none) = some row from found)
    exact ⟨by decide +kernel,nofun⟩
  · rintro ⟨pair,_,answers,_⟩
    have ended := congrArg (·[0]?) fails
    cases answers.symm.trans ended

end HireSettle.Auth
