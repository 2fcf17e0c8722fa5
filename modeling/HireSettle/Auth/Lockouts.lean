import HireSettle.Auth.Accounts
import HireSettle.Auth.SessionReuse

/-! The lock of an account after failed logins. A failed login stores a count one above the
one it has read, and from the fifth on a lock; a successful one sets both back. Each does so
in calls of its own, so that concurrent logins may pass each other. -/
namespace HireSettle.Auth.Lockouts
open Workflow Accounts

abbrev LoginEvent := Event Site Answer World

abbrev LoginPool := Pool LoginDto Site Answer World Exception TokenPair

abbrev LoginMove := Move LoginDto Nat Answer

def logins (self : AccountConfig) : System LoginDto Nat Site Answer World Exception TokenPair where
  handler := login self
  environment elapsed w := { w with clock := w.clock + elapsed }

-- the user whom a login names
def account (self : AccountConfig) (dto : LoginDto) (w : World) : Option User :=
  w.users.findFirst fun row => row.email = some (self.toLowerCase dto.email)

def failedLoginAttempts (userId : String) (w : World) : Nat := (w.users.get? userId).elim 0 fun row => row.credentials.failedLoginAttempts

def lockedUntil (userId : String) (w : World) : Option Nat := (w.users.get? userId).bind fun row => row.credentials.lockedUntil

def lockoutDuration : Nat := lockoutDurationMinutes * 60 * 1000

/-- The last call of a failed login, which stores its count. -/
def fails (userId : String) (e : LoginEvent) : Bool :=
  e.site = .updateUser userId && !e.answer.fails && failedLoginAttempts userId e.after ≠ 0

def resets (userId : String) (e : LoginEvent) : Bool :=
  e.site = .updateUser userId && !e.answer.fails && (e.after.users.get? userId).any fun row => row.credentials.failedLoginAttempts = 0

/-- The last call of a successful login, which stores a session. -/
def opens (userId : String) (e : LoginEvent) : Bool :=
  match e.site with
  | .createSession _ =>
      !e.answer.fails && e.after.tokens.rows.any fun row => row.userId = userId && (e.before.tokens.get? row.id).isNone
  | _ => false

-- what has happened since the last successful login, the latest first
def sinceSuccess (userId : String) (history : List LoginEvent) : List LoginEvent := history.takeWhile fun e => !opens userId e

def failures (userId : String) (history : List LoginEvent) : List LoginEvent := (sinceSuccess userId history).filter (fails userId)

/-- The failed logins since the last successful one lock the account. -/
def Locked (userId : String) (history : List LoginEvent) (now : Nat) : Prop :=
  maxFailedAttempts ≤ (failures userId history).length ∧ ∃ last ∈ (failures userId history).head?, now < last.before.clock + lockoutDuration

/-- A login that has returned tokens has not started while the account was locked. -/
def LockoutHolds (userId : String) (pool : LoginPool) : Prop :=
  ∀ k dto pair, pool.threads[k]? = some ⟨dto,.ret pair⟩ → pair.user.id = userId → ∀ earlier e, e :: earlier <:+ pool.history →
    e.thread = k → (∀ d ∈ earlier, d.thread ≠ k) → ¬ Locked userId earlier e.before.clock

-- the first call of the thread of an event
def opening (earlier : List LoginEvent) (e : LoginEvent) : Option LoginEvent := (earlier.filter fun d => d.thread = e.thread).getLast?

/-- How the calls of the logins of a user are to follow each other. -/
structure Orderly (config : AccountConfig) (userId : String) (dto : LoginDto) (earlier : List LoginEvent) (e : LoginEvent) : Prop where
  counted : fails userId e = true → ∀ read ∈ previous earlier e,
    failedLoginAttempts userId read.before = failedLoginAttempts userId e.before
  stamped : fails userId e = true → ∀ read ∈ previous earlier e,
    maxFailedAttempts ≤ failedLoginAttempts userId read.before + 1 → read.before.clock = e.before.clock
  returned : fails userId e = true → ∀ d ∈ sinceSuccess userId earlier, resets userId d = true →
    failedLoginAttempts userId d.before = 0
  unlocked : resets userId e = true → ∀ first ∈ opening earlier e,
    lockedUntil userId e.before = none ∨ lockedUntil userId e.before = lockedUntil userId first.before
  timely : e.site = .scrypt → ∀ first ∈ opening earlier e, ∀ user ∈ account config dto first.before, user.id = userId →
    ∀ lock ∈ lockedUntil userId first.before, first.before.clock < lock → e.before.clock < lock

instance (config : AccountConfig) (userId : String) (dto : LoginDto) (earlier : List LoginEvent) (e : LoginEvent) :
    Decidable (Orderly config userId dto earlier e) :=
  decidable_of_iff (_ ∧ _ ∧ _ ∧ _ ∧ _) ⟨fun ⟨a,b,c,d,f⟩ => ⟨a,b,c,d,f⟩,fun ⟨a,b,c,d,f⟩ => ⟨a,b,c,d,f⟩⟩

section Calls

variable (config : AccountConfig) (dto : LoginDto)

/-- The login has found the lock that it read to be over. -/
def Tested (own : List LoginEvent) (userId : String) : Prop :=
  ∃ test before first user, test :: before <:+ own ∧ test.site = .scrypt ∧ before.getLast? = some first ∧
    account config dto first.before = some user ∧ user.id = userId ∧
    ∀ lock ∈ lockedUntil userId first.before, lock ≤ test.before.clock

/-- What is known of each call of a login. -/
structure Does (own : List LoginEvent) (e : LoginEvent) : Prop where
  clock : e.after.clock = e.before.clock
  quiet : ∀ userId, fails userId e = false → resets userId e = false →
    failedLoginAttempts userId e.after = failedLoginAttempts userId e.before ∧ lockedUntil userId e.after = lockedUntil userId e.before
  fails : ∀ userId, fails userId e = true → ∃ read, own.head? = some read ∧
    failedLoginAttempts userId e.after = failedLoginAttempts userId read.before + 1 ∧
    (maxFailedAttempts ≤ failedLoginAttempts userId read.before + 1 → lockedUntil userId e.after = some (read.before.clock + lockoutDuration))
  resets : ∀ userId, resets userId e = true → Tested config dto own userId

def Ends (own : List LoginEvent) (out : Except Exception TokenPair) : Prop :=
  ∀ pair, out = .ok pair → Tested config dto own pair.user.id

variable {config dto} {own : List LoginEvent} {e : LoginEvent} {userId : String}

theorem testedLater {own' : List LoginEvent} (tested : Tested config dto own userId) (later : own <:+ own') : Tested config dto own' userId := by
  obtain ⟨test,before,first,user,suffix,rest⟩ := tested
  exact ⟨test,before,first,user,suffix.trans later,rest⟩

theorem doesStill (users : e.after.users = e.before.users) (clock : e.after.clock = e.before.clock)
    (idle : ∀ userId, e.site = .updateUser userId → e.answer.fails = true ∨ e.before.users.get? userId = none) : Does config dto own e := by
  have nothing : ∀ userId, fails userId e = false ∧ resets userId e = false := by
    intro userId
    simp only [Lockouts.fails,Lockouts.resets,Bool.and_eq_false_iff,decide_eq_false_iff_not,Bool.not_eq_false',failedLoginAttempts,users]
    by_cases here : e.site = .updateUser userId
    · obtain failed | absent := idle userId here
      · exact ⟨.inl (.inr failed),.inl (.inr failed)⟩
      · simp [absent]
    · exact ⟨.inl (.inl here),.inl (.inl here)⟩
  refine ⟨clock,fun userId _ _ => ?_,fun userId failed => ?_,fun userId reset => ?_⟩
  · simp only [failedLoginAttempts,lockedUntil,users,and_self]
  · cases failed.symm.trans (nothing userId).1
  · cases reset.symm.trans (nothing userId).2

theorem doesQuery {thread : Nat} {site : Site} {i : Answer} {w : World} (other : ∀ userId, site ≠ .updateUser userId) :
    Does config dto own ⟨thread,site,i,w,w⟩ :=
  doesStill rfl rfl fun userId same => absurd same (other userId)

theorem guardedAsk {α : Type} {site : Site} {f : Answer → World → Except Exception α} (other : ∀ userId, site ≠ .updateUser userId) :
    Guarded (Does config dto) anyOutcome (Process.query site f) own :=
  guardedQuery fun _ _ _ => ⟨doesQuery other,trivial⟩

theorem guardedRaise {α : Type} {p : Op α} {error : Exception} (first : Guarded (Does config dto) anyOutcome p own) :
    Guarded (Does config dto) (Ends config dto) (p >>= fun _ => (.raise error : Op TokenPair)) own := by
  refine guardedBind (guardedMono (fun own' out _ => ?_) first)
  cases out <;> exact fun pair same => by cases same

/-- An update of the row of a user that sets its count and its lock. -/
theorem guardedUpdate {f : User → User} {keeps : ∀ row, (f row).id = row.id}
    (does : ∀ thread i w row, i.fails = false → w.users.get? userId = some row →
      Does config dto own ⟨thread,.updateUser userId,i,w,{ w with users := w.users.update userId f keeps }⟩) :
    Guarded (Does config dto) (fun own' _ => own <:+ own') (updateUser userId f keeps) own := by
  refine guardedTransact (fun thread i w value after ok => ?_) fun thread i w error failed => ⟨doesStill rfl rfl fun u same => ?_,List.suffix_cons _ _⟩
  · split at ok
    · cases ok
    · rename_i answered
      split at ok
      · cases ok
      · rename_i row users modified
        cases ok
        obtain ⟨old,found,_,rfl⟩ := Table.modifyGet modified
        exact ⟨does thread i w old (by simpa using answered) found,List.suffix_cons _ _⟩
  · cases same
    split at failed
    · rename_i refused
      exact .inl refused
    · split at failed
      · rename_i absent
        exact .inr (Option.map_eq_none_iff.mp absent)
      · cases failed

theorem updatedOther {w : World} {f : User → User} {keeps : ∀ row, (f row).id = row.id} {other : String} (differs : other ≠ userId) :
    failedLoginAttempts other { w with users := w.users.update userId f keeps } = failedLoginAttempts other w ∧
      lockedUntil other { w with users := w.users.update userId f keeps } = lockedUntil other w := by
  simp only [failedLoginAttempts,lockedUntil,Table.getUpdateOther _ differs,and_self]

theorem guardedRead {β : Type} {Q : List LoginEvent → LoginEvent → Prop} {done : List LoginEvent → Except Exception β → Prop}
    {p : User → Bool} {k : Option User × Nat → Op β} (asks : ∀ thread i w, Q own ⟨thread,.findUser,i,w,w⟩)
    (fails : ∀ own', done own' (.error .database))
    (reads : ∀ thread i w, Guarded Q done (k (w.users.findFirst p,w.clock)) (⟨thread,.findUser,i,w,w⟩ :: own)) :
    Guarded Q done (findUser p >>= k) own := by
  refine guardedBind (guardedQuery fun thread i w => ⟨asks thread i w,?_⟩)
  cases i.fails with
  | true => exact fails _
  | false => exact reads thread i w

theorem countsOnly {user row : User} {f : User → User} {keeps : ∀ row, (f row).id = row.id} {read : LoginEvent} {thread : Nat} {i : Answer}
    {w : World} (latest : own.head? = some read) (there : read.before.users.get? userId = some user)
    (stores : ∀ row, (f row).credentials.failedLoginAttempts = user.credentials.failedLoginAttempts + 1)
    (locks : maxFailedAttempts ≤ user.credentials.failedLoginAttempts + 1 →
      ∀ row, (f row).credentials.lockedUntil = some (read.before.clock + lockoutDuration))
    (answered : i.fails = false) (found : w.users.get? userId = some row) :
    Does config dto own ⟨thread,.updateUser userId,i,w,{ w with users := w.users.update userId f keeps }⟩ := by
  have after : (w.users.update userId f keeps).get? userId = some (f row) := Table.getUpdateSelf found f keeps
  have count : failedLoginAttempts userId { w with users := w.users.update userId f keeps } = user.credentials.failedLoginAttempts + 1 := by
    simp only [failedLoginAttempts,after]
    exact stores row
  have its : failedLoginAttempts userId read.before = user.credentials.failedLoginAttempts := by simp only [failedLoginAttempts,there]; rfl
  have failed : fails userId ⟨thread,.updateUser userId,i,w,{ w with users := w.users.update userId f keeps }⟩ = true := by
    simp only [fails,answered,count]
    simp
  refine ⟨rfl,fun u none _ => ?_,fun u failed => ?_,fun u reset => ?_⟩
  · refine updatedOther fun same => ?_
    subst same
    cases none.symm.trans failed
  · simp only [fails,Bool.and_eq_true,decide_eq_true_eq,Site.updateUser.injEq] at failed
    obtain ⟨⟨rfl,_⟩,_⟩ := failed
    refine ⟨read,latest,count.trans (by rw [its]),fun high => ?_⟩
    rw [its] at high
    simp only [lockedUntil,after]
    exact locks high row
  · simp only [resets,Bool.and_eq_true,decide_eq_true_eq,Site.updateUser.injEq] at reset
    obtain ⟨⟨rfl,_⟩,zero⟩ := reset
    simp [after,stores] at zero

theorem guardedFailed (userId : String) : Guarded (Does config dto) anyOutcome (handleFailedLogin (some userId)) own := by
  refine guardedBind (guardedMono (fun own' out _ => ?_) (guardedAsk (by nofun)))
  cases out with
  | error error => trivial
  | ok _ =>
    refine guardedRead (fun _ _ _ => doesQuery (by nofun)) (fun _ => trivial) fun thread i w => ?_
    dsimp only
    split
    · trivial
    · rename_i user found
      have there : w.users.get? userId = some user := found
      split
      · refine guardedBind (guardedMono (fun own' out _ => ?_) (guardedUpdate fun thread i w' row answered its =>
          countsOnly rfl there (fun _ => rfl) (fun _ _ => rfl) answered its))
        cases out <;> trivial
      · rename_i low
        refine guardedBind (guardedMono (fun own' out _ => ?_) (guardedUpdate fun thread i w' row answered its =>
          countsOnly rfl there (fun _ => rfl) (fun high => absurd high low) answered its))
        cases out <;> trivial

theorem clearsOnly {row : User} {f : User → User} {keeps : ∀ row, (f row).id = row.id} {thread : Nat} {i : Answer} {w : World}
    (tested : Tested config dto own userId) (clears : ∀ row, (f row).credentials.failedLoginAttempts = 0) (answered : i.fails = false)
    (found : w.users.get? userId = some row) :
    Does config dto own ⟨thread,.updateUser userId,i,w,{ w with users := w.users.update userId f keeps }⟩ := by
  have after : (w.users.update userId f keeps).get? userId = some (f row) := Table.getUpdateSelf found f keeps
  refine ⟨rfl,fun u _ none => updatedOther fun same => ?_,fun u failed => ?_,fun u reset => ?_⟩
  · subst same
    simp [resets,answered,after,clears] at none
  · simp only [fails,Bool.and_eq_true,decide_eq_true_eq,Site.updateUser.injEq] at failed
    obtain ⟨⟨rfl,_⟩,some⟩ := failed
    simp [failedLoginAttempts,after,clears] at some
  · simp only [resets,Bool.and_eq_true,decide_eq_true_eq,Site.updateUser.injEq] at reset
    exact reset.1.1 ▸ tested

theorem guardedReset (tested : Tested config dto own userId) :
    Guarded (Does config dto) (fun own' _ => own <:+ own') (resetFailedAttempts userId) own := by
  refine guardedBind (guardedMono (fun own' out later => ?_) (guardedUpdate fun thread i w row answered found =>
    clearsOnly tested (fun _ => rfl) answered found))
  cases out <;> exact later

theorem doesSession {thread : Nat} {familyId : String} {i : Answer} {w w' : World} (users : w'.users = w.users) (clock : w'.clock = w.clock) :
    Does config dto own ⟨thread,.createSession familyId,i,w,w'⟩ := doesStill users clock (by nofun)

theorem endsThrown (error : Exception) : Ends config dto own (.error error) := fun pair same => by cases same

theorem guardedIssue {self : Config} {user : User} (tested : Tested config dto own user.id) :
    Guarded (Does config dto) (Ends config dto) (AuthService.issueTokenPair self user) own := by
  unfold AuthService.issueTokenPair issueWith
  refine guardedBind (guardedQuery fun thread i w => ⟨doesQuery (by nofun),?_⟩)
  refine guardedBind (guardedQuery fun thread' i' w' => ⟨doesQuery (by nofun),?_⟩)
  split
  · rename_i value signed
    refine guardedBind (guardedTransact (fun thread i w value after ok => ?_) fun thread i w error _ => ⟨doesSession rfl rfl,endsThrown _⟩)
    split at ok
    · cases ok
    · obtain ⟨⟨_,stored⟩,made,same⟩ := exceptBind.mp ok
      cases same
      obtain ⟨_,_,_,rfl⟩ := createTokenCases made
      refine ⟨doesSession rfl rfl,fun pair same => ?_⟩
      cases same
      exact testedLater tested ((List.suffix_cons _ _).trans ((List.suffix_cons _ _).trans (List.suffix_cons _ _)))
  · exact endsThrown _

theorem guardedLogin (self : AccountConfig) (dto : LoginDto) : Guarded (Does self dto) (Ends self dto) (login self dto) [] := by
  refine guardedRead (fun _ _ _ => doesQuery (by nofun)) (fun _ => endsThrown _) fun thread i w => ?_
  dsimp only
  cases found : w.users.findFirst fun row => row.email = some (self.toLowerCase dto.email) with
  | none => exact guardedRaise (guardedBind (guardedMono (fun own' out _ => by cases out <;> trivial) (guardedAsk (by nofun))))
  | some user =>
    dsimp only
    cases present user.credentials.passwordHash with
    | none => exact guardedRaise (guardedFailed user.id)
    | some passwordHash =>
      unfold loginUser checkPassword
      refine guardedBind (guardedQuery fun thread' i' w' => ⟨doesQuery (by nofun),?_⟩)
      dsimp only
      split
      · exact guardedRaise (guardedFailed user.id)
      · split
        · exact guardedRaise (guardedAsk (by nofun))
        · cases locked : user.credentials.lockedUntil.filter (w'.clock < ·) with
          | some lock =>
            refine guardedBind (guardedMono (fun own' out _ => ?_) (guardedAsk (by nofun)))
            cases out <;> exact endsThrown _
          | none =>
            dsimp only
            have read : account self dto w = some user := found
            have there : w.users.get? user.id = some user := Table.memGet (List.mem_of_find?_eq_some found)
            have tested : Tested self dto [⟨thread',.scrypt,i',w',w'⟩,⟨thread,.findUser,i,w,w⟩] user.id := by
              refine ⟨_,_,_,user,List.suffix_refl _,rfl,rfl,read,rfl,fun lock inside => ?_⟩
              have its : lockedUntil user.id w = user.credentials.lockedUntil := by rw [lockedUntil,there]; rfl
              have elapsed := Option.filter_eq_none_iff.mp locked lock (its ▸ inside)
              simpa using elapsed
            refine guardedBind (guardedOfExcept ?_)
            cases totpAccepts self user dto.totpCode w'.clock with
            | error error => exact endsThrown _
            | ok isValid =>
              dsimp only
              split
              · exact guardedRaise (guardedFailed user.id)
              · refine guardedBind (guardedMono (fun own' out later => ?_) (guardedReset tested))
                cases out with
                | error error => exact endsThrown _
                | ok _ =>
                  refine guardedBind (guardedQuery fun thread i w => ⟨doesQuery (by nofun),?_⟩)
                  split
                  · exact guardedIssue (testedLater tested (later.trans (List.suffix_cons _ _)))
                  · exact endsThrown _

end Calls

section Runs

variable {config : AccountConfig} {dto : LoginDto} {userId : String} {history : List LoginEvent} {w w' : World}

/-- The row counts every failed login since the last successful one. -/
structure Kept (userId : String) (history : List LoginEvent) (w : World) : Prop where
  counted : (failures userId history).length ≤ failedLoginAttempts userId w
  locked : maxFailedAttempts ≤ (failures userId history).length → ∀ last ∈ (failures userId history).head?,
    lockedUntil userId w = some (last.before.clock + lockoutDuration)

/-- A login that has not returned yet has set the count back, and the lock is over. -/
structure Erased (userId : String) (history : List LoginEvent) (w : World) : Prop where
  erased : ∃ d ∈ sinceSuccess userId history, resets userId d = true ∧ failedLoginAttempts userId d.before ≠ 0
  elapsed : maxFailedAttempts ≤ (failures userId history).length → ∀ last ∈ (failures userId history).head?,
    last.before.clock + lockoutDuration ≤ w.clock

def Stands (userId : String) (history : List LoginEvent) (w : World) : Prop := Kept userId history w ∨ Erased userId history w

theorem keptFew (few : failures userId history = []) : Kept userId history w :=
  ⟨by rw [few]; exact Nat.zero_le _,fun high => by rw [few] at high; cases high⟩

theorem sinceOpened {e : LoginEvent} (opened : opens userId e = true) : sinceSuccess userId (e :: history) = [] := by
  rw [sinceSuccess,List.takeWhile_cons_of_neg (by simp [opened])]

theorem sinceClosed {e : LoginEvent} (other : opens userId e = false) :
    sinceSuccess userId (e :: history) = e :: sinceSuccess userId history := by
  rw [sinceSuccess,List.takeWhile_cons_of_pos (by simp [other])]
  rfl

theorem failuresCons {e : LoginEvent} (other : opens userId e = false) :
    failures userId (e :: history) = if fails userId e then e :: failures userId history else failures userId history := by
  rw [failures,sinceClosed other,List.filter_cons]
  rfl

/-- One call of a login, in an orderly run. -/
theorem standsStep {e : LoginEvent} (does : Does config dto (history.filter fun d => d.thread = e.thread) e)
    (orderly : Orderly config userId dto history e) (past : ∀ d ∈ history, d.before.clock ≤ e.before.clock)
    (stands : Stands userId history e.before) : Stands userId (e :: history) e.after := by
  cases opened : opens userId e with
  | true => exact .inl (keptFew (by rw [failures,sinceOpened opened]; rfl))
  | false =>
    have grown := @failuresCons userId history e opened
    cases failed : fails userId e with
    | true =>
      rw [if_pos failed] at grown
      obtain kept | erased := stands
      · obtain ⟨read,latest,stored,lock⟩ := does.fails userId failed
        have same := orderly.counted failed read latest
        refine .inl ⟨?_,fun high last here => ?_⟩
        · rw [grown,stored,same,List.length_cons]
          exact Nat.succ_le_succ kept.counted
        · rw [grown] at high here
          cases here
          have enough : maxFailedAttempts ≤ failedLoginAttempts userId read.before + 1 := by
            rw [same]
            exact high.trans (Nat.succ_le_succ kept.counted)
          rw [lock enough,orderly.stamped failed read latest enough]
      · obtain ⟨d,inside,reset,some⟩ := erased.erased
        exact absurd (orderly.returned failed d inside reset) some
    | false =>
      rw [failed,if_neg Bool.false_ne_true] at grown
      cases reset : resets userId e with
      | false =>
        obtain ⟨count,lock⟩ := does.quiet userId failed reset
        obtain kept | erased := stands
        · refine .inl ⟨?_,?_⟩ <;> rw [grown]
          · exact count.symm ▸ kept.counted
          · exact lock.symm ▸ kept.locked
        · obtain ⟨d,inside,rest⟩ := erased.erased
          refine .inr ⟨⟨d,by rw [sinceClosed opened]; exact List.mem_cons_of_mem _ inside,rest⟩,?_⟩
          rw [grown,does.clock]
          exact erased.elapsed
      | true =>
        obtain kept | erased := stands
        · by_cases none : failedLoginAttempts userId e.before = 0
          · refine .inl (keptFew (grown.trans (List.length_eq_zero_iff.mp ?_)))
            exact Nat.le_zero.mp (none ▸ kept.counted)
          · refine .inr ⟨⟨e,by rw [sinceClosed opened]; exact List.mem_cons_self,reset,none⟩,?_⟩
            rw [grown,does.clock]
            intro high last here
            have lock := kept.locked high last here
            obtain ⟨test,before,first,user,suffix,_,began,_,_,elapsed⟩ := does.resets userId reset
            have opening' : opening history e = some first := by
              obtain ⟨newer,whole⟩ := suffix
              rw [opening,← whole,List.getLast?_append,List.getLast?_cons,began]
              rfl
            have read : lockedUntil userId first.before = some (last.before.clock + lockoutDuration) := by
              obtain absent | same := orderly.unlocked reset first opening'
              · cases absent.symm.trans lock
              · exact same.symm.trans lock
            have inside : test ∈ history := (List.mem_filter.mp (suffix.subset List.mem_cons_self)).1
            exact (elapsed _ read).trans (past test inside)
        · obtain ⟨d,inside,rest⟩ := erased.erased
          refine .inr ⟨⟨d,by rw [sinceClosed opened]; exact List.mem_cons_of_mem _ inside,rest⟩,?_⟩
          rw [grown,does.clock]
          exact erased.elapsed

structure Inv (userId : String) (c : Snapshot Site Answer World) : Prop where
  past : ∀ d ∈ c.history, d.before.clock ≤ c.world.clock
  stands : Stands userId c.history c.world
  each : AllMeet (fun earlier e => Stands userId earlier e.before) c.history

theorem invRecord {c : Snapshot Site Answer World} {thread : Nat} {site : Site} {i : Answer} {s' : World} (inv : Inv userId c)
    (does : Does config dto (c.history.filter fun d => d.thread = thread) (c.event thread site i s'))
    (orderly : Orderly config userId dto c.history (c.event thread site i s')) : Inv userId (c.record thread site i s') := by
  have clock : s'.clock = c.world.clock := does.clock
  refine ⟨fun d inside => ?_,standsStep does orderly inv.past inv.stands,inv.stands,inv.each⟩
  rcases List.mem_cons.mp inside with rfl | earlier
  · exact clock.ge
  · exact clock ▸ inv.past d earlier

theorem invWaits {c : Snapshot Site Answer World} (elapsed : Nat) (inv : Inv userId c) :
    Inv userId { c with world := { c.world with clock := c.world.clock + elapsed } } := by
  refine ⟨fun d inside => (inv.past d inside).trans (Nat.le_add_right _ _),?_,inv.each⟩
  obtain kept | erased := inv.stands
  · exact .inl ⟨kept.counted,kept.locked⟩
  · exact .inr ⟨erased.erased,fun high last here => (erased.elapsed high last here).trans (Nat.le_add_right _ _)⟩

theorem suffixFilter {α : Type} {p : α → Bool} {a : α} {before whole : List α} (suffix : a :: before <:+ whole.filter p) :
    ∃ earlier, a :: earlier <:+ whole ∧ earlier.filter p = before := by
  induction whole with
  | nil => simp at suffix
  | cons x rest ih =>
    have deeper : a :: before <:+ rest.filter p → ∃ earlier, a :: earlier <:+ x :: rest ∧ earlier.filter p = before := by
      intro within
      obtain ⟨earlier,inside,same⟩ := ih within
      exact ⟨earlier,inside.trans (List.suffix_cons _ _),same⟩
    rw [List.filter_cons] at suffix
    split at suffix
    · obtain same | within := List.suffix_cons_iff.mp suffix
      · obtain ⟨rfl,rfl⟩ := List.cons.inj same
        exact ⟨rest,List.suffix_refl _,rfl⟩
      · exact deeper within
    · exact deeper suffix

end Runs

/-- In an orderly run no login that starts while the account is locked returns tokens. -/
theorem lockoutKept (self : AccountConfig) (world : World) (moves : List LoginMove) (userId : String)
    (orderly : Meets (Orderly self userId) ((logins self).run (Pool.initial world) moves)) :
    LockoutHolds userId ((logins self).run (Pool.initial world) moves) := by
  have guarded : GuardedEnds (Does self) (Ends self) (Inv userId) ((logins self).run (Pool.initial world) moves) :=
    guardedRun (fun dto c thread site i s' inv does meets => invRecord inv does meets) (fun elapsed c inv => invWaits elapsed inv)
      (fun dto => guardedLogin self dto) (guardedInitial ⟨fun _ => nofun,.inl (keptFew rfl),trivial⟩) moves orderly
  generalize (logins self).run (Pool.initial world) moves = pool at orderly guarded ⊢
  intro k dto pair there its earlier e suffix mine first locked
  obtain ⟨high,last,here,early⟩ := locked
  obtain ⟨test,before,opened,user,within,site,began,read,same,elapsed⟩ := guardedReturned guarded there pair rfl
  rw [its] at same elapsed
  obtain ⟨older,inside,filtered⟩ := suffixFilter within
  -- the call that the login has opened with
  have opens : (pool.own k).getLast? = some e := by
    obtain ⟨newer,whole⟩ := suffix
    have none : earlier.filter (fun d => d.thread = k) = [] := List.filter_eq_nil_iff.mpr fun d there => by simpa using first d there
    rw [Pool.own,← whole,List.filter_append,List.filter_cons_of_pos (by simpa using mine),none,List.getLast?_append]
    rfl
  have same' : opened = e := by
    obtain ⟨newer,whole⟩ := within
    rw [← whole,List.getLast?_append,List.getLast?_cons,began] at opens
    exact Option.some.inj opens
  subst same'
  obtain kept | erased := meetsIff.mp guarded.holds.each earlier opened suffix
  · have lock := kept.locked high last here
    have thread : test.thread = k := by
      have marked := (List.mem_filter.mp (within.subset List.mem_cons_self)).2
      simpa using marked
    have meets := meetsIff.mp orderly older test inside ⟨dto,.ret pair⟩ (by rw [thread]; exact there)
    have opening' : opening older test = some opened := by
      rw [opening,thread,filtered,began]
    have still := meets.timely site opened opening' user read same _ lock early
    exact absurd (elapsed _ lock) (Nat.not_le.mpr still)
  · exact absurd early (Nat.not_lt.mpr (erased.elapsed high last here))

def plainLogins : AccountConfig where
  signRefresh _ _ _ := "r"
  signAccess _ _ := "a"
  sha256 := id
  verifyPassword password passwordHash := password = passwordHash
  verifyTotpCode _ _ _ := false
  verifyWalletSignature _ _ _ := false
  toLowerCase := id

def member : User where
  id := "u"
  email := some "u@x"
  credentials := { passwordHash := some "s" }

def unlockedWorld : World where
  users := .single member
  tokens := .empty
  clock := 0

def wrong : LoginDto := { email := "u@x", password := "w" }

def right : LoginDto := { email := "u@x", password := "s" }

def answers (k n : Nat) : List LoginMove := List.replicate n (.answer k {})

-- a login from its start to its last call
def whole (k n : Nat) (dto : LoginDto) : List LoginMove := .start dto :: answers k n

def sequential : List LoginMove :=
  whole 0 5 wrong ++ whole 1 5 wrong ++ whole 2 5 wrong ++ whole 3 5 wrong ++ whole 4 5 wrong ++ whole 5 3 right

theorem sequentialLocked : LockoutHolds "u" ((logins plainLogins).run (Pool.initial unlockedWorld) sequential) :=
  lockoutKept plainLogins unlockedWorld sequential "u" (by decide +kernel)

-- the first two logins both read that none has failed
def racing : List LoginMove :=
  [.start wrong,.start wrong] ++ answers 0 4 ++ answers 1 5 ++ answers 0 1 ++ whole 2 5 wrong ++ whole 3 5 wrong ++ whole 4 5 wrong ++
    whole 5 7 right

def raced : LoginPool := (logins plainLogins).run (Pool.initial unlockedWorld) racing

/-- Five logins have failed, and the sixth returns tokens at once. -/
theorem racedUnlocked : ¬ LockoutHolds "u" raced := by
  intro holds
  have began : ∃ e, raced.history.drop 6 = e :: raced.history.drop 7 ∧ e.thread = 5 ∧ e.before.clock = 0 := ⟨_,rfl,rfl,rfl⟩
  obtain ⟨e,same,thread,clock⟩ := began
  refine holds 5 right _ rfl rfl (raced.history.drop 7) e (same ▸ List.drop_suffix 6 _) thread (by decide +kernel) ?_
  rw [clock]
  exact ⟨by decide +kernel,_,rfl,by decide +kernel⟩

end HireSettle.Auth.Lockouts
