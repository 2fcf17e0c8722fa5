import HireSettle.Users.Erasure
import HireSettle.Workflow.Guards

/-! Two users of whom nothing personal is to tell them apart once they are anonymised.
Between them the two updates of the row blank the columns they name; a column that
neither names is as it was. The rows of two users who differ in personal columns are
then equal if and only if they agree on those that are left. -/
namespace HireSettle.Users.AnonymizedRows
open Workflow
open GdprService PiiAnonymizationSchedulerService

variable (config : Config)

/-- The row without the columns that identify, reach, authenticate or tax the user. -/
def impersonal (row : UserRow) : UserRow :=
  { row with
    name := none
    email := none
    company := none
    avatarUrl := none
    credentials := {}
    webhookUrl := none
    webhookSecret := none
    slackWebhookUrl := none
    discordWebhookUrl := none
    teamsWebhookUrl := none
    taxCountry := none
    taxId := none
    pendingEmail := none
    emailChangeToken := none
    calendarTokenHash := none }

def Alike (row row' : UserRow) : Prop := impersonal row = impersonal row'

/-- They agree on the personal columns that neither update names. -/
structure AgreeOnRest (row row' : UserRow) : Prop where
  slackWebhookUrl : row.slackWebhookUrl = row'.slackWebhookUrl
  discordWebhookUrl : row.discordWebhookUrl = row'.discordWebhookUrl
  teamsWebhookUrl : row.teamsWebhookUrl = row'.teamsWebhookUrl
  taxCountry : row.taxCountry = row'.taxCountry
  taxId : row.taxId = row'.taxId
  pendingEmail : row.pendingEmail = row'.pendingEmail
  emailChangeToken : row.emailChangeToken = row'.emailChangeToken
  calendarTokenHash : row.calendarTokenHash = row'.calendarTokenHash

def stamps (row : UserRow) : Option Nat × Option Nat × Nat := (row.deletedAt,row.anonymizedAt,row.updatedAt)

/-- Nothing that belongs to the user names a network, a browser or a device. -/
structure Clean (userId : String) (w : World) : Prop where
  events : ∀ event ∈ w.securityEvents.rows, event.userId = some userId → event.ip = none ∧ event.userAgent = none
  notifications : ∀ row ∈ w.notifications.rows, row.userId ≠ userId
  subscriptions : ∀ row ∈ w.pushSubscriptions.rows, row.userId ≠ userId

structure RevealsNothing (userId : String) (w w' : World) : Prop where
  rows : w.users.get? userId = w'.users.get? userId
  here : Clean userId w
  there : Clean userId w'

/-- The user has been erased and anonymised. -/
structure Anonymised (pool : ErasurePool) (userId : String) : Prop where
  erased : ∃ (k : Nat) (dto : _) (text : String), pool.threads[k]? = some ⟨.requestErasure userId dto,.ret (.message text)⟩
  anonymized : ∃ (k : Nat) (avatarUrl : Option String), pool.threads[k]? = some ⟨.anonymizeUser userId avatarUrl,.ret .done⟩

section Rows

variable {row row' : UserRow}

-- what neither update writes
def kept (row : UserRow) : UserRow :=
  { row with
    name := none
    email := none
    company := none
    avatarUrl := none
    credentials := {}
    webhookUrl := none
    webhookSecret := none
    rateLimitOverride := none
    deletedAt := none
    anonymizedAt := none
    updatedAt := 0 }

/-- The columns that anonymising blanks. -/
structure Wiped (row : UserRow) : Prop where
  name : row.name = none
  email : row.email = none
  company : row.company = none
  avatarUrl : row.avatarUrl = none
  credentials : row.credentials = { googleId := row.credentials.googleId }
  webhookUrl : row.webhookUrl = none
  webhookSecret : row.webhookSecret = none
  rateLimitOverride : row.rateLimitOverride = none

abbrev Closed (row : UserRow) : Prop := row.credentials.googleId = none

theorem wipedAgain {at' : Nat} : Wiped (anonymizedRow at' row) := ⟨rfl,rfl,rfl,rfl,rfl,rfl,rfl,rfl⟩

theorem wipedClosed {deletedAt updatedAt : Nat} (wiped : Wiped row) : Wiped (closedRow deletedAt updatedAt row) where
  name := rfl
  email := rfl
  company := wiped.company
  avatarUrl := wiped.avatarUrl
  credentials := by rw [closedRow,wiped.credentials]
  webhookUrl := wiped.webhookUrl
  webhookSecret := wiped.webhookSecret
  rateLimitOverride := wiped.rateLimitOverride

/-- A row that is closed and wiped is told by what was kept of it, and its times. -/
theorem blankRow (wiped : Wiped row) (closed : Closed row) :
    row = { kept row with deletedAt := row.deletedAt, anonymizedAt := row.anonymizedAt, updatedAt := row.updatedAt } := by
  obtain ⟨name,email,company,avatarUrl,credentials,webhookUrl,webhookSecret,rateLimitOverride⟩ := wiped
  rw [closed] at credentials
  obtain ⟨user⟩ := row
  cases user
  simp_all [kept]

theorem keptIff (alike : Alike row row') : kept row = kept row' ↔ AgreeOnRest row row' := by
  constructor
  · intro same
    have column : ∀ g : UserRow → Option String, g (kept row) = g (kept row') := fun g => congrArg g same
    exact ⟨column (·.slackWebhookUrl),column (·.discordWebhookUrl),column (·.teamsWebhookUrl),column (·.taxCountry),
      column (·.taxId),column (·.pendingEmail),column (·.emailChangeToken),column (·.calendarTokenHash)⟩
  · intro agree
    -- the impersonal row, with what they agree on put back
    have rebuilt : ∀ r : UserRow, kept r =
        { kept (impersonal r) with
          slackWebhookUrl := r.slackWebhookUrl
          discordWebhookUrl := r.discordWebhookUrl
          teamsWebhookUrl := r.teamsWebhookUrl
          taxCountry := r.taxCountry
          taxId := r.taxId
          pendingEmail := r.pendingEmail
          emailChangeToken := r.emailChangeToken
          calendarTokenHash := r.calendarTokenHash } := fun _ => rfl
    rw [rebuilt row,rebuilt row',show impersonal row = impersonal row' from alike,agree.slackWebhookUrl,agree.discordWebhookUrl,
      agree.teamsWebhookUrl,agree.taxCountry,agree.taxId,agree.pendingEmail,agree.emailChangeToken,agree.calendarTokenHash]

end Rows

section Steps

variable {w w' w'' : World}

/-- What any step leaves of the users' rows, and of what belongs to them. -/
structure Follows (w w' : World) : Prop where
  rows : ∀ id row, w.users.get? id = some row → ∃ row', w'.users.get? id = some row' ∧
    kept row' = kept row ∧ (Wiped row → Wiped row') ∧ (Closed row → Closed row')
  clean : ∀ id, Clean id w → Clean id w'

theorem followsRefl (w : World) : Follows w w := ⟨fun _ row found => ⟨row,found,rfl,id,id⟩,fun _ clean => clean⟩

theorem followsTrans (first : Follows w w') (second : Follows w' w'') : Follows w w'' := by
  refine ⟨fun id row found => ?_,fun id clean => second.clean id (first.clean id clean)⟩
  obtain ⟨row',found',same,wiped,closed⟩ := first.rows id row found
  obtain ⟨row'',found'',same',wiped',closed'⟩ := second.rows id row' found'
  exact ⟨row'',found'',same'.trans same,fun its => wiped' (wiped its),fun its => closed' (closed its)⟩

/-- The users stay and nothing is recorded of them. -/
theorem followsSame (users : w'.users = w.users) (events : w'.securityEvents = w.securityEvents)
    (notifications : w'.notifications = w.notifications) (subscriptions : w'.pushSubscriptions = w.pushSubscriptions) : Follows w w' := by
  refine ⟨fun _ row found => ⟨row,by rw [users]; exact found,rfl,id,id⟩,fun _ clean => ⟨?_,?_,?_⟩⟩
  · rw [events]
    exact clean.events
  · rw [notifications]
    exact clean.notifications
  · rw [subscriptions]
    exact clean.subscriptions

theorem rowsUpdated {users : Table UserRow} {userId id : String} (f : UserRow → UserRow) (keeps : ∀ row, Keyed.key (f row) = Keyed.key row)
    (same : ∀ row, kept (f row) = kept row) (wiped : ∀ row, Wiped row → Wiped (f row)) (closed : ∀ row, Closed row → Closed (f row))
    {row : UserRow} (found : users.get? id = some row) : ∃ row', (users.update userId f keeps).get? id = some row' ∧
      kept row' = kept row ∧ (Wiped row → Wiped row') ∧ (Closed row → Closed row') := by
  by_cases here : id = userId
  · subst here
    exact ⟨f row,Table.getUpdateSelf found f keeps,same row,wiped row,closed row⟩
  · exact ⟨row,(Table.getUpdateOther users here f keeps).trans found,rfl,fun its => its,fun its => its⟩

theorem followsClosed {userId requestId : String} {deletedAt : Nat} (committed : closeAccount userId deletedAt requestId w = .ok ((),w')) :
    Follows w w' ∧ ∃ row, w'.users.get? userId = some row ∧ Closed row := by
  unfold closeAccount at committed
  split at committed
  · cases committed
  · rename_i modified
    split at committed
    · cases committed
    · cases committed
      obtain ⟨row,found,_,rfl⟩ := Table.modifyGet modified
      refine ⟨⟨fun id other there => rowsUpdated (closedRow deletedAt w.clock) (closedKey deletedAt w.clock) (fun _ => rfl) (fun _ => wipedClosed) (fun _ _ => rfl) there,fun id clean => ?_⟩,?_⟩
      · exact ⟨clean.events,clean.notifications,clean.subscriptions⟩
      · exact ⟨_,Table.getUpdateSelf found _ (closedKey deletedAt w.clock),rfl⟩

theorem followsWiped {userId : String} (committed : wipe userId w = .ok ((),w')) :
    Follows w w' ∧ (∃ row, w'.users.get? userId = some row ∧ Wiped row) ∧ Clean userId w' := by
  unfold wipe at committed
  split at committed
  · cases committed
  · rename_i modified
    cases committed
    obtain ⟨row,found,_,rfl⟩ := Table.modifyGet modified
    have events : ∀ id, (∀ event ∈ w.securityEvents.rows, event.userId = some id → event.ip = none ∧ event.userAgent = none) ∨ id = userId →
        ∀ event ∈ (w.securityEvents.updateMany (fun row => row.userId = some userId) fun row =>
          { row with ip := none, userAgent := none }).rows, event.userId = some id → event.ip = none ∧ event.userAgent = none := by
      intro id known event inside its
      obtain ⟨old,there,rfl⟩ := (Table.memUpdateMany _).mp inside
      split at its <;> split
      · exact ⟨rfl,rfl⟩
      · rename_i other
        exact absurd ‹_› other
      · exact ⟨rfl,rfl⟩
      · rename_i other _
        rcases known with clean | rfl
        · exact clean old there its
        · exact absurd (decide_eq_true its) other
    refine ⟨⟨fun id other there => rowsUpdated (anonymizedRow w.clock) (anonymizedKey w.clock) (fun _ => rfl) (fun _ _ => wipedAgain) (fun _ closed => closed) there,fun id clean => ⟨?_,?_,?_⟩⟩,
      ⟨_,Table.getUpdateSelf found _ (anonymizedKey w.clock),wipedAgain⟩,⟨events userId (Or.inr rfl),?_,?_⟩⟩
    · exact events id (Or.inl clean.events)
    · exact fun row inside => clean.notifications row (List.mem_filter.mp inside).1
    · exact fun row inside => clean.subscriptions row (List.mem_filter.mp inside).1
    · exact fun row inside => by simpa using (List.mem_filter.mp inside).2
    · exact fun row inside => by simpa using (List.mem_filter.mp inside).2

end Steps

section Calls

variable {α : Type} {own : List ErasureEvent}

def Calls (_ : List ErasureEvent) (e : ErasureEvent) : Prop := Follows e.before e.after

/-- What a request that has returned has done. -/
def Ended (request : Request) (own : List ErasureEvent) : Except Exception Reply → Prop
  | .error _ => True
  | .ok _ =>
      match request with
      | .requestErasure userId _ => ∃ e ∈ own, ∃ row, e.after.users.get? userId = some row ∧ Closed row
      | .anonymizeUser userId _ => ∃ e ∈ own, (∃ row, e.after.users.get? userId = some row ∧ Wiped row) ∧ Clean userId e.after
      | _ => True

theorem guardedFollows {p : Op α} (acts : Acts (fun _ => Follows) p) : Guarded Calls anyOutcome p own :=
  guardedAny (guardedActs (fun _ _ _ follows => follows) acts)

theorem followsQuery {site : Site} (f : Answer → World → Except Exception α) : Acts (fun _ => Follows) (Process.query site f) :=
  actsQuery followsRefl f

theorem followsNonces {w : World} (nonces : Table ChallengeNonce) : Follows w { w with nonces := nonces } := followsSame rfl rfl rfl rfl

theorem followsGenerate (stellarAddress : String) : Acts (fun _ => Follows) (AuthService.generateNonce stellarAddress) :=
  actsTransact followsRefl fun i w value w' committed => by
    cases committed
    exact followsNonces _

theorem followsConsume (stellarAddress nonce : String) : Acts (fun _ => Follows) (AuthService.consumeNonce stellarAddress nonce) := by
  refine actsTransact followsRefl fun i w value w' committed => ?_
  split at committed
  · cases committed
    exact followsRefl w
  · split at committed
    · cases committed
      exact followsNonces _
    · split at committed <;> cases committed
      · exact followsRefl w
      · exact followsNonces _

theorem followsReauthentication (user : UserRow) (dto : Auth.Accounts.DeleteAccountDto) :
    Acts (fun _ => Follows) (requireReauthentication config user dto) := by
  unfold requireReauthentication
  split
  · split
    · trivial
    · refine actsBind (followsQuery _) fun ok => ?_
      cases ok <;> trivial
  · split
    · split
      · trivial
      · split
        · trivial
        · split <;> trivial
    · trivial

theorem followsActive (user : UserRow) : Acts (fun _ => Follows) (assertNoActiveEngagements user) := by
  refine actsBind (followsQuery _) fun counted => ?_
  dsimp only
  split <;> trivial

theorem followsAvatar (avatarUrl : String) : Acts (fun _ => Follows) (deleteAvatar config avatarUrl) := by
  unfold deleteAvatar
  split
  · trivial
  · exact actsHandle (followsQuery _) fun _ => trivial

/-- One call after another, until the one that settles the request. -/
theorem guardedNext {β : Type} {p : Op α} {k : α → Op β} {done : List ErasureEvent → Except Exception β → Prop}
    (acts : Acts (fun _ => Follows) p) (fails : ∀ own error, done own (.error error))
    (rest : ∀ value own, Guarded Calls done (k value) own) : Guarded Calls done (p >>= k) own := by
  refine guardedBind (guardedMono (fun own out _ => ?_) (guardedFollows acts))
  cases out with
  | ok value => exact rest value own
  | error error => exact fails own error

theorem guardedClosing (userId : String) (now : Nat) : Guarded Calls (fun own' out => out = .ok () →
      ∃ e ∈ own', ∃ row, e.after.users.get? userId = some row ∧ Closed row)
    (.transact .closeAccount fun answer w => if answer.fails then .error .database else closeAccount userId now answer.text w) own := by
  refine guardedTransact (fun thread i w value w' committed => ?_) fun thread i w error _ => ⟨followsRefl w,nofun⟩
  split at committed
  · cases committed
  · obtain ⟨follows,closed⟩ := followsClosed committed
    exact ⟨follows,fun _ => ⟨_,List.mem_cons_self,closed⟩⟩

theorem guardedWiping (userId : String) : Guarded Calls (fun own' out => out = .ok () →
      ∃ e ∈ own', (∃ row, e.after.users.get? userId = some row ∧ Wiped row) ∧ Clean userId e.after)
    (.transact (.anonymize userId) fun answer w => if answer.fails then .error .database else wipe userId w) own := by
  refine guardedTransact (fun thread i w value w' committed => ?_) fun thread i w error _ => ⟨followsRefl w,nofun⟩
  split at committed
  · cases committed
  · obtain ⟨follows,wiped⟩ := followsWiped committed
    exact ⟨follows,fun _ => ⟨_,List.mem_cons_self,wiped⟩⟩

theorem guardedErasure (userId : String) (dto : Auth.Accounts.DeleteAccountDto) :
    Guarded Calls (Ended (.requestErasure userId dto)) (handler config (.requestErasure userId dto)) [] := by
  show Guarded _ _ (requestErasure config userId dto >>= fun text => pure (Reply.message text)) []
  unfold requestErasure
  rw [Process.bindAssoc]
  refine guardedNext (followsQuery _) (fun _ _ => trivial) fun found own => ?_
  cases found with
  | none => trivial
  | some user =>
    dsimp only
    split
    · trivial
    · rw [Process.bindAssoc]
      refine guardedNext (followsReauthentication config user dto) (fun _ _ => trivial) fun _ own => ?_
      rw [Process.bindAssoc]
      refine guardedNext (followsActive user) (fun _ _ => trivial) fun now own => ?_
      refine guardedBind (guardedBind (guardedMono (fun own out closed => ?_) (guardedClosing userId now)))
      cases out with
      | ok _ => exact closed rfl
      | error error => trivial

theorem guardedAnonymize (userId : String) (avatarUrl : Option String) :
    Guarded Calls (Ended (.anonymizeUser userId avatarUrl)) (handler config (.anonymizeUser userId avatarUrl)) [] := by
  show Guarded _ _ (anonymizeUser config userId avatarUrl >>= fun _ => pure Reply.done) []
  unfold anonymizeUser
  rw [Process.bindAssoc]
  have avatar : Acts (fun _ => Follows) ((present avatarUrl).elim (.ret ()) (deleteAvatar config)) := by
    cases present avatarUrl with
    | none => trivial
    | some avatarUrl => exact followsAvatar config avatarUrl
  refine guardedNext avatar (fun _ _ => trivial) fun _ own => ?_
  refine guardedBind (guardedMono (fun own out wiped => ?_) (guardedWiping userId))
  cases out with
  | ok _ => exact wiped rfl
  | error error => trivial

theorem guardedHandler (request : Request) : Guarded Calls (Ended request) (handler config request) [] := by
  cases request with
  | generateNonce stellarAddress => exact guardedNext (followsGenerate stellarAddress) (fun _ _ => trivial) fun _ _ => trivial
  | consumeNonce stellarAddress nonce => exact guardedNext (followsConsume stellarAddress nonce) (fun _ _ => trivial) fun _ _ => trivial
  | requestErasure userId dto => exact guardedErasure config userId dto
  | anonymizeUser userId avatarUrl => exact guardedAnonymize config userId avatarUrl

end Calls

section Runs

variable {w : World}

structure SinceStart (w : World) (c : Snapshot Site Answer World) : Prop where
  follows : Follows w c.world
  events : ∀ e ∈ c.history, Follows e.after c.world

theorem sinceRun (w : World) (moves : List (Move Request Nat Answer)) :
    GuardedEnds (fun _ => Calls) Ended (SinceStart w) ((service config).run (Pool.initial w) moves) := by
  refine guardedRun (P := fun _ _ _ => True) (fun request c thread site i w' since calls _ => ?_) (fun elapsed c since => ?_)
    (guardedHandler config) (guardedInitial ⟨followsRefl w,fun _ inside => absurd inside List.not_mem_nil⟩) moves
    (meetsAlways (fun _ _ _ _ => trivial) _)
  · refine ⟨followsTrans since.follows calls,fun e inside => ?_⟩
    rcases List.mem_cons.mp inside with rfl | earlier
    · exact followsRefl _
    · exact followsTrans (since.events e earlier) calls
  · have passes : Follows c.world ((service config).environment elapsed c.world) := followsSame rfl rfl rfl rfl
    exact ⟨followsTrans since.follows passes,fun e inside => followsTrans (since.events e inside) passes⟩

/-- What is left of an anonymised user. -/
theorem anonymisedRow {userId : String} {row : UserRow} (moves : List (Move Request Nat Answer)) (found : w.users.get? userId = some row)
    (anonymised : Anonymised ((service config).run (Pool.initial w) moves) userId) :
    Clean userId ((service config).run (Pool.initial w) moves).world ∧
      ∃ row', ((service config).run (Pool.initial w) moves).world.users.get? userId = some row' ∧
        kept row' = kept row ∧ Wiped row' ∧ Closed row' := by
  have guarded := sinceRun config w moves
  generalize (service config).run (Pool.initial w) moves = pool at guarded anonymised
  obtain ⟨k,dto,text,erased⟩ := anonymised.erased
  obtain ⟨l,avatarUrl,anonymized⟩ := anonymised.anonymized
  obtain ⟨e,mine,row₁,there,closed⟩ := guardedReturned guarded erased
  obtain ⟨e',mine',⟨row₂,there',wiped⟩,clean⟩ := guardedReturned guarded anonymized
  have afterClosing := guarded.holds.events e (List.mem_filter.mp mine).1
  have afterWiping := guarded.holds.events e' (List.mem_filter.mp mine').1
  obtain ⟨row',found',same,_⟩ := guarded.holds.follows.rows userId row found
  obtain ⟨_,found₁,_,_,closes⟩ := afterClosing.rows userId row₁ there
  obtain ⟨_,found₂,_,wipes,_⟩ := afterWiping.rows userId row₂ there'
  cases found'.symm.trans found₁
  cases found'.symm.trans found₂
  exact ⟨afterWiping.clean userId clean,row',found',same,wipes wiped,closes closed⟩

end Runs

theorem anonymisedAlike {userId : String} {w w' : World} {row row' : UserRow} (found : w.users.get? userId = some row)
    (found' : w'.users.get? userId = some row') (alike : Alike row row') (moves moves' : List (Move Request Nat Answer))
    (anonymised : Anonymised ((service config).run (Pool.initial w) moves) userId)
    (anonymised' : Anonymised ((service config).run (Pool.initial w') moves') userId)
    (stamped : (((service config).run (Pool.initial w) moves).world.users.get? userId).map stamps =
      (((service config).run (Pool.initial w') moves').world.users.get? userId).map stamps) :
    RevealsNothing userId ((service config).run (Pool.initial w) moves).world ((service config).run (Pool.initial w') moves').world ↔
      AgreeOnRest row row' := by
  obtain ⟨clean,last,there,same,wiped,closed⟩ := anonymisedRow config moves found anonymised
  obtain ⟨clean',last',there',same',wiped',closed'⟩ := anonymisedRow config moves' found' anonymised'
  rw [there,there'] at stamped
  obtain ⟨deleted,rest⟩ := Prod.mk.inj (Option.some.inj stamped)
  obtain ⟨wipedAt,updated⟩ := Prod.mk.inj rest
  rw [← keptIff alike,← same,← same']
  constructor
  · intro reveals
    have equal := reveals.rows
    rw [there,there'] at equal
    rw [Option.some.inj equal]
  · intro agree
    refine ⟨?_,clean,clean'⟩
    rw [there,there',blankRow wiped closed,blankRow wiped' closed',agree,deleted,wipedAt,updated]

section Inputs

def trusting : Config where
  verifyPassword _ _ := true
  verifyWalletSignature _ _ _ := true
  parseUrl _ := none
  setDate at' days := at' + days * 86400000

def subscriber (name : String) (taxId : Option String) : UserRow :=
  { id := "u", name := some name, email := some name, taxId := taxId, credentials := { passwordHash := some "h", totpSecret := some name } }

def alone (row : UserRow) : World where
  users := ⟨[row],by simp⟩

def erasing : List (Move Request Nat Answer) :=
  [.start (.requestErasure "u" { password := some "p" }),.answer 0 {},.answer 0 {},.answer 0 {},.answer 0 { text := "r" },
    .environment 5,.start (.anonymizeUser "u" none),.answer 1 {}]

theorem anonymisedNamesAlike :
    RevealsNothing "u" ((service trusting).run (Pool.initial (alone (subscriber "Ann" none))) erasing).world
      ((service trusting).run (Pool.initial (alone (subscriber "Bob" none))) erasing).world :=
  (anonymisedAlike trusting rfl rfl rfl erasing erasing ⟨⟨0,_,_,rfl⟩,⟨1,_,rfl⟩⟩ ⟨⟨0,_,_,rfl⟩,⟨1,_,rfl⟩⟩ rfl).mpr
    ⟨rfl,rfl,rfl,rfl,rfl,rfl,rfl,rfl⟩

/-- The tax number of a user is still there. -/
theorem anonymisedTaxIds :
    Alike (subscriber "Ann" (some "DE1")) (subscriber "Ann" (some "DE2")) ∧
    Anonymised ((service trusting).run (Pool.initial (alone (subscriber "Ann" (some "DE1")))) erasing) "u" ∧
    Anonymised ((service trusting).run (Pool.initial (alone (subscriber "Ann" (some "DE2")))) erasing) "u" ∧
    ¬ RevealsNothing "u" ((service trusting).run (Pool.initial (alone (subscriber "Ann" (some "DE1")))) erasing).world
      ((service trusting).run (Pool.initial (alone (subscriber "Ann" (some "DE2")))) erasing).world := by
  refine ⟨rfl,⟨⟨0,_,_,rfl⟩,⟨1,_,rfl⟩⟩,⟨⟨0,_,_,rfl⟩,⟨1,_,rfl⟩⟩,fun reveals => ?_⟩
  have taxIds := congrArg (Option.map UserRow.taxId) reveals.rows
  revert taxIds
  decide

end Inputs

end HireSettle.Users.AnonymizedRows
