import HireSettle.Users.EmailChanges
import HireSettle.Workflow.Turns

/-! What a confirmed address is. The confirmation writes what it has read before, whatever
the row holds by then: a change that was requested in between is lost, and a token may
be confirmed twice. -/
namespace HireSettle.Users.EmailChanges.ConfirmedEmails
open Workflow

variable (config : Config)

/-- The event has stored the change. -/
def Stores (change : Change) (e : EmailEvent) : Prop :=
  e.site = .storeChange change ∧ storeChange change e.answer e.before = .ok ((),e.after)

/-- The change is pending, and its token can be confirmed until it expires. -/
def Holds (change : Change) (w : World) : Prop :=
  ∃ row, w.users.get? change.userId = some row ∧ row.emailChangeToken = some change.token ∧
    row.pendingEmail = some change.email ∧ row.emailChangeTokenExpiresAt = some change.expiresAt

/-- The user has the address for its email, and the token was mailed to no other. -/
def Confirms (pool : EmailPool) (k : Nat) (token email : String) : Prop :=
  ∃ e ∈ pool.own k, ∃ s ∈ pool.history, ∃ change, Stores change s ∧ change.token = token ∧ change.email = email ∧
    e.site = .swapEmail change.userId ∧ (e.after.users.get? change.userId).bind (fun row => row.email) = some email ∧
    e.before.clock ≤ change.expiresAt ∧ ∀ mail ∈ pool.world.outbox, mail.token = some token → mail.recipient = email

/-- No other change of the user is requested, and the token is not confirmed. -/
def Undisturbed (pool : EmailPool) (change : Change) (recent : List EmailEvent) : Prop :=
  ∀ e ∈ recent, (∀ other, Stores other e → other.userId ≠ change.userId) ∧
    ∀ t, pool.threads[e.thread]? = some t → t.request = .confirmEmailChange change.token → e.after.users = e.before.users

structure OnlyConfirmed (pool : EmailPool) : Prop where
  address : ∀ (k : Nat) token text email, pool.threads[k]? = some ⟨.confirmEmailChange token,.ret (.updated text email)⟩ →
    Confirms pool k token email
  alone : ∀ (k k' : Nat) token reply reply', pool.threads[k]? = some ⟨.confirmEmailChange token,.ret reply⟩ →
    pool.threads[k']? = some ⟨.confirmEmailChange token,.ret reply'⟩ → k = k'
  pending : ∀ (k : Nat) token reply, pool.threads[k]? = some ⟨.confirmEmailChange token,.ret reply⟩ → ∀ recent s older change,
    pool.history = recent ++ s :: older → (∃ r ∈ older, r.thread = k ∧ r.site = .findByToken) → Stores change s →
    Undisturbed pool change recent → Holds change pool.world

/-- The row that a confirmation writes holds its token, and a swap is in time. -/
def Current (request : Request) (_ : List EmailEvent) (e : EmailEvent) : Prop :=
  match request, e.site with
  | .confirmEmailChange token, .wipe userId => e.answer.fails = false →
      ∃ row ∈ e.before.users.get? userId, row.emailChangeToken = some token
  | .confirmEmailChange token, .swapEmail userId => e.answer.fails = false →
      ∃ row ∈ e.before.users.get? userId, row.emailChangeToken = some token ∧
        ∃ expiresAt ∈ row.emailChangeTokenExpiresAt, e.before.clock ≤ expiresAt
  | _, _ => True

instance (request : Request) (earlier : List EmailEvent) (e : EmailEvent) : Decidable (Current request earlier e) := by
  unfold Current
  split <;> infer_instance

def drawnToken (e : EmailEvent) : Option String :=
  match e.site with
  | .generateToken userId => some (generateEmailChangeToken config userId e.answer.text)
  | _ => none

def draws (token : String) (e : EmailEvent) : Bool := drawnToken config e = some token

/-- The random bytes give no token twice. -/
def Fresh (earlier : List EmailEvent) (e : EmailEvent) : Prop :=
  ∀ token ∈ drawnToken config e, ∀ d ∈ earlier, drawnToken config d ≠ some token

instance (earlier : List EmailEvent) (e : EmailEvent) : Decidable (Fresh config earlier e) := by
  unfold Fresh
  infer_instance

section Writes

variable {change : Change} {e : EmailEvent} {w w' : World} {answer : Answer}

theorem storesRow (stores : Stores change e) : ∃ row, e.before.users.get? change.userId = some row ∧
    e.after.users.get? change.userId = some (pendingRow change e.before.clock row) ∧
    (∀ other, other ≠ change.userId → e.after.users.get? other = e.before.users.get? other) ∧ e.after.outbox = e.before.outbox := by
  obtain ⟨_,stored⟩ := stores
  unfold storeChange at stored
  split at stored
  · cases stored
  split at stored
  · cases stored
  split at stored
  · cases stored
  · rename_i modified
    obtain ⟨row,found,_,same⟩ := Table.modifyGet modified
    have after := (Prod.mk.inj (Except.ok.inj stored)).2
    rw [← after,same]
    exact ⟨row,found,Table.getUpdateSelf found _ (pendingKey _ _),fun _ differs => Table.getUpdateOther _ differs _ (pendingKey _ _),rfl⟩

theorem storesHolds (stores : Stores change e) : Holds change e.after := by
  obtain ⟨row,_,after,_⟩ := storesRow stores
  exact ⟨_,after,rfl,rfl,rfl⟩

/-- An event stores one change. -/
theorem storesSame {other : Change} (stores : Stores change e) (stores' : Stores other e) : change = other :=
  Site.storeChange.inj (stores.1.symm.trans stores'.1)

/-- What a confirmation does to the row of the user, and to no other. -/
structure Clears (userId : String) (w w' : World) : Prop where
  row : ∃ row row', w.users.get? userId = some row ∧ w'.users.get? userId = some row' ∧ row'.emailChangeToken = none
  others : ∀ other, other ≠ userId → w'.users.get? other = w.users.get? other
  outbox : w'.outbox = w.outbox

theorem wipeClears {userId : String} (wiped : wipe userId answer w = .ok ((),w')) : Clears userId w w' := by
  unfold wipe at wiped
  split at wiped
  · cases wiped
  split at wiped
  · cases wiped
  · rename_i modified
    obtain ⟨row,found,_,same⟩ := Table.modifyGet modified
    have after := (Prod.mk.inj (Except.ok.inj wiped)).2
    rw [← after,same]
    exact ⟨⟨row,_,found,Table.getUpdateSelf found _ (wipedKey _),rfl⟩,fun _ differs => Table.getUpdateOther _ differs _ (wipedKey _),rfl⟩

theorem swapClears {userId email : String} (swapped : swapEmail userId email answer w = .ok ((),w')) :
    Clears userId w w' ∧ (w'.users.get? userId).bind (fun row => row.email) = some email := by
  unfold swapEmail at swapped
  split at swapped
  · cases swapped
  split at swapped
  · cases swapped
  split at swapped
  · cases swapped
  · rename_i modified
    obtain ⟨row,found,_,same⟩ := Table.modifyGet modified
    have after := (Prod.mk.inj (Except.ok.inj swapped)).2
    have updated := Table.getUpdateSelf found _ (swappedKey email w.clock)
    rw [← after,same]
    exact ⟨⟨⟨row,_,found,updated,rfl⟩,fun _ differs => Table.getUpdateOther _ differs _ (swappedKey _ _),rfl⟩,by rw [updated]; rfl⟩

theorem wipeWorks {userId : String} (wiped : wipe userId answer w = .ok ((),w')) : answer.fails = false := by
  unfold wipe at wiped
  split at wiped
  · cases wiped
  · rename_i works
    exact Bool.eq_false_iff.mpr works

theorem swapWorks {userId email : String} (swapped : swapEmail userId email answer w = .ok ((),w')) : answer.fails = false := by
  unfold swapEmail at swapped
  split at swapped
  · cases swapped
  · rename_i works
    exact Bool.eq_false_iff.mpr works

theorem logsElsewhere {userId : String} {action : SecurityEventAction} (logged : log userId action answer w = .ok ((),w')) :
    w'.users = w.users ∧ w'.outbox = w.outbox := by
  unfold log at logged
  split at logged
  · cases logged
  split at logged <;> cases logged
  exact ⟨rfl,rfl⟩

end Writes

section Calls

variable {own : List EmailEvent} {request : Request} {α : Type}

/-- What is known of each call, from those before it. -/
inductive Calls (request : Request) (own : List EmailEvent) (e : EmailEvent) : Prop where
  | idle (users : e.after.users = e.before.users) (outbox : e.after.outbox = e.before.outbox) (silent : ∀ change, ¬ Stores change e)
  | stored (change : Change) (stores : Stores change e) (drawn : ∃ d ∈ own.head?, draws config change.token d = true)
  | mailed (mail : Mail) (users : e.after.users = e.before.users) (outbox : e.after.outbox = mail :: e.before.outbox)
      (silent : ∀ change, ¬ Stores change e)
      (known : ∀ token, mail.token = some token → ∃ s ∈ own, ∃ change, Stores change s ∧ change.token = token ∧ change.email = mail.recipient)
  | cleared (token userId : String) (asked : request = .confirmEmailChange token)
      (site : e.site = .wipe userId ∨ e.site = .swapEmail userId) (works : e.answer.fails = false)
      (clears : Clears userId e.before e.after)

/-- A confirmation that has returned has written the address that it had read with its token. -/
def Ended (request : Request) (own : List EmailEvent) (out : Except Exception Reply) : Prop :=
  match request, out with
  | .confirmEmailChange token, .ok (.updated _ email) => ∃ r ∈ own, ∃ e ∈ own, ∃ row, r.before.users.get? row.id = some row ∧
      row.emailChangeToken = some token ∧ row.pendingEmail = some email ∧ e.site = .swapEmail row.id ∧ e.answer.fails = false ∧
      Clears row.id e.before e.after ∧ (e.after.users.get? row.id).bind (fun row => row.email) = some email
  | .confirmEmailChange _, .ok (.message _) => False
  | _, _ => True

variable {done : List EmailEvent → Except Exception α → Prop}

theorem guardedRead {site : Site} (other : ∀ change, site ≠ .storeChange change) {f : World → α}
    (fails : ∀ own error, done own (.error error)) (finds : ∀ thread i w, done (⟨thread,site,i,w,w⟩ :: own) (.ok (f w))) :
    Guarded (Calls config request) done (read site f) own := by
  refine guardedQuery fun thread i w => ⟨.idle rfl rfl fun change its => other _ its.1,?_⟩
  split
  · exact fails _ _
  · exact finds thread i w

theorem guardedMail {site : Site} (other : ∀ change, site ≠ .storeChange change) {mail : Mail}
    (known : ∀ token, mail.token = some token → ∃ s ∈ own, ∃ change, Stores change s ∧ change.token = token ∧ change.email = mail.recipient) :
    Guarded (Calls config request) anyOutcome (.transact site (sendMail mail)) own := by
  refine guardedTransact (fun thread i w value w' sent => ⟨?_,trivial⟩) fun thread i w error _ => ⟨.idle rfl rfl fun change its => other _ its.1,trivial⟩
  unfold sendMail at sent
  split at sent
  · cases sent
  · cases sent
    exact .mailed mail rfl rfl (fun change its => other _ its.1) known

theorem guardedRequest (userId newEmail : String) :
    Guarded (Calls config (.requestEmailChange userId newEmail)) anyOutcome (requestEmailChange config userId newEmail) [] := by
  refine guardedBind (guardedRead config (fun _ => by simp) (fun _ _ => trivial) fun thread i w => ?_)
  cases w.users.get? userId with
  | none => trivial
  | some user =>
    dsimp only
    split
    · trivial
    refine guardedBind (guardedRead config (fun _ => by simp) (fun _ _ => trivial) fun thread i w => ?_)
    dsimp only
    split
    · trivial
    refine guardedBind (guardedQuery fun thread i w => ⟨.idle rfl rfl fun _ its => absurd its.1 (by simp),?_⟩)
    refine guardedBind (guardedTransact (fun thread' i' w' value after stored => ?_) fun thread' i' w' error thrown => ?_)
    · have stores : Stores _ ⟨thread',_,i',w',after⟩ := ⟨rfl,stored⟩
      refine ⟨.stored _ stores ⟨_,rfl,decide_eq_true rfl⟩,?_⟩
      refine guardedThen (guardedMail config (fun _ => by simp) fun token its => ?_) fun _ own => ?_
      · cases its
        exact ⟨_,List.mem_cons_self,_,stores,rfl,rfl⟩
      · refine guardedThen ?_ fun _ _ => trivial
        cases present user.email with
        | none => trivial
        | some old => exact guardedMail config (fun _ => by simp) nofun
    · refine ⟨.idle rfl rfl fun change its => ?_,trivial⟩
      cases its.1
      cases thrown.symm.trans its.2

theorem guardedConfirm (token : String) :
    Guarded (Calls config (.confirmEmailChange token)) (Ended (.confirmEmailChange token)) (handler config (.confirmEmailChange token)) [] := by
  show Guarded _ _ (confirmEmailChange token >>= fun out => pure (Reply.updated out.1 out.2)) []
  unfold confirmEmailChange
  rw [Process.bindAssoc]
  refine guardedBind (guardedRead config (fun _ => by simp) (fun _ _ => trivial) fun thread i w => ?_)
  cases found : w.users.findFirst fun row => row.emailChangeToken = some token with
  | none => trivial
  | some user =>
    obtain ⟨there,its⟩ := Table.findFirstGet found
    dsimp only
    rw [Process.bindAssoc]
    refine guardedBind (guardedQuery fun _ _ _ => ⟨.idle rfl rfl fun _ its => absurd its.1 (by simp),?_⟩)
    dsimp only
    split
    · trivial
    cases held : present user.pendingEmail with
    | none => trivial
    | some newEmail =>
      have pending : user.pendingEmail = some newEmail := (Option.filter_eq_some_iff.mp held).1
      dsimp only
      rw [Process.bindAssoc]
      refine guardedBind (guardedRead config (fun _ => by simp) (fun _ _ => trivial) fun _ _ _ => ?_)
      dsimp only
      split
      · rw [Process.bindAssoc]
        refine guardedBind (guardedTransact (fun _ _ _ _ _ wiped => ⟨?_,trivial⟩) fun _ _ _ _ _ =>
          ⟨.idle rfl rfl fun _ its => absurd its.1 (by simp),trivial⟩)
        exact .cleared token user.id rfl (Or.inl rfl) (wipeWorks wiped) (wipeClears wiped)
      · rw [Process.bindAssoc]
        refine guardedBind (guardedTransact (fun _ _ _ _ _ swapped => ⟨?_,?_⟩) fun _ _ _ _ _ =>
          ⟨.idle rfl rfl fun _ its => absurd its.1 (by simp),trivial⟩)
        · exact .cleared token user.id rfl (Or.inr rfl) (swapWorks swapped) (swapClears swapped).1
        · dsimp only
          rw [Process.bindAssoc]
          refine guardedBind (guardedTransact (fun _ _ before _ after logged => ⟨?_,?_⟩) fun _ _ _ _ _ =>
            ⟨.idle rfl rfl fun _ its => absurd its.1 (by simp),trivial⟩)
          · have same : after.users = before.users ∧ after.outbox = before.outbox := logsElsewhere logged
            exact .idle same.1 same.2 fun _ its => absurd its.1 (by simp)
          · refine ⟨⟨thread,.findByToken,i,w,w⟩,by simp,_,List.mem_cons_of_mem _ List.mem_cons_self,user,there,of_decide_eq_true its,pending,rfl,swapWorks swapped,
              swapClears swapped⟩

theorem guardedHandler (request : Request) : Guarded (Calls config request) (Ended request) (handler config request) [] := by
  cases request with
  | confirmEmailChange token => exact guardedConfirm config token
  | requestEmailChange userId newEmail =>
    exact guardedMono (fun _ out _ => by cases out <;> trivial) (guardedThen (guardedRequest config userId newEmail) fun _ _ => trivial)

end Calls

section Runs

variable {c : Snapshot Site Answer World} {history own : List EmailEvent} {request : Request} {change other : Change}

def HeldIn (token : String) (w : World) : Prop := ∃ userId row, w.users.get? userId = some row ∧ row.emailChangeToken = some token

/-- Every token in a row and in a mail has been stored with its address, and none comes back once it has gone. -/
structure Standing (c : Snapshot Site Answer World) : Prop where
  held : ∀ userId row token, c.world.users.get? userId = some row → row.emailChangeToken = some token →
    ∃ s ∈ c.history, ∃ change, Stores change s ∧ change.userId = userId ∧ change.token = token ∧ Holds change c.world
  mailed : ∀ mail ∈ c.world.outbox, ∀ token, mail.token = some token →
    ∃ s ∈ c.history, ∃ change, Stores change s ∧ change.token = token ∧ change.email = mail.recipient
  gone : ∀ e ∈ c.history, ∀ token, HeldIn token e.before → ¬ HeldIn token e.after → ¬ HeldIn token c.world

/-- The event leaves the change pending. -/
def Calm (change : Change) (e : EmailEvent) : Prop := Holds change e.before → Holds change e.after

structure Inv (c : Snapshot Site Answer World) : Prop where
  standing : Standing c
  past : AllMeet (fun earlier e => Standing ⟨e.before,earlier⟩) c.history
  fresh : AllMeet (Fresh config) c.history
  drawn : AllMeet (fun earlier e => ∀ change, Stores change e → ∃ d ∈ previous earlier e, draws config change.token d = true) c.history
  since : ∀ change, Since (Calm change) (fun w w' => Holds change w → Holds change w') c

variable {config}

theorem drawnOnce (fresh : AllMeet (Fresh config) history) (token : String) :
    AtMostOnce (fun earlier e => ∃ d ∈ previous earlier e, draws config token d = true) history :=
  onceFollowing (countOnce (meetsMono (fun _ _ single its d inside => decide_eq_false (single token (of_decide_eq_true its) d inside)) fresh))

/-- A token is stored once. -/
theorem storesAlone (fresh : AllMeet (Fresh config) history)
    (drawn : AllMeet (fun earlier e => ∀ change, Stores change e → ∃ d ∈ previous earlier e, draws config change.token d = true) history)
    (token : String) :
    AllMeet (fun earlier e => (∃ change, Stores change e ∧ change.token = token) →
      ∀ d ∈ earlier, ¬ ∃ change, Stores change d ∧ change.token = token) history := by
  refine meetsIff.mpr fun earlier e suffix ⟨change,stores,its⟩ d inside ⟨other,stores',its'⟩ => ?_
  have before : earlier <:+ history := (List.suffix_cons e earlier).trans suffix
  obtain ⟨older,below,source⟩ := meetsAt (meetsSuffix before drawn) inside
  exact (meetsIff.mp (drawnOnce fresh token) earlier e suffix) (its ▸ meetsIff.mp drawn earlier e suffix change stores) older d below
    (its' ▸ source other stores')

theorem storedSame (inv : Inv config c) {s s' : EmailEvent} (inside : s ∈ c.history) (inside' : s' ∈ c.history)
    (stores : Stores change s) (stores' : Stores other s') (same : change.token = other.token) : change = other := by
  have one : s = s' := aloneSame (storesAlone inv.fresh inv.drawn other.token) inside inside' ⟨change,stores,same⟩ ⟨other,stores',rfl⟩
  subst one
  exact storesSame stores stores'

theorem holdsSame {w w' : World} (same : w'.users.get? change.userId = w.users.get? change.userId) (holds : Holds change w) :
    Holds change w' := by
  obtain ⟨row,found,its⟩ := holds
  exact ⟨row,same.trans found,its⟩

theorem heldSame {w w' : World} {token : String} (same : w'.users = w.users) : HeldIn token w' ↔ HeldIn token w := by
  rw [HeldIn,HeldIn,same]

theorem standingIdle (standing : Standing c) {thread : Nat} {site : Site} {i : Answer} {w : World} (users : w.users = c.world.users)
    (outbox : ∀ mail ∈ w.outbox, ∀ token, mail.token = some token →
      ∃ s ∈ c.history, ∃ change, Stores change s ∧ change.token = token ∧ change.email = mail.recipient) :
    Standing (c.record thread site i w) := by
  refine ⟨fun userId row token found its => ?_,fun mail inside token its => ?_,fun e inside token before after => ?_⟩
  · obtain ⟨s,stored,change,stores,user,same,holds⟩ := standing.held userId row token (users ▸ found) its
    exact ⟨s,List.mem_cons_of_mem _ stored,change,stores,user,same,holdsSame (congrArg (fun t => t.get? change.userId) users) holds⟩
  · obtain ⟨s,stored,its⟩ := outbox mail inside token its
    exact ⟨s,List.mem_cons_of_mem _ stored,its⟩
  · rcases List.mem_cons.mp inside with rfl | older
    · exact after
    · exact fun held => standing.gone e older token before after ((heldSame users).mp held)

theorem standingStored (inv : Inv config c) {thread : Nat} {site : Site} {i : Answer} {w : World}
    (stores : Stores change (c.event thread site i w)) (unused : ∀ d ∈ c.history, ¬ ∃ other, Stores other d ∧ other.token = change.token) :
    Standing (c.record thread site i w) := by
  obtain ⟨_,_,after,others,outbox⟩ := storesRow stores
  have standing := inv.standing
  refine ⟨fun userId row token found its => ?_,fun mail inside token its => ?_,fun e inside token before gone held => ?_⟩
  · by_cases same : userId = change.userId
    · subst same
      cases after.symm.trans found
      cases its
      exact ⟨_,List.mem_cons_self,change,stores,rfl,rfl,storesHolds stores⟩
    · obtain ⟨s,stored,other,stores',rfl,token',holds⟩ := standing.held userId row token ((others userId same).symm.trans found) its
      exact ⟨s,List.mem_cons_of_mem _ stored,other,stores',rfl,token',holdsSame (others _ same) holds⟩
  · obtain ⟨s,stored,its⟩ := standing.mailed mail (outbox ▸ inside) token its
    exact ⟨s,List.mem_cons_of_mem _ stored,its⟩
  · rcases List.mem_cons.mp inside with rfl | older
    · exact gone held
    · obtain ⟨userId,row,found,its⟩ := held
      by_cases same : userId = change.userId
      · subst same
        cases after.symm.trans found
        cases its
        -- the token was stored before it was lost
        obtain ⟨earlier,suffix,past⟩ := meetsAt inv.past older
        obtain ⟨_,row',found',its'⟩ := before
        obtain ⟨s,stored,other,stores',_,same',_⟩ := past.held _ row' _ found' its'
        exact unused s ((suffix.subset (List.mem_cons_of_mem _ stored))) ⟨other,stores',same'⟩
      · exact standing.gone e older token before gone ⟨userId,row,(others userId same).symm.trans found,its⟩

theorem standingCleared (standing : Standing c) {thread : Nat} {site : Site} {i : Answer} {w : World} {userId : String}
    (clears : Clears userId c.world w) : Standing (c.record thread site i w) := by
  obtain ⟨_,row',_,after,none⟩ := clears.row
  have elsewhere : ∀ other row token, w.users.get? other = some row → row.emailChangeToken = some token → other ≠ userId := by
    rintro other row token found its rfl
    cases after.symm.trans found
    cases none.symm.trans its
  refine ⟨fun other row token found its => ?_,fun mail inside token its => ?_,fun e inside token before gone held => ?_⟩
  · have differs := elsewhere other row token found its
    obtain ⟨s,stored,change,stores,rfl,token',holds⟩ := standing.held other row token ((clears.others other differs).symm.trans found) its
    exact ⟨s,List.mem_cons_of_mem _ stored,change,stores,rfl,token',holdsSame (clears.others _ differs) holds⟩
  · obtain ⟨s,stored,its⟩ := standing.mailed mail (clears.outbox ▸ inside) token its
    exact ⟨s,List.mem_cons_of_mem _ stored,its⟩
  · rcases List.mem_cons.mp inside with rfl | older
    · exact gone held
    · obtain ⟨other,row,found,its⟩ := held
      exact standing.gone e older token before gone ⟨other,row,(clears.others other (elsewhere other row token found its)).symm.trans found,its⟩

theorem invRecord (inv : Inv config c) {thread : Nat} {site : Site} {i : Answer} {w : World}
    (calls : Calls config request (c.history.filter fun e => e.thread = thread) (c.event thread site i w))
    (fresh : Fresh config c.history (c.event thread site i w)) : Inv config (c.record thread site i w) := by
  have drawn : ∀ change, Stores change (c.event thread site i w) →
      ∃ d ∈ previous c.history (c.event thread site i w), draws config change.token d = true := by
    intro change stores
    cases calls with
    | idle users outbox silent => exact absurd stores (silent change)
    | stored change' stores' drawn => exact storesSame stores' stores ▸ drawn
    | mailed mail users outbox silent known => exact absurd stores (silent change)
    | cleared token userId asked site works clears => rcases site with site | site <;> cases site.symm.trans stores.1
  have fresh' : AllMeet (Fresh config) (c.record thread site i w).history := ⟨fresh,inv.fresh⟩
  have past : AllMeet (fun earlier e => Standing ⟨e.before,earlier⟩) (c.record thread site i w).history := ⟨inv.standing,inv.past⟩
  refine ⟨?_,past,fresh',⟨drawn,inv.drawn⟩,fun change =>
    sinceRecord (fun _ => id) (fun first second holds => second (first holds)) (fun calm => calm) (inv.since change)⟩
  cases calls with
  | idle users outbox silent =>
    exact standingIdle inv.standing users fun mail inside => inv.standing.mailed mail (outbox ▸ inside)
  | stored change stores _ =>
    exact standingStored inv stores ((storesAlone fresh' ⟨drawn,inv.drawn⟩ change.token).1 ⟨change,stores,rfl⟩)
  | mailed mail users outbox silent known =>
    refine standingIdle inv.standing users fun mail' inside token its => ?_
    rcases List.mem_cons.mp (outbox ▸ inside) with rfl | before
    · obtain ⟨s,there,its⟩ := known token its
      exact ⟨s,(List.mem_filter.mp there).1,its⟩
    · exact inv.standing.mailed mail' before token its
  | cleared token userId asked site works clears => exact standingCleared inv.standing clears

/-- No change of an email is under way. -/
structure Unasked (w : World) : Prop where
  rows : ∀ userId row, w.users.get? userId = some row → row.emailChangeToken = none
  mails : ∀ mail ∈ w.outbox, mail.token = none

theorem invInitial {w : World} (unasked : Unasked w) : Inv config ⟨w,[]⟩ := by
  refine ⟨⟨fun userId row token found its => ?_,fun mail inside token its => ?_,fun _ inside => absurd inside List.not_mem_nil⟩,
    trivial,trivial,trivial,fun _ => sinceInitial⟩
  · cases (unasked.rows userId row found).symm.trans its
  · cases (unasked.mails mail inside).symm.trans its

variable (config) in
theorem guardedEmails (w : World) (moves : List EmailMove) (unasked : Unasked w)
    (fresh : AllMeet (Fresh config) ((service config).run (Pool.initial w) moves).history) :
    GuardedEnds (Calls config) Ended (Inv config) ((service config).run (Pool.initial w) moves) := by
  refine guardedRun (P := fun _ => Fresh config) (fun request c thread site i w' inv calls fresh => invRecord inv calls fresh)
    (fun elapsed c inv => ?_) (guardedHandler config) (guardedInitial (invInitial unasked)) moves (meetsMono (fun _ _ its _ _ => its) fresh)
  exact ⟨⟨inv.standing.held,inv.standing.mailed,inv.standing.gone⟩,inv.past,inv.fresh,inv.drawn,inv.since⟩

/-- The token that an event takes away is in no row after it. -/
theorem losesToken (inv : Inv config c) {e : EmailEvent} (inside : e ∈ c.history) {userId token : String} (clears : Clears userId e.before e.after)
    {row : UserRow} (found : e.before.users.get? userId = some row) (its : row.emailChangeToken = some token) :
    HeldIn token e.before ∧ ¬ HeldIn token e.after := by
  refine ⟨⟨userId,row,found,its⟩,fun ⟨other,row',found',its'⟩ => ?_⟩
  obtain ⟨earlier,suffix,past⟩ := meetsAt inv.past inside
  have before : ∀ s ∈ earlier, s ∈ c.history := fun s there => suffix.subset (List.mem_cons_of_mem _ there)
  by_cases same : other = userId
  · subst same
    obtain ⟨_,_,_,after,gone⟩ := clears.row
    cases after.symm.trans found'
    cases gone.symm.trans its'
  · obtain ⟨s,there,change,stores,rfl,token₁,_⟩ := past.held _ row _ found its
    obtain ⟨s',there',change',stores',rfl,token₂,_⟩ := past.held other row' _ ((clears.others other same).symm.trans found') its'
    exact same (congrArg Change.userId (storedSame inv (before s' there') (before s there) stores' stores (token₂.trans token₁.symm)))

theorem losesAlone (past : AllMeet (fun earlier e => Standing ⟨e.before,earlier⟩) history) (token : String) :
    AllMeet (fun earlier e => (HeldIn token e.before ∧ ¬ HeldIn token e.after) →
      ∀ d ∈ earlier, ¬ (HeldIn token d.before ∧ ¬ HeldIn token d.after)) history :=
  meetsMono (fun _ _ standing its d inside lost => standing.gone d inside token lost.1 lost.2 its.1) past

theorem calmEvent {e : EmailEvent} {earlier : List EmailEvent} (calls : Calls config request own e) (current : Current request earlier e)
    (others : ∀ other, Stores other e → other.userId ≠ change.userId)
    (unconfirmed : request = .confirmEmailChange change.token → e.after.users = e.before.users) : Calm change e := by
  intro holds
  cases calls with
  | idle users outbox silent => exact holdsSame (congrArg (fun t => t.get? change.userId) users) holds
  | mailed mail users outbox silent known => exact holdsSame (congrArg (fun t => t.get? change.userId) users) holds
  | stored other stores drawn =>
    obtain ⟨_,_,_,elsewhere,_⟩ := storesRow stores
    exact holdsSame (elsewhere _ (others other stores).symm) holds
  | cleared token userId asked site works clears =>
    subst asked
    by_cases same : change.userId = userId
    · subst same
      obtain ⟨row,found,its,_⟩ := holds
      have held : ∃ row ∈ e.before.users.get? change.userId, row.emailChangeToken = some token := by
        rcases site with site | site
        · simp only [Current,site] at current
          exact current works
        · simp only [Current,site] at current
          obtain ⟨row,found,its,_⟩ := current works
          exact ⟨row,found,its⟩
      obtain ⟨row',found',its'⟩ := held
      cases found.symm.trans found'
      cases its.symm.trans its'
      have users := unconfirmed rfl
      exact holdsSame (congrArg (fun t => t.get? change.userId) users) ⟨row,found,its,by assumption⟩
    · exact holdsSame (clears.others _ same) holds

end Runs

theorem confirmedWhileCurrent (w : World) (moves : List EmailMove) (unasked : Unasked w)
    (fresh : AllMeet (Fresh config) ((service config).run (Pool.initial w) moves).history)
    (current : Meets Current ((service config).run (Pool.initial w) moves)) : OnlyConfirmed ((service config).run (Pool.initial w) moves) := by
  have guarded := guardedEmails config w moves unasked fresh
  generalize (service config).run (Pool.initial w) moves = pool at guarded current
  have inv := guarded.holds
  have swapped : ∀ (k : Nat) token reply, pool.threads[k]? = some ⟨.confirmEmailChange token,.ret reply⟩ →
      ∃ e ∈ pool.own k, HeldIn token e.before ∧ ¬ HeldIn token e.after ∧ ∀ text email, reply = .updated text email → Confirms pool k token email := by
    intro k token reply ended
    cases reply with
    | message text => exact absurd (guardedReturned guarded ended) id
    | updated text email =>
      obtain ⟨r,rmine,e,mine,row,found,its,pending,site,works,clears,set⟩ := guardedReturned guarded ended
      obtain ⟨inside,thread⟩ := List.mem_filter.mp mine
      have thread : e.thread = k := of_decide_eq_true thread
      subst thread
      obtain ⟨earlier,suffix,past,stands⟩ := meetsAt (meetsBoth inv.past current) inside
      have now := stands _ ended
      simp only [Current,site] at now
      obtain ⟨row',found',its',expiresAt,expires,within⟩ := now works
      obtain ⟨s,stored,change,stores,user,same,_,found₁,_,_,expires₁⟩ := past.held _ row' token found' its'
      have stored : s ∈ pool.history := suffix.subset (List.mem_cons_of_mem _ stored)
      obtain ⟨older,suffix',past'⟩ := meetsAt inv.past (List.mem_filter.mp rmine).1
      obtain ⟨s',stored',change',stores',user',same',_,found₂,_,email₂,_⟩ := past'.held _ row token found its
      have one : change' = change :=
        storedSame inv (suffix'.subset (List.mem_cons_of_mem _ stored')) stored stores' stores (same'.trans same.symm)
      subst one
      cases found'.symm.trans (user ▸ found₁)
      cases expires.symm.trans expires₁
      cases found.symm.trans (user' ▸ found₂)
      cases pending.symm.trans email₂
      obtain ⟨held,lost⟩ := losesToken inv inside clears found' its'
      refine ⟨e,mine,held,lost,fun _ _ its => ?_⟩
      cases its
      refine ⟨e,mine,s,stored,change',stores,same,rfl,user ▸ site,user ▸ set,within,fun mail sent carries => ?_⟩
      obtain ⟨s'',stored'',other,stores'',same'',recipient⟩ := inv.standing.mailed mail sent token carries
      rw [← recipient,storedSame inv stored'' stored stores'' stores (same''.trans same.symm)]
  refine ⟨fun k token text email ended => ?_,fun k k' token reply reply' ended ended' => ?_,fun k token reply _ recent s older change same _ stores calm => ?_⟩
  · obtain ⟨_,_,_,_,confirms⟩ := swapped k token _ ended
    exact confirms text email rfl
  · obtain ⟨e,mine,held,lost,_⟩ := swapped k token reply ended
    obtain ⟨e',mine',held',lost',_⟩ := swapped k' token reply' ended'
    obtain ⟨inside,thread⟩ := List.mem_filter.mp mine
    obtain ⟨inside',thread'⟩ := List.mem_filter.mp mine'
    have one := aloneSame (losesAlone inv.past token) inside inside' ⟨held,lost⟩ ⟨held',lost'⟩
    exact (of_decide_eq_true thread).symm.trans ((congrArg Event.thread one).trans (of_decide_eq_true thread'))
  · refine inv.since change recent s older same (fun e inside => ?_) (storesHolds stores)
    have there : e ∈ pool.history := same ▸ List.mem_append_left _ inside
    obtain ⟨earlier,_,calls,now⟩ := meetsAt (meetsBoth guarded.seen current) there
    obtain ⟨t,found⟩ : ∃ t, pool.threads[e.thread]? = some t := ⟨_,List.getElem?_eq_getElem (guarded.known e there)⟩
    exact calmEvent (calls t found) (now t found) (calm e inside).1 ((calm e inside).2 t found)

def terse : Config where
  toLowerCase := id
  createHmac _ data := data

def registered : World where
  users := ⟨[{ id := "u", email := some "a" }],by simp⟩

-- a request and its two mails
def requested : List EmailMove :=
  [.start (.requestEmailChange "u" "b"),.answer 0 {},.answer 0 {},.answer 0 { text := "1" },.answer 0 {},.answer 0 {},.answer 0 {}]

def confirmed : List EmailMove :=
  requested ++ ([.start (.confirmEmailChange "1.u:1"),.answer 1 {},.answer 1 {},.answer 1 {},.answer 1 {},.answer 1 {}] : List EmailMove)

-- both have read the row before either writes it
def confirmedTwice : List EmailMove :=
  requested ++ ([.start (.confirmEmailChange "1.u:1"),.start (.confirmEmailChange "1.u:1"),.answer 1 {},.answer 2 {},.answer 1 {},.answer 2 {},
    .answer 1 {},.answer 2 {},.answer 1 {},.answer 2 {},.answer 1 {},.answer 2 { text := "2" }] : List EmailMove)

-- another change is requested before the first is written
def overtaken : List EmailMove :=
  requested ++ ([.start (.confirmEmailChange "1.u:1"),.answer 1 {},.answer 1 {},.answer 1 {},
    .start (.requestEmailChange "u" "c"),.answer 2 {},.answer 2 {},.answer 2 { text := "2" },.answer 2 {},.answer 1 {},.answer 1 {}] : List EmailMove)

theorem unaskedRegistered : Unasked registered := by
  refine ⟨fun userId row found => ?_,nofun⟩
  cases List.mem_singleton.mp (Table.getMem found)
  rfl

theorem changeConfirmed :
    ((service terse).run (Pool.initial registered) confirmed).threads[1]? =
      some ⟨.confirmEmailChange "1.u:1",.ret (.updated "Email address updated successfully." "b")⟩ ∧
    OnlyConfirmed ((service terse).run (Pool.initial registered) confirmed) :=
  ⟨endedEq (by decide +kernel),confirmedWhileCurrent terse registered confirmed unaskedRegistered (by decide +kernel) (by decide +kernel)⟩

/-- A token is confirmed twice, and a change that is requested meanwhile is lost. -/
theorem changeLost :
    ¬ OnlyConfirmed ((service terse).run (Pool.initial registered) confirmedTwice) ∧
    ¬ OnlyConfirmed ((service terse).run (Pool.initial registered) overtaken) := by
  constructor
  · intro only
    have first : ((service terse).run (Pool.initial registered) confirmedTwice).threads[1]? =
        some ⟨.confirmEmailChange "1.u:1",.ret (.updated "Email address updated successfully." "b")⟩ := endedEq (by decide +kernel)
    have second : ((service terse).run (Pool.initial registered) confirmedTwice).threads[2]? =
        some ⟨.confirmEmailChange "1.u:1",.ret (.updated "Email address updated successfully." "b")⟩ := endedEq (by decide +kernel)
    exact absurd (only.alone 1 2 _ _ _ first second) (by decide)
  · intro only
    have ended : ((service terse).run (Pool.initial registered) overtaken).threads[1]? =
        some ⟨.confirmEmailChange "1.u:1",.ret (.updated "Email address updated successfully." "b")⟩ := endedEq (by decide +kernel)
    obtain ⟨s,second,stores⟩ : ∃ s, ((service terse).run (Pool.initial registered) overtaken).history[2]? = some s ∧
        Stores { userId := "u", token := "2.u:2", email := "c", expiresAt := 86400000 } s := ⟨_,rfl,rfl,rfl⟩
    have split : ((service terse).run (Pool.initial registered) overtaken).history =
        ((service terse).run (Pool.initial registered) overtaken).history.take 2 ++
          s :: ((service terse).run (Pool.initial registered) overtaken).history.drop 3 := by
      obtain ⟨bound,rfl⟩ := List.getElem?_eq_some_iff.mp second
      rw [← List.drop_eq_getElem_cons bound,List.take_append_drop]
    have lost : (((service terse).run (Pool.initial registered) overtaken).world.users.get? "u").map (fun row => row.emailChangeToken) = some none := by
      decide +kernel
    have calm : Undisturbed ((service terse).run (Pool.initial registered) overtaken)
        { userId := "u", token := "2.u:2", email := "c", expiresAt := 86400000 }
        (((service terse).run (Pool.initial registered) overtaken).history.take 2) := by
      have swaps : ∀ e ∈ ((service terse).run (Pool.initial registered) overtaken).history.take 2,
          e.thread = 1 ∧ (e.site = .log ∨ e.site = .swapEmail "u") := by decide +kernel
      intro e inside
      obtain ⟨thread,site⟩ := swaps e inside
      refine ⟨fun other stores' => ?_,fun t there asked => ?_⟩
      · rcases site with site | site <;> cases site.symm.trans stores'.1
      · cases ended.symm.trans (thread ▸ there)
        exact absurd asked (by decide)
    obtain ⟨row,found,held,_⟩ := only.pending 1 _ _ ended _ s _ _ split ⟨_,List.mem_of_getElem? (i := 5) rfl,rfl,rfl⟩ stores calm
    rw [found] at lost
    cases held.symm.trans (Option.some.inj lost)

end HireSettle.Users.EmailChanges.ConfirmedEmails
