import HireSettle.Users.Erasure
import HireSettle.Workflow.Guards

/-! The nonces that a wallet signs, and the erasures they are to allow. The nonces are
issued and consumed in one store; the erasure verifies the signature of whatever nonce the
request carries, and does not look into the store. -/
namespace HireSettle.Users.NonceReplays
open Workflow
open HireSettle.Auth.Accounts (DeleteAccountDto)
open GdprService

variable (config : Config)

def bySignature (dto : DeleteAccountDto) : Bool := (present dto.password).isNone && (present dto.signature).isSome

/-- The user who is read is there to be erased, and the signature is one of its wallet for the nonce. -/
def Accepts (userId : String) (dto : DeleteAccountDto) (w : World) : Prop :=
  bySignature dto = true ∧ ∃ user stellarAddress nonce signature, w.users.get? userId = some user ∧ user.deletedAt = none ∧
    present user.stellarAddress = some stellarAddress ∧ present dto.nonce = some nonce ∧ present dto.signature = some signature ∧
    config.verifyWalletSignature stellarAddress nonce signature = true

def counted (own : List ErasureEvent) : Prop := ∃ e ∈ own, e.site = .countEngagements

/-- A request that has passed the re-authentication counts the engagements next. -/
def Passed (pool : ErasurePool) (k : Nat) (userId : String) (dto : DeleteAccountDto) : Prop :=
  bySignature dto = true ∧ ∃ p, pool.threads[k]? = some ⟨.requestErasure userId dto,p⟩ ∧
    (counted (pool.own k) ∨ ∃ update next, p = .call .countEngagements update next)

/-- The nonce is the one in store for the address of the user, and in time, and the request takes it out. -/
def Redeems (pool : ErasurePool) (k : Nat) (userId : String) (dto : DeleteAccountDto) : Prop :=
  ∃ e ∈ pool.own k, ∃ user stellarAddress entry, e.site = .findUser ∧ e.before.users.get? userId = some user ∧
    user.stellarAddress = some stellarAddress ∧ e.before.nonces.get? stellarAddress = some entry ∧
    dto.nonce = some entry.nonce ∧ e.before.clock ≤ entry.expiresAt ∧
    ∃ e' ∈ pool.own k, e'.before.nonces.get? stellarAddress = some entry ∧ e'.after.nonces.get? stellarAddress = none

def NoReplay (pool : ErasurePool) : Prop := ∀ k userId dto, Passed pool k userId dto → Redeems pool k userId dto

section Calls

variable {userId : String} {dto : DeleteAccountDto} {own : List ErasureEvent} {α : Type}

def AcceptedIn (userId : String) (dto : DeleteAccountDto) (own : List ErasureEvent) : Prop :=
  ∃ e ∈ own, e.site = .findUser ∧ e.answer.fails = false ∧ Accepts config userId dto e.before

/-- What is known of each call of an erasure. -/
structure Erases (userId : String) (dto : DeleteAccountDto) (own : List ErasureEvent) (e : ErasureEvent) : Prop where
  nonces : e.after.nonces = e.before.nonces
  onward : AcceptedIn config userId dto own → counted own ∨ e.site = .countEngagements
  entitled : bySignature dto = true → e.site = .countEngagements → AcceptedIn config userId dto own

def Calls (request : Request) (own : List ErasureEvent) (e : ErasureEvent) : Prop :=
  match request with
  | .requestErasure userId dto => Erases config userId dto own e
  | _ => True

def Ended (request : Request) (own : List ErasureEvent) (_ : Except Exception α) : Prop :=
  match request with
  | .requestErasure userId dto => AcceptedIn config userId dto own → counted own
  | _ => True

theorem guardedFree {P : List ErasureEvent → ErasureEvent → Prop} (all : ∀ own e, P own e) (p : Op α) (own : List ErasureEvent) :
    Guarded P anyOutcome p own := by
  induction p generalizing own with
  | ret value => trivial
  | raise error => trivial
  | call site update next ih => exact fun thread i w => ⟨all _ _,ih i w _⟩

theorem signedAccepted (accepted : AcceptedIn config userId dto own) : bySignature dto = true := by
  obtain ⟨_,_,_,_,signed,_⟩ := accepted
  exact signed

/-- A call that neither counts the engagements nor touches a nonce. -/
def Elsewhere (site : Site) (w w' : World) : Prop := w'.nonces = w.nonces ∧ site ≠ .countEngagements

theorem guardedCounted {p : Op α} (acts : Acts Elsewhere p)
    (here : counted own) : Guarded (Erases config userId dto) (fun own' _ => counted own') p own := by
  obtain ⟨e,inside,site⟩ := here
  refine guardedMono (fun own' out there => ?_)
    (guardedActs (fun later e' _ its => ⟨its.1,fun _ => Or.inl ⟨e,List.mem_append_right _ inside,site⟩,fun _ same => absurd same its.2⟩) acts)
  obtain ⟨later,rfl,_⟩ := there
  exact ⟨e,List.mem_append_right _ inside,site⟩

theorem closesOnly (userId : String) (now : Nat) : Acts Elsewhere
    (.transact .closeAccount fun answer w => if answer.fails then .error .database else closeAccount userId now answer.text w : Op Unit) := by
  refine actsTransact (fun _ => ⟨rfl,nofun⟩) fun i w value w' committed => ?_
  split at committed
  · cases committed
  · unfold closeAccount at committed
    split at committed
    · cases committed
    · split at committed <;> cases committed
      exact ⟨rfl,nofun⟩

theorem guardedReauthentication {user : UserRow} {e : ErasureEvent} (read : e.site = .findUser) (works : e.answer.fails = false)
    (found : e.before.users.get? userId = some user) (stays : user.deletedAt = none) :
    Guarded (Erases config userId dto) (fun own' out => match out with
        | .ok _ => bySignature dto = true → AcceptedIn config userId dto own'
        | .error _ => ¬ AcceptedIn config userId dto own') (requireReauthentication config user dto) [e] := by
  have accepted : AcceptedIn config userId dto [e] → Accepts config userId dto e.before := by
    intro ⟨e',inside,_,_,accepts⟩
    exact List.mem_singleton.mp inside ▸ accepts
  unfold requireReauthentication
  cases password : present dto.password with
  | some password =>
    have unsigned : bySignature dto = false := by simp [bySignature,password]
    have never : ∀ own', ¬ AcceptedIn config userId dto own' := fun own' accepted => by
      cases unsigned.symm.trans (signedAccepted config accepted)
    dsimp only
    cases present user.credentials.passwordHash with
    | none => exact never _
    | some passwordHash =>
      refine guardedBind (guardedQuery fun thread i w => ⟨⟨rfl,fun its => absurd its (never _),nofun⟩,?_⟩)
      dsimp only
      split
      · intro signed
        cases unsigned.symm.trans signed
      · exact never _
  | none =>
    cases signed : present dto.signature with
    | none =>
      intro its
      have bySigned := signedAccepted config its
      simp [bySignature,signed] at bySigned
    | some signature =>
      have refused : (∀ stellarAddress nonce, present user.stellarAddress = some stellarAddress → present dto.nonce = some nonce →
          config.verifyWalletSignature stellarAddress nonce signature = false) → ¬ AcceptedIn config userId dto [e] := by
        intro fails its
        obtain ⟨_,other,stellarAddress,nonce,signature',found',_,address,carried,signed',verified⟩ := accepted its
        cases found.symm.trans found'
        cases signed.symm.trans signed'
        cases (fails stellarAddress nonce address carried).symm.trans verified
      dsimp only
      cases address : present user.stellarAddress with
      | none => exact refused fun _ _ there => by cases address.symm.trans there
      | some stellarAddress =>
        dsimp only
        cases carried : present dto.nonce with
        | none => exact refused fun _ _ _ there => by cases carried.symm.trans there
        | some nonce =>
          dsimp only
          split
          · rename_i verified
            exact fun bySigned => ⟨e,List.mem_singleton_self e,read,works,bySigned,user,stellarAddress,nonce,signature,found,stays,
              address,carried,signed,verified⟩
          · rename_i fails
            refine refused fun other nonce' there there' => ?_
            cases address.symm.trans there
            cases carried.symm.trans there'
            simpa using fails

theorem guardedErase (userId : String) (dto : DeleteAccountDto) :
    Guarded (Erases config userId dto) (fun own (_ : Except Exception Reply) => AcceptedIn config userId dto own → counted own)
      (handler config (.requestErasure userId dto)) [] := by
  show Guarded _ _ (requestErasure config userId dto >>= fun text => pure (Reply.message text)) []
  unfold requestErasure
  rw [Process.bindAssoc]
  refine guardedBind (guardedQuery fun thread i w => ⟨⟨rfl,fun ⟨_,inside,_⟩ => absurd inside List.not_mem_nil,nofun⟩,?_⟩)
  have accepted : AcceptedIn config userId dto [⟨thread,.findUser,i,w,w⟩] → i.fails = false ∧ Accepts config userId dto w := by
    intro ⟨e',inside,_,works,accepts⟩
    cases List.mem_singleton.mp inside
    exact ⟨works,accepts⟩
  split
  · rename_i answered
    split at answered
    · cases answered
    · rename_i works
      cases Except.ok.inj answered
      cases found : w.users.get? userId with
      | none =>
        intro its
        obtain ⟨_,_,user,_,_,_,found',_⟩ := accepted its
        cases found.symm.trans found'
      | some user =>
        dsimp only
        split
        · rename_i gone
          intro its
          obtain ⟨_,_,other,_,_,_,found',stays,_⟩ := accepted its
          cases found.symm.trans found'
          simp [stays] at gone
        · rename_i stays
          rw [Process.bindAssoc]
          refine guardedBind (guardedMono (fun own out ends => ?_) (guardedReauthentication config rfl (by simpa using works) found (by simpa using stays)))
          cases out with
          | error error => exact fun its => absurd its ends
          | ok _ =>
            dsimp only at ends ⊢
            rw [Process.bindAssoc,assertNoActiveEngagements,Process.bindAssoc]
            refine guardedBind (guardedQuery fun thread i w => ⟨⟨rfl,fun _ => Or.inr rfl,fun signed _ => ends signed⟩,?_⟩)
            have here : counted (⟨thread,.countEngagements,i,w,w⟩ :: own) := ⟨_,List.mem_cons_self,rfl⟩
            dsimp only
            split
            · rename_i value _
              refine guardedMono ?_ (guardedCounted config ?_ here)
              · exact fun own' _ (there : counted own') _ => there
              · refine actsBind ?_ fun now => actsBind (actsBind (closesOnly userId now) fun _ => trivial) fun _ => trivial
                split <;> trivial
            · exact fun _ => here
  · rename_i answered
    split at answered
    · rename_i fails
      intro its
      cases (accepted its).1.symm.trans fails
    · cases answered

theorem guardedHandler (request : Request) : Guarded (Calls config request) (Ended config request) (handler config request) [] := by
  cases request with
  | requestErasure userId dto => exact guardedErase config userId dto
  | generateNonce stellarAddress => exact guardedMono (fun _ _ _ => trivial) (guardedFree (fun _ _ => trivial) _ _)
  | consumeNonce stellarAddress nonce => exact guardedMono (fun _ _ _ => trivial) (guardedFree (fun _ _ => trivial) _ _)
  | anonymizeUser userId avatarUrl => exact guardedMono (fun _ _ _ => trivial) (guardedFree (fun _ _ => trivial) _ _)

end Calls

section Runs

variable {pool : ErasurePool} {k : Nat} {userId : String} {dto : DeleteAccountDto}

theorem guardedErasures (w : World) (moves : List (Move Request Nat Answer)) :
    GuardedEnds (Calls config) (Ended config) (fun _ => True) ((service config).run (Pool.initial w) moves) :=
  guardedRun (P := fun _ _ _ => True) (fun _ _ _ _ _ _ _ _ _ => trivial) (fun _ _ _ => trivial) (guardedHandler config)
    (guardedInitial trivial) moves (meetsAlways (fun _ _ _ _ => trivial) _)

variable {config}

theorem erasesAt (guarded : GuardedEnds (Calls config) (Ended config) (fun _ => True) pool) {p : Op Reply}
    (there : pool.threads[k]? = some ⟨.requestErasure userId dto,p⟩) {e : ErasureEvent} (inside : e ∈ pool.own k) :
    ∃ own, own ⊆ pool.own k ∧ Erases config userId dto own e := by
  obtain ⟨mine,thread⟩ := List.mem_filter.mp inside
  obtain ⟨earlier,suffix,its⟩ := meetsAt guarded.seen mine
  have thread : e.thread = k := of_decide_eq_true thread
  subst thread
  refine ⟨_,fun d inside' => ?_,its _ there⟩
  obtain ⟨before,same⟩ := List.mem_filter.mp inside'
  exact List.mem_filter.mpr ⟨suffix.subset (List.mem_cons_of_mem _ before),same⟩

/-- An erasure takes no nonce out. -/
theorem neverRedeems (guarded : GuardedEnds (Calls config) (Ended config) (fun _ => True) pool) {p : Op Reply}
    (there : pool.threads[k]? = some ⟨.requestErasure userId dto,p⟩) : ¬ Redeems pool k userId dto := by
  rintro ⟨e,_,user,stellarAddress,entry,_,_,_,_,_,_,e',inside,stored,gone⟩
  obtain ⟨own,_,erases⟩ := erasesAt guarded there inside
  rw [erases.nonces,stored] at gone
  cases gone

theorem passedIff (guarded : GuardedEnds (Calls config) (Ended config) (fun _ => True) pool) {p : Op Reply}
    (there : pool.threads[k]? = some ⟨.requestErasure userId dto,p⟩) :
    Passed pool k userId dto ↔ AcceptedIn config userId dto (pool.own k) := by
  have each := guarded.each k _ there
  constructor
  · rintro ⟨signed,p',there',⟨e,inside,site⟩ | ⟨update,next,rfl⟩⟩
    · obtain ⟨own,before,erases⟩ := erasesAt guarded there inside
      obtain ⟨e',inside',its⟩ := erases.entitled signed site
      exact ⟨e',before inside',its⟩
    · cases there.symm.trans there'
      exact (each k {} pool.world).1.entitled signed rfl
  · intro accepted
    refine ⟨signedAccepted config accepted,p,there,?_⟩
    cases p with
    | ret reply => exact Or.inl (each accepted)
    | raise error => exact Or.inl (each accepted)
    | call site update next =>
      rcases (each k {} pool.world).1.onward accepted with before | now
      · exact Or.inl before
      · cases now
        exact Or.inr ⟨update,next,rfl⟩

end Runs

/-- No erasure reads a user whose wallet has signed the nonce of the request. -/
def NoneAccepted (pool : ErasurePool) : Prop := ∀ (k : Nat) userId dto p, pool.threads[k]? = some ⟨.requestErasure userId dto,p⟩ →
  ¬ AcceptedIn config userId dto (pool.own k)

theorem replayedUnlessRefused (w : World) (moves : List (Move Request Nat Answer)) :
    NoReplay ((service config).run (Pool.initial w) moves) ↔ NoneAccepted config ((service config).run (Pool.initial w) moves) := by
  have guarded := guardedErasures config w moves
  generalize (service config).run (Pool.initial w) moves = pool at guarded
  constructor
  · intro single k userId dto p there accepted
    exact neverRedeems guarded there (single k userId dto ((passedIff guarded there).mpr accepted))
  · intro none k userId dto passed
    obtain ⟨signed,p,there,beyond⟩ := passed
    exact absurd ((passedIff guarded there).mp ⟨signed,p,there,beyond⟩) (none k userId dto p there)

def signing : Config where
  verifyPassword _ _ := false
  verifyWalletSignature _ _ _ := true
  parseUrl _ := none
  setDate at' days := at' + days * 86400000

-- a nonce is issued and consumed, and then allows an erasure
def replaying : List (Move Request Nat Answer) :=
  [.start (.generateNonce "G"),.answer 0 { text := "x" },.start (.consumeNonce "G" "hiresettle:G:0:x"),.answer 1 {},
    .start (.requestErasure "u" { signature := some "s", nonce := some "hiresettle:G:0:x" }),.answer 2 {},.answer 2 {},
    .answer 2 { text := "r" }]

def walletUser : World where
  users := ⟨[{ id := "u", stellarAddress := some "G" }],by simp⟩

/-- A consumed nonce closes an account. -/
theorem consumedNonceReplayed :
    ((service signing).run (Pool.initial walletUser) replaying).threads[1]? =
      some ⟨.consumeNonce "G" "hiresettle:G:0:x",.ret (.consumed true)⟩ ∧
    (((service signing).run (Pool.initial walletUser) replaying).world.users.get? "u").map (·.deletedAt) = some (some 0) ∧
    ¬ NoReplay ((service signing).run (Pool.initial walletUser) replaying) := by
  refine ⟨rfl,rfl,fun single => ?_⟩
  refine neverRedeems (guardedErasures signing walletUser replaying) rfl (single 2 "u" _ ⟨?_,_,rfl,Or.inl ?_⟩)
  · rfl
  · exact ⟨_,List.mem_cons_of_mem _ List.mem_cons_self,rfl⟩

end HireSettle.Users.NonceReplays
