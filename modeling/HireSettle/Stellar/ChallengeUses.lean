import HireSettle.Stellar.Sep10
import HireSettle.Workflow.Guards
import HireSettle.Workflow.Turns

/-! How often a stored challenge authenticates. The row is read before the signatures
are checked and marked as used after that, without a second look, so two presentations
that have both read it unused both authenticate, and one that has read it in time may
end after it has expired. -/
namespace HireSettle.Stellar.Sep10.ChallengeUses
open Workflow

variable {Xdr : Type} (config : Config Xdr)

abbrev Sep10Event (Xdr : Type) := Event Site Answer (World Xdr)

abbrev Sep10Pool (Xdr : Type) := Pool (Request Xdr) Site Answer (World Xdr) Exception (Reply Xdr)

/-- The nonce that is looked up for a request. -/
def presented : Request Xdr → Option String
  | .verifyChallenge signedXdr => ((config.fromXDR signedXdr).bind manageDataValue).map Base64.write
  | .createChallenge _ => none

/-- When the thread made its last call. -/
def endedAt (pool : Sep10Pool Xdr) (k : Nat) : Option Nat := (pool.own k).head?.map fun e => e.before.clock

/-- At most one presentation of the nonce has returned, and not after the challenge expired. -/
structure UsedOnce (pool : Sep10Pool Xdr) (nonce : String) : Prop where
  alone : ∀ (k k' : Nat) request request' reply reply', pool.threads[k]? = some ⟨request,.ret reply⟩ →
    pool.threads[k']? = some ⟨request',.ret reply'⟩ → presented config request = some nonce → presented config request' = some nonce → k = k'
  inTime : ∀ (k : Nat) request reply, pool.threads[k]? = some ⟨request,.ret reply⟩ → presented config request = some nonce →
    ∃ at' ∈ endedAt pool k, ∀ row ∈ pool.world.challenges.get? nonce, at' ≤ row.expiresAt

/-- The challenge that a request marks is still unused and has not expired. -/
def Timely (request : Request Xdr) (_ : List (Sep10Event Xdr)) (e : Sep10Event Xdr) : Prop :=
  e.site = .markUsed → e.answer.fails = false → ∀ nonce ∈ presented config request, ∀ row ∈ e.before.challenges.get? nonce,
    row.usedAt = none ∧ e.before.clock ≤ row.expiresAt

instance (request : Request Xdr) (earlier : List (Sep10Event Xdr)) (e : Sep10Event Xdr) : Decidable (Timely config request earlier e) := by
  unfold Timely
  infer_instance

/-- The event marks the challenge as used. -/
def marks (nonce : String) (e : Sep10Event Xdr) : Bool :=
  e.site = .markUsed && (e.before.challenges.get? nonce).any (·.usedAt.isNone) && (e.after.challenges.get? nonce).any (·.usedAt.isSome)

section Calls

variable {w w' : World Xdr} {own : List (Sep10Event Xdr)} {request : Request Xdr}

/-- No challenge changes, and none is lost. -/
def Grows (site : Site) (w w' : World Xdr) : Prop :=
  site ≠ .markUsed ∧ ∀ nonce row, w.challenges.get? nonce = some row → w'.challenges.get? nonce = some row

/-- What marking does to the row of the nonce, and to no other. -/
structure Marked (nonce : String) (e : Sep10Event Xdr) : Prop where
  site : e.site = .markUsed
  row : e.after.challenges.get? nonce = if e.answer.fails then e.before.challenges.get? nonce
    else (e.before.challenges.get? nonce).map fun row => { row with usedAt := some e.before.clock }
  others : ∀ other, other ≠ nonce → e.after.challenges.get? other = e.before.challenges.get? other

def Calls (request : Request Xdr) (_ : List (Sep10Event Xdr)) (e : Sep10Event Xdr) : Prop :=
  Grows e.site e.before e.after ∨ ∃ nonce, presented config request = some nonce ∧ Marked nonce e

/-- The last call of what has returned has marked its challenge. -/
def Ended (request : Request Xdr) (own : List (Sep10Event Xdr)) : Except Exception (Reply Xdr) → Prop
  | .ok _ => ∀ nonce, presented config request = some nonce →
      ∃ e, own.head? = some e ∧ e.site = .markUsed ∧ e.answer.fails = false ∧ (e.before.challenges.get? nonce).isSome
  | .error _ => True

variable {α : Type}

theorem growsQuery {site : Site} (other : site ≠ .markUsed) (f : Answer → World Xdr → Except Exception α) :
    Acts Grows (Process.query site f : Op Xdr α) := actsQuery (fun _ => ⟨other,fun _ _ found => found⟩) f

theorem growsExcept (out : Except Exception α) : Acts Grows (.ofExcept out : Op Xdr α) := actsOfExcept out

theorem growsCreate (account : String) : Acts Grows (createChallenge config account) := by
  refine actsBind (growsExcept _) fun _ => actsBind (growsQuery (by decide) _) fun drawn => actsBind (growsExcept _) fun operation =>
    actsBind (actsTransact (fun _ => ⟨by decide,fun _ _ found => found⟩) fun i w value w' created => ?_) fun _ => trivial
  split at created
  · cases created
  · split at created
    · cases created
    · rename_i challenges stored
      cases created
      obtain ⟨free,_,rows⟩ := Table.createGet stored
      refine ⟨by decide,fun nonce row found => ?_⟩
      rw [rows,if_neg]
      · exact found
      · rintro rfl
        cases free.symm.trans found

theorem guardedGrows {p : Op Xdr α} (acts : Acts Grows p) : Guarded (Calls config request) anyOutcome p own :=
  guardedAny (guardedActs (fun _ _ _ grows => Or.inl grows) acts)

theorem guardedExcept {β : Type} {out : Except Exception α} {k : α → Op Xdr β} {done : List (Sep10Event Xdr) → Except Exception β → Prop}
    (fails : ∀ error, done own (.error error)) (rest : ∀ value, Guarded (Calls config request) done (k value) own) :
    Guarded (Calls config request) done (.ofExcept out >>= k) own := by
  cases out with
  | ok value => exact rest value
  | error error => exact fails error

theorem guardedMark {nonce : String} (presents : presented config request = some nonce) (reply : Reply Xdr) :
    Guarded (Calls config request) (Ended config request) (do
      .transact .markUsed fun answer w =>
        if answer.fails then .error .database
        else match w.challenges.modify nonce fun row => { row with usedAt := some w.clock } with
          | none => .error .recordNotFound
          | some (_,challenges) => .ok ((),{ w with challenges := challenges })
      return reply) own := by
  refine guardedBind (guardedTransact (fun thread i w value w' committed => ?_) fun thread i w error thrown => ?_)
  · split at committed
    · cases committed
    · rename_i works
      split at committed
      · cases committed
      · rename_i modified
        cases committed
        obtain ⟨row,found,_,rfl⟩ := Table.modifyGet modified
        refine ⟨Or.inr ⟨nonce,presents,rfl,?_,fun other differs => ?_⟩,fun nonce' presents' => ?_⟩
        · simp only [if_neg works,found,Option.map_some]
          exact Table.getUpdateSelf found (fun row => { row with usedAt := some w.clock }) fun _ => rfl
        · exact Table.getUpdateOther w.challenges differs (fun row => { row with usedAt := some w.clock }) fun _ => rfl
        · cases presents.symm.trans presents'
          exact ⟨_,rfl,rfl,by simpa using works,by simp [found]⟩
  · refine ⟨Or.inr ⟨nonce,presents,rfl,?_,fun _ _ => rfl⟩,trivial⟩
    split
    · rfl
    · rename_i works
      simp only [if_neg works] at thrown
      split at thrown
      · rename_i absent
        have gone : w.challenges.get? nonce = none := Option.map_eq_none_iff.mp absent
        simp only [gone,Option.map_none]
      · cases thrown

theorem guardedVerify (signedXdr : Xdr) :
    Guarded (Calls config (.verifyChallenge signedXdr)) (Ended config (.verifyChallenge signedXdr)) (handler config (.verifyChallenge signedXdr)) [] := by
  show Guarded _ _ (verifyChallenge config signedXdr >>= fun account => pure (Reply.account account)) []
  unfold verifyChallenge
  cases read : config.fromXDR signedXdr with
  | none => trivial
  | some tx =>
    dsimp only
    cases carried : manageDataValue tx with
    | none => trivial
    | some value =>
      have presents : presented config (.verifyChallenge signedXdr) = some (Base64.write value) := by simp [presented,read,carried]
      dsimp only
      rw [Process.bindAssoc]
      refine guardedBind (guardedMono ?_ (guardedGrows config (growsQuery (by decide) _)))
      rintro own (error | ⟨found,now⟩) _
      · trivial
      cases found with
      | none => trivial
      | some challenge =>
        dsimp only
        split
        · trivial
        split
        · trivial
        rw [Process.bindAssoc]
        refine guardedExcept config (fun _ => trivial) fun serverSigned => ?_
        split
        · trivial
        rw [Process.bindAssoc]
        refine guardedExcept config (fun _ => trivial) fun _ => ?_
        split
        · trivial
        rw [Process.bindAssoc]
        exact guardedMark config presents _

theorem guardedHandler (request : Request Xdr) : Guarded (Calls config request) (Ended config request) (handler config request) [] := by
  cases request with
  | createChallenge account =>
    refine guardedMono (fun own out _ => ?_) (guardedGrows config (actsBind (growsCreate config account) fun _ => trivial))
    cases out with
    | ok reply => exact nofun
    | error error => trivial
  | verifyChallenge signedXdr => exact guardedVerify config signedXdr

end Calls

section Runs

variable {w w' w'' : World Xdr} {c : Snapshot Site Answer (World Xdr)}

/-- A challenge expires when it always did, and once used it stays so. -/
def Keeps (w w' : World Xdr) : Prop :=
  ∀ nonce row, w.challenges.get? nonce = some row → ∃ row', w'.challenges.get? nonce = some row' ∧
    row'.expiresAt = row.expiresAt ∧ (row.usedAt.isSome = true → row'.usedAt.isSome = true)

theorem keepsRefl (w : World Xdr) : Keeps w w := fun _ row found => ⟨row,found,rfl,id⟩

theorem keepsTrans (first : Keeps w w') (second : Keeps w' w'') : Keeps w w'' := by
  intro nonce row found
  obtain ⟨row',found',expires,used⟩ := first nonce row found
  obtain ⟨row'',found'',expires',used'⟩ := second nonce row' found'
  exact ⟨row'',found'',expires'.trans expires,fun its => used' (used its)⟩

theorem keepsMarked {nonce : String} {e : Sep10Event Xdr} (marked : Marked nonce e) : Keeps e.before e.after := by
  intro other row found
  by_cases same : other = nonce
  · subst same
    have after := marked.row
    split at after
    · exact ⟨row,after.trans found,rfl,id⟩
    · rw [found] at after
      exact ⟨_,after,rfl,fun _ => rfl⟩
  · exact ⟨row,(marked.others other same).trans found,rfl,id⟩

theorem keepsCalls {request : Request Xdr} {own : List (Sep10Event Xdr)} {e : Sep10Event Xdr} (calls : Calls config request own e) :
    Keeps e.before e.after := by
  obtain ⟨_,grows⟩ | ⟨nonce,_,marked⟩ := calls
  · exact fun nonce row found => ⟨row,grows nonce row found,rfl,id⟩
  · exact keepsMarked marked

abbrev Spent (nonce : String) (w : World Xdr) : Prop := (w.challenges.get? nonce).any (·.usedAt.isSome) = true

theorem marksOnce (advances : Advances Keeps c) (nonce : String) : c.history.countP (marks nonce) ≤ 1 := by
  have stays : ∀ w w' : World Xdr, Keeps w w' → Spent nonce w → Spent nonce w' := fun w w' keeps spent => by
    obtain ⟨row,found,its⟩ := (Option.any_eq_true _ _).mp spent
    obtain ⟨row',found',_,used⟩ := keeps nonce row found
    exact (Option.any_eq_true _ _).mpr ⟨row',found',used its⟩
  refine spentOnce (advancesMono stays advances) fun e _ its => ?_
  simp only [marks,Bool.and_eq_true] at its
  refine ⟨fun spent => ?_,its.2⟩
  obtain ⟨row,found,unused⟩ := (Option.any_eq_true _ _).mp its.1.2
  obtain ⟨row',found',used⟩ := (Option.any_eq_true _ _).mp spent
  cases found.symm.trans found'
  cases there : row.usedAt with
  | none => simp [there] at used
  | some at' => simp [there] at unused

theorem advancesRun (w : World Xdr) (moves : List (Sep10Move Xdr)) (timely : Meets (Timely config) ((service config).run (Pool.initial w) moves)) :
    GuardedEnds (Calls config) (Ended config) (Advances Keeps) ((service config).run (Pool.initial w) moves) := by
  refine guardedRun (P := Timely config) (fun request c thread site i w' advances calls _ => ?_) (fun elapsed c advances => ?_)
    (guardedHandler config) (guardedInitial advancesInitial) moves timely
  · exact advancesRecord keepsRefl keepsTrans (keepsCalls config calls) advances
  · exact ⟨advances.since,advances.found⟩

theorem endedMarks {request : Request Xdr} {earlier : List (Sep10Event Xdr)} {nonce : String} {e : Sep10Event Xdr}
    (presents : presented config request = some nonce) (calls : Calls config request earlier e) (timely : Timely config request earlier e)
    (site : e.site = .markUsed) (works : e.answer.fails = false) (there : (e.before.challenges.get? nonce).isSome = true) :
    marks nonce e = true ∧ ∃ row, e.before.challenges.get? nonce = some row ∧ e.before.clock ≤ row.expiresAt := by
  obtain ⟨row,found⟩ := Option.isSome_iff_exists.mp there
  obtain ⟨unused,within⟩ := timely site works nonce presents row found
  refine ⟨?_,row,found,within⟩
  obtain ⟨other,_⟩ | ⟨nonce',presents',marked⟩ := calls
  · exact absurd site other
  · cases presents.symm.trans presents'
    simp [marks,site,found,unused,marked.row,works]

end Runs

theorem challengeUsedOnce (w : World Xdr) (moves : List (Sep10Move Xdr))
    (timely : Meets (Timely config) ((service config).run (Pool.initial w) moves)) (nonce : String) :
    UsedOnce config ((service config).run (Pool.initial w) moves) nonce := by
  have guarded := advancesRun config w moves timely
  generalize (service config).run (Pool.initial w) moves = pool at guarded timely
  have last : ∀ (k : Nat) request reply, pool.threads[k]? = some ⟨request,.ret reply⟩ → presented config request = some nonce →
      ∃ e ∈ pool.history, e.thread = k ∧ (pool.own k).head? = some e ∧ marks nonce e = true ∧
        ∀ row ∈ pool.world.challenges.get? nonce, e.before.clock ≤ row.expiresAt := by
    intro k request reply ended presents
    obtain ⟨e,newest,site,works,there⟩ := guardedReturned guarded ended nonce presents
    obtain ⟨inside,thread⟩ := List.mem_filter.mp (List.mem_of_mem_head? newest)
    have thread : e.thread = k := of_decide_eq_true thread
    obtain ⟨earlier,_,calls,its⟩ := meetsAt (meetsBoth guarded.seen timely) inside
    subst thread
    obtain ⟨marked,row,found,within⟩ := endedMarks config presents (calls _ ended) (its _ ended) site works there
    refine ⟨e,inside,rfl,newest,marked,fun row' found' => ?_⟩
    obtain ⟨final,found'',expires,_⟩ := keepsTrans (keepsCalls config (calls _ ended)) (sinceMem guarded.holds.since inside) nonce row found
    cases found''.symm.trans found'
    exact expires ▸ within
  refine ⟨fun k k' request request' reply reply' ended ended' presents presents' => ?_,fun k request reply ended presents => ?_⟩
  · obtain ⟨e,inside,rfl,_,its,_⟩ := last k request reply ended presents
    obtain ⟨e',inside',rfl,_,its',_⟩ := last k' request' reply' ended' presents'
    exact congrArg Event.thread (onceSame (marksOnce guarded.holds nonce) inside inside' its its')
  · obtain ⟨e,_,_,newest,_,within⟩ := last k request reply ended presents
    exact ⟨e.before.clock,by rw [endedAt,newest]; rfl,within⟩

-- a key signs by its name
def terse : Config Transaction := { plain with
  hash := fun _ _ => ""
  verify := fun key _ signature => .ok (signature = key) }

/-- A transaction whose value reads back as the nonce of the row. -/
def returned : Transaction where
  body := { issuedTransaction.body with operations := [.manageData "hiresettle.com auth" (some [1,2,3]) (some "GA")] }
  signatures := ["GS","GA"]

def awaiting : World Transaction where
  challenges := ⟨[{ account := "GA", nonce := "AQID", xdr := returned, expiresAt := 300000 }],by simp⟩

def presentedOnce : List (Sep10Move Transaction) := [.start (.verifyChallenge returned),.answer 0 {},.answer 0 {}]

-- both have read the challenge before either marks it
def presentedTwice : List (Sep10Move Transaction) :=
  [.start (.verifyChallenge returned),.start (.verifyChallenge returned),.answer 0 {},.answer 1 {},.answer 0 {},.answer 1 {}]

-- the challenge expires after it has been read
def presentedLate : List (Sep10Move Transaction) :=
  [.start (.verifyChallenge returned),.answer 0 {},.environment 300001,.answer 0 {}]

theorem challengePresentedOnce :
    Meets (Timely terse) ((service terse).run (Pool.initial awaiting) presentedOnce) ∧
    UsedOnce terse ((service terse).run (Pool.initial awaiting) presentedOnce) "AQID" := by
  have timely : Meets (Timely terse) ((service terse).run (Pool.initial awaiting) presentedOnce) := by decide +kernel
  exact ⟨timely,challengeUsedOnce terse awaiting presentedOnce timely "AQID"⟩

theorem challengePresentedTwice :
    ¬ UsedOnce terse ((service terse).run (Pool.initial awaiting) presentedTwice) "AQID" ∧
    ¬ UsedOnce terse ((service terse).run (Pool.initial awaiting) presentedLate) "AQID" := by
  have nonce : presented terse (.verifyChallenge returned) = some "AQID" := by decide +kernel
  constructor
  · intro once
    have first : ((service terse).run (Pool.initial awaiting) presentedTwice).threads[0]? = some ⟨.verifyChallenge returned,.ret (.account "GA")⟩ :=
      endedEq (by decide +kernel)
    have second : ((service terse).run (Pool.initial awaiting) presentedTwice).threads[1]? = some ⟨.verifyChallenge returned,.ret (.account "GA")⟩ :=
      endedEq (by decide +kernel)
    exact absurd (once.alone 0 1 _ _ _ _ first second nonce nonce) (by decide)
  · intro once
    have first : ((service terse).run (Pool.initial awaiting) presentedLate).threads[0]? = some ⟨.verifyChallenge returned,.ret (.account "GA")⟩ :=
      endedEq (by decide +kernel)
    obtain ⟨at',ended,within⟩ := once.inTime 0 _ _ first nonce
    have late : endedAt ((service terse).run (Pool.initial awaiting) presentedLate) 0 = some 300001 := by decide +kernel
    have expires : (((service terse).run (Pool.initial awaiting) presentedLate).world.challenges.get? "AQID").map Sep10Challenge.expiresAt =
        some 300000 := by decide +kernel
    cases late.symm.trans ended
    obtain ⟨row,found,same⟩ := Option.map_eq_some_iff.mp expires
    have below := within row found
    omega

end HireSettle.Stellar.Sep10.ChallengeUses
