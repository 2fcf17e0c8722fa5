import HireSettle.Admin.IncomingPayments

/-! How often a kept payment is resolved. An admin's call looks at the row, and writes
it some calls later without a second look, so two calls that have both seen it pending
both resolve it, and the row shows the one that wrote last. -/
namespace HireSettle.Admin.ResolvedPayments
open Workflow UnmatchedPaymentsService

abbrev AdminEvent := Event Site Answer World

abbrev AdminSnapshot := Snapshot Site Answer World

abbrev AdminPool := Pool Request Site Answer World Exception Unit

/-- The row that a request resolves, and what it makes of it. -/
def resolution : Request → Option (String × (Nat → UnmatchedPayment → UnmatchedPayment))
  | .match' id adminId dto => some (id,matched adminId dto)
  | .refund id adminId dto => some (id,settled .refunded adminId dto)
  | .ignore id adminId dto => some (id,settled .ignored adminId dto)
  | _ => none

def Resolves (request : Request) (id : String) : Prop := (resolution request).map Prod.fst = some id

/-- The row is as the request leaves one that was pending. -/
def Shows : Request → UnmatchedPayment → Prop
  | .match' _ adminId dto, row => row.status = .matched ∧ row.resolvedBy = some adminId ∧
      row.matchedEngagementId = some dto.engagementId ∧ row.notes = dto.notes
  | .refund _ adminId dto, row => row.status = .refunded ∧ row.resolvedBy = some adminId ∧
      row.matchedEngagementId = none ∧ row.notes = dto.notes
  | .ignore _ adminId dto, row => row.status = .ignored ∧ row.resolvedBy = some adminId ∧
      row.matchedEngagementId = none ∧ row.notes = dto.notes
  | _, _ => True

/-- At most one call for the row has returned, and the row is that call's. -/
structure ResolvedOnce (pool : AdminPool) (id : String) : Prop where
  alone : ∀ (k k' : Nat) request request', pool.threads[k]? = some ⟨request,.ret ()⟩ → pool.threads[k']? = some ⟨request',.ret ()⟩ →
    Resolves request id → Resolves request' id → k = k'
  shown : ∀ (k : Nat) request, pool.threads[k]? = some ⟨request,.ret ()⟩ → Resolves request id →
    ∃ row ∈ pool.world.payments.get? id, Shows request row

/-- What is resolved is still pending when it is written. -/
def Timely (e : AdminEvent) : Prop :=
  e.answer.fails = false → match e.site with
    | .resolve id => ∀ row ∈ e.before.payments.get? id, row.status = .pending
    | _ => True

instance (e : AdminEvent) : Decidable (Timely e) := by
  unfold Timely
  refine @instDecidableForall _ _ _ ?_
  split <;> infer_instance

/-- The event writes the row. -/
def writes (id : String) (e : AdminEvent) : Bool :=
  e.site = .resolve id && !e.answer.fails && (e.before.payments.get? id).isSome

/-- A world whose payments have not been looked at. -/
def unkept (world : World) : World := { world with payments := .empty }

section Effects

variable {α : Type} {site : Site}

/-- What the other calls do to the kept payments: the poller adds pending ones. -/
def Adds (site : Site) (w w' : World) : Prop :=
  match site with
  | .resolve _ => False
  | .createPayment _ => w'.payments = w.payments ∨
      ∃ row, row.status = .pending ∧ row.matchedEngagementId = none ∧ w.payments.create row = some w'.payments
  | _ => w'.payments = w.payments

theorem actsAsk (f : Answer → World → Except Exception α) (stays : ∀ w, Adds site w w) :
    Acts Adds (.query site f) := actsQuery stays f

theorem actsWrite {f : Answer → World → Except Exception (α × World)}
    (commits : ∀ i w value w', f i w = .ok (value,w') → Adds site w w') (stays : ∀ w, Adds site w w) :
    Acts Adds (write site f) := by
  refine actsTransact stays fun i w value after committed => ?_
  split at committed
  · cases committed
  · exact commits i w value after committed

open IncomingPaymentPollerService

theorem actsCreate (payment : HorizonPayment) : Acts Adds (createPayment payment) := by
  refine actsWrite (fun i w value w' committed => ?_) (fun _ => Or.inl rfl)
  split at committed
  · cases committed
  · split at committed
    · cases committed
    · rename_i created
      cases committed
      exact Or.inr ⟨_,rfl,rfl,created⟩

theorem actsMatchMemo (memo : Option String) : Acts Adds (matchMemoToEngagement memo) := by
  unfold matchMemoToEngagement
  split
  · trivial
  · exact actsBind (actsAsk _ fun _ => rfl) fun _ => trivial

theorem actsHandlePayment (config : Config) (acc : Nat × String) (payment : HorizonPayment) :
    Acts Adds (handlePayment config acc payment) := by
  unfold handlePayment
  split
  · trivial
  · refine actsBind (actsMatchMemo _) fun matched => ?_
    split
    · trivial
    · refine actsBind (actsAsk _ fun _ => rfl) fun existing => ?_
      split
      · trivial
      · exact actsBind (actsCreate payment) fun _ => trivial

theorem actsSaveCursor (cursor : String) : Acts Adds (saveCursor cursor) := by
  unfold saveCursor
  split
  · trivial
  · refine actsWrite (fun i w value w' committed => ?_) fun _ => rfl
    cases committed
    rfl

theorem actsSyncPendingGauge : Acts Adds syncPendingGauge := actsBind (actsAsk _ fun _ => rfl) fun _ => trivial

theorem actsAlert (config : Config) : Acts Adds (maybeAlertAdmins config) := by
  refine actsBind (actsAsk _ fun _ => rfl) fun count => actsBind ?_ fun crossed => ?_
  · refine actsTransact (fun _ => rfl) fun i w value w' committed => ?_
    split at committed
    · cases committed
      rfl
    · split at committed <;> (cases committed; rfl)
  · split
    · exact actsBind (actsAsk _ fun _ => rfl) fun admins => actsForEach (fun _ => actsAsk _ (by exact fun _ => rfl)) admins
    · trivial

theorem actsPoll (config : Config) : Acts Adds (poll config) := by
  unfold poll
  split
  · trivial
  · refine actsBind (actsAsk _ fun _ => rfl) fun cursor => actsBind (actsAsk _ fun _ => rfl) fun payments => ?_
    split
    · trivial
    · exact actsBind (actsFoldEach (actsHandlePayment config) _ _) fun stored => actsBind (actsSaveCursor _) fun _ =>
        actsBind actsSyncPendingGauge fun _ => actsBind (actsAlert config) fun _ => trivial

theorem actsPollIncoming (config : Config) : Acts Adds (pollIncomingPayments config) := by
  unfold pollIncomingPayments
  split
  · trivial
  · refine actsBind (actsAsk _ fun _ => rfl) fun token => ?_
    split
    · trivial
    · exact actsBind (actsHandle (actsBind (actsPoll config) fun _ => trivial) fun _ => trivial) fun _ => actsAsk _ fun _ => rfl

theorem actsCheckEngagement (engagementId : String) : Acts Adds (checkEngagement engagementId) := by
  refine actsBind (actsAsk _ fun _ => rfl) fun engagement => ?_
  unfold Process.throwWhen
  split <;> trivial

end Effects

section Guards

variable {request : Request} {own : List AdminEvent}

/-- The write of a request to the row that it resolves. -/
structure Written (id : String) (data : Nat → UnmatchedPayment → UnmatchedPayment) (e : AdminEvent) : Prop where
  row : e.after.payments.get? id = if e.answer.fails then e.before.payments.get? id else (e.before.payments.get? id).map (data e.before.clock)
  others : ∀ other, other ≠ id → e.after.payments.get? other = e.before.payments.get? other

def Calls (request : Request) (_ : List AdminEvent) (e : AdminEvent) : Prop :=
  Adds e.site e.before e.after ∨ ∃ id data, resolution request = some (id,data) ∧ e.site = .resolve id ∧ Written id data e

/-- What has returned has written its row. -/
def Wrote (request : Request) (own : List AdminEvent) : Except Exception Unit → Prop
  | .ok _ => ∀ id, Resolves request id → ∃ e ∈ own, writes id e = true
  | .error _ => True

theorem guardedAdds {α : Type} {p : Op α} (acts : Acts Adds p) : Guarded (Calls request) anyOutcome p own :=
  guardedAny (guardedActs (fun _ _ _ adds => Or.inl adds) acts)

theorem guardedUpdate {id : String} {data : Nat → UnmatchedPayment → UnmatchedPayment}
    {keeps : ∀ at' row, Keyed.key (data at' row) = Keyed.key row} (resolves : resolution request = some (id,data)) :
    Guarded (Calls request) (fun own' out => ∀ row, out = .ok row → ∃ e ∈ own', writes id e = true) (update id data keeps) own := by
  refine guardedTransact (fun thread i w row w' committed => ?_) fun thread i w error thrown => ?_
  · split at committed
    · cases committed
    · rename_i works
      dsimp only at committed
      split at committed
      · cases committed
      · rename_i modified
        cases committed
        obtain ⟨row,found,rfl,rfl⟩ := Table.modifyGet modified
        refine ⟨Or.inr ⟨id,data,resolves,rfl,?_,fun other differs => Table.getUpdateOther _ differs _ (keeps w.clock)⟩,fun row' _ => ⟨_,List.mem_cons_self,?_⟩⟩
        · simp only [if_neg works,found,Option.map_some]
          exact Table.getUpdateSelf found _ (keeps w.clock)
        · simp [writes,works,found]
  · refine ⟨Or.inr ⟨id,data,resolves,rfl,?_,fun _ _ => rfl⟩,fun row' same => by cases same⟩
    split
    · rfl
    · rename_i works
      simp only [if_neg works] at thrown
      split at thrown
      · rename_i absent
        have gone : w.payments.get? id = none := Option.map_eq_none_iff.mp absent
        simp only [gone,Option.map_none]
      · cases thrown

theorem guardedResolve {verb id : String} {check : Op Unit} {data : Nat → UnmatchedPayment → UnmatchedPayment}
    {keeps : ∀ at' row, Keyed.key (data at' row) = Keyed.key row} (resolves : resolution request = some (id,data))
    (checks : Acts Adds check) :
    Guarded (Calls request) (Wrote request) (do let _ ← resolve verb id check data keeps; return) own := by
  have mine : ∀ id', Resolves request id' → id' = id := fun id' its => by
    rw [Resolves,resolves] at its
    exact (Option.some.inj its).symm
  refine guardedBind (guardedBind (guardedMono ?_ (guardedAdds (actsAsk _ fun _ => rfl))))
  rintro own (error | record) _
  · trivial
  cases record with
  | none => trivial
  | some record =>
    dsimp only
    split
    · trivial
    refine guardedBind (guardedMono ?_ (guardedAdds checks))
    rintro own (error | _) _
    · trivial
    refine guardedBind (guardedMono ?_ (guardedUpdate resolves))
    rintro own (error | row) wrote
    · trivial
    obtain ⟨e,inside,its⟩ := wrote row rfl
    refine guardedBind (guardedMono ?_ (guardedRemembers (guardedAdds actsSyncPendingGauge) inside))
    rintro own (error | _) still
    · trivial
    exact fun id' target => ⟨e,still,mine id' target ▸ its⟩

theorem guardedHandler (config : Config) (request : Request) : Guarded (Calls request) (Wrote request) (handler config request) [] := by
  have idle : resolution request = none → ∀ own out, Wrote request own out := fun none own out => by
    cases out with
    | ok _ => exact fun id its => by rw [Resolves,none] at its; cases its
    | error error => trivial
  cases request with
  | pollIncomingPayments => exact guardedMono (fun own out _ => idle rfl own out) (guardedAdds (actsPollIncoming config))
  | poll => exact guardedMono (fun own out _ => idle rfl own out) (guardedAdds (actsBind (actsPoll config) fun _ => trivial))
  | match' id adminId dto => exact guardedResolve rfl (actsCheckEngagement _)
  | refund id adminId dto => exact guardedResolve rfl trivial
  | ignore id adminId dto => exact guardedResolve rfl trivial

end Guards

section Runs

variable {c : AdminSnapshot} {request : Request}

/-- What is known of the writes of a row: there is at most one, and the row is as it left it. -/
structure Single (c : AdminSnapshot) : Prop where
  fresh : ∀ id row, c.world.payments.get? id = some row → row.status = .pending → row.matchedEngagementId = none
  once : ∀ id, c.history.countP (writes id) ≤ 1
  settled : ∀ id, ∀ e ∈ c.history, writes id e = true →
    (∃ row, e.before.payments.get? id = some row ∧ row.matchedEngagementId = none) ∧
    c.world.payments.get? id = e.after.payments.get? id ∧
    ∃ row, c.world.payments.get? id = some row ∧ row.status ≠ .pending

theorem resolutionEnds {id : String} {data : Nat → UnmatchedPayment → UnmatchedPayment} (resolves : resolution request = some (id,data))
    (at' : Nat) (row : UnmatchedPayment) : (data at' row).status ≠ .pending := by
  cases request with
  | pollIncomingPayments => cases resolves
  | poll => cases resolves
  | match' id adminId dto => cases resolves; nofun
  | refund id adminId dto => cases resolves; nofun
  | ignore id adminId dto => cases resolves; nofun

theorem resolutionShows {id : String} {data : Nat → UnmatchedPayment → UnmatchedPayment} (resolves : resolution request = some (id,data))
    (at' : Nat) {row : UnmatchedPayment} (fresh : row.matchedEngagementId = none) : Shows request (data at' row) := by
  cases request with
  | pollIncomingPayments => trivial
  | poll => trivial
  | match' id adminId dto => cases resolves; exact ⟨rfl,rfl,rfl,rfl⟩
  | refund id adminId dto => cases resolves; exact ⟨rfl,rfl,fresh,rfl⟩
  | ignore id adminId dto => cases resolves; exact ⟨rfl,rfl,fresh,rfl⟩

/-- An event that writes no row and leaves those that are there. -/
theorem singleQuiet (single : Single c) {thread : Nat} {site : Site} {i : Answer} {w' : World}
    (quiet : ∀ id, writes id (c.event thread site i w') = false)
    (stays : ∀ id row, c.world.payments.get? id = some row → w'.payments.get? id = some row)
    (fresh : ∀ id row, w'.payments.get? id = some row → row.status = .pending → row.matchedEngagementId = none) :
    Single (c.record thread site i w') := by
  refine ⟨fresh,fun id => ?_,fun id e inside its => ?_⟩
  · rw [Snapshot.recordHistory,List.countP_cons_of_neg (by simp [quiet id])]
    exact single.once id
  · rcases List.mem_cons.mp inside with rfl | earlier
    · cases (quiet id).symm.trans its
    · obtain ⟨before,same,row,found,ended⟩ := single.settled id e earlier its
      have still : w'.payments.get? id = some row := stays id row found
      exact ⟨before,still.trans (found.symm.trans same),row,still,ended⟩

theorem singleAdds (single : Single c) {thread : Nat} {site : Site} {i : Answer} {w' : World} (adds : Adds site c.world w') :
    Single (c.record thread site i w') := by
  have quiet : ∀ id, writes id (c.event thread site i w') = false := fun id => by
    by_cases same : site = .resolve id
    · subst same
      exact adds.elim
    · simp [writes,Snapshot.event,same]
  have kept : w'.payments = c.world.payments → Single (c.record thread site i w') := fun same =>
    singleQuiet single quiet (fun id row found => same ▸ found) (fun id row found => single.fresh id row (same ▸ found))
  unfold Adds at adds
  split at adds
  · exact adds.elim
  · obtain same | ⟨added,pending,fresh,created⟩ := adds
    · exact kept same
    obtain ⟨free,_,rows⟩ := Table.createGet created
    refine singleQuiet single quiet (fun id row found => ?_) fun id row found waiting => ?_
    · rw [rows,if_neg fun same => ?_]
      · exact found
      · subst same
        cases free.symm.trans found
    · rw [rows] at found
      split at found
      · cases found
        exact fresh
      · exact single.fresh id row found waiting
  · exact kept adds

theorem singleWritten (single : Single c) {thread : Nat} {i : Answer} {w' : World} {id : String}
    {data : Nat → UnmatchedPayment → UnmatchedPayment} (resolves : resolution request = some (id,data))
    (written : Written id data (c.event thread (.resolve id) i w')) (timely : Timely (c.event thread (.resolve id) i w')) :
    Single (c.record thread (.resolve id) i w') := by
  have row' : w'.payments.get? id = if i.fails then c.world.payments.get? id else (c.world.payments.get? id).map (data c.world.clock) :=
    written.row
  have elsewhere : ∀ other, other ≠ id → w'.payments.get? other = c.world.payments.get? other := written.others
  have apart : ∀ other, other ≠ id → writes other (c.event thread (.resolve id) i w') = false := fun other differs => by
    simp [writes,Snapshot.event,Ne.symm differs]
  have idle : w'.payments.get? id = c.world.payments.get? id → writes id (c.event thread (.resolve id) i w') = false →
      Single (c.record thread (.resolve id) i w') := fun same quiet => by
    have all : ∀ other, w'.payments.get? other = c.world.payments.get? other := fun other => by
      by_cases here : other = id
      · exact here ▸ same
      · exact elsewhere other here
    refine singleQuiet single (fun other => ?_) (fun other row found => (all other).trans found) fun other row found =>
      single.fresh other row ((all other).symm.trans found)
    by_cases here : other = id
    · exact here ▸ quiet
    · exact apart other here
  cases fails : i.fails with
  | true => exact idle (by simpa [fails] using row') (by simp [writes,Snapshot.event,fails])
  | false =>
    cases found : c.world.payments.get? id with
    | none => exact idle (by simpa [fails,found] using row') (by simp [writes,Snapshot.event,found])
    | some row =>
      simp only [fails,found,Bool.false_eq_true,if_false,Option.map_some] at row'
      have waiting : row.status = .pending := timely fails row found
      -- an earlier write would have left the row resolved
      have first : ∀ e ∈ c.history, writes id e = false := fun e earlier => by
        by_contra its
        obtain ⟨_,_,_,found',ended⟩ := single.settled id e earlier (by simpa using its)
        cases found.symm.trans found'
        exact ended waiting
      have ends := resolutionEnds resolves c.world.clock row
      refine ⟨fun other row' found' pending => ?_,fun other => ?_,fun other e inside its => ?_⟩
      · by_cases here : other = id
        · subst here
          have mine := Option.some.inj (row'.symm.trans found')
          exact absurd (mine ▸ pending) ends
        · exact single.fresh other row' ((elsewhere other here).symm.trans found') pending
      · by_cases here : other = id
        · subst here
          have none : c.history.countP (writes other) = 0 := List.countP_eq_zero.mpr fun e earlier => by simp [first e earlier]
          rw [Snapshot.recordHistory,List.countP_cons,none]
          split <;> decide
        · rw [Snapshot.recordHistory,List.countP_cons_of_neg (by simp [apart other here])]
          exact single.once other
      · rcases List.mem_cons.mp inside with rfl | earlier
        · by_cases here : other = id
          · subst here
            exact ⟨⟨row,found,single.fresh other row found waiting⟩,rfl,_,row',ends⟩
          · cases (apart other here).symm.trans its
        · by_cases here : other = id
          · subst here
            cases (first e earlier).symm.trans its
          · obtain ⟨before,same,row,there,ended⟩ := single.settled other e earlier its
            exact ⟨before,(elsewhere other here).trans same,row,(elsewhere other here).trans there,ended⟩

theorem guardedPayments (config : Config) (world : World) (moves : List (Move Request Change Answer))
    (timely : ∀ e ∈ ((service config).run (Pool.initial (unkept world)) moves).history, Timely e) :
    GuardedEnds Calls Wrote Single ((service config).run (Pool.initial (unkept world)) moves) := by
  refine guardedRun (P := fun _ _ e => Timely e) (fun request c thread site i w' single calls meets => ?_)
    (fun change c single => ?_) (guardedHandler config) (guardedInitial ?_) moves ?_
  · obtain adds | ⟨id,data,resolves,here,written⟩ := calls
    · exact singleAdds single adds
    · cases here
      exact singleWritten single resolves written meets
  · cases change <;> exact ⟨single.fresh,single.once,single.settled⟩
  · refine ⟨fun id row found => ?_,fun _ => Nat.zero_le 1,fun id e inside => absurd inside List.not_mem_nil⟩
    cases (Table.getEmpty id).symm.trans found
  · exact meetsMono (fun _ _ each _ _ => each) (meetsEach timely)

end Runs

theorem paymentsResolvedOnce (config : Config) (world : World) (moves : List (Move Request Change Answer))
    (timely : ∀ e ∈ ((service config).run (Pool.initial (unkept world)) moves).history, Timely e) (id : String) :
    ResolvedOnce ((service config).run (Pool.initial (unkept world)) moves) id := by
  have guarded := guardedPayments config world moves timely
  generalize (service config).run (Pool.initial (unkept world)) moves = pool at guarded
  have wrote : ∀ (k : Nat) request, pool.threads[k]? = some ⟨request,.ret ()⟩ → Resolves request id →
      ∃ e ∈ pool.history, e.thread = k ∧ writes id e = true := fun k request ended resolves => by
    obtain ⟨e,mine,its⟩ := guardedReturned guarded ended id resolves
    obtain ⟨inside,thread⟩ := List.mem_filter.mp mine
    exact ⟨e,inside,of_decide_eq_true thread,its⟩
  refine ⟨fun k k' request request' ended ended' resolves resolves' => ?_,fun k request ended resolves => ?_⟩
  · obtain ⟨e,inside,rfl,its⟩ := wrote k request ended resolves
    obtain ⟨e',inside',rfl,its'⟩ := wrote k' request' ended' resolves'
    exact congrArg Event.thread (onceSame (guarded.holds.once id) inside inside' its its')
  · obtain ⟨e,inside,rfl,its⟩ := wrote k request ended resolves
    obtain ⟨⟨row,found,fresh⟩,same,_⟩ := guarded.holds.settled id e inside its
    obtain ⟨earlier,_,each⟩ := meetsAt guarded.seen inside
    simp only [writes,Bool.and_eq_true,decide_eq_true_eq,Bool.not_eq_true'] at its
    obtain adds | ⟨id',data,resolution,here,written⟩ := each _ ended
    · rw [its.1.1] at adds
      exact adds.elim
    · cases its.1.1.symm.trans here
      have shown := written.row
      rw [its.1.2,found] at shown
      exact ⟨_,same.trans shown,resolutionShows resolution _ fresh⟩

def answered (thread : Nat) (answers : List Answer) : List (Move Request Change Answer) := answers.map (.answer thread)

def deposit : HorizonPayment where
  type := "payment"
  transaction_hash := "tx"
  from' := "sender"
  to' := "contract"
  asset_type := "native"
  amount := "10"
  paging_token := "1"

def lone : Config where
  horizon := ⟨[deposit],by decide,by decide,by decide⟩
  contractAddress := some "contract"

def stored : List (Move Request Change Answer) := .start .poll :: answered 0 [{},{ number := 1 },{},{ text := "p" },{},{},{},{}]

def refunded : List (Move Request Change Answer) := List.flatten [stored,[.start (.refund "p" "a" {})],answered 1 (.replicate 3 {})]

-- two admins, both of whom have seen the row pending
def refundedIgnored : List (Move Request Change Answer) := List.flatten
  [stored,[.start (.refund "p" "a" {}),.start (.ignore "p" "b" {})],answered 1 [{}],answered 2 [{}],answered 1 [{},{}],answered 2 [{},{}]]

theorem paymentRefundedOnce :
    (∀ e ∈ ((service lone).run (Pool.initial (unkept {})) refunded).history, Timely e) ∧
    ResolvedOnce ((service lone).run (Pool.initial (unkept {})) refunded) "p" := by
  have timely : ∀ e ∈ ((service lone).run (Pool.initial (unkept {})) refunded).history, Timely e := by decide +kernel
  exact ⟨timely,paymentsResolvedOnce lone {} refunded timely "p"⟩

theorem paymentResolvedTwice : ¬ ResolvedOnce ((service lone).run (Pool.initial (unkept {})) refundedIgnored) "p" := by
  intro once
  have first : ((service lone).run (Pool.initial (unkept {})) refundedIgnored).threads[1]? = some ⟨.refund "p" "a" {},.ret ()⟩ := rfl
  have second : ((service lone).run (Pool.initial (unkept {})) refundedIgnored).threads[2]? = some ⟨.ignore "p" "b" {},.ret ()⟩ := rfl
  exact absurd (once.alone 1 2 _ _ first second rfl rfl) (by decide)

end HireSettle.Admin.ResolvedPayments
