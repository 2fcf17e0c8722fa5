import HireSettle.Admin.ResolvedPayments
import HireSettle.Workflow.Facts

/-! Which payments are kept for the admins. The poller tells payments apart by the hash
of their transaction, so of several unmatched payments in one transaction it keeps the
first. Where the hash tells them apart, each payment that the cursor has passed has its
row, whichever calls failed and wherever a poll was cut off. -/
namespace HireSettle.Admin.KeptDeposits
open Workflow IncomingPaymentPollerService
open ResolvedPayments (AdminEvent AdminSnapshot AdminPool answered deposit)

/-- The memo names a live engagement. -/
def named (w : World) (memo : Option String) : Bool := ((present memo).bind w.engagements.get?).any live

def unresolved (row : UnmatchedPayment) : UnmatchedPayment :=
  { row with
    status := .pending
    matchedEngagementId := none
    resolvedBy := none
    resolvedAt := none
    notes := none }

/-- Whoever has resolved it, the row is the one that the payment was kept as. -/
def Represents (row : UnmatchedPayment) (payment : HorizonPayment) : Prop := unresolved row = unmatchedPayment payment row.id

instance (row : UnmatchedPayment) (payment : HorizonPayment) : Decidable (Represents row payment) := inferInstanceAs (Decidable (_ = _))

variable (config : Config)

/-- A payment to the contract whose memo has named no live engagement so far. -/
structure Unmatched (history : List AdminEvent) (payment : HorizonPayment) : Prop where
  recorded : payment ∈ config.horizon.records
  incoming : isIncoming config payment = true
  unnamed : ∀ e ∈ history, named e.before payment.memo = false

/-- An unmatched payment that the cursor has passed has a row of its own, a matched one has none. -/
structure KeptOnce (pool : AdminPool) : Prop where
  unmatched : ∀ payment ∈ config.horizon.upto (storedCursor pool.world), Unmatched config pool.history payment →
    ∃ row ∈ pool.world.payments.rows, Represents row payment ∧
      (∀ row' ∈ pool.world.payments.rows, Represents row' payment → row' = row) ∧
      ∀ other, Unmatched config pool.history other → Represents row other → other = payment
  matched : ∀ payment, (∀ e ∈ pool.history, named e.before payment.memo = true) →
    ∀ row ∈ pool.world.payments.rows, ¬ Represents row payment

/-- No two unmatched payments belong to one transaction. -/
def Apart (history : List AdminEvent) : Prop :=
  ∀ payment other, Unmatched config history payment → Unmatched config history other →
    payment.transaction_hash = other.transaction_hash → payment = other

/-- Before the first poll. -/
def unpolled (world : World) : World :=
  { world with
    payments := .empty
    systemConfig := world.systemConfig.deleteMany fun row => row.key = CURSOR_KEY }

section Pages

variable {horizon : Horizon} {cursor : String}

theorem uptoAfter (horizon : Horizon) (cursor : String) : horizon.upto cursor ++ horizon.after cursor = horizon.records := by
  unfold Horizon.upto Horizon.after
  split
  · rfl
  · rw [← List.drop_one,List.append_assoc,List.take_append_drop,List.takeWhile_append_dropWhile]

theorem uptoPage {page rest : List HorizonPayment} {last : HorizonPayment}
    (records : horizon.upto cursor ++ (page ++ [last]) ++ rest = horizon.records) :
    horizon.upto last.paging_token = horizon.upto cursor ++ (page ++ [last]) := by
  have split : horizon.records = (horizon.upto cursor ++ page) ++ last :: rest := by simp [← records]
  have unique := horizon.tokens
  rw [split,List.map_append,List.map_cons,List.nodup_append] at unique
  have differs : ∀ payment ∈ horizon.upto cursor ++ page, decide (payment.paging_token ≠ last.paging_token) = true :=
    fun payment inside => decide_eq_true (unique.2.2 _ (List.mem_map_of_mem inside) _ List.mem_cons_self)
  have named : last.paging_token ≠ "" := horizon.named last (split ▸ List.mem_append_right _ List.mem_cons_self)
  rw [Horizon.upto,if_neg named,split,List.takeWhile_append_of_pos differs,List.dropWhile_append_of_pos differs]
  simp

end Pages

section Base

variable {c : AdminSnapshot} {w' : World} {thread : Nat} {site : Site} {i : Answer}

/-- The payment has its row, or its memo has named a live engagement. -/
def Settled (c : AdminSnapshot) (payment : HorizonPayment) : Prop :=
  (∃ row ∈ c.world.payments.rows, row.txHash = payment.transaction_hash) ∨ ∃ e ∈ c.history, named e.before payment.memo = true

inductive Fact where
  | settled (payment : HorizonPayment)
  | unnamed (payment : HorizonPayment)

def Holds (c : AdminSnapshot) : Fact → Prop
  | .settled payment => Settled c payment
  | .unnamed payment => ∃ e ∈ c.history, named e.before payment.memo = false

structure Kept (c : AdminSnapshot) : Prop where
  passed : ∀ payment ∈ config.horizon.upto (storedCursor c.world), isIncoming config payment = true → Settled c payment
  unique : ∀ row ∈ c.world.payments.rows, ∀ row' ∈ c.world.payments.rows, row.txHash = row'.txHash → row = row'
  origin : ∀ row ∈ c.world.payments.rows, ∃ payment ∈ config.horizon.records,
    isIncoming config payment = true ∧ Represents row payment ∧ ∃ e ∈ c.history, named e.before payment.memo = false

def keeping : Knowledge Site Answer World Unit Fact where
  base c _ := Kept config c
  holds := Holds
  admits _ _ := True

/-- The rows stay, but for who has resolved them. -/
def Retains (w w' : World) : Prop :=
  ∃ g : UnmatchedPayment → UnmatchedPayment, w'.payments.rows = w.payments.rows.map g ∧ ∀ row, unresolved (g row) = unresolved row

theorem retainsSame {w w' : World} (same : w'.payments = w.payments) : Retains w w' := ⟨id,by simp [same],fun _ => rfl⟩

theorem unresolvedHash {row row' : UnmatchedPayment} (same : unresolved row = unresolved row') : row.txHash = row'.txHash :=
  show (unresolved row).txHash = (unresolved row').txHash from congrArg _ same

theorem representsHash {row : UnmatchedPayment} {payment : HorizonPayment} (represents : Represents row payment) :
    row.txHash = payment.transaction_hash := congrArg UnmatchedPayment.txHash represents

theorem representsMemo {row : UnmatchedPayment} {payment : HorizonPayment} (represents : Represents row payment) :
    row.memo = payment.memo := congrArg UnmatchedPayment.memo represents

theorem settledRetains (retains : Retains c.world w') {payment : HorizonPayment} (settled : Settled c payment) :
    Settled (c.record thread site i w') payment := by
  obtain ⟨g,rows,same⟩ := retains
  obtain ⟨row,inside,hash⟩ | ⟨e,inside,its⟩ := settled
  · refine Or.inl ⟨g row,?_,(unresolvedHash (same row)).trans hash⟩
    rw [Snapshot.recordWorld,rows]
    exact List.mem_map_of_mem inside
  · exact Or.inr ⟨e,List.mem_cons_of_mem _ inside,its⟩

theorem holdsRetains (retains : Retains c.world w') : (keeping config).Remembers c (c.record thread site i w') := by
  intro fact true
  cases fact with
  | settled payment => exact settledRetains retains true
  | unnamed payment =>
    obtain ⟨e,inside,its⟩ := true
    exact ⟨e,List.mem_cons_of_mem _ inside,its⟩

variable {config}

theorem keptRetains (kept : Kept config c) (retains : Retains c.world w')
    (passed : ∀ payment ∈ config.horizon.upto (storedCursor w'), isIncoming config payment = true →
      Settled (c.record thread site i w') payment) : Kept config (c.record thread site i w') := by
  obtain ⟨g,rows,same⟩ := retains
  have old : ∀ row' ∈ w'.payments.rows, ∃ row ∈ c.world.payments.rows, g row = row' := fun row' inside => by
    rw [rows] at inside
    exact List.mem_map.mp inside
  refine ⟨passed,fun a insideA b insideB hash => ?_,fun row' inside => ?_⟩
  · obtain ⟨a,oldA,rfl⟩ := old a insideA
    obtain ⟨b,oldB,rfl⟩ := old b insideB
    have hashes : a.txHash = b.txHash := (unresolvedHash (same a)).symm.trans (hash.trans (unresolvedHash (same b)))
    rw [kept.unique a oldA b oldB hashes]
  · obtain ⟨row,there,rfl⟩ := old row' inside
    obtain ⟨payment,recorded,incoming,represents,e,earlier,its⟩ := kept.origin row there
    refine ⟨payment,recorded,incoming,?_,e,List.mem_cons_of_mem _ earlier,its⟩
    have key : (g row).id = row.id := show (unresolved (g row)).id = (unresolved row).id from congrArg _ (same row)
    rw [Represents,same row,key]
    exact represents

theorem keptSame (kept : Kept config c) (retains : Retains c.world w') (systemConfig : w'.systemConfig = c.world.systemConfig) :
    Kept config (c.record thread site i w') := by
  refine keptRetains kept retains fun payment inside incoming => settledRetains retains (kept.passed payment ?_ incoming)
  rwa [storedCursor,systemConfig] at inside

theorem createdRow {txHash : String} {payment : HorizonPayment} {id : String} {payments : Table UnmatchedPayment}
    (same : txHash = payment.transaction_hash) (free : c.world.payments.findFirst (byHash txHash) = none)
    (created : c.world.payments.create (unmatchedPayment payment id) = some payments) (kept : Kept config c)
    (recorded : payment ∈ config.horizon.records) (incoming : isIncoming config payment = true)
    (unnamed : ∃ e ∈ c.history, named e.before payment.memo = false) :
    Kept config (c.record thread site i { c.world with payments := payments }) ∧
      (keeping config).Remembers c (c.record thread site i { c.world with payments := payments }) := by
  have rows : ∀ row, row ∈ payments.rows ↔ row ∈ c.world.payments.rows ∨ row = unmatchedPayment payment id :=
    fun _ => Table.memCreate created
  have fresh : ∀ row ∈ c.world.payments.rows, row.txHash ≠ payment.transaction_hash := fun row inside => by
    simpa [byHash,same] using List.find?_eq_none.mp free row inside
  have settled : ∀ other, Settled c other → Settled (c.record thread site i { c.world with payments := payments }) other := by
    rintro other (⟨row,inside,hash⟩ | ⟨e,inside,its⟩)
    · exact Or.inl ⟨row,(rows row).mpr (Or.inl inside),hash⟩
    · exact Or.inr ⟨e,List.mem_cons_of_mem _ inside,its⟩
  refine ⟨⟨fun other inside its => settled other (kept.passed other inside its),fun a insideA b insideB hash => ?_,fun row inside => ?_⟩,?_⟩
  · rcases (rows a).mp insideA with oldA | rfl <;> rcases (rows b).mp insideB with oldB | rfl
    · exact kept.unique a oldA b oldB hash
    · exact absurd hash (fresh a oldA)
    · exact absurd hash.symm (fresh b oldB)
    · rfl
  · rcases (rows row).mp inside with old | rfl
    · obtain ⟨other,there,its,represents,e,earlier,seen⟩ := kept.origin row old
      exact ⟨other,there,its,represents,e,List.mem_cons_of_mem _ earlier,seen⟩
    · obtain ⟨e,earlier,seen⟩ := unnamed
      exact ⟨payment,recorded,incoming,rfl,e,List.mem_cons_of_mem _ earlier,seen⟩
  · intro fact true
    cases fact with
    | settled other => exact settled other true
    | unnamed other =>
      obtain ⟨e,inside,its⟩ := true
      exact ⟨e,List.mem_cons_of_mem _ inside,its⟩

end Base

section Calls

variable {α : Type} {known : Multiset Fact} {site : Site}

/-- A call that leaves the rows and the cursor, and what it has seen. -/
theorem leavesSame {c : AdminSnapshot} {frame : Unit} {thread : Nat} {i : Answer} {w' : World} {done : Unit → Multiset Fact → Prop}
    (kept : Kept config c) (retains : Retains c.world w') (systemConfig : w'.systemConfig = c.world.systemConfig)
    (learns : (keeping config).Learns (c.record thread site i w') known (done ())) :
    (keeping config).Leaves c (c.record thread site i w') frame known done :=
  ⟨(),keptSame kept retains systemConfig,holdsRetains config retains,learns⟩

theorem safeFind {f : World → α} {done : Except Exception α → Unit × Multiset Fact → Prop}
    (failed : ∀ error, done (.error error) ((),known))
    (found : ∀ (c : AdminSnapshot) thread i, Kept config c →
      (keeping config).Learns (c.record thread site i c.world) known fun known => done (.ok (f c.world)) ((),known)) :
    Safe (keeping config).contract done (find site f) ((),known) := by
  refine Knowledge.safeQuery fun c frame thread i kept _ _ => leavesSame config kept (retainsSame rfl) rfl ?_
  split
  · exact Knowledge.learnsNothing (failed _)
  · exact found c thread i kept

/-- Still known, and more. -/
def Grown (known : Multiset Fact) (held : Unit × Multiset Fact) : Prop := ∀ fact ∈ known, fact ∈ held.2

theorem safeMatchMemo (payment : HorizonPayment) :
    Safe (keeping config).contract (fun out held => Grown known held ∧ match out with
      | .ok (some _) => .settled payment ∈ held.2
      | .ok none => present payment.memo = none ∨ .unnamed payment ∈ held.2
      | .error _ => True) (matchMemoToEngagement payment.memo) ((),known) := by
  unfold matchMemoToEngagement
  split
  · rename_i absent
    exact ⟨fun _ inside => inside,Or.inl absent⟩
  · rename_i memo given
    refine safeBind (safeFind config (fun _ => ⟨fun _ inside => inside,trivial⟩) fun c thread i kept => ?_)
    have here : ∀ answer, named (c.event thread (.findEngagement memo) answer c.world).before payment.memo =
        (c.world.engagements.get? memo).any live := fun _ => by simp [named,given,Snapshot.event]
    cases matched : (c.world.engagements.get? memo).filter live with
    | none =>
      have none : (c.world.engagements.get? memo).any live = false := by
        cases there : c.world.engagements.get? memo with
        | none => rfl
        | some engagement => simpa [there,Option.filter] using matched
      exact Knowledge.learnsFact (.unnamed payment) ⟨_,List.mem_cons_self,(here _).trans none⟩
        (by simp only [matched]; exact ⟨fun _ inside => Multiset.mem_cons_of_mem inside,Or.inr (Multiset.mem_cons_self _ _)⟩)
    | some engagement =>
      obtain ⟨there,its⟩ := Option.filter_eq_some_iff.mp matched
      exact Knowledge.learnsFact (.settled payment) (Or.inr ⟨_,List.mem_cons_self,(here _).trans (by rw [there]; exact its)⟩)
        (by simp only [matched]; exact ⟨fun _ inside => Multiset.mem_cons_of_mem inside,Multiset.mem_cons_self _ _⟩)

theorem safeCreate {payment : HorizonPayment} (recorded : payment ∈ config.horizon.records)
    (incoming : isIncoming config payment = true) (unnamed : .unnamed payment ∈ known) :
    Safe (keeping config).contract (fun out held => Grown known held ∧ match out with
      | .ok _ => .settled payment ∈ held.2
      | .error _ => True) (createPayment payment) ((),known) := by
  refine Knowledge.safeTransact ?_ ?_
  · intro c frame thread i value w' kept facts committed _
    split at committed
    · cases committed
    · dsimp only at committed
      split at committed
      · cases committed
      · rename_i taken
        split at committed
        · cases committed
        · rename_i payments created
          cases committed
          have free : c.world.payments.findFirst (byHash payment.transaction_hash) = none := by simpa using taken
          obtain ⟨kept',remembers⟩ := createdRow rfl free created kept recorded incoming (facts _ unnamed)
          have row : Settled (c.record thread (.createPayment payment.transaction_hash) i { c.world with payments := payments }) payment :=
            Or.inl ⟨_,(Table.memCreate created).mpr (Or.inr rfl),rfl⟩
          exact ⟨(),kept',remembers,Knowledge.learnsFact (.settled payment) row
            ⟨fun _ inside => Multiset.mem_cons_of_mem inside,Multiset.mem_cons_self _ _⟩⟩
  · intro c frame thread i error kept _ _ _
    exact leavesSame config kept (retainsSame rfl) rfl (Knowledge.learnsNothing ⟨fun _ inside => inside,trivial⟩)

/-- A payment that has been gone through is settled, and its token is the last. -/
def GoneThrough (known : Multiset Fact) (payments : List HorizonPayment) (cursor : String) (out : Except Exception (Nat × String))
    (held : Unit × Multiset Fact) : Prop :=
  Grown known held ∧ ∀ acc, out = .ok acc → acc.2 = payments.foldl (fun _ payment => payment.paging_token) cursor ∧
    ∀ payment ∈ payments, isIncoming config payment = true → .settled payment ∈ held.2

theorem goneThroughOne {payment : HorizonPayment} {cursor : String} {acc : Nat × String} {held : Unit × Multiset Fact}
    (grown : Grown known held) (token : acc.2 = payment.paging_token)
    (settled : isIncoming config payment = true → .settled payment ∈ held.2) :
    GoneThrough config known [payment] cursor (.ok acc) held := by
  refine ⟨grown,fun other same => ?_⟩
  cases same
  refine ⟨token,fun other inside => ?_⟩
  rw [List.mem_singleton.mp inside]
  exact settled

theorem goneThroughError {payments : List HorizonPayment} {cursor : String} {error : Exception} {held : Unit × Multiset Fact}
    (grown : Grown known held) : GoneThrough config known payments cursor (.error error) held :=
  ⟨grown,fun _ same => by cases same⟩

theorem safeHandlePayment {payment : HorizonPayment} (recorded : payment ∈ config.horizon.records) (acc : Nat × String) :
    Safe (keeping config).contract (GoneThrough config known [payment] acc.2) (handlePayment config acc payment) ((),known) := by
  unfold handlePayment
  split
  · rename_i passing
    exact goneThroughOne config (fun _ inside => inside) rfl fun incoming => by simp [incoming] at passing
  · rename_i incoming
    have incoming : isIncoming config payment = true := by simpa using incoming
    refine safeBind (safeMono ?_ (safeMatchMemo config payment))
    rintro (error | matched) ⟨_,known'⟩ ⟨grown,seen⟩
    · exact goneThroughError config grown
    · cases matched with
      | some engagement => exact goneThroughOne config grown rfl fun _ => seen
      | none =>
        refine safeBind (safeFind config (fun _ => goneThroughError config grown) fun c thread i kept => ?_)
        have here : present payment.memo = none ∨ .unnamed payment ∈ known' := seen
        cases found : c.world.payments.findFirst (byHash payment.transaction_hash) with
        | some row =>
          have hash : row.txHash = payment.transaction_hash := by simpa [byHash] using (Table.findFirstGet found).2
          exact Knowledge.learnsFact (.settled payment) (Or.inl ⟨row,Table.getMem (Table.findFirstGet found).1,hash⟩)
            (goneThroughOne config (fun fact inside => Multiset.mem_cons_of_mem (grown fact inside)) rfl
              fun _ => Multiset.mem_cons_self _ _)
        | none =>
          have creates : ∀ known'', Grown known ((),known'') → .unnamed payment ∈ known'' →
              Safe (keeping config).contract (GoneThrough config known [payment] acc.2)
                (do createPayment payment; return (acc.1 + 1,payment.paging_token)) ((),known'') := by
            intro known'' grown' unnamed
            refine safeBind (safeMono ?_ (safeCreate config recorded incoming unnamed))
            rintro (error | _) ⟨_,final⟩ ⟨more,settled⟩
            · exact goneThroughError config fun fact inside => more fact (grown' fact inside)
            · exact goneThroughOne config (fun fact inside => more fact (grown' fact inside)) rfl fun _ => settled
          rcases here with absent | unnamed
          · refine Knowledge.learnsFact (.unnamed payment) ⟨_,List.mem_cons_self,?_⟩
              (creates _ (fun fact inside => Multiset.mem_cons_of_mem (grown fact inside)) (Multiset.mem_cons_self _ _))
            simp [named,absent]
          · exact Knowledge.learnsNothing (creates _ grown unnamed)

theorem safePayments {payments : List HorizonPayment} (recorded : ∀ payment ∈ payments, payment ∈ config.horizon.records)
    (acc : Nat × String) :
    Safe (keeping config).contract (GoneThrough config known payments acc.2) (Process.foldEach (handlePayment config) acc payments)
      ((),known) := by
  induction payments generalizing acc known with
  | nil => exact ⟨fun _ inside => inside,fun other same => by cases same; exact ⟨rfl,fun _ inside => absurd inside List.not_mem_nil⟩⟩
  | cons payment rest ih =>
    refine safeBind (safeMono ?_ (safeHandlePayment config (recorded payment List.mem_cons_self) acc))
    rintro (error | next) ⟨_,known'⟩ ⟨grown,gone⟩
    · exact goneThroughError config grown
    · obtain ⟨token,settled⟩ := gone next rfl
      refine safeMono ?_ (ih (fun other inside => recorded other (List.mem_cons_of_mem _ inside)) next)
      rintro out ⟨_,known''⟩ ⟨more,others⟩
      refine ⟨fun fact inside => more fact (grown fact inside),fun final same => ?_⟩
      obtain ⟨last,rests⟩ := others final same
      refine ⟨last.trans (by rw [token]; rfl),fun other inside incoming => ?_⟩
      rcases List.mem_cons.mp inside with rfl | later
      · exact more _ (settled other List.mem_cons_self incoming)
      · exact rests other later incoming

def saved (w : World) (cursor : String) : World :=
  { w with systemConfig := w.systemConfig.upsert ⟨CURSOR_KEY,cursor⟩ (fun row => { row with value := cursor }) (SystemConfigRow.valueKey cursor) }

theorem storedSaved (w : World) (cursor : String) : storedCursor (saved w cursor) = cursor := by
  have got := Table.upsertGet w.systemConfig ⟨CURSOR_KEY,cursor⟩ (fun row => { row with value := cursor }) (fun _ => rfl) CURSOR_KEY
  rw [if_pos (show CURSOR_KEY = Keyed.key (⟨CURSOR_KEY,cursor⟩ : SystemConfigRow) from rfl)] at got
  rw [storedCursor,saved,got]
  cases w.systemConfig.get? CURSOR_KEY <;> rfl

theorem safeSaveCursor {cursor : String} {page rest : List HorizonPayment} {last : HorizonPayment}
    (records : config.horizon.upto cursor ++ (page ++ [last]) ++ rest = config.horizon.records)
    (passed : ∀ payment ∈ config.horizon.upto cursor, isIncoming config payment = true → .settled payment ∈ known)
    (settled : ∀ payment ∈ page ++ [last], isIncoming config payment = true → .settled payment ∈ known) :
    Safe (keeping config).contract anyEnd (saveCursor last.paging_token) ((),known) := by
  unfold saveCursor
  split
  · trivial
  · rename_i given
    refine Knowledge.safeTransact ?_ ?_
    · intro c frame thread i value w' kept facts committed _
      split at committed
      · cases committed
      · cases committed
        have retains : Retains c.world (saved c.world last.paging_token) := retainsSame rfl
        refine ⟨(),keptRetains kept retains fun payment inside incoming => ?_,holdsRetains config retains,Knowledge.learnsNothing trivial⟩
        have upto : payment ∈ config.horizon.upto (storedCursor (saved c.world last.paging_token)) := inside
        rw [storedSaved,uptoPage records] at upto
        refine settledRetains retains ?_
        rcases List.mem_append.mp upto with old | new
        · exact facts _ (passed payment old incoming)
        · exact facts _ (settled payment new incoming)
    · intro c frame thread i error kept _ _ _
      exact leavesSame config kept (retainsSame rfl) rfl (Knowledge.learnsNothing trivial)

/-- A call that leaves the cursor, and the rows but for who has resolved them. -/
def Spares (_ : Site) (w w' : World) : Prop := w'.systemConfig = w.systemConfig ∧ Retains w w'

theorem sparesSame (site : Site) (w : World) : Spares site w w := ⟨rfl,retainsSame rfl⟩

theorem harmlessSpares {p : Op α} (acts : Acts Spares p) : Harmless (keeping config).contract p := by
  intro held
  refine safeActs (fun site w' c g thread i spares _ inv => ?_) acts fun _ => trivial
  exact ⟨keptSame inv.1 spares.2 spares.1,fun fact inside => holdsRetains config spares.2 fact (inv.2 fact inside)⟩

theorem sparesFind (site : Site) (f : World → α) : Acts Spares (find site f) := actsQuery (sparesSame site) _

theorem sparesSync : Acts Spares syncPendingGauge := actsBind (sparesFind _ _) fun _ => trivial

theorem sparesAlert : Acts Spares (maybeAlertAdmins config) := by
  refine actsBind (sparesFind _ _) fun count => actsBind ?_ fun crossed => ?_
  · refine actsTransact (sparesSame _) fun i w value w' committed => ?_
    split at committed
    · cases committed
      exact ⟨rfl,retainsSame rfl⟩
    · split at committed <;> (cases committed; exact ⟨rfl,retainsSame rfl⟩)
  · split
    · exact actsBind (sparesFind _ _) fun admins => actsForEach (fun _ => actsQuery (sparesSame _) _) admins
    · trivial

theorem safePage {cursor : String} {payments : List HorizonPayment} (n : Nat) (page : (config.horizon.after cursor).take n = payments)
    (some : payments ≠ []) (passed : ∀ payment ∈ config.horizon.upto cursor, isIncoming config payment = true → .settled payment ∈ known) :
    Safe (keeping config).contract anyEnd (do
      let (unmatched,lastPagingToken) ← .foldEach (handlePayment config) (0,cursor) payments
      saveCursor lastPagingToken
      syncPendingGauge
      maybeAlertAdmins config
      return (⟨payments.length,unmatched⟩ : Polled)) ((),known) := by
  have records : config.horizon.upto cursor ++ payments ++ (config.horizon.after cursor).drop n = config.horizon.records := by
    rw [← page,List.append_assoc,List.take_append_drop,uptoAfter]
  have recorded : ∀ payment ∈ payments, payment ∈ config.horizon.records := fun payment inside =>
    records ▸ List.mem_append_left _ (List.mem_append_right _ inside)
  refine safeBind (safeMono ?_ (safePayments config recorded (0,cursor)))
  rintro (error | ⟨unmatched,token⟩) ⟨_,known'⟩ ⟨grown,gone⟩
  · trivial
  obtain ⟨last,settled⟩ := gone _ rfl
  obtain none | ⟨init,final,rfl⟩ := List.eq_nil_or_concat' payments
  · exact absurd none some
  have same : token = final.paging_token := by simpa [List.foldl_append] using last
  subst token
  refine safeThen (safeSaveCursor config records (fun payment inside incoming => grown _ (passed payment inside incoming)) settled) fun _ =>
    harmlessBind (harmlessSpares config sparesSync) fun _ => harmlessBind (harmlessSpares config (sparesAlert config)) fun _ _ => trivial

theorem harmlessPoll : Harmless (keeping config).contract (poll config) := by
  rintro ⟨_,known⟩
  unfold poll
  split
  · trivial
  refine safeBind (safeFind config (fun _ => trivial) fun c thread i kept => ?_)
  refine ⟨↑(((config.horizon.upto (storedCursor c.world)).filter (isIncoming config)).map Fact.settled),fun fact inside => ?_,?_⟩
  · obtain ⟨payment,there,rfl⟩ := List.mem_map.mp (Multiset.mem_coe.mp inside)
    obtain ⟨upto,incoming⟩ := List.mem_filter.mp there
    exact settledRetains (retainsSame rfl) (kept.passed payment upto incoming)
  refine safeBind (Knowledge.safeQuery fun c' frame thread' i' kept' _ _ => leavesSame config kept' (retainsSame rfl) rfl
    (Knowledge.learnsNothing ?_))
  dsimp only
  split
  · rw [if_pos rfl]
    trivial
  split
  · trivial
  refine safePage config _ rfl ‹_› fun payment upto incoming => ?_
  exact Multiset.mem_add.mpr (Or.inl (Multiset.mem_coe.mpr (List.mem_map_of_mem (List.mem_filter.mpr ⟨upto,incoming⟩))))

open UnmatchedPaymentsService in
theorem sparesUpdate (id : String) {data : Nat → UnmatchedPayment → UnmatchedPayment}
    {keeps : ∀ at' row, Keyed.key (data at' row) = Keyed.key row} (same : ∀ at' row, unresolved (data at' row) = unresolved row) :
    Acts Spares (update id data keeps) := by
  refine actsTransact (sparesSame _) fun i w value w' committed => ?_
  split at committed
  · cases committed
  · dsimp only at committed
    split at committed
    · cases committed
    · rename_i modified
      cases committed
      obtain ⟨row,_,_,rfl⟩ := Table.modifyGet modified
      refine ⟨rfl,fun row => if Keyed.key row = id then data w.clock row else row,by simp [Table.update,Table.updateMany],fun row => ?_⟩
      dsimp only
      split
      · exact same _ _
      · rfl

open UnmatchedPaymentsService in
theorem sparesResolve (verb id : String) {check : Op Unit} {data : Nat → UnmatchedPayment → UnmatchedPayment}
    {keeps : ∀ at' row, Keyed.key (data at' row) = Keyed.key row} (checks : Acts Spares check)
    (same : ∀ at' row, unresolved (data at' row) = unresolved row) : Acts Spares (resolve verb id check data keeps) := by
  refine actsBind (sparesFind _ _) fun record => ?_
  cases record with
  | none => trivial
  | some record =>
    dsimp only
    split
    · trivial
    · exact actsBind checks fun _ => actsBind (sparesUpdate id same) fun _ => actsBind sparesSync fun _ => trivial

theorem harmlessPollIncoming : Harmless (keeping config).contract (pollIncomingPayments config) := by
  unfold pollIncomingPayments
  split
  · exact fun _ => trivial
  · refine harmlessBind (harmlessSpares config (actsQuery (sparesSame _) _)) fun token => ?_
    split
    · exact fun _ => trivial
    · exact harmlessBind (harmlessHandle (harmlessBind (harmlessPoll config) fun _ _ => trivial) fun _ _ => trivial) fun _ =>
        harmlessSpares config (actsQuery (sparesSame _) _)

theorem harmlessHandler (request : Request) : Harmless (keeping config).contract (handler config request) := by
  cases request with
  | pollIncomingPayments => exact harmlessPollIncoming config
  | poll => exact harmlessBind (harmlessPoll config) fun _ _ => trivial
  | match' id adminId dto =>
    have checks : Acts Spares (UnmatchedPaymentsService.checkEngagement dto.engagementId) := by
      refine actsBind (sparesFind _ _) fun engagement => ?_
      unfold Process.throwWhen
      split <;> trivial
    exact harmlessBind (harmlessSpares config (sparesResolve "match" id checks fun _ _ => rfl)) fun _ _ => trivial
  | refund id adminId dto =>
    exact harmlessBind (harmlessSpares config (sparesResolve "refund" id trivial fun _ _ => rfl)) fun _ _ => trivial
  | ignore id adminId dto =>
    exact harmlessBind (harmlessSpares config (sparesResolve "ignore" id trivial fun _ _ => rfl)) fun _ _ => trivial

theorem keptRun (world : World) (moves : List (Move Request Change Answer)) :
    Kept config ((service config).run (Pool.initial (unpolled world)) moves).snapshot := by
  have begin : Kept config ⟨unpolled world,[]⟩ := by
    have none : storedCursor (unpolled world) = "" := by
      rw [storedCursor,unpolled,Table.getDeleteMany]
      cases found : world.systemConfig.get? CURSOR_KEY with
      | none => rfl
      | some row =>
        have key : row.key = CURSOR_KEY := Table.getKey found
        simp [key,Option.filter]
    refine ⟨fun payment inside => ?_,fun row inside => absurd inside List.not_mem_nil,fun row inside => absurd inside List.not_mem_nil⟩
    rw [none] at inside
    exact absurd inside List.not_mem_nil
  have stays : ∀ change' c g, (keeping config).contract.inv c g →
      (keeping config).contract.inv { c with world := (service config).environment change' c.world } g := by
    intro change' c g inv
    have facts : ∀ fact, Holds c fact → Holds { c with world := change change' c.world } fact := fun fact true => by
      cases fact <;> cases change' <;> exact true
    refine ⟨?_,fun fact inside => facts fact (inv.2 fact inside)⟩
    cases change' <;> exact ⟨inv.1.passed,inv.1.unique,inv.1.origin⟩
  have run := securedRun (K := (keeping config).contract) (fun request => harmlessHandler config request 0) stays (securedInitial ⟨begin,by simp⟩) moves
    (meetsAlways (fun _ _ => trivial) _)
  exact (Knowledge.securedBase run).choose_spec

end Calls

theorem depositsKeptOnce (world : World) (moves : List (Move Request Change Answer))
    (apart : Apart config ((service config).run (Pool.initial (unpolled world)) moves).history) :
    KeptOnce config ((service config).run (Pool.initial (unpolled world)) moves) := by
  have kept := keptRun config world moves
  generalize (service config).run (Pool.initial (unpolled world)) moves = pool at apart kept
  refine ⟨fun payment passed unmatched => ?_,fun payment always row inside represents => ?_⟩
  · obtain ⟨row,inside,hash⟩ | ⟨e,inside,its⟩ := kept.passed payment passed unmatched.incoming
    · obtain ⟨source,recorded,incoming,represents,e,_,unnamed⟩ := kept.origin row inside
      have hashes : source.transaction_hash = payment.transaction_hash := (representsHash represents).symm.trans hash
      have memo : source.memo = payment.memo := by
        rw [HorizonPayment.memo,config.horizon.together source recorded payment unmatched.recorded hashes,← HorizonPayment.memo]
      have mine : source = payment :=
        apart source payment ⟨recorded,incoming,fun e inside => memo ▸ unmatched.unnamed e inside⟩ unmatched hashes
      refine ⟨row,inside,mine ▸ represents,fun row' inside' represents' => ?_,fun other unmatched' represents' => ?_⟩
      · exact kept.unique row' inside' row inside ((representsHash represents').trans hash.symm)
      · exact apart other payment unmatched' unmatched ((representsHash represents').symm.trans hash)
    · cases (unmatched.unnamed e inside).symm.trans its
  · obtain ⟨source,_,_,represents',e,earlier,unnamed⟩ := kept.origin row inside
    have memo : source.memo = payment.memo := (representsMemo represents').symm.trans (representsMemo represents)
    cases (always e earlier).symm.trans (memo ▸ unnamed)

-- another payment of the same transaction, and one of its own
def second : HorizonPayment := { deposit with
  amount := "20"
  paging_token := "2" }

def separate : HorizonPayment := { second with transaction_hash := "tx2" }

def batched : Config where
  horizon := ⟨[deposit,second],by decide,by decide,by decide⟩
  contractAddress := some "contract"

def separated : Config where
  horizon := ⟨[deposit,separate],by decide,by decide,by decide⟩
  contractAddress := some "contract"

def polledBoth : List (Move Request Change Answer) :=
  .start .poll :: answered 0 [{},{ number := 2 },{},{ text := "p" },{},{ text := "q" },{},{},{},{}]

-- the second payment has its hash looked up, and is not stored
def polledBatch : List (Move Request Change Answer) :=
  .start .poll :: answered 0 [{},{ number := 2 },{},{ text := "p" },{},{},{},{},{}]

theorem separateDepositsKept :
    Apart separated ((service separated).run (Pool.initial (unpolled {})) polledBoth).history ∧
    KeptOnce separated ((service separated).run (Pool.initial (unpolled {})) polledBoth) := by
  have apart : Apart separated ((service separated).run (Pool.initial (unpolled {})) polledBoth).history := by
    have hashes : ∀ payment ∈ separated.horizon.records, ∀ other ∈ separated.horizon.records,
        payment.transaction_hash = other.transaction_hash → payment = other := by decide
    exact fun payment other its its' => hashes payment its.recorded other its'.recorded
  exact ⟨apart,depositsKeptOnce separated {} polledBoth apart⟩

theorem batchedDepositLost : ¬ KeptOnce batched ((service batched).run (Pool.initial (unpolled {})) polledBatch) := by
  intro kept
  have passed : second ∈ batched.horizon.upto (storedCursor ((service batched).run (Pool.initial (unpolled {})) polledBatch).world) := by
    decide +kernel
  have unmatched : Unmatched batched ((service batched).run (Pool.initial (unpolled {})) polledBatch).history second :=
    ⟨by decide,by decide,by decide +kernel⟩
  obtain ⟨row,inside,represents,_⟩ := kept.unmatched second passed unmatched
  have none : ∀ row ∈ ((service batched).run (Pool.initial (unpolled {})) polledBatch).world.payments.rows, ¬ Represents row second := by
    decide +kernel
  exact none row inside represents

end HireSettle.Admin.KeptDeposits
