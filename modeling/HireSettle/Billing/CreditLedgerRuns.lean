import HireSettle.Billing.CreditLedger
import HireSettle.Workflow.Effects

/-! The ledger under any interleaving of writers. A writer keeps hold of the row it
read as the latest. Rows stay, so a free next sequence at the insert proves that
this row was still the last one and its balance still current. -/
namespace HireSettle.Billing
open Workflow

section Rows

theorem consistentNil : Consistent [] :=
  ⟨fun _ _ h => by simp at h,fun _ _ h => by simp at h,fun _ h => by simp at h,List.nodup_nil⟩

theorem consistentAppend {rows : List CreditLedger} (ok : Consistent rows) {row : CreditLedger}
    (sequence : row.sequence = rows.length + 1)
    (balance : row.balanceAfter = (rows.map CreditLedger.amount).sum + row.amount)
    (covered : 0 ≤ row.balanceAfter)
    (fresh : ∀ key, row.idempotencyKey = some key → key ∉ rows.filterMap CreditLedger.idempotencyKey) :
    Consistent (rows ++ [row]) := by
  have last : ∀ k r, (rows ++ [row])[k]? = some r → rows[k]? = some r ∨ (k = rows.length ∧ r = row) := by
    intro k r found
    rcases Nat.lt_or_ge k rows.length with old | new
    · exact Or.inl (by rwa [List.getElem?_append_left old] at found)
    · rw [List.getElem?_append_right new] at found
      have single := List.mem_singleton.mp (List.mem_of_getElem? found)
      have position := (List.getElem?_eq_some_iff.mp found).1
      simp only [List.length_singleton] at position
      exact Or.inr ⟨by omega,single⟩
  refine ⟨fun k r found => ?_,fun k r found => ?_,fun r inside => ?_,?_⟩
  · rcases last k r found with old | ⟨rfl,rfl⟩
    · exact ok.numbered k r old
    · exact sequence
  · rcases last k r found with old | ⟨rfl,rfl⟩
    · have bound := (List.getElem?_eq_some_iff.mp old).1
      rw [List.take_append_of_le_length (by omega)]
      exact ok.balanced k r old
    · rw [List.take_of_length_le (by simp)]
      simpa using balance
  · rcases List.mem_append.mp inside with old | new
    · exact ok.covered r old
    · exact List.mem_singleton.mp new ▸ covered
  · rw [List.filterMap_append]
    refine List.nodup_append.mpr ⟨ok.keys,?_,?_⟩
    · cases h : row.idempotencyKey <;> simp [h]
    · intro key old key' new same
      obtain ⟨r,single,mine⟩ := List.mem_filterMap.mp new
      rw [List.mem_singleton.mp single] at mine
      exact fresh key' mine (same ▸ old)

theorem lastRow {rows : List CreditLedger} (ok : Consistent rows) {seen : CreditLedger}
    (inside : seen ∈ rows) (free : ∀ r ∈ rows, r.sequence ≠ seen.sequence + 1) :
    seen.sequence = rows.length ∧ seen.balanceAfter = (rows.map CreditLedger.amount).sum := by
  obtain ⟨k,found⟩ := List.mem_iff_getElem?.mp inside
  have sequence := ok.numbered k seen found
  have bound := (List.getElem?_eq_some_iff.mp found).1
  have length : k + 1 = rows.length := by
    by_contra short
    have next : k + 1 < rows.length := by omega
    have there : rows[k + 1]? = some rows[k + 1] := List.getElem?_eq_getElem next
    exact free _ (List.mem_of_getElem? there) (by rw [ok.numbered _ _ there,sequence])
  exact ⟨by omega,by rw [ok.balanced k seen found,length,List.take_length]⟩

theorem noFirstRow {rows : List CreditLedger} (ok : Consistent rows)
    (free : ∀ r ∈ rows, r.sequence ≠ 1) : rows = [] := by
  cases rows with
  | nil => rfl
  | cons head tail => exact absurd (ok.numbered 0 head rfl) (free head List.mem_cons_self)

end Rows

section Table

variable {ledger ledger' : Table CreditLedger}

theorem memRowsOf {companyId : String} {row : CreditLedger} :
    row ∈ rowsOf ledger companyId ↔ row ∈ ledger.rows ∧ row.companyId = companyId := by
  simp [rowsOf,Table.findMany]

theorem rowsOfCreate {row : CreditLedger} (created : ledger.create row = some ledger') (companyId : String) :
    rowsOf ledger' companyId =
      if row.companyId = companyId then rowsOf ledger companyId ++ [row] else rowsOf ledger companyId := by
  rw [rowsOf,Table.findMany,(Table.createGet created).2.1,List.filter_append]
  split
  · rename_i same
    simp [same,rowsOf,Table.findMany]
  · rename_i other
    simp [other,rowsOf,Table.findMany]

theorem createFree {row : CreditLedger} (created : ledger.create row = some ledger') :
    ∀ r ∈ rowsOf ledger row.companyId, r.sequence ≠ row.sequence := by
  intro r inside same
  obtain ⟨there,company⟩ := memRowsOf.mp inside
  have taken := Table.memGet there
  have key : Keyed.key r = Keyed.key row := Prod.ext company same
  rw [key,(Table.createGet created).1] at taken
  contradiction

theorem keyFree {companyId key : String} (free : keyTaken ledger companyId (some key) = false) :
    key ∉ (rowsOf ledger companyId).filterMap CreditLedger.idempotencyKey := by
  intro taken
  obtain ⟨r,inside,same⟩ := List.mem_filterMap.mp taken
  obtain ⟨there,company⟩ := memRowsOf.mp inside
  have absent : keyedRow ledger companyId key = none := by simpa [keyTaken] using free
  simpa [company,same] using Table.findFirstNone absent (Table.memGet there)

theorem latestMem {companyId : String} {row : CreditLedger} (found : latestOf ledger companyId = some row) :
    row ∈ rowsOf ledger companyId := List.argmax_mem found

end Table

def WellKept (ledger : Table CreditLedger) : Prop := ∀ companyId, Consistent (rowsOf ledger companyId)

def Seen (ledger : Table CreditLedger) (companyId : String) (seen : Option CreditLedger) : Prop :=
  ∀ r, seen = some r → r ∈ rowsOf ledger companyId

theorem wellKeptInsert {ledger ledger' : Table CreditLedger} (kept : WellKept ledger)
    {companyId : String} {key : Option String} {seen : Option CreditLedger} {input : CreditEntryInput}
    (known : Seen ledger companyId seen)
    (valid : checks (nextRow companyId key seen input) = true)
    (keyFresh : keyTaken ledger companyId key = false)
    (created : ledger.create (nextRow companyId key seen input) = some ledger') : WellKept ledger' := by
  intro company
  rw [rowsOfCreate created]
  split
  · rename_i same
    have same : companyId = company := same
    subst same
    have free := createFree created
    have covered : 0 ≤ (nextRow companyId key seen input).balanceAfter := by
      simp only [checks,Bool.and_eq_true,decide_eq_true_eq] at valid
      exact valid.1.1.1.1.1.2
    have position : (nextRow companyId key seen input).sequence = (rowsOf ledger companyId).length + 1 ∧
        balanceOf seen = ((rowsOf ledger companyId).map CreditLedger.amount).sum := by
      cases seen with
      | none =>
        have empty := noFirstRow (kept companyId) (by simpa [nextRow] using free)
        simp [empty,nextRow,balanceOf]
      | some r =>
        obtain ⟨sequence,balance⟩ := lastRow (kept companyId) (known r rfl) (by simpa [nextRow] using free)
        exact ⟨by simpa [nextRow] using sequence,by simpa [balanceOf] using balance⟩
    refine consistentAppend (kept companyId) position.1 ?_ covered ?_
    · simp only [nextRow,position.2]
    · intro k mine
      have mine : key = some k := mine
      exact keyFree (mine ▸ keyFresh)
  · exact kept company

section Contract

def ledgerContract : Contract Site Answer World (Multiset CreditLedger) where
  inv c seen := WellKept c.world.ledger ∧ ∀ r ∈ seen, r ∈ c.world.ledger.rows
  admits _ _ := True

def anyEnd {α : Type} (_ : Except Exception α) (_ : Multiset CreditLedger) : Prop := True

theorem ledgerIgnores (site : Site) : ledgerContract.Ignores site := fun _ _ _ _ inv => inv

theorem safeInsert {companyId : String} {key : Option String} {seen : Option CreditLedger}
    {input : CreditEntryInput} {held : Multiset CreditLedger}
    (known : ∀ r, seen = some r → r ∈ held ∧ r.companyId = companyId) :
    Safe ledgerContract anyEnd (insert (nextRow companyId key seen input)) held := by
  refine safeTransact ?_ (fun c frame thread i error inv _ => ⟨inv,trivial⟩)
  intro c frame thread i value after inv ok _
  split at ok <;> try contradiction
  split at ok <;> try contradiction
  rename_i valid
  split at ok <;> try contradiction
  rename_i keyFresh
  split at ok <;> try contradiction
  rename_i ledger created
  cases ok
  have there : Seen c.world.ledger companyId seen := by
    intro r same
    obtain ⟨mine,company⟩ := known r same
    exact memRowsOf.mpr ⟨inv.2 r (Multiset.mem_add.mpr (Or.inl mine)),company⟩
  have valid : checks (nextRow companyId key seen input) = true := by simpa using valid
  have keyFresh : keyTaken c.world.ledger companyId key = false := Bool.eq_false_of_not_eq_true keyFresh
  refine ⟨held,⟨wellKeptInsert inv.1 there valid keyFresh created,?_⟩,trivial⟩
  intro r seen
  have still := inv.2 r seen
  simp only [Snapshot.recordWorld,(Table.createGet created).2.1]
  exact List.mem_append_left _ still

theorem safeLatest {companyId : String} {held : Multiset CreditLedger}
    {done : Except Exception (Option CreditLedger) → Multiset CreditLedger → Prop}
    (found : ∀ seen keeps, (∀ r, seen = some r → r ∈ keeps ∧ r.companyId = companyId) → done (.ok seen) keeps)
    (failed : done (.error .database) held) :
    Safe ledgerContract done (latest companyId) held := by
  refine safeQuery (ledgerIgnores _) ?_
  intro c frame i inv
  by_cases fails : i.fails = true
  · exact ⟨held,inv,by simpa [fails] using failed⟩
  · cases h : latestOf c.world.ledger companyId with
    | none => exact ⟨held,inv,by simpa [fails] using found none held (by simp)⟩
    | some row =>
      obtain ⟨there,company⟩ := memRowsOf.mp (latestMem h)
      refine ⟨row ::ₘ held,⟨inv.1,?_⟩,?_⟩
      · intro r mine
        rw [Multiset.cons_add] at mine
        rcases Multiset.mem_cons.mp mine with rfl | other
        · exact there
        · exact inv.2 r other
      · simpa [fails] using found (some row) (row ::ₘ held)
          (by intro r same; cases same; exact ⟨Multiset.mem_cons_self _ _,company⟩)

theorem safeWriteNext (companyId : String) (key : Option String) (compute : Compute)
    (held : Multiset CreditLedger) :
    Safe ledgerContract anyEnd (writeNext companyId key compute) held := by
  refine safeBind (safeLatest (fun seen keeps known => ?_) trivial)
  show Safe ledgerContract anyEnd _ keeps
  split
  · trivial
  · trivial
  · refine safeBind (safeMono ?_ (safeInsert known))
    intro out h _
    cases out <;> trivial

theorem safeAttempt (companyId : String) (key : Option String) (compute : Compute)
    (held : Multiset CreditLedger) :
    Safe ledgerContract anyEnd (attempt companyId key compute) held := by
  unfold attempt
  split
  · split
    · exact safeWriteNext companyId _ compute held
    · refine safeBind (safeQuery (ledgerIgnores _) fun c frame i inv => ⟨held,inv,?_⟩)
      split
      · split
        · trivial
        · exact safeWriteNext companyId _ compute held
      · trivial
  · exact safeWriteNext companyId none compute held

theorem safeAppendLoop (companyId : String) (key : Option String) (compute : Compute) (attempts : Nat)
    (held : Multiset CreditLedger) :
    Safe ledgerContract anyEnd (appendLoop companyId key compute attempts) held := by
  induction attempts generalizing held with
  | zero => trivial
  | succ attempts ih =>
    refine safeHandle (safeMono ?_ (safeAttempt companyId key compute held))
    intro out h _
    cases out with
    | ok value => trivial
    | error error =>
      show Safe ledgerContract anyEnd (if isUniqueViolation error then _ else _) h
      split
      · exact ih h
      · trivial

theorem safeAppend (companyId : String) (input : CreditEntryInput) (held : Multiset CreditLedger) :
    Safe ledgerContract anyEnd (append companyId input) held := by
  unfold append
  split
  · trivial
  · exact safeAppendLoop ..

theorem safeApplyToFee (companyId : String) (feeAmount : Int) (reference : String)
    (held : Multiset CreditLedger) :
    Safe ledgerContract anyEnd (applyToFee companyId feeAmount reference) held := by
  unfold applyToFee
  split
  · trivial
  · refine safeBind (safeMono ?_ (safeAppendLoop companyId _ _ MAX_APPEND_ATTEMPTS held))
    intro out h _
    cases out with
    | error error => trivial
    | ok entry =>
      cases entry with
      | some row => trivial
      | none => exact safeBind (safeBind (safeLatest (fun _ _ _ => trivial) trivial))

theorem safeHandler (request : Request) : Safe ledgerContract anyEnd (handler request) 0 := by
  cases request with
  | append companyId input =>
    refine safeBind (safeMono ?_ (safeAppend companyId input 0))
    intro out h _
    cases out <;> trivial
  | applyToFee companyId feeAmount reference =>
    refine safeBind (safeMono ?_ (safeApplyToFee companyId feeAmount reference 0))
    intro out h _
    cases out <;> trivial
  | create companyId dto adminId =>
    refine safeBind (safeBind (safeQuery (ledgerIgnores _) fun c frame i inv => ⟨0,inv,?_⟩))
    split
    · dsimp only
      split
      · trivial
      · refine safeMono ?_ (safeAppend companyId _ 0)
        intro out h _
        cases out <;> trivial
    · trivial

end Contract

section Effects

def insertsRow (before after : World) : Prop := after.ledger.rows ≠ before.ledger.rows

def insertedIfEntry (changed : Prop) : Except Exception (Option CreditLedger) → Prop
  | .ok (some _) => True
  | .ok none => ¬ changed
  | .error _ => ¬ changed

def throwsUnchanged {α : Type} (changed : Prop) : Except Exception α → Prop
  | .ok _ => True
  | .error _ => ¬ changed

variable {changed : Prop}

theorem nothingInserted (s : World) : ¬ insertsRow s s := fun inserted => inserted rfl

theorem tracksLatest {companyId : String} {done : Prop → Except Exception (Option CreditLedger) → Prop}
    (outcome : ∀ out, done changed out) : Tracks insertsRow done (latest companyId) changed :=
  tracksQuery nothingInserted fun _ _ => outcome _

theorem tracksWriteNext (companyId : String) (key : Option String) (compute : Compute) (no : ¬ changed) :
    Tracks insertsRow insertedIfEntry (writeNext companyId key compute) changed := by
  refine tracksBind (tracksLatest fun out => ?_)
  cases out with
  | error error => exact no
  | ok seen =>
    show Tracks insertsRow insertedIfEntry _ changed
    split
    · exact no
    · exact no
    · exact tracksBind (tracksTransact nothingInserted (fun _ _ _ _ _ => trivial) (fun _ => no))

theorem tracksAttempt (companyId : String) (key : Option String) (compute : Compute) (no : ¬ changed) :
    Tracks insertsRow insertedIfEntry (attempt companyId key compute) changed := by
  unfold attempt
  split
  · split
    · exact tracksWriteNext companyId _ compute no
    · refine tracksBind (tracksQuery nothingInserted fun i s => ?_)
      split
      · split
        · trivial
        · exact tracksWriteNext companyId _ compute no
      · exact no
  · exact tracksWriteNext companyId none compute no

theorem tracksAppendLoop (companyId : String) (key : Option String) (compute : Compute) (attempts : Nat)
    (no : ¬ changed) : Tracks insertsRow insertedIfEntry (appendLoop companyId key compute attempts) changed := by
  induction attempts generalizing changed with
  | zero => exact no
  | succ attempts ih =>
    refine tracksHandle (tracksMono ?_ (tracksAttempt companyId key compute no))
    intro b out ended
    cases out with
    | ok entry => exact ended
    | error error =>
      show Tracks insertsRow insertedIfEntry (if isUniqueViolation error then _ else _) b
      split
      · exact ih ended
      · exact ended

theorem tracksAppend (companyId : String) (input : CreditEntryInput) (no : ¬ changed) :
    Tracks insertsRow insertedIfEntry (append companyId input) changed := by
  unfold append
  split
  · exact no
  · exact tracksAppendLoop companyId _ _ _ no

theorem tracksApplyToFee (companyId : String) (feeAmount : Int) (reference : String) (no : ¬ changed) :
    Tracks insertsRow throwsUnchanged (applyToFee companyId feeAmount reference) changed := by
  unfold applyToFee
  split
  · exact no
  · refine tracksBind (tracksMono ?_ (tracksAppendLoop companyId _ _ MAX_APPEND_ATTEMPTS no))
    intro b out ended
    match out, ended with
    | .error error, ended => exact ended
    | .ok (some row), _ => trivial
    | .ok none, ended =>
      refine tracksBind (tracksBind (tracksLatest fun out => ?_))
      cases out with
      | ok seen => trivial
      | error error => exact ended

theorem tracksEntryReply {p : Op (Option CreditLedger)}
    (tracks : Tracks insertsRow insertedIfEntry p changed) :
    Tracks insertsRow throwsUnchanged (p >>= fun entry => pure (Reply.entry entry)) changed := by
  refine tracksBind (tracksMono ?_ tracks)
  intro b out ended
  match out, ended with
  | .error error, ended => exact ended
  | .ok _, _ => trivial

theorem tracksHandler (request : Request) :
    Tracks insertsRow throwsUnchanged (handler request) False := by
  cases request with
  | append companyId input => exact tracksEntryReply (tracksAppend companyId input id)
  | applyToFee companyId feeAmount reference =>
    refine tracksBind (tracksMono ?_ (tracksApplyToFee companyId feeAmount reference id))
    intro b out ended
    cases out with
    | ok application => trivial
    | error error => exact ended
  | create companyId dto adminId =>
    refine tracksEntryReply (tracksBind (tracksQuery nothingInserted fun i s => ?_))
    split
    · dsimp only
      split
      · exact id
      · exact tracksAppend companyId _ id
    · exact id

end Effects

theorem ledgerConsistent (users : Table User) (moves : List (Move Request Empty Answer)) (companyId : String) :
    Consistent (rowsOf (service.run (Pool.initial ⟨users,Table.empty⟩) moves).world.ledger companyId) ∧
    ∀ k request error,
      (service.run (Pool.initial ⟨users,Table.empty⟩) moves).threads[k]? = some ⟨request,.raise error⟩ →
      ∀ e ∈ (service.run (Pool.initial ⟨users,Table.empty⟩) moves).history, e.thread = k →
        e.after.ledger.rows = e.before.ledger.rows := by
  constructor
  · have start : Secured ledgerContract (fun _ => anyEnd)
        (Pool.initial ⟨users,Table.empty⟩ : Pool Request Site Answer World Exception Reply) :=
      securedInitial ⟨fun _ => consistentNil,by simp⟩
    have secured : Secured ledgerContract (fun _ => anyEnd)
        (service.run (Pool.initial ⟨users,Table.empty⟩) moves) :=
      securedRun safeHandler (fun change => nomatch change) start moves (meetsAlways (fun _ _ => trivial) _)
    obtain ⟨shares,_,kept,_⟩ := secured
    exact kept companyId
  · intro k request error ended e inside mine
    obtain ⟨changed,unchanged,covers⟩ := trackedRaised tracksHandler _ moves ended
    by_contra inserted
    exact unchanged (covers e inside mine inserted)

end HireSettle.Billing
