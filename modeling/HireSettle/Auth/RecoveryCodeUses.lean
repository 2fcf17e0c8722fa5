import HireSettle.Auth.RecoveryCodes
import HireSettle.Workflow.Turns

/-! How often a recovery code is accepted. Two logins that have both found a code unused
both mark it and are both let in. A code of a set that has been replaced is gone, and the
marking of a login that has found it before fails. -/
namespace HireSettle.Auth.TwoFactorService.Uses
open Workflow

variable (config : Config)

abbrev CodeEvent := Event Site Answer World

abbrev CodePool := Pool Request Site Answer World Exception Reply

/-- The event marks a code that is there. -/
def marks (id : String) (e : CodeEvent) : Bool :=
  e.site = .markCode id && !e.answer.fails && (e.before.recoveryCodes.get? id).isSome

/-- The event replaces the set that the code belongs to. -/
def replaces (id : String) (e : CodeEvent) : Bool :=
  (e.before.recoveryCodes.get? id).isSome && (e.after.recoveryCodes.get? id).isNone

/-- The call was let in by the code, in its last step. -/
def LetIn (pool : CodePool) (k : Nat) (id : String) (e : CodeEvent) : Prop :=
  (∃ request, pool.threads[k]? = some ⟨request,.ret (.consumed true)⟩) ∧ (pool.own k).head? = some e ∧ marks id e = true

structure SingleUse (pool : CodePool) : Prop where
  stored : ∀ (k : Nat) request, pool.threads[k]? = some ⟨request,.ret (.consumed true)⟩ → ∃ id e, LetIn pool k id e
  once : ∀ k k' id e e', LetIn pool k id e → LetIn pool k' id e' → k = k'
  replaced : AllMeet (fun earlier e => ∀ k id, LetIn pool k id e → ∀ d ∈ earlier, replaces id d = false) pool.history

/-- Whatever codes are stored, the calls do the same with both inputs. -/
def SameCode (userId rawCode rawCode' : String) : Prop :=
  ∀ (respond : Site → Answer) (w : World),
    (consumeRecoveryCode config userId rawCode).interpret respond w = (consumeRecoveryCode config userId rawCode').interpret respond w

/-- A code that is marked is still unused. -/
def Timely (e : CodeEvent) : Prop :=
  e.answer.fails = false → match e.site with
    | .markCode id => ∀ row ∈ e.before.recoveryCodes.get? id, row.usedAt = none
    | _ => True

instance (e : CodeEvent) : Decidable (Timely e) := by
  unfold Timely
  refine @instDecidableForall _ _ _ ?_
  split <;> infer_instance

section Steps

variable {w w' w'' : World}

/-- No id is forgotten, no code comes back, and once used it stays so. -/
structure Follows (w w' : World) : Prop where
  issued : ∀ id ∈ w.recoveryCodes.issued, id ∈ w'.recoveryCodes.issued
  rows : ∀ id ∈ w.recoveryCodes.issued, ∀ row', w'.recoveryCodes.get? id = some row' →
    ∃ row, w.recoveryCodes.get? id = some row ∧ (row.usedAt.isSome = true → row'.usedAt.isSome = true)

theorem followsRefl (w : World) : Follows w w := ⟨fun _ there => there,fun _ _ row found => ⟨row,found,fun its => its⟩⟩

theorem followsTrans (first : Follows w w') (second : Follows w' w'') : Follows w w'' := by
  refine ⟨fun id there => second.issued id (first.issued id there),fun id there row'' found'' => ?_⟩
  obtain ⟨row',found',used'⟩ := second.rows id (first.issued id there) row'' found''
  obtain ⟨row,found,used⟩ := first.rows id there row' found'
  exact ⟨row,found,fun its => used' (used its)⟩

theorem followsContinues (continues : w.recoveryCodes.Continues w'.recoveryCodes) : Follows w w' :=
  ⟨continues.issued,fun id there row found => ⟨row,continues.rows id there row found,fun its => its⟩⟩

theorem continuesCreateMany {codes codes' : IssuedTable RecoveryCode} {rows : List RecoveryCode}
    (created : createMany codes rows = .ok codes') : codes.Continues codes' := by
  induction rows generalizing codes with
  | nil =>
    cases created
    exact IssuedTable.continuesRefl _
  | cons row rest ih =>
    simp only [createMany] at created
    split at created
    · cases created
    · rename_i next made
      exact IssuedTable.continuesTrans (IssuedTable.issuedCreate made).1 (ih created)

theorem followsReplaced {userId : String} {codes : List String} {i : Answer} {value : Unit}
    (committed : (do
      let kept := w.recoveryCodes.deleteMany fun row => row.userId = userId
      let recoveryCodes ← createMany kept (codes.zipIdx.map fun (code,n) =>
        { id := i.ids n, userId := userId, codeHash := config.sha256 code })
      return ((),{ w with recoveryCodes := recoveryCodes }) : Except Exception (Unit × World)) = .ok (value,w')) : Follows w w' := by
  obtain ⟨codes',created,same⟩ := exceptBind.mp committed
  cases same
  exact followsContinues (IssuedTable.continuesTrans (IssuedTable.continuesDeleteMany _ _) (continuesCreateMany created))

theorem followsMarked (id : String) (f : RecoveryCode → RecoveryCode) (keeps : ∀ row, (f row).id = row.id)
    (used : ∀ row, row.usedAt.isSome = true → (f row).usedAt.isSome = true) :
    Follows w { w with recoveryCodes := w.recoveryCodes.update id f keeps } := by
  refine ⟨fun _ there => there,fun other _ row' found' => ?_⟩
  have rows : (w.recoveryCodes.toTable.update id f keeps).get? other = some row' := found'
  by_cases same : other = id
  · subst same
    cases found : w.recoveryCodes.get? other with
    | none => simp [found] at rows
    | some row =>
      cases (Table.getUpdateSelf found f keeps).symm.trans rows
      exact ⟨row,rfl,used row⟩
  · rw [Table.getUpdateOther _ same] at rows
    exact ⟨row',rows,fun its => its⟩

end Steps

section Calls

variable {own : List CodeEvent} {α : Type}

/-- What is known of each call: codes stay or go, and a marked one is used. -/
def Calls (_ : List CodeEvent) (e : CodeEvent) : Prop :=
  Follows e.before e.after ∧ ∀ id, marks id e = true → (e.after.recoveryCodes.get? id).any (·.usedAt.isSome) = true

def Ended (own : List CodeEvent) : Except Exception Reply → Prop
  | .ok (.consumed true) => ∃ id e, own.head? = some e ∧ marks id e = true
  | _ => True

/-- A call that marks no code. -/
def Other (site : Site) (w w' : World) : Prop :=
  match site with
  | .markCode _ => False
  | _ => Follows w w'

theorem otherQuery {site : Site} (f : Answer → World → Except Exception α) (stays : ∀ w, Other site w w := by exact followsRefl) :
    Acts Other (Process.query site f) := actsQuery stays f

theorem guardedOther {p : Op α} (acts : Acts Other p) : Guarded Calls anyOutcome p own := by
  refine guardedAny (guardedActs (fun _ e _ other => ?_) acts)
  unfold Other at other
  split at other
  · exact other.elim
  · rename_i unmarked
    refine ⟨other,fun id its => ?_⟩
    simp only [marks,Bool.and_eq_true,decide_eq_true_eq] at its
    exact (unmarked id its.1.1).elim

theorem otherCreate (userId : String) : Acts Other (createRecoveryCodes config userId) := by
  refine actsBind (actsFoldEach (fun codes _ => ?_) _ _) fun codes => actsBind ?_ fun _ => trivial
  · exact actsBind (otherQuery _) fun first => actsBind (otherQuery _) fun second => trivial
  · refine actsTransact (by exact followsRefl) fun i w value w' committed => ?_
    split at committed
    · cases committed
    · exact followsReplaced config committed

theorem otherRegenerate (userId totpCode : String) : Acts Other (regenerateRecoveryCodes config userId totpCode) := by
  refine actsBind (otherQuery _) fun found => ?_
  obtain ⟨user,now⟩ := found
  cases user with
  | none => trivial
  | some user =>
    dsimp only
    split
    · trivial
    · split
      · trivial
      · exact otherCreate config userId

theorem guardedMark (id : String) :
    Guarded Calls (fun own' out => out = .ok () → ∃ e, own'.head? = some e ∧ marks id e = true) (markCode id) own := by
  refine guardedTransact (fun thread i w value w' committed => ?_) fun thread i w error thrown => ?_
  · split at committed
    · cases committed
    · rename_i works
      dsimp only at committed
      split at committed
      · cases committed
      · rename_i row found
        cases committed
        refine ⟨⟨followsMarked id (fun row => { row with usedAt := some w.clock }) (fun _ => rfl) fun _ _ => rfl,fun other its => ?_⟩,fun _ => ⟨_,rfl,by simp [marks,works,found]⟩⟩
        simp only [marks,Bool.and_eq_true,decide_eq_true_eq] at its
        cases its.1.1
        have marked : (w.recoveryCodes.toTable.update id (fun row => { row with usedAt := some w.clock }) fun _ => rfl).get? id =
            some { row with usedAt := some w.clock } := Table.getUpdateSelf found _ _
        exact (Option.any_eq_true _ _).mpr ⟨_,marked,rfl⟩
  · refine ⟨⟨followsRefl w,fun other its => ?_⟩,fun same => by cases same⟩
    simp only [marks,Bool.and_eq_true,decide_eq_true_eq,Bool.not_eq_true'] at its
    cases its.1.1
    simp only [its.1.2,Bool.false_eq_true,if_false] at thrown
    split at thrown
    · rename_i absent
      simp [absent] at its
    · cases thrown

theorem guardedHandler (request : Request) : Guarded Calls Ended (handler config request) [] := by
  cases request with
  | regenerateRecoveryCodes userId totpCode =>
    refine guardedBind (guardedMono (fun own out _ => ?_) (guardedOther (otherRegenerate config userId totpCode)))
    cases out <;> trivial
  | consumeRecoveryCode userId rawCode =>
    refine guardedBind (guardedBind (guardedMono (fun own out _ => ?_) (guardedOther (otherQuery _))))
    cases out with
    | error error => trivial
    | ok record =>
      cases record with
      | none => trivial
      | some record =>
        refine guardedBind (guardedMono (fun own out marked => ?_) (guardedMark record.id))
        cases out with
        | error error => trivial
        | ok _ =>
          obtain ⟨e,newest,its⟩ := marked rfl
          exact ⟨record.id,e,newest,its⟩

end Calls

section Runs

variable {c : Snapshot Site Answer World}

theorem advancesRun (world : World) (moves : List (Move Request Nat Answer)) :
    GuardedEnds (fun _ => Calls) (fun _ => Ended) (Advances Follows) ((service config).run (Pool.initial world) moves) := by
  refine guardedRun (P := fun _ _ _ => True) (fun request c thread site i w' advances calls _ => ?_) (fun elapsed c advances => ?_)
    (guardedHandler config) (guardedInitial advancesInitial) moves (meetsAlways (fun _ _ _ _ => trivial) _)
  · exact advancesRecord followsRefl followsTrans calls.1 advances
  · refine ⟨fun recent e older same calm => ?_,advances.found⟩
    have before := advances.since recent e older same calm
    exact ⟨before.issued,before.rows⟩

/-- The code is used or gone. -/
structure Spent (id : String) (w : World) : Prop where
  issued : id ∈ w.recoveryCodes.issued
  used : ∀ row, w.recoveryCodes.get? id = some row → row.usedAt.isSome = true

theorem issuedFound {w : World} {id : String} {row : RecoveryCode} (found : w.recoveryCodes.get? id = some row) :
    id ∈ w.recoveryCodes.issued := Table.getKey found ▸ w.recoveryCodes.known row (Table.getMem found)

theorem spentFollows {w w' : World} {id : String} (follows : Follows w w') (spent : Spent id w) : Spent id w' := by
  refine ⟨follows.issued id spent.issued,fun row' found' => ?_⟩
  obtain ⟨row,found,used⟩ := follows.rows id spent.issued row' found'
  exact used (spent.used row found)

theorem callsAt {pool : CodePool} (guarded : GuardedEnds (fun _ => Calls) (fun _ => Ended) (Advances Follows) pool) {e : CodeEvent}
    (inside : e ∈ pool.history) : Calls [] e := by
  obtain ⟨earlier,_,its⟩ := meetsAt guarded.seen inside
  exact its _ (List.getElem?_eq_getElem (guarded.known e inside))

theorem markedOnce {pool : CodePool} (guarded : GuardedEnds (fun _ => Calls) (fun _ => Ended) (Advances Follows) pool)
    (timely : ∀ e ∈ pool.history, Timely e) (id : String) : pool.history.countP (marks id) ≤ 1 := by
  have stays : ∀ w w', Follows w w' → Spent id w → Spent id w' := fun _ _ => spentFollows
  refine spentOnce (advancesMono stays guarded.holds) fun e inside its => ?_
  obtain ⟨follows,used⟩ := callsAt guarded inside
  have after := (Option.any_eq_true _ _).mp (used id its)
  simp only [marks,Bool.and_eq_true,decide_eq_true_eq,Bool.not_eq_true'] at its
  obtain ⟨row,found⟩ := Option.isSome_iff_exists.mp its.2
  have fresh := timely e inside its.1.2
  rw [its.1.1] at fresh
  have unused : row.usedAt = none := fresh row found
  refine ⟨fun spent : Spent id e.before => ?_,⟨follows.issued id (issuedFound found),fun row' found' => ?_⟩⟩
  · have contrary := spent.used row found
    simp [unused] at contrary
  · obtain ⟨marked,there,its'⟩ := after
    cases there.symm.trans found'
    exact its'

/-- A code that is gone does not come back. -/
theorem neverReplaced {pool : CodePool} (guarded : GuardedEnds (fun _ => Calls) (fun _ => Ended) (Advances Follows) pool)
    {earlier : List CodeEvent} {e d : CodeEvent} (suffix : e :: earlier <:+ pool.history) (inside : d ∈ earlier) {id : String}
    (its : marks id e = true) : replaces id d = false := by
  by_contra replaced
  simp only [replaces,Bool.not_eq_false,Bool.and_eq_true] at replaced
  simp only [marks,Bool.and_eq_true] at its
  have between : Follows d.after e.before := meetsIff.mp guarded.holds.found earlier e suffix d inside
  have mine : Follows d.before d.after := (callsAt guarded (suffix.subset (List.mem_cons_of_mem _ inside))).1
  obtain ⟨old,there⟩ := Option.isSome_iff_exists.mp replaced.1
  obtain ⟨row,found⟩ := Option.isSome_iff_exists.mp its.2
  obtain ⟨row',found',_⟩ := between.rows id (mine.issued id (issuedFound there)) row found
  simp [found'] at replaced

theorem singleUse {pool : CodePool} (guarded : GuardedEnds (fun _ => Calls) (fun _ => Ended) (Advances Follows) pool)
    (timely : ∀ e ∈ pool.history, Timely e) : SingleUse pool := by
  have own : ∀ {k : Nat} {id : String} {e : CodeEvent}, LetIn pool k id e → e ∈ pool.history ∧ e.thread = k := fun letIn => by
    obtain ⟨inside,thread⟩ := List.mem_filter.mp (List.mem_of_mem_head? letIn.2.1)
    exact ⟨inside,of_decide_eq_true thread⟩
  refine ⟨fun k request ended => ?_,fun k k' id e e' first second => ?_,meetsIff.mpr fun earlier e suffix k id letIn d inside => ?_⟩
  · obtain ⟨id,e,newest,its⟩ := guardedReturned guarded ended
    exact ⟨id,e,⟨request,ended⟩,newest,its⟩
  · have same := onceSame (markedOnce guarded timely id) (own first).1 (own second).1 first.2.2 second.2.2
    rw [← (own first).2,← (own second).2,same]
  · exact neverReplaced guarded suffix inside letIn.2.2

end Runs

section Inputs

variable {userId rawCode rawCode' : String}

/-- A user with one unused code. -/
def holding (userId codeHash : String) : World where
  recoveryCodes :=
    { rows := [{ id := "c", userId := userId, codeHash := codeHash }]
      unique := by simp
      issued := ["c"]
      known := by simp [Keyed.key] }

theorem consumedHolding (codeHash : String) :
    ((consumeRecoveryCode config userId rawCode).interpret (fun _ => {}) (holding userId codeHash)).1 =
      .ok (decide (codeHash = config.sha256 (normalise config rawCode))) := by
  simp only [consumeRecoveryCode,interpretBind,find,interpretQuery,holding,Table.findFirst,List.find?,unusedCode]
  by_cases same : codeHash = config.sha256 (normalise config rawCode)
  · simp [same,markCode,write,Process.applied,Table.get?,Keyed.key,interpretBind]
    rfl
  · simp [same]

theorem sameCodeIff (hashes : Function.Injective config.sha256) :
    SameCode config userId rawCode rawCode' ↔ normalise config rawCode = normalise config rawCode' := by
  constructor
  · intro same
    have accepted := congrArg Prod.fst (same (fun _ => {}) (holding userId (config.sha256 (normalise config rawCode))))
    rw [consumedHolding,consumedHolding] at accepted
    exact hashes (by simpa using accepted)
  · intro same respond w
    rw [consumeRecoveryCode,consumeRecoveryCode,same]

end Inputs

theorem codeSingleUse (hashes : Function.Injective config.sha256) (world : World) (moves : List (Move Request Nat Answer))
    (timely : ∀ e ∈ ((service config).run (Pool.initial world) moves).history, Timely e) :
    SingleUse ((service config).run (Pool.initial world) moves) ∧
    ∀ userId rawCode rawCode', SameCode config userId rawCode rawCode' ↔ normalise config rawCode = normalise config rawCode' :=
  ⟨singleUse (advancesRun config world moves) timely,fun _ _ _ => sameCodeIff config hashes⟩

-- a hash that keeps the text
def plain : Config where
  sha256 := id
  toUpperCase := String.toUpper
  verifyTotpCode := fun _ code _ => code = "123456"

def consumed (thread : Nat) (calls : Nat) : List (Move Request Nat Answer) := (List.replicate calls {}).map (.answer thread)

def usedTwice : List (Move Request Nat Answer) := List.flatten
  [[.start (.consumeRecoveryCode "u" "A-B")],consumed 0 2,[.start (.consumeRecoveryCode "u" "A-B")],consumed 1 1]

-- both logins have found the code before either marks it
def usedAtOnce : List (Move Request Nat Answer) := List.flatten
  [[.start (.consumeRecoveryCode "u" "A-B"),.start (.consumeRecoveryCode "u" "A-B")],consumed 0 1,consumed 1 1,consumed 0 1,consumed 1 1]

theorem codeUsedOnce :
    (∀ e ∈ ((service plain).run (Pool.initial (holding "u" "A-B")) usedTwice).history, Timely e) ∧
    SingleUse ((service plain).run (Pool.initial (holding "u" "A-B")) usedTwice) := by
  have timely : ∀ e ∈ ((service plain).run (Pool.initial (holding "u" "A-B")) usedTwice).history, Timely e := by decide +kernel
  exact ⟨timely,(codeSingleUse plain (fun _ _ same => same) (holding "u" "A-B") usedTwice timely).1⟩

theorem codeUsedTwice : ¬ SingleUse ((service plain).run (Pool.initial (holding "u" "A-B")) usedAtOnce) := by
  intro single
  have first : ((service plain).run (Pool.initial (holding "u" "A-B")) usedAtOnce).threads[0]? =
      some ⟨.consumeRecoveryCode "u" "A-B",.ret (.consumed true)⟩ := endedEq (by decide +kernel)
  have second : ((service plain).run (Pool.initial (holding "u" "A-B")) usedAtOnce).threads[1]? =
      some ⟨.consumeRecoveryCode "u" "A-B",.ret (.consumed true)⟩ := endedEq (by decide +kernel)
  have marked : ∀ k < 2, (((service plain).run (Pool.initial (holding "u" "A-B")) usedAtOnce).own k).head?.any (marks "c") = true := by
    decide +kernel
  obtain ⟨e,newest,its⟩ := (Option.any_eq_true _ _).mp (marked 0 (by decide))
  obtain ⟨e',newest',its'⟩ := (Option.any_eq_true _ _).mp (marked 1 (by decide))
  exact absurd (single.once 0 1 "c" e e' ⟨⟨_,first⟩,newest,its⟩ ⟨⟨_,second⟩,newest',its'⟩) (by decide)

end HireSettle.Auth.TwoFactorService.Uses
