import HireSettle.Billing.CreditLedgerRuns
import HireSettle.Workflow.Sequential

/-! A fee that is applied twice under one reference. The second application finds
what the first one left under the key of the reference; when the first consumed
nothing it left nothing. -/
namespace HireSettle.Billing
open Workflow

section Growth

def Grows (before after : World) : Prop :=
  before.ledger.rows <+: after.ledger.rows ∧
  ∀ row ∈ after.ledger.rows, row ∈ before.ledger.rows ∨ checks row = true

theorem growsStay (s : World) : Grows s s := ⟨List.prefix_refl _,fun _ inside => Or.inl inside⟩

theorem growsFollow {a b c : World} (first : Grows a b) (later : Grows b c) : Grows a c := by
  refine ⟨first.1.trans later.1,fun row inside => ?_⟩
  rcases later.2 row inside with old | ok
  · exact first.2 row old
  · exact Or.inr ok

theorem stepsInsert (row : CreditLedger) : Steps anySite Grows (insert row) := by
  refine stepsTransact rfl growsStay ?_
  intro i s value after ok
  split at ok <;> try contradiction
  split at ok <;> try contradiction
  rename_i valid
  split at ok <;> try contradiction
  split at ok <;> try contradiction
  rename_i ledger created
  cases ok
  have rows := (Table.createGet created).2.1
  refine ⟨⟨[row],rows.symm⟩,fun r inside => ?_⟩
  rw [rows] at inside
  rcases List.mem_append.mp inside with old | new
  · exact Or.inl old
  · rw [List.mem_singleton.mp new]
    exact Or.inr (by simpa using valid)

theorem stepsWriteNext (companyId : String) (key : Option String) (compute : Compute) :
    Steps anySite Grows (writeNext companyId key compute) := by
  refine stepsBind (stepsQuery rfl growsStay _) fun seen => ?_
  split
  · trivial
  · trivial
  · exact stepsBind (stepsInsert _) fun _ => trivial

theorem stepsAttempt (companyId : String) (key : Option String) (compute : Compute) :
    Steps anySite Grows (attempt companyId key compute) := by
  unfold attempt
  split
  · split
    · exact stepsWriteNext companyId _ compute
    · refine stepsBind (stepsQuery rfl growsStay _) fun found => ?_
      split
      · trivial
      · exact stepsWriteNext companyId _ compute
  · exact stepsWriteNext companyId none compute

theorem stepsAppendLoop (companyId : String) (key : Option String) (compute : Compute) (attempts : Nat) :
    Steps anySite Grows (appendLoop companyId key compute attempts) := by
  induction attempts with
  | zero => trivial
  | succ attempts ih =>
    refine stepsHandle (stepsAttempt companyId key compute) fun error => ?_
    split
    · exact ih
    · trivial

theorem stepsAppend (companyId : String) (input : CreditEntryInput) :
    Steps anySite Grows (append companyId input) := by
  unfold append
  split
  · trivial
  · exact stepsAppendLoop companyId _ _ _

theorem stepsApplyToFee (companyId : String) (feeAmount : Int) (reference : String) :
    Steps anySite Grows (applyToFee companyId feeAmount reference) := by
  unfold applyToFee
  split
  · trivial
  · refine stepsBind (stepsAppendLoop companyId _ _ _) fun entry => ?_
    cases entry with
    | some row => trivial
    | none => exact stepsBind (stepsBind (stepsQuery rfl growsStay _) fun _ => trivial) fun _ => trivial

theorem stepsHandler (request : Request) : Steps anySite Grows (handler request) := by
  cases request with
  | append companyId input => exact stepsBind (stepsAppend companyId input) fun _ => trivial
  | applyToFee companyId feeAmount reference =>
    exact stepsBind (stepsApplyToFee companyId feeAmount reference) fun _ => trivial
  | create companyId dto adminId =>
    refine stepsBind (stepsBind (stepsQuery rfl growsStay _) fun _ => ?_) (fun _ => trivial)
    dsimp only
    split
    · trivial
    · exact stepsAppend companyId _

theorem keyedRowStays {ledger ledger' : Table CreditLedger} (grown : ledger.rows <+: ledger'.rows)
    {companyId key : String} {row : CreditLedger} (found : keyedRow ledger companyId key = some row) :
    keyedRow ledger' companyId key = some row := by
  obtain ⟨more,rows⟩ := grown
  simp only [keyedRow,Table.findFirst] at found ⊢
  rw [← rows,List.find?_append,found,Option.some_or]

theorem keyedRowCreated {ledger ledger' : Table CreditLedger} {row : CreditLedger} {companyId key : String}
    (absent : keyedRow ledger companyId key = none) (created : ledger.create row = some ledger')
    (mine : row.companyId = companyId ∧ row.idempotencyKey = some key) :
    keyedRow ledger' companyId key = some row := by
  simp only [keyedRow,Table.findFirst] at absent ⊢
  rw [(Table.createGet created).2.1,List.find?_append,absent]
  simp [mine.1,mine.2]

end Growth

section Served

def FeeOutcome (companyId : String) (feeAmount : Int) (reference : String) (before after : Table CreditLedger)
    (entry : Option CreditLedger) : Prop :=
  match keyedRow before companyId (feeKey reference) with
  | some row => entry = some row ∧ after = before
  | none =>
      let applied := applicable (balanceOf (latestOf before companyId)) feeAmount
      if applied ≤ 0 then entry = none ∧ after = before
      else ∃ row, entry = some row ∧ row.amount = -applied ∧
        keyedRow after companyId (feeKey reference) = some row

theorem feeKeyNonempty (reference : String) : feeKey reference ≠ "" := by
  intro empty
  have length := congrArg String.length empty
  simp [feeKey,String.length_append] at length
  exact absurd length.1 (by decide)

variable (companyId : String) (feeAmount : Int) (reference : String)

def FeeDone (before : Table CreditLedger) (out : Except Exception (Option CreditLedger))
    (c : Snapshot Site Answer World) : Prop :=
  match out with
  | .ok entry => FeeOutcome companyId feeAmount reference before c.world.ledger entry
  | .error _ => c.world.ledger = before

theorem feeWriteNext (c : Snapshot Site Answer World)
    (absent : keyedRow c.world.ledger companyId (feeKey reference) = none) :
    Ends (FeeDone companyId feeAmount reference c.world.ledger)
      (writeNext companyId (some (feeKey reference)) (feeEntry feeAmount reference)) c := by
  refine ensuresBind (ensuresQuery fun thread i _ => ⟨trivial,?_⟩)
  by_cases fails : i.fails = true
  · simp [fails,FeeDone]
  · simp only [fails,Bool.false_eq_true,if_false,feeEntry]
    by_cases nothing : applicable (balanceOf (latestOf c.world.ledger companyId)) feeAmount ≤ 0
    · simp [nothing,Ensures,FeeDone,FeeOutcome,absent]
    · simp only [nothing,if_false]
      refine ensuresBind (ensuresTransact ?_ ?_)
      · intro thread i value after ok _
        split at ok <;> try contradiction
        split at ok <;> try contradiction
        split at ok <;> try contradiction
        split at ok <;> try contradiction
        rename_i ledger created
        cases ok
        refine ⟨trivial,?_⟩
        show FeeOutcome companyId feeAmount reference c.world.ledger ledger _
        simp only [FeeOutcome,absent,nothing,if_false]
        exact ⟨_,rfl,rfl,keyedRowCreated absent created ⟨rfl,rfl⟩⟩
      · intro thread i error _
        exact ⟨trivial,by simp [FeeDone]⟩

theorem feeAttempt (c : Snapshot Site Answer World) :
    Ends (FeeDone companyId feeAmount reference c.world.ledger)
      (attempt companyId (some (feeKey reference)) (feeEntry feeAmount reference)) c := by
  simp only [attempt,feeKeyNonempty,if_false]
  refine ensuresBind (ensuresQuery fun thread i _ => ⟨trivial,?_⟩)
  by_cases fails : i.fails = true
  · simp [fails,FeeDone]
  · simp only [fails,Bool.false_eq_true,if_false]
    cases found : keyedRow c.world.ledger companyId (feeKey reference) with
    | some row => simp [Ensures,FeeDone,FeeOutcome,found]
    | none => exact feeWriteNext companyId feeAmount reference (c.record thread .findByKey i c.world) found

theorem feeAppendLoop (attempts : Nat) (c : Snapshot Site Answer World) :
    Ends (FeeDone companyId feeAmount reference c.world.ledger)
      (appendLoop companyId (some (feeKey reference)) (feeEntry feeAmount reference) attempts) c := by
  induction attempts generalizing c with
  | zero => rfl
  | succ attempts ih =>
    refine ensuresHandle (ensuresMono ?_ (feeAttempt companyId feeAmount reference c))
    intro out c' ended
    cases out with
    | ok entry => exact ended
    | error error =>
      have same : c'.world.ledger = c.world.ledger := ended
      dsimp only
      split
      · exact same ▸ ih c'
      · exact ended

def FeeReported (before after : Table CreditLedger) (application : FeeCreditApplication) : Prop :=
  0 < feeAmount ∧ ∃ entry, FeeOutcome companyId feeAmount reference before after entry ∧
    application.creditApplied = creditApplied entry ∧ application.amountDue = feeAmount - creditApplied entry

theorem feeHandler (c : Snapshot Site Answer World) :
    Ends (fun out c' => ∀ application, out = .ok (.fee application) →
      FeeReported companyId feeAmount reference c.world.ledger c'.world.ledger application)
      (handler (.applyToFee companyId feeAmount reference)) c := by
  simp only [handler,applyToFee]
  split
  · intro application impossible
    cases impossible
  · rename_i positive
    refine ensuresBind (ensuresBind (ensuresMono ?_ (feeAppendLoop companyId feeAmount reference _ c)))
    intro out c' ended
    match out, ended with
    | .error error, _ =>
      intro application impossible
      cases impossible
    | .ok (some row), ended =>
      intro application same
      cases same
      exact ⟨by omega,some row,ended,rfl,rfl⟩
    | .ok none, ended =>
      refine ensuresBind (ensuresBind (ensuresQuery fun thread i _ => ⟨trivial,?_⟩))
      by_cases fails : i.fails = true
      · simp [fails]
      · simp only [fails,Bool.false_eq_true,if_false]
        intro application same
        cases same
        exact ⟨by omega,none,ended,rfl,rfl⟩

end Served

section Law

def SameFee (feeAmount : Int) (first second : FeeCreditApplication) : Prop :=
  first.creditApplied = second.creditApplied ∧ first.amountDue = second.amountDue ∧
  ∀ application ∈ [first,second], 0 ≤ application.creditApplied ∧ application.creditApplied ≤ feeAmount ∧
    application.creditApplied + application.amountDue = feeAmount

/-- A fee is settled by a row under its key, which must be a deduction of at most
the fee, or by credit it can consume. Otherwise there must be neither such a row
nor credit when it is applied again. -/
def FeeStable (companyId : String) (feeAmount : Int) (reference : String) (before later : Table CreditLedger) :
    Prop :=
  match keyedRow before companyId (feeKey reference) with
  | some row => -feeAmount ≤ row.amount ∧ row.amount ≤ 0
  | none => 0 < balanceOf (latestOf before companyId) ∨
      keyedRow later companyId (feeKey reference) = none ∧ balanceOf (latestOf later companyId) = 0

variable {companyId reference : String} {feeAmount : Int} {first second : FeeCreditApplication}
variable {before mid later final : Table CreditLedger}

theorem balanceCovered (companyId : String) (checked : ∀ row ∈ before.rows, checks row = true) :
    0 ≤ balanceOf (latestOf before companyId) := by
  cases found : latestOf before companyId with
  | none => exact le_refl _
  | some row =>
    have ok := checked row (memRowsOf.mp (latestMem found)).1
    simp only [checks,Bool.and_eq_true,decide_eq_true_eq] at ok
    exact ok.1.1.1.1.1.2

theorem keyedAmount (checked : ∀ row ∈ before.rows, checks row = true) {key : String} {row : CreditLedger}
    (found : keyedRow before companyId key = some row) : row.amount ≠ 0 := by
  have ok := checked row (List.mem_of_find?_eq_some found)
  simp only [checks,Bool.and_eq_true,decide_eq_true_eq] at ok
  simpa using ok.1.1.1.1.1.1

theorem keyedFee {row : CreditLedger} (found : keyedRow before companyId (feeKey reference) = some row)
    (reported : FeeReported companyId feeAmount reference before mid first) :
    first.creditApplied = -row.amount ∧ first.amountDue = feeAmount + row.amount ∧
      keyedRow mid companyId (feeKey reference) = some row := by
  obtain ⟨_,entry,outcome,applied,due⟩ := reported
  simp only [FeeOutcome,found] at outcome
  obtain ⟨rfl,rfl⟩ := outcome
  exact ⟨applied,by simpa [creditApplied] using due,found⟩

theorem freshFee (absent : keyedRow before companyId (feeKey reference) = none)
    (reported : FeeReported companyId feeAmount reference before mid first)
    (credit : 0 < balanceOf (latestOf before companyId)) :
    0 < first.creditApplied ∧ first.creditApplied ≤ feeAmount ∧
      first.amountDue = feeAmount - first.creditApplied ∧
      ∃ row, keyedRow mid companyId (feeKey reference) = some row ∧ row.amount = -first.creditApplied := by
  obtain ⟨positive,entry,outcome,applied,due⟩ := reported
  have consumes : 0 < applicable (balanceOf (latestOf before companyId)) feeAmount ∧
      applicable (balanceOf (latestOf before companyId)) feeAmount ≤ feeAmount := by
    unfold applicable
    split <;> omega
  simp only [FeeOutcome,absent,not_le.mpr consumes.1,if_false] at outcome
  obtain ⟨row,rfl,amount,there⟩ := outcome
  simp only [creditApplied,amount,neg_neg] at applied due
  exact ⟨by omega,by omega,by omega,row,there,by omega⟩

theorem emptyFee (absent : keyedRow before companyId (feeKey reference) = none)
    (reported : FeeReported companyId feeAmount reference before mid first)
    (credit : balanceOf (latestOf before companyId) = 0) :
    first.creditApplied = 0 ∧ first.amountDue = feeAmount := by
  obtain ⟨positive,entry,outcome,applied,due⟩ := reported
  have nothing : applicable (balanceOf (latestOf before companyId)) feeAmount ≤ 0 := by
    unfold applicable
    split <;> omega
  simp only [FeeOutcome,absent,nothing,if_true] at outcome
  obtain ⟨rfl,rfl⟩ := outcome
  exact ⟨applied,by simpa [creditApplied] using due⟩

theorem sameFeeIff (checked : ∀ row ∈ later.rows, checks row = true)
    (grown : before.rows <+: mid.rows) (grown' : mid.rows <+: later.rows)
    (one : FeeReported companyId feeAmount reference before mid first)
    (two : FeeReported companyId feeAmount reference later final second) :
    SameFee feeAmount first second ↔ FeeStable companyId feeAmount reference before later := by
  have checkedBefore : ∀ row ∈ before.rows, checks row = true :=
    fun row inside => checked row ((grown.trans grown').subset inside)
  simp only [SameFee,FeeStable,List.forall_mem_cons,List.not_mem_nil,false_implies,implies_true,and_true]
  cases found : keyedRow before companyId (feeKey reference) with
  | some row =>
    obtain ⟨applied,due,still⟩ := keyedFee found one
    obtain ⟨applied',due',_⟩ := keyedFee (keyedRowStays grown' still) two
    dsimp only
    omega
  | none =>
    dsimp only
    rcases (balanceCovered companyId checkedBefore).lt_or_eq with credit | broke
    · obtain ⟨positive,bound,due,row,there,amount⟩ := freshFee found one credit
      obtain ⟨applied',due',_⟩ := keyedFee (keyedRowStays grown' there) two
      simp only [credit,true_or,iff_true]
      omega
    · obtain ⟨applied,due⟩ := emptyFee found one broke.symm
      have positive := one.1
      simp only [← broke,lt_self_iff_false,false_or]
      cases found' : keyedRow later companyId (feeKey reference) with
      | some row =>
        obtain ⟨applied',_,_⟩ := keyedFee found' two
        have amount := keyedAmount checked found'
        simp only [reduceCtorEq,false_and,iff_false]
        omega
      | none =>
        rcases (balanceCovered companyId checked).lt_or_eq with credit | broke'
        · obtain ⟨consumed,_,_⟩ := freshFee found' two credit
          simp only [true_and]
          omega
        · obtain ⟨applied',due'⟩ := emptyFee found' two broke'.symm
          simp only [true_and]
          omega

end Law

section Runs

abbrev LedgerPool := Pool Request Site Answer World Exception Reply

abbrev LedgerMove := Move Request Empty Answer

theorem growsRun {pool : LedgerPool} (all : AllStep anySite Grows pool) (moves : List LedgerMove) :
    Grows pool.world (service.run pool moves).world ∧ AllStep anySite Grows (service.run pool moves) :=
  stepsRun growsStay growsFollow stepsHandler (fun change => nomatch change) all moves

theorem feeReported {pool : LedgerPool} {companyId reference : String} {feeAmount : Int} {answers : List Answer}
    {application : FeeCreditApplication}
    (returned : service.Returns pool (.applyToFee companyId feeAmount reference) answers (.fee application)) :
    FeeReported companyId feeAmount reference pool.world.ledger
      (service.serve pool (.applyToFee companyId feeAmount reference) answers).world.ledger application :=
  endsServe (feeHandler companyId feeAmount reference pool.snapshot) answers returned application rfl

theorem feeIdempotentIff (users : Table User) (history later : List LedgerMove) (companyId reference : String)
    (feeAmount : Int) (answers answers' : List Answer) (first second : FeeCreditApplication)
    {before between : LedgerPool} (reached : before = service.run (Pool.initial ⟨users,Table.empty⟩) history)
    (resumed : between =
      service.run (service.serve before (.applyToFee companyId feeAmount reference) answers) later)
    (returned : service.Returns before (.applyToFee companyId feeAmount reference) answers (.fee first))
    (again : service.Returns between (.applyToFee companyId feeAmount reference) answers' (.fee second)) :
    SameFee feeAmount first second ↔
      FeeStable companyId feeAmount reference before.world.ledger between.world.ledger := by
  subst reached
  subst resumed
  have none : AllStep anySite Grows (Pool.initial ⟨users,Table.empty⟩ : LedgerPool) := fun t inside => by cases inside
  obtain ⟨built,all⟩ := growsRun none history
  obtain ⟨served,all'⟩ := growsRun all (.start (.applyToFee companyId feeAmount reference) ::
    answers.map (.answer (service.run (Pool.initial ⟨users,Table.empty⟩) history).threads.length))
  obtain ⟨grown,_⟩ := growsRun all' later
  have checked := (growsFollow (growsFollow built served) grown).2
  refine sameFeeIff (fun row inside => ?_) served.1 grown.1 (feeReported returned) (feeReported again)
  rcases checked row inside with old | ok
  · cases old
  · exact ok

def oneCompany : Table User := ⟨[{ id := "acme" }],by decide⟩

def purchase : CreateCreditEntryDto :=
  { type := .purchase
    typeAllowed := by decide
    amount := 500
    amountMatches := by decide
    description := "top-up"
    descriptionFits := by decide
    reference := none
    referenceFits := by simp
    idempotencyKey := none
    idempotencyKeyFits := by simp }

def deducted (sequence : Nat) : CreditLedger :=
  { companyId := "acme"
    sequence := sequence
    type := .feeDeduction
    amount := -300
    balanceAfter := 200
    description := some "Applied to platform fee r"
    reference := some "r"
    idempotencyKey := some "fee:r"
    createdById := none }

theorem feeAfterPurchase :
    SameFee 300 ⟨300,300,0,200,some (deducted 2)⟩ ⟨300,300,0,200,some (deducted 2)⟩ ↔
      FeeStable "acme" 300 "r"
        (service.run (Pool.initial ⟨oneCompany,Table.empty⟩)
          (.start (.create "acme" purchase "root") :: [{},{},{}].map (.answer 0))).world.ledger
        (service.run (service.serve (service.run (Pool.initial ⟨oneCompany,Table.empty⟩)
          (.start (.create "acme" purchase "root") :: [{},{},{}].map (.answer 0)))
            (.applyToFee "acme" 300 "r") [{},{},{}]) []).world.ledger :=
  feeIdempotentIff oneCompany (.start (.create "acme" purchase "root") :: [{},{},{}].map (.answer 0)) []
    "acme" "r" 300 [{},{},{}] [{}] _ _ rfl rfl rfl rfl

theorem feeBeforePurchase :
    service.Returns (service.run (Pool.initial ⟨oneCompany,Table.empty⟩) [])
      (.applyToFee "acme" 300 "r") [{},{},{}] (.fee ⟨300,0,300,0,none⟩) ∧
    service.Returns
      (service.run
        (service.serve (service.run (Pool.initial ⟨oneCompany,Table.empty⟩) [])
          (.applyToFee "acme" 300 "r") [{},{},{}])
        (.start (.create "acme" purchase "root") :: [{},{},{}].map (.answer 1)))
      (.applyToFee "acme" 300 "r") [{},{},{}] (.fee ⟨300,300,0,200,some (deducted 2)⟩) ∧
    ¬ SameFee 300 ⟨300,0,300,0,none⟩ ⟨300,300,0,200,some (deducted 2)⟩ :=
  ⟨rfl,rfl,fun same => absurd same.1 (by decide)⟩

end Runs

end HireSettle.Billing
