import HireSettle.Multisig.PendingTransactions

/-! What is submitted in any interleaving of registrations, pending transactions and
signatures: a threshold of signers who have really signed, and a transaction only
once. -/
namespace HireSettle.Multisig
open Workflow

abbrev SignerEvent := Event Site Reply World

abbrev SignerMove := Move Request Empty Reply

variable (self : Config)

/-- Whether an envelope contains a signature of a key. -/
def genuine (publicKey signedXdr : String) : Bool :=
  match self.extractSignatures signedXdr with
  | .ok signatures => signatures.any (self.madeBy publicKey)
  | .error _ => false

/-- The registered signers who have signed. -/
def signed (w : World) (tx : MultisigPendingTransaction) : List CompanyEscrowSigner :=
  w.signers.findMany fun s => s.signerSetId = tx.signerSetId &&
    (w.signatures.get? (tx.id,s.id)).any fun row => genuine self s.publicKey row.signedXdr

/-- The pending transaction that a call sends to the chain. -/
def Site.submits : Site → Option String
  | .submitMultisigTransaction id _ _ => some id
  | _ => none

/-- The pending transaction that a call sends to the chain or marks afterwards. -/
def Site.settles : Site → Option String
  | .submitMultisigTransaction id _ _ | .markSubmitted id | .markFailed id => some id
  | _ => none

def Honoured (e : SignerEvent) : Prop :=
  ∀ id ∈ e.site.submits, ∀ tx ∈ e.before.pendingTxs.get? id, ∀ set ∈ e.before.signerSets.get? tx.signerSetId,
    set.threshold ≤ (signed self e.before tx).length

def Final (e : SignerEvent) : Prop :=
  ∀ tx ∈ e.before.pendingTxs.rows, tx.status = .submitted →
    e.site.submits ≠ some tx.id ∧ e.after.pendingTxs.get? tx.id = some tx

/-- A signature is recorded for the signer who has made it. -/
def Genuine (request : Request) (e : SignerEvent) : Prop :=
  match request,e.site with
  | .submitSignature _ publicKey signedXdr, .upsertSignature _ _ _ => genuine self publicKey signedXdr = true
  | _, _ => True

/-- The signer set that is registered anew. -/
def registered (e : SignerEvent) : Option String :=
  match e.site with
  | .upsertSignerSet companyId escrowAccountId =>
      if e.answer.fails then none else (setOf companyId escrowAccountId e.before).map CompanyEscrowSignerSet.id
  | _ => none

def reads (thread : Nat) (id : String) (e : SignerEvent) : Bool := e.thread = thread && e.site = .findPendingTransaction id

def counts (thread : Nat) (id : String) (e : SignerEvent) : Bool := e.thread = thread && e.site = .findSignatures id

/-- The signer set has not been registered since a submission counted its signatures,
and its threshold is no higher than the one that was read. -/
def Steady (earlier : List SignerEvent) (e : SignerEvent) : Prop :=
  ∀ id ∈ e.site.submits, ∀ tx ∈ e.before.pendingTxs.get? id, ∀ set ∈ e.before.signerSets.get? tx.signerSetId,
    (∀ e' ∈ earlier.takeWhile fun e' => !counts e.thread id e', registered e' ≠ some set.id) ∧
    ∀ read ∈ earlier.find? (reads e.thread id), ∀ old ∈ read.before.signerSets.get? set.id, set.threshold ≤ old.threshold

/-- No call has marked the transaction as submitted since this one read it. -/
def Alone (earlier : List SignerEvent) (e : SignerEvent) : Prop :=
  ∀ id ∈ e.site.settles, ∀ e' ∈ earlier.takeWhile fun e' => !reads e.thread id e',
    e'.site ≠ .markSubmitted id ∨ e'.answer.fails = true

instance (e : SignerEvent) : Decidable (Honoured self e) := by unfold Honoured; infer_instance

instance (e : SignerEvent) : Decidable (Genuine self request e) := by unfold Genuine; split <;> infer_instance

instance (earlier : List SignerEvent) (e : SignerEvent) : Decidable (Steady earlier e) := by unfold Steady; infer_instance

instance (earlier : List SignerEvent) (e : SignerEvent) : Decidable (Alone earlier e) := by unfold Alone; infer_instance

instance (e : SignerEvent) : Decidable (Final e) := by unfold Final; infer_instance

/-- Every recorded signature is one of a registered signer. -/
def Recorded (w : World) : Prop :=
  ∀ row ∈ w.signatures.rows, ∃ tx s, w.pendingTxs.get? row.pendingTxId = some tx ∧ w.signers.get? row.signerId = some s ∧
    s.signerSetId = tx.signerSetId ∧ genuine self s.publicKey row.signedXdr = true

section Steps

variable {self} {request : Request} {own : List SignerEvent} {e : SignerEvent}

/-- What a call has read of its pending transaction. -/
structure Read (own : List SignerEvent) (id : String) (read : SignerEvent) (tx : MultisigPendingTransaction) : Prop where
  found : own.find? (fun e => e.site = .findPendingTransaction id) = some read
  same : read.after = read.before
  row : read.before.pendingTxs.get? id = some tx
  unsubmitted : tx.status ≠ .submitted

/-- A registration: signers go with their signatures, the others stay. -/
structure Registers (e : SignerEvent) (setId : Option String) : Prop where
  pendingTxs : e.after.pendingTxs = e.before.pendingTxs
  continues : e.before.signers.Continues e.after.signers
  signers : ∀ id s, e.before.signers.get? id = some s → some s.signerSetId ≠ setId → e.after.signers.get? id = some s
  signatures : ∀ k row, e.after.signatures.get? k = some row ↔ e.before.signatures.get? k = some row ∧
    ∀ s, e.before.signers.get? row.signerId = some s → some s.signerSetId ≠ setId

def Writes (request : Request) (own : List SignerEvent) (e : SignerEvent) : Prop :=
  match e.site with
  | .upsertSignerSet _ _ => Registers e (registered e)
  | .createPendingTransaction _ => ∃ tx pendingTxs, tx.status = .pending ∧ e.before.pendingTxs.create tx = some pendingTxs ∧
      e.after = { e.before with pendingTxs := pendingTxs }
  | .upsertSignature id signerId signedXdr => ∃ read tx s, Read own id read tx ∧ read.before.signers.get? signerId = some s ∧
      s.signerSetId = tx.signerSetId ∧ request = .submitSignature id s.publicKey signedXdr ∧ (e.before.signers.get? signerId).isSome ∧
      e.after = { e.before with
        signatures := e.before.signatures.upsert { pendingTxId := id, signerId := signerId, signedXdr := signedXdr }
          (fun row => { row with signedXdr := signedXdr }) (signedKey signedXdr) }
  | .markSubmitted id | .markFailed id => e.answer.fails = false ∧ (∃ read tx, Read own id read tx) ∧ ∃ f : MultisigPendingTransaction → MultisigPendingTransaction,
      ∃ keeps : ∀ tx, Keyed.key (f tx) = Keyed.key tx, (∀ tx, (f tx).signerSetId = tx.signerSetId) ∧
        (e.site = .markFailed id → ∀ tx, (f tx).status ≠ .submitted) ∧
        e.after = { e.before with pendingTxs := e.before.pendingTxs.update id f keeps }
  | _ => False

structure Guard (request : Request) (own : List SignerEvent) (e : SignerEvent) : Prop where
  writes : e.after = e.before ∨ Writes request own e
  counted : ∀ id ∈ e.site.submits, ∃ read tx set counted, Read own id read tx ∧ read.before.signerSets.get? tx.signerSetId = some set ∧
    own.find? (fun e => e.site = .findSignatures id) = some counted ∧ counted.after = counted.before ∧
    set.threshold ≤ (signaturesOf id counted.before).length

theorem guardSame (same : e.after = e.before) (plain : e.site.submits = none) : Guard request own e :=
  ⟨Or.inl same,by simp [plain]⟩

theorem guardWrites (writes : Writes request own e) (plain : e.site.submits = none) : Guard request own e :=
  ⟨Or.inr writes,by simp [plain]⟩

theorem createSignersIssued {setId : String} {dtos : List SignerDto} {ids : List String} {t t' : IssuedTable CompanyEscrowSigner}
    (made : createSigners setId dtos ids t = some t') :
    t.Continues t' ∧ ∀ k old, t.get? k = some old → t'.get? k = some old := by
  induction dtos generalizing ids t with
  | nil =>
    cases made
    exact ⟨IssuedTable.continuesRefl _,fun _ _ found => found⟩
  | cons dto rest ih =>
    cases ids with
    | nil => cases made
    | cons id ids =>
      simp only [createSigners] at made
      split at made
      · cases made
      · obtain ⟨next,created,made⟩ := Option.bind_eq_some_iff.mp made
        have first := IssuedTable.issuedCreate created
        have others := ih made
        exact ⟨IssuedTable.continuesTrans first.1 others.1,fun k old found => others.2 k old (first.2 k old found)⟩

theorem registersUpsert {thread : Nat} {companyId : String} {dto : RegisterSignerSetDto} {reply : Reply} {w w' : World}
    {response : Response} (ok : upsertSignerSet companyId dto reply w = .ok (response,w')) :
    Registers ⟨thread,.upsertSignerSet companyId dto.escrowAccountId,reply,w,w'⟩
      (registered ⟨thread,.upsertSignerSet companyId dto.escrowAccountId,reply,w,w'⟩) := by
  unfold upsertSignerSet at ok
  split at ok
  · cases ok
  · rename_i fine
    dsimp only at ok
    split at ok
    · rename_i set there
      split at ok
      · cases ok
      · rename_i signers made
        cases ok
        obtain ⟨continues,kept⟩ := createSignersIssued made
        have names : ∀ w', registered ⟨thread,.upsertSignerSet companyId dto.escrowAccountId,reply,w,w'⟩ = some set.id := by
          simp [registered,fine,there]
        rw [names]
        refine ⟨rfl,IssuedTable.continuesTrans (IssuedTable.continuesDeleteMany _ _) continues,fun id s found other => ?_,fun k row => ?_⟩
        · refine kept id s ?_
          show (w.signers.toTable.deleteMany _).get? id = some s
          rw [Table.getDeleteMany,found]
          simpa using other
        · show (w.signatures.deleteMany _).get? k = some row ↔ _
          rw [Table.getDeleteMany,Option.filter_eq_some_iff]
          refine and_congr_right fun _ => ?_
          simp only [Bool.not_eq_true',List.any_eq_false,decide_eq_true_eq,ne_eq,Option.some.injEq]
          constructor
          · intro kept s found own
            exact kept s (List.mem_filter.mpr ⟨Table.getMem found,by simpa using own⟩) (Table.getKey found)
          · intro kept s inside same
            obtain ⟨there,own⟩ := List.mem_filter.mp inside
            exact kept s (same ▸ Table.memGet there) (by simpa using own)
    · rename_i free
      split at ok
      · rename_i signerSets signers created made
        cases ok
        obtain ⟨continues,kept⟩ := createSignersIssued made
        have names : ∀ w', registered ⟨thread,.upsertSignerSet companyId dto.escrowAccountId,reply,w,w'⟩ = none := by
          simp [registered,fine,free]
        rw [names]
        exact ⟨rfl,continues,fun id s found _ => kept id s found,fun k row => by simp⟩
      · cases ok

theorem guardedFindPendingTransaction {done : List SignerEvent → Except Exception (Option Found) → Prop} {id : String}
    (missing : ∀ own, done own (.ok none))
    (read : ∀ (e : SignerEvent) found, e.site = .findPendingTransaction id → e.after = e.before →
      e.before.pendingTxs.get? id = some found.tx → e.before.signerSets.get? found.tx.signerSetId = some found.signerSet →
      found.signers = (e.before.signers.findMany fun s => s.signerSetId = found.tx.signerSetId) → done (e :: own) (.ok (some found)))
    (failed : ∀ own error, done own (.error error)) : Guarded (Guard request) done (findPendingTransaction id) own := by
  refine guardedQuery fun thread reply w => ⟨guardSame rfl rfl,?_⟩
  split
  · exact failed _ _
  · split
    · exact missing _
    · rename_i tx row
      split
      · exact failed _ _
      · rename_i signerSet set
        exact read _ _ rfl rfl row set rfl

theorem readLater {id : String} {read : SignerEvent} {tx : MultisigPendingTransaction} (reads : Read own id read tx)
    (other : e.site ≠ .findPendingTransaction id) : Read (e :: own) id read tx :=
  ⟨by simpa [List.find?_cons,other] using reads.found,reads.same,reads.row,reads.unsubmitted⟩

theorem guardedUpdatePendingTransaction {site : Site} {id : String} {status : MultisigTxStatus} {txHash : Option String}
    (marks : site = .markSubmitted id ∨ site = .markFailed id ∧ status ≠ .submitted) {read : SignerEvent}
    {tx : MultisigPendingTransaction} (reads : Read own id read tx) :
    Guarded (Guard request) (fun own _ => Read own id read tx) (updatePendingTransaction site id status txHash) own := by
  have plain : site.submits = none := by rcases marks with rfl | ⟨rfl,_⟩ <;> rfl
  have other : site ≠ .findPendingTransaction id := by rcases marks with rfl | ⟨rfl,_⟩ <;> nofun
  refine guardedTransact (fun thread reply w value after ok => ⟨?_,readLater reads other⟩)
    fun thread reply w error _ => ⟨guardSame rfl plain,readLater reads other⟩
  split at ok
  · cases ok
  · rename_i answered
    split at ok
    · cases ok
    · rename_i row pendingTxs modified
      cases ok
      have answered : reply.fails = false := by simpa using answered
      obtain ⟨_,_,_,rfl⟩ := Table.modifyGet modified
      refine guardWrites ?_ plain
      let marked (tx : MultisigPendingTransaction) := { tx with status := status, submittedTxHash := txHash.or tx.submittedTxHash }
      rcases marks with rfl | ⟨rfl,unmarked⟩
      · exact ⟨answered,⟨read,tx,reads⟩,marked,fun _ => rfl,fun _ => rfl,nofun,rfl⟩
      · exact ⟨answered,⟨read,tx,reads⟩,marked,fun _ => rfl,fun _ => rfl,fun _ _ => unmarked,rfl⟩

theorem guardedTrySubmit {id unsignedXdr : String} {signatures : List MultisigSignature} {threshold : Nat} {read counted : SignerEvent}
    {tx : MultisigPendingTransaction} {set : CompanyEscrowSignerSet} (reads : Read own id read tx)
    (there : read.before.signerSets.get? tx.signerSetId = some set)
    (found : own.find? (fun e => e.site = .findSignatures id) = some counted) (same : counted.after = counted.before)
    (enough : set.threshold ≤ (signaturesOf id counted.before).length) :
    Guarded (Guard request) anyOutcome (trySubmit self id unsignedXdr signatures threshold) own := by
  refine guardedBind (guardedOfExcept ?_)
  split
  · rename_i allSigs _
    refine guardedHandle (guardedBind (guardedQuery fun thread reply w => ⟨⟨Or.inl rfl,?_⟩,?_⟩))
    · intro id' submits
      cases submits
      exact ⟨read,tx,set,counted,reads,there,found,same,enough⟩
    · have marked : ∀ own, Read own id read tx → Guarded (Guard request) anyOutcome
          (updatePendingTransaction (.markFailed id) id .failed none >>= fun updated =>
            return toStatus updated.1 updated.2 updated.2.length (some threshold)) own :=
        fun own reads => guardedThen (guardedAny (guardedUpdatePendingTransaction (Or.inr ⟨rfl,by decide⟩) reads)) fun _ _ => trivial
      have reads : Read (⟨thread,.submitMultisigTransaction id unsignedXdr allSigs.flatten,reply,w,w⟩ :: own) id read tx :=
        readLater reads nofun
      cases reply.fails with
      | true => exact marked _ reads
      | false =>
        refine guardedBind (guardedMono ?_ (guardedUpdatePendingTransaction (Or.inl rfl) reads))
        intro own out reads
        cases out with
        | ok updated => trivial
        | error error => exact marked own reads
  · trivial

theorem guardedUpsertSignature {id signedXdr : String} {signer : CompanyEscrowSigner} {read : SignerEvent} {tx : MultisigPendingTransaction}
    (reads : Read own id read tx) (member : read.before.signers.get? signer.id = some signer) (its : signer.signerSetId = tx.signerSetId)
    (sent : request = .submitSignature id signer.publicKey signedXdr) :
    Guarded (Guard request) (fun own _ => Read own id read tx) (upsertSignature id signer.id signedXdr) own := by
  refine guardedTransact ?_ fun thread reply w error _ => ⟨guardSame rfl rfl,readLater reads nofun⟩
  intro thread reply w value after ok
  refine ⟨?_,readLater reads nofun⟩
  split at ok
  · cases ok
  · rename_i fine
    cases ok
    have there : (w.signers.get? signer.id).isSome := by
      simp only [Bool.or_eq_true,not_or,Bool.not_eq_true] at fine
      exact Option.isSome_iff_ne_none.mpr fun gone => by simp [gone] at fine
    exact guardWrites ⟨read,tx,signer,reads,member,its,sent,there,rfl⟩ rfl

theorem guardedSubmitSignature {id signerPublicKey signedXdr : String} :
    Guarded (Guard (.submitSignature id signerPublicKey signedXdr)) anyOutcome (submitSignature self id signerPublicKey signedXdr) [] := by
  refine guardedBind (guardedFindPendingTransaction (fun _ => trivial) ?_ fun _ _ => trivial)
  intro read found site same row set signers
  dsimp only
  split
  · trivial
  · rename_i unsubmitted
    have reads : Read [read] id read found.tx := ⟨by simp [site],same,row,unsubmitted⟩
    split
    · trivial
    · rename_i signer chosen
      have member : read.before.signers.get? signer.id = some signer ∧ signer.signerSetId = found.tx.signerSetId := by
        have inside := List.mem_of_find?_eq_some chosen
        rw [signers] at inside
        have found := Table.findManyGet inside
        exact ⟨found.1,by simpa using found.2⟩
      have key : signer.publicKey = signerPublicKey := by simpa using List.find?_some chosen
      refine guardedBind (guardedOfExcept ?_)
      split
      · split
        · trivial
        · refine guardedBind (guardedMono ?_ (guardedUpsertSignature reads member.1 member.2 (key ▸ rfl)))
          intro own out reads
          cases out with
          | error error => trivial
          | ok _ =>
            refine guardedBind (guardedQuery fun thread reply w => ⟨guardSame rfl rfl,?_⟩)
            cases reply.fails with
            | true => trivial
            | false =>
              show Guarded _ _ (if _ then _ else _) _
              split
              · trivial
              · rename_i enough
                rw [show found.tx.id = id from Table.getKey row]
                exact guardedTrySubmit (readLater reads nofun) set (List.find?_cons_of_pos (by simp)) rfl (not_lt.mp enough)
      · trivial

theorem guardedService (request : Request) : Guarded (Guard request) anyOutcome ((service self).handler request) [] := by
  cases request with
  | registerSignerSet companyId dto =>
    show Guarded _ _ (registerSignerSet companyId dto) []
    unfold registerSignerSet
    split
    · trivial
    · split
      · trivial
      · exact guardedTransact (fun thread reply w response w' ok => ⟨guardWrites (registersUpsert ok) rfl,trivial⟩)
          fun thread reply w error _ => ⟨guardSame rfl rfl,trivial⟩
  | createPendingTransaction signerSetId unsignedXdr description =>
    refine guardedBind (guardedQuery fun thread reply w => ⟨guardSame rfl rfl,?_⟩)
    cases reply.fails with
    | true => trivial
    | false =>
      simp only [Bool.false_eq_true,if_false]
      split
      · trivial
      · refine guardedTransact (fun thread reply w response w' ok => ⟨?_,trivial⟩) fun _ _ _ _ _ => ⟨guardSame rfl rfl,trivial⟩
        split at ok
        · cases ok
        · split at ok
          · cases ok
          · rename_i pendingTxs created
            cases ok
            exact guardWrites ⟨_,pendingTxs,rfl,created,rfl⟩ rfl
  | submitSignature id signerPublicKey signedXdr => exact guardedThen guardedSubmitSignature fun _ _ => trivial
  | getSignatureStatus id =>
    refine guardedThen (guardedBind (guardedFindPendingTransaction ?_ ?_ ?_)) fun _ _ => trivial
    · exact fun _ => trivial
    · exact fun _ _ _ _ _ _ _ => trivial
    · exact fun _ _ => trivial

/-- Transactions keep their signer set, and an id of a signer is not given again. -/
structure Later (w w' : World) : Prop where
  pendingTxs : ∀ id tx, w.pendingTxs.get? id = some tx → ∃ tx', w'.pendingTxs.get? id = some tx' ∧ tx'.signerSetId = tx.signerSetId
  signers : w.signers.Continues w'.signers

/-- The signatures of a signer set's transactions stay. -/
def Keeps (setId : String) (w w' : World) : Prop :=
  ∀ id tx signerId row, w.pendingTxs.get? id = some tx → tx.signerSetId = setId → w.signatures.get? (id,signerId) = some row →
    (∃ tx', w'.pendingTxs.get? id = some tx' ∧ tx'.signerSetId = setId) ∧ ∃ row', w'.signatures.get? (id,signerId) = some row'

def Unsubmitted (id : String) (w w' : World) : Prop :=
  ∀ tx, w'.pendingTxs.get? id = some tx → tx.status = .submitted → ∃ tx', w.pendingTxs.get? id = some tx' ∧ tx'.status = .submitted

theorem txsStep (guard : Guard request own e) :
    e.after.pendingTxs = e.before.pendingTxs ∨
    (∃ tx pendingTxs, tx.status = .pending ∧ e.before.pendingTxs.create tx = some pendingTxs ∧ e.after.pendingTxs = pendingTxs ∧
      e.after.signers = e.before.signers ∧ e.after.signatures = e.before.signatures) ∨
    ∃ id, e.answer.fails = false ∧ (∃ read tx, Read own id read tx) ∧ e.site.settles = some id ∧
      ∃ f : MultisigPendingTransaction → MultisigPendingTransaction, ∃ keeps : ∀ tx, Keyed.key (f tx) = Keyed.key tx, (∀ tx, (f tx).signerSetId = tx.signerSetId) ∧
        (e.site ≠ .markSubmitted id → ∀ tx, (f tx).status ≠ .submitted) ∧ e.after.pendingTxs = e.before.pendingTxs.update id f keeps ∧
        e.after.signers = e.before.signers ∧ e.after.signatures = e.before.signatures := by
  obtain ⟨thread,site,answer,before,after⟩ := e
  rcases guard.writes with same | writes
  · exact Or.inl (by rw [same])
  · cases site with
    | upsertSignerSet companyId escrowAccountId => exact Or.inl writes.pendingTxs
    | createPendingTransaction signerSetId =>
      obtain ⟨tx,pendingTxs,fresh,created,same⟩ := writes
      exact Or.inr (Or.inl ⟨tx,pendingTxs,fresh,created,by rw [same],by rw [same],by rw [same]⟩)
    | upsertSignature id signerId signedXdr =>
      obtain ⟨_,_,_,_,_,_,_,_,same⟩ := writes
      exact Or.inl (by rw [same])
    | markSubmitted id =>
      obtain ⟨answered,read,f,keeps,sets,_,same⟩ := writes
      exact Or.inr (Or.inr ⟨id,answered,read,rfl,f,keeps,sets,fun other => absurd rfl other,by rw [same],by rw [same],by rw [same]⟩)
    | markFailed id =>
      obtain ⟨answered,read,f,keeps,sets,unmarked,same⟩ := writes
      exact Or.inr (Or.inr ⟨id,answered,read,rfl,f,keeps,sets,fun _ => unmarked rfl,by rw [same],by rw [same],by rw [same]⟩)
    | findSignerSet _ | findPendingTransaction _ | findSignatures _ | submitMultisigTransaction _ _ _ => exact writes.elim

theorem signersStep (guard : Guard request own e) :
    (e.after.signers = e.before.signers ∧ e.after.signatures = e.before.signatures) ∨ Registers e (registered e) ∨
    ∃ id signerId signedXdr read tx s, e.site = .upsertSignature id signerId signedXdr ∧ Read own id read tx ∧
      read.before.signers.get? signerId = some s ∧ s.signerSetId = tx.signerSetId ∧ request = .submitSignature id s.publicKey signedXdr ∧
      (e.before.signers.get? signerId).isSome ∧ e.after.pendingTxs = e.before.pendingTxs ∧ e.after.signers = e.before.signers ∧
      e.after.signatures = e.before.signatures.upsert { pendingTxId := id, signerId := signerId, signedXdr := signedXdr }
        fun row => { row with signedXdr := signedXdr } := by
  obtain ⟨thread,site,answer,before,after⟩ := e
  rcases guard.writes with same | writes
  · exact Or.inl ⟨by rw [same],by rw [same]⟩
  · cases site with
    | upsertSignerSet companyId escrowAccountId => exact Or.inr (Or.inl writes)
    | upsertSignature id signerId signedXdr =>
      obtain ⟨read,tx,s,reads,member,its,sent,there,same⟩ := writes
      exact Or.inr (Or.inr ⟨id,signerId,signedXdr,read,tx,s,rfl,reads,member,its,sent,there,by rw [same],by rw [same],by rw [same]⟩)
    | createPendingTransaction signerSetId =>
      obtain ⟨_,_,_,_,same⟩ := writes
      exact Or.inl ⟨by rw [same],by rw [same]⟩
    | markSubmitted id | markFailed id =>
      obtain ⟨_,_,_,_,_,_,same⟩ := writes
      exact Or.inl ⟨by rw [same],by rw [same]⟩
    | findSignerSet _ | findPendingTransaction _ | findSignatures _ | submitMultisigTransaction _ _ _ => exact writes.elim

theorem laterStep (guard : Guard request own e) : Later e.before e.after := by
  constructor
  · intro id tx found
    obtain same | ⟨made,_,_,created,same,_⟩ | ⟨marked,_,_,_,f,_,sets,_,same,_⟩ := txsStep guard
    · exact ⟨tx,by rwa [same],rfl⟩
    · have gets := Table.createGet created
      have other : id ≠ Keyed.key made := fun its => by rw [← its,found] at gets; cases gets.1
      exact ⟨tx,by rw [same,gets.2.2,if_neg other,found],rfl⟩
    · rw [same,Table.getUpdate]
      split
      · exact ⟨f tx,by rw [found]; rfl,sets tx⟩
      · exact ⟨tx,found,rfl⟩
  · obtain same | registers | ⟨_,_,_,_,_,_,_,_,_,_,_,_,_,same,_⟩ := signersStep guard
    · rw [same.1]
      exact IssuedTable.continuesRefl _
    · exact registers.continues
    · rw [same]
      exact IssuedTable.continuesRefl _

theorem unsubmittedStep {id : String} (guard : Guard request own e) (quiet : e.site ≠ .markSubmitted id ∨ e.answer.fails = true) :
    Unsubmitted id e.before e.after := by
  intro tx found submitted
  obtain same | ⟨made,_,fresh,created,same,_⟩ | ⟨marked,answered,_,_,f,_,_,unmarked,same,_⟩ := txsStep guard
  · exact ⟨tx,same ▸ found,submitted⟩
  · rw [same,(Table.createGet created).2.2] at found
    split at found
    · cases found
      rw [fresh] at submitted
      cases submitted
    · exact ⟨tx,found,submitted⟩
  · rw [same,Table.getUpdate] at found
    split at found
    · rename_i its
      obtain ⟨old,_,rfl⟩ := Option.map_eq_some_iff.mp found
      rcases quiet with other | fails
      · exact absurd submitted (unmarked (its ▸ other) old)
      · rw [answered] at fails
        cases fails
    · exact ⟨tx,found,submitted⟩

theorem recordedStep (recorded : Recorded self e.before) (guard : Guard request own e) (made : Genuine self request e)
    (later : ∀ e' ∈ own, Later e'.before e.before) : Recorded self e.after := by
  intro row inside
  have kept : ∀ row ∈ e.before.signatures.rows, (∀ s, e.before.signers.get? row.signerId = some s → e.after.signers.get? row.signerId = some s) →
      ∃ tx s, e.after.pendingTxs.get? row.pendingTxId = some tx ∧ e.after.signers.get? row.signerId = some s ∧
        s.signerSetId = tx.signerSetId ∧ genuine self s.publicKey row.signedXdr = true := by
    intro row there stays
    obtain ⟨tx,s,found,signer,its,by'⟩ := recorded row there
    obtain ⟨tx',found',same⟩ := (laterStep guard).pendingTxs _ tx found
    exact ⟨tx',s,found',stays s signer,its.trans same.symm,by'⟩
  obtain same | registers | ⟨id,signerId,signedXdr,read,tx,s,site,reads,member,its,sent,there,txs,signers,same⟩ := signersStep guard
  · rw [same.2] at inside
    exact kept row inside fun s found => same.1 ▸ found
  · have ⟨old,others⟩ := (registers.signatures _ row).mp (Table.memGet inside)
    exact kept row (Table.getMem old) fun s found => registers.signers _ s found (others s found)
  · have found := Table.memGet inside
    rw [same,Table.upsertGet] at found
    split at found
    · rename_i key
      have fields : row.pendingTxId = id ∧ row.signerId = signerId := Prod.mk.injEq _ _ _ _ ▸ key
      have envelope : row.signedXdr = signedXdr := by
        cases old : e.before.signatures.get? (Keyed.key row) <;> rw [old] at found <;> cases found <;> rfl
      have before := later read (List.mem_of_find?_eq_some reads.found)
      obtain ⟨tx',found',same'⟩ := before.pendingTxs id tx reads.row
      obtain ⟨s',signer⟩ := Option.isSome_iff_exists.mp there
      have issued : signerId ∈ read.before.signers.issued := Table.getKey member ▸ read.before.signers.known s (Table.getMem member)
      have equal := before.signers.rows signerId issued s' signer
      cases member.symm.trans equal
      refine ⟨tx',s,by rw [fields.1,txs,found'],by rw [fields.2,signers,signer],its.trans same'.symm,?_⟩
      unfold Genuine at made
      rw [sent,site] at made
      rw [envelope]
      exact made
    · exact kept row (Table.getMem found) fun s found => signers ▸ found

theorem keepsStep {setId : String} (recorded : Recorded self e.before) (guard : Guard request own e)
    (quiet : registered e ≠ some setId) : Keeps setId e.before e.after := by
  intro id tx signerId row found its signature
  obtain ⟨tx',found',same⟩ := (laterStep guard).pendingTxs id tx found
  refine ⟨⟨tx',found',same.trans its⟩,?_⟩
  obtain stays | registers | ⟨_,_,_,_,_,_,_,_,_,_,_,_,_,_,after⟩ := signersStep guard
  · exact ⟨row,by rwa [stays.2]⟩
  · refine ⟨row,(registers.signatures _ row).mpr ⟨signature,fun s signer own => ?_⟩⟩
    have key : (row.pendingTxId,row.signerId) = (id,signerId) := Table.getKey signature
    obtain ⟨tx'',s',found'',signer',member,_⟩ := recorded row (Table.getMem signature)
    cases signer.symm.trans signer'
    rw [(Prod.mk.inj key).1,found] at found''
    cases found''
    exact quiet (own ▸ by rw [member,its])
  · rw [after,Table.upsertGet]
    split
    · exact ⟨_,rfl⟩
    · exact ⟨row,signature⟩

/-- The recorded signatures of one transaction are of as many signers. -/
theorem recordedSigned {w : World} {tx : MultisigPendingTransaction} (recorded : Recorded self w) (found : w.pendingTxs.get? tx.id = some tx)
    {signerIds : List String} (distinct : signerIds.Nodup) (there : ∀ signerId ∈ signerIds, ∃ row, w.signatures.get? (tx.id,signerId) = some row) :
    signerIds.length ≤ (signed self w tx).length := by
  have inside : signerIds ⊆ (signed self w tx).map CompanyEscrowSigner.id := by
    intro signerId member
    obtain ⟨row,signature⟩ := there signerId member
    obtain ⟨tx',s,found',signer,its,by'⟩ := recorded row (Table.getMem signature)
    have key : (row.pendingTxId,row.signerId) = (tx.id,signerId) := Table.getKey signature
    obtain ⟨named,signs⟩ := Prod.mk.inj key
    rw [named,found] at found'
    cases found'
    rw [signs] at signer
    have name : s.id = signerId := Table.getKey signer
    refine List.mem_map.mpr ⟨s,List.mem_filter.mpr ⟨Table.getMem signer,?_⟩,name⟩
    simp [its,name,signature,by']
  have fewer := (List.subperm_of_subset distinct inside).length_le
  rwa [List.length_map] at fewer

theorem signaturesDistinct (id : String) (w : World) : ((signaturesOf id w).map MultisigSignature.signerId).Nodup := by
  refine List.Nodup.of_map (fun signerId => (id,signerId)) ?_
  have same : ((signaturesOf id w).map MultisigSignature.signerId).map (fun signerId => (id,signerId)) =
      (signaturesOf id w).map Keyed.key := by
    rw [List.map_map]
    refine List.map_congr_left fun row inside => ?_
    have its : row.pendingTxId = id := by simpa using (List.mem_filter.mp inside).2
    exact Prod.ext its.symm rfl
  rw [same]
  exact w.signatures.unique.sublist (List.filter_sublist.map _)

end Steps

section Runs

variable {self} {request : Request} {c : Snapshot Site Reply World}

structure Kept (config : Config) (c : Snapshot Site Reply World) : Prop where
  recorded : Recorded config c.world
  past : ∀ e ∈ c.history, Later e.before c.world ∧ Recorded config e.before
  keeps : ∀ setId, Since (fun e => registered e ≠ some setId) (Keeps setId) c
  unsubmitted : ∀ id, Since (fun e => e.site ≠ .markSubmitted id ∨ e.answer.fails = true) (Unsubmitted id) c
  upheld : AllMeet (fun _ e => Honoured config e ∧ Final e) c.history

/-- What is asked of a call of a run. -/
def Orderly (self : Config) (request : Request) (earlier : List SignerEvent) (e : SignerEvent) : Prop :=
  Genuine self request e ∧ Steady earlier e ∧ Alone earlier e

instance (earlier : List SignerEvent) (e : SignerEvent) : Decidable (Orderly self request earlier e) := by
  unfold Orderly
  infer_instance

theorem ownFound {k : Nat} {site : Site} (history : List SignerEvent) :
    (history.filter fun e => e.thread = k).find? (fun e => e.site = site) = history.find? fun e => e.thread = k && e.site = site := by
  rw [List.find?_filter]
  refine congrArg (fun p => history.find? p) (funext fun e => ?_)
  simp

theorem honouredStep {e : SignerEvent} (kept : Kept self c) (before : e.before = c.world)
    (guard : Guard request (c.history.filter fun e' => e'.thread = e.thread) e) (steady : Steady c.history e) : Honoured self e := by
  intro id submits tx found set there
  obtain ⟨calm,unraised⟩ := steady id submits tx found set there
  obtain ⟨read,old,oldSet,counted,reads,oldThere,count,same,enough⟩ := guard.counted id submits
  have found : e.before.pendingTxs.get? id = some tx := found
  have there : e.before.signerSets.get? tx.signerSetId = some set := there
  rw [before] at found there
  have own : set.id = tx.signerSetId := Table.getKey there
  have readFound := reads.found
  rw [ownFound] at readFound count
  -- the transaction has kept its signer set, whose threshold has not been raised
  obtain ⟨tx',found',sets⟩ := (kept.past read (List.mem_of_find?_eq_some readFound)).1.pendingTxs id old reads.row
  cases found.symm.trans found'
  have named : set.id = old.signerSetId := own.trans sets
  have threshold : set.threshold ≤ oldSet.threshold := unraised read readFound oldSet (named ▸ oldThere)
  -- the counted signatures are still there
  have past := kept.past counted (List.mem_of_find?_eq_some count)
  have keeps := sinceFound (kept.keeps set.id) count calm
  rw [same] at keeps
  have stay : ∀ signerId ∈ (signaturesOf id counted.before).map MultisigSignature.signerId,
      ∃ row, c.world.signatures.get? (id,signerId) = some row := by
    intro signerId inside
    obtain ⟨row,member,rfl⟩ := List.mem_map.mp inside
    obtain ⟨there,its⟩ := List.mem_filter.mp member
    have its : row.pendingTxId = id := by simpa using its
    obtain ⟨tx₀,_,found₀,_⟩ := past.2 row there
    rw [its] at found₀
    obtain ⟨tx₁,found₁,sets₁⟩ := past.1.pendingTxs id tx₀ found₀
    cases found.symm.trans found₁
    exact (keeps id tx₀ row.signerId row found₀ (sets₁.symm.trans own.symm) (its ▸ Table.memGet there)).2
  have name : tx.id = id := Table.getKey found
  have counted := recordedSigned kept.recorded (name ▸ found) (signaturesDistinct id counted.before) (name.symm ▸ stay)
  rw [List.length_map] at counted
  rw [before]
  omega

/-- A call that settles a transaction finds that it is not submitted. -/
theorem settlesUnsubmitted {e : SignerEvent} (kept : Kept self c) (alone : Alone c.history e) {id : String} (settles : e.site.settles = some id)
    {read : SignerEvent} {old tx : MultisigPendingTransaction} (reads : Read (c.history.filter fun e' => e'.thread = e.thread) id read old)
    (found : c.world.pendingTxs.get? id = some tx) : tx.status ≠ .submitted := by
  intro submitted
  have readFound := reads.found
  rw [ownFound] at readFound
  have since := sinceFound (kept.unsubmitted id) readFound (alone id settles)
  rw [reads.same] at since
  obtain ⟨old',found',submitted'⟩ := since tx found submitted
  cases reads.row.symm.trans found'
  exact reads.unsubmitted submitted'

theorem finalStep {e : SignerEvent} (kept : Kept self c) (before : e.before = c.world)
    (guard : Guard request (c.history.filter fun e' => e'.thread = e.thread) e) (alone : Alone c.history e) : Final e := by
  intro tx inside submitted
  have found : e.before.pendingTxs.get? tx.id = some tx := Table.memGet inside
  have there : c.world.pendingTxs.get? tx.id = some tx := before ▸ found
  constructor
  · intro submits
    obtain ⟨read,old,_,_,reads,_⟩ := guard.counted tx.id submits
    have settles : e.site.settles = some tx.id := by
      cases site : e.site <;> simp_all [Site.submits,Site.settles]
    exact settlesUnsubmitted kept alone settles reads there submitted
  · obtain same | ⟨made,_,_,created,same,_⟩ | ⟨id,_,⟨read,old,reads⟩,settles,f,_,_,_,same,_⟩ := txsStep guard
    · rwa [same]
    · have gets := Table.createGet created
      have other : tx.id ≠ Keyed.key made := fun its => by rw [← its,found] at gets; cases gets.1
      rw [same,gets.2.2,if_neg other,found]
    · by_cases its : tx.id = id
      · exact absurd submitted (settlesUnsubmitted kept alone settles reads (its ▸ there))
      · rw [same,Table.getUpdateOther _ its,found]

theorem laterFollows {w w' w'' : World} (first : Later w w') (second : Later w' w'') : Later w w'' := by
  refine ⟨fun id tx found => ?_,IssuedTable.continuesTrans first.signers second.signers⟩
  obtain ⟨tx',found',same⟩ := first.pendingTxs id tx found
  obtain ⟨tx'',found'',same'⟩ := second.pendingTxs id tx' found'
  exact ⟨tx'',found'',same'.trans same⟩

theorem keepsFollows {setId : String} {w w' w'' : World} (first : Keeps setId w w') (second : Keeps setId w' w'') : Keeps setId w w'' := by
  intro id tx signerId row found its signature
  obtain ⟨⟨tx',found',its'⟩,row',signature'⟩ := first id tx signerId row found its signature
  exact second id tx' signerId row' found' its' signature'

theorem unsubmittedFollows {id : String} {w w' w'' : World} (first : Unsubmitted id w w') (second : Unsubmitted id w' w'') :
    Unsubmitted id w w'' := by
  intro tx found submitted
  obtain ⟨tx',found',submitted'⟩ := second tx found submitted
  exact first tx' found' submitted'

theorem keptRecord {thread : Nat} {site : Site} {reply : Reply} {w' : World} (kept : Kept self c)
    (guard : Guard request (c.history.filter fun e => e.thread = thread) (c.event thread site reply w'))
    (orderly : Orderly self request c.history (c.event thread site reply w')) : Kept self (c.record thread site reply w') := by
  obtain ⟨made,steady,alone⟩ := orderly
  have later : Later c.world w' := laterStep guard
  have recorded : Recorded self w' := recordedStep kept.recorded guard made fun e inside => (kept.past e (List.mem_filter.mp inside).1).1
  refine ⟨recorded,?_,fun setId => ?_,fun id => ?_,⟨honouredStep kept rfl guard steady,finalStep kept rfl guard alone⟩,kept.upheld⟩
  · intro e inside
    rcases List.mem_cons.mp inside with rfl | earlier
    · exact ⟨later,kept.recorded⟩
    · exact ⟨laterFollows (kept.past e earlier).1 later,(kept.past e earlier).2⟩
  · refine sinceRecord (R := Keeps setId) (fun w => ?_) keepsFollows (keepsStep kept.recorded guard) (kept.keeps setId)
    exact fun id tx signerId row found its signature => ⟨⟨tx,found,its⟩,row,signature⟩
  · exact sinceRecord (R := Unsubmitted id) (fun w tx found submitted => ⟨tx,found,submitted⟩) unsubmittedFollows (unsubmittedStep guard)
      (kept.unsubmitted id)

/-- In a run whose calls are orderly, a submission has a threshold of signers who have
signed, and a submitted transaction stays as it is. -/
theorem thresholdHonoured (self : Config) (w : World) (recorded : Recorded self w) (moves : List SignerMove)
    (orderly : Meets (Orderly self) ((service self).run (Pool.initial w) moves)) :
    ∀ e ∈ ((service self).run (Pool.initial w) moves).history, Honoured self e ∧ Final e := by
  have begun : Kept self ⟨w,[]⟩ :=
    ⟨recorded,fun _ inside => (List.not_mem_nil inside).elim,fun _ => sinceInitial,fun _ => sinceInitial,trivial⟩
  have start : GuardedPool Guard (Kept self) (Pool.initial w : Pool Request Site Reply World Exception Response) := guardedInitial begun
  have kept : GuardedPool Guard (Kept self) ((service self).run (Pool.initial w) moves) := by
    refine guardedRun ?_ ?_ guardedService start moves orderly
    · exact fun request c thread site reply w' kept guard its => keptRecord kept guard its
    · exact fun change => change.elim
  intro e inside
  obtain ⟨newer,older,same⟩ := List.append_of_mem inside
  exact meetsIff.mp kept.holds.upheld older e ⟨newer,same.symm⟩

/-- An envelope is written as the key that has signed it. -/
def signing : Config where
  extractSignatures signedXdr := .ok [signedXdr]
  madeBy publicKey signature := publicKey = signature

def opened (threshold : Nat) : List SignerMove :=
  [.start (.registerSignerSet "c" { escrowAccountId := "G", signers := [{ publicKey := "A" },{ publicKey := "B" }], threshold := threshold }),
    .answer 0 { text := "s", ids := ["a","b"] },.start (.createPendingTransaction "s" "unsigned" none),.answer 1 {},
    .answer 1 { text := "t" }]

def signatureOf (thread : Nat) (publicKey signedXdr : String) (replies : List Reply) : List SignerMove :=
  .start (.submitSignature "t" publicKey signedXdr) :: replies.map (.answer thread)

def submittedByBoth : List SignerMove :=
  opened 2 ++ signatureOf 2 "A" "A" [{},{},{}] ++ signatureOf 3 "B" "B" [{},{},{},{ text := "h" },{}] ++ signatureOf 4 "A" "A" [{}]

theorem thresholdHonouredByBoth :
    (∀ e ∈ ((service signing).run (Pool.initial {}) submittedByBoth).history, Honoured signing e ∧ Final e) ∧
    ((service signing).run (Pool.initial {}) submittedByBoth).world.pendingTxs.rows.map
      (fun tx => (tx.status,tx.submittedTxHash)) = [(.submitted,some "h")] :=
  ⟨thresholdHonoured signing {} nofun submittedByBoth (by decide +kernel),by decide +kernel⟩

/-- `A` sends the same envelope for both signers. -/
def forged : List SignerMove := opened 2 ++ signatureOf 2 "A" "A" [{},{},{}] ++ signatureOf 3 "B" "A" [{},{},{},{ text := "h" },{}]

/-- Both signers sign before either submission is marked, and the second one fails. -/
def submittedTwice : List SignerMove :=
  opened 1 ++ signatureOf 2 "A" "A" [{},{},{}] ++ signatureOf 3 "B" "B" [{},{},{}] ++
    [.answer 2 { text := "h" },.answer 2 {},.answer 3 { fails := true },.answer 3 {}]

theorem thresholdMissed :
    (¬ ∀ e ∈ ((service signing).run (Pool.initial {}) forged).history, Honoured signing e ∧ Final e) ∧
    (¬ ∀ e ∈ ((service signing).run (Pool.initial {}) submittedTwice).history, Honoured signing e ∧ Final e) ∧
    ((service signing).run (Pool.initial {}) submittedTwice).world.pendingTxs.rows.map
      (fun tx => (tx.status,tx.submittedTxHash)) = [(.failed,some "h")] := by
  decide +kernel

end Runs

end HireSettle.Multisig
