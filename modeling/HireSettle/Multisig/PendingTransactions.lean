import HireSettle.Common.Calls
import HireSettle.Workflow.Guards
import HireSettle.Workflow.Table

/-! Transactions of an escrow account that wait for the signatures of a company's
signers. A signature is recorded for the signer it is sent for, and the call that
counts as many as the threshold it has read submits the transaction. Registering a
signer set anew replaces its signers, and their signatures go with them. -/
namespace HireSettle.Multisig
open Workflow

inductive MultisigTxStatus where
  | pending | submitted | failed
  deriving DecidableEq, Repr

structure CompanyEscrowSignerSet where
  id : String
  companyId : String
  escrowAccountId : String
  threshold : Nat
  deriving DecidableEq, Repr

structure CompanyEscrowSigner where
  id : String
  signerSetId : String
  publicKey : String
  userId : Option String
  deriving DecidableEq, Repr

structure MultisigPendingTransaction where
  id : String
  signerSetId : String
  unsignedXdr : String
  description : Option String
  status : MultisigTxStatus := .pending
  submittedTxHash : Option String := none
  deriving DecidableEq, Repr

structure MultisigSignature where
  pendingTxId : String
  signerId : String
  signedXdr : String
  deriving DecidableEq, Repr

instance : Keyed CompanyEscrowSignerSet String := ⟨CompanyEscrowSignerSet.id⟩

instance : Keyed CompanyEscrowSigner String := ⟨CompanyEscrowSigner.id⟩

instance : Keyed MultisigPendingTransaction String := ⟨MultisigPendingTransaction.id⟩

instance : Keyed MultisigSignature (String × String) := ⟨fun row => (row.pendingTxId,row.signerId)⟩

theorem signedKey (signedXdr : String) (row : MultisigSignature) :
    Keyed.key { row with signedXdr := signedXdr } = Keyed.key row := rfl

/-- The id of a signer is a uuid: that of a deleted one is not given again. -/
structure World where
  signerSets : Table CompanyEscrowSignerSet := .empty
  signers : IssuedTable CompanyEscrowSigner := .empty
  pendingTxs : Table MultisigPendingTransaction := .empty
  signatures : Table MultisigSignature := .empty

structure SignerDto where
  publicKey : String
  userId : Option String := none
  deriving DecidableEq, Repr

structure RegisterSignerSetDto where
  escrowAccountId : String
  signers : List SignerDto
  threshold : Nat
  deriving DecidableEq, Repr

structure SignatureStatus where
  pendingTxId : String
  status : MultisigTxStatus
  threshold : Option Nat
  signedCount : Nat
  signerIds : List String
  submittedTxHash : Option String
  deriving DecidableEq, Repr

inductive Site where
  | upsertSignerSet (companyId escrowAccountId : String)
  | findSignerSet (signerSetId : String)
  | createPendingTransaction (signerSetId : String)
  | findPendingTransaction (pendingTxId : String)
  | upsertSignature (pendingTxId signerId signedXdr : String)
  | findSignatures (pendingTxId : String)
  | submitMultisigTransaction (pendingTxId unsignedXdr : String) (signatures : List String)
  | markSubmitted (pendingTxId : String)
  | markFailed (pendingTxId : String)
  deriving DecidableEq, Repr

/-- Besides a failure: the uuid of a created row or the hash of a transaction, and the
uuids of created signers. -/
structure Reply where
  fails : Bool := false
  text : String := ""
  ids : List String := []
  deriving DecidableEq, Repr

abbrev Op := Process Site Reply World Exception

/-- The library of the chain: the signatures in an envelope, and whether a key made one. -/
structure Config where
  extractSignatures : String → Except Exception (List String)
  madeBy : String → String → Bool

inductive Response where
  | signerSet (set : CompanyEscrowSignerSet) (signers : List CompanyEscrowSigner)
  | pendingTransaction (tx : MultisigPendingTransaction)
  | status (status : SignatureStatus)
  deriving DecidableEq, Repr

-- one signer per key in a set
def createSigners (signerSetId : String) :
    List SignerDto → List String → IssuedTable CompanyEscrowSigner → Option (IssuedTable CompanyEscrowSigner)
  | [],_,signers => some signers
  | _ :: _,[],_ => none
  | dto :: rest,id :: ids,signers => do
      if (signers.findFirst fun s => s.signerSetId = signerSetId && s.publicKey = dto.publicKey).isSome then none
      else
        let signers ← signers.create { id := id, signerSetId := signerSetId, publicKey := dto.publicKey, userId := dto.userId }
        createSigners signerSetId rest ids signers

def setOf (companyId escrowAccountId : String) (w : World) : Option CompanyEscrowSignerSet :=
  w.signerSets.findFirst fun set => set.companyId = companyId && set.escrowAccountId = escrowAccountId

def upsertSignerSet (companyId : String) (dto : RegisterSignerSetDto) (reply : Reply) (w : World) : Except Exception (Response × World) :=
  if reply.fails then .error .database
  else match setOf companyId dto.escrowAccountId w with
    | some set =>
        let removed := w.signers.findMany fun s => s.signerSetId = set.id
        match createSigners set.id dto.signers reply.ids (w.signers.deleteMany fun s => s.signerSetId = set.id) with
        | none => .error .uniqueViolation
        | some signers => .ok (.signerSet { set with threshold := dto.threshold } (signers.findMany fun s => s.signerSetId = set.id),
            { w with
              signerSets := w.signerSets.update set.id fun set => { set with threshold := dto.threshold }
              signers := signers
              -- the foreign key cascades
              signatures := w.signatures.deleteMany fun row => removed.any fun s => s.id = row.signerId })
    | none =>
        let set : CompanyEscrowSignerSet :=
          { id := reply.text, companyId := companyId, escrowAccountId := dto.escrowAccountId, threshold := dto.threshold }
        match w.signerSets.create set,createSigners set.id dto.signers reply.ids w.signers with
        | some signerSets,some signers =>
            .ok (.signerSet set (signers.findMany fun s => s.signerSetId = set.id),{ w with signerSets := signerSets, signers := signers })
        | _, _ => .error .uniqueViolation

def registerSignerSet (companyId : String) (dto : RegisterSignerSetDto) : Op Response :=
  if dto.signers.length < dto.threshold then
    .raise (.badRequest s!"Threshold ({dto.threshold}) cannot exceed the number of signers ({dto.signers.length})")
  else if (dto.signers.map SignerDto.publicKey).dedup.length ≠ dto.signers.length then
    .raise (.badRequest "Duplicate signer public keys are not allowed")
  else .transact (.upsertSignerSet companyId dto.escrowAccountId) (upsertSignerSet companyId dto)

def createPendingTransaction (signerSetId unsignedXdr : String) (description : Option String) : Op Response := do
  let signerSet ← (.query (.findSignerSet signerSetId) fun reply w =>
    if reply.fails then .error .database else .ok (w.signerSets.get? signerSetId) : Op (Option CompanyEscrowSignerSet))
  match signerSet with
  | none => .raise (.notFound s!"Signer set {signerSetId} not found")
  | some _ => .transact (.createPendingTransaction signerSetId) fun reply w =>
      let tx : MultisigPendingTransaction :=
        { id := reply.text, signerSetId := signerSetId, unsignedXdr := unsignedXdr, description := description }
      if reply.fails || (w.signerSets.get? signerSetId).isNone then .error .database
      else match w.pendingTxs.create tx with
        | none => .error .uniqueViolation
        | some pendingTxs => .ok (.pendingTransaction tx,{ w with pendingTxs := pendingTxs })

/-- A pending transaction with its signer set and its signatures. -/
structure Found where
  tx : MultisigPendingTransaction
  signerSet : CompanyEscrowSignerSet
  signers : List CompanyEscrowSigner
  signatures : List MultisigSignature

def signaturesOf (pendingTxId : String) (w : World) : List MultisigSignature :=
  w.signatures.findMany fun row => row.pendingTxId = pendingTxId

def findPendingTransaction (pendingTxId : String) : Op (Option Found) :=
  .query (.findPendingTransaction pendingTxId) fun reply w =>
    if reply.fails then .error .database
    else match w.pendingTxs.get? pendingTxId with
      | none => .ok none
      | some tx => match w.signerSets.get? tx.signerSetId with
        | none => .error .database
        | some signerSet => .ok (some
            { tx := tx
              signerSet := signerSet
              signers := w.signers.findMany fun s => s.signerSetId = tx.signerSetId
              signatures := signaturesOf pendingTxId w })

def upsertSignature (pendingTxId signerId signedXdr : String) : Op Unit :=
  .transact (.upsertSignature pendingTxId signerId signedXdr) fun reply w =>
    if reply.fails || (w.pendingTxs.get? pendingTxId).isNone || (w.signers.get? signerId).isNone then .error .database
    else .ok ((),{ w with
      signatures := w.signatures.upsert { pendingTxId := pendingTxId, signerId := signerId, signedXdr := signedXdr }
        fun row => { row with signedXdr := signedXdr } })

def findSignatures (pendingTxId : String) : Op (List MultisigSignature) :=
  .query (.findSignatures pendingTxId) fun reply w =>
    if reply.fails then .error .database else .ok (signaturesOf pendingTxId w)

-- answers the hash of the transaction
def submitMultisigTransaction (pendingTxId unsignedXdr : String) (signatures : List String) : Op String :=
  .query (.submitMultisigTransaction pendingTxId unsignedXdr signatures) fun reply _ =>
    if reply.fails then .error .stellar else .ok reply.text

def updatePendingTransaction (site : Site) (pendingTxId : String) (status : MultisigTxStatus) (txHash : Option String) :
    Op (MultisigPendingTransaction × List MultisigSignature) :=
  .transact site fun reply w =>
    if reply.fails then .error .database
    else match w.pendingTxs.modify pendingTxId fun tx => { tx with status := status, submittedTxHash := txHash.or tx.submittedTxHash } with
      | none => .error .recordNotFound
      | some (tx,pendingTxs) => .ok ((tx,signaturesOf pendingTxId w),{ w with pendingTxs := pendingTxs })

def toStatus (tx : MultisigPendingTransaction) (signatures : List MultisigSignature) (signedCount : Nat) (threshold : Option Nat) :
    SignatureStatus where
  pendingTxId := tx.id
  status := tx.status
  threshold := threshold
  signedCount := signedCount
  signerIds := signatures.map MultisigSignature.signerId
  submittedTxHash := tx.submittedTxHash

variable (self : Config)

def trySubmit (pendingTxId unsignedXdr : String) (signatures : List MultisigSignature) (threshold : Nat) : Op SignatureStatus := do
  let allSigs ← .ofExcept (signatures.mapM fun s => self.extractSignatures s.signedXdr)
  Process.handle (do
      let txHash ← submitMultisigTransaction pendingTxId unsignedXdr allSigs.flatten
      let updated ← updatePendingTransaction (.markSubmitted pendingTxId) pendingTxId .submitted (some txHash)
      return toStatus updated.1 updated.2 updated.2.length none)
    fun _ => do
      let updated ← updatePendingTransaction (.markFailed pendingTxId) pendingTxId .failed none
      return toStatus updated.1 updated.2 updated.2.length (some threshold)

def submitSignature (pendingTxId signerPublicKey signedXdr : String) : Op SignatureStatus := do
  match ← findPendingTransaction pendingTxId with
  | none => .raise (.notFound s!"Pending transaction {pendingTxId} not found")
  | some found =>
      let threshold := found.signerSet.threshold
      if found.tx.status = .submitted then
        return toStatus found.tx found.signatures found.signatures.length (some threshold)
      else match found.signers.find? fun s => s.publicKey = signerPublicKey with
        | none => .raise (.badRequest s!"\"{signerPublicKey}\" is not an authorized signer for this escrow account")
        | some signer => do
            let extracted ← .ofExcept (self.extractSignatures signedXdr)
            if extracted.isEmpty then .raise (.badRequest "signedXdr does not contain a signature")
            else do
              upsertSignature pendingTxId signer.id signedXdr
              let signatures ← findSignatures pendingTxId
              if signatures.length < threshold then
                return toStatus found.tx found.signatures signatures.length (some threshold)
              else trySubmit self found.tx.id found.tx.unsignedXdr signatures threshold

def getSignatureStatus (pendingTxId : String) : Op SignatureStatus := do
  match ← findPendingTransaction pendingTxId with
  | none => .raise (.notFound s!"Pending transaction {pendingTxId} not found")
  | some found =>
      return toStatus found.tx found.signatures found.signatures.length (some found.signerSet.threshold)

inductive Request where
  | registerSignerSet (companyId : String) (dto : RegisterSignerSetDto)
  | createPendingTransaction (signerSetId unsignedXdr : String) (description : Option String)
  | submitSignature (pendingTxId signerPublicKey signedXdr : String)
  | getSignatureStatus (pendingTxId : String)
  deriving DecidableEq, Repr

def service : System Request Empty Site Reply World Exception Response where
  handler
    | .registerSignerSet companyId dto => registerSignerSet companyId dto
    | .createPendingTransaction signerSetId unsignedXdr description => createPendingTransaction signerSetId unsignedXdr description
    | .submitSignature pendingTxId signerPublicKey signedXdr => do
        return .status (← submitSignature self pendingTxId signerPublicKey signedXdr)
    | .getSignatureStatus pendingTxId => do return .status (← getSignatureStatus pendingTxId)
  environment change := change.elim

end HireSettle.Multisig
