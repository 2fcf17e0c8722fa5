import HireSettle.Common.Calls
import HireSettle.Workflow.Pool
import HireSettle.Workflow.Table
import HireSettle.Workflow.Texts

/-! SEP-10 web authentication. A challenge is a transaction with a nonce in it, which
the server signs and stores; the client signs it too and sends it back. The nonce is
32 random bytes as base64 text, stored as such. The text is the value of the operation,
and reading it back encodes the bytes of the text once more. Keys, hashes and the XDR
are those of the chain's library. -/
namespace HireSettle.Stellar.Sep10
open Workflow

inductive Operation where
  | manageData (name : String) (value : Option (List Nat)) (source : Option String)
  | other
  deriving DecidableEq, Repr

structure Body where
  source : String
  sequence : Int
  fee : Nat
  minTime : Nat
  maxTime : Nat
  operations : List Operation
  memo : String
  deriving DecidableEq, Repr

structure Transaction where
  body : Body
  signatures : List String
  deriving DecidableEq, Repr

structure Sep10Challenge (Xdr : Type) where
  account : String
  nonce : String
  xdr : Xdr
  expiresAt : Nat
  usedAt : Option Nat := none

-- the unique index on the nonce
instance {Xdr : Type} : Keyed (Sep10Challenge Xdr) String := ⟨Sep10Challenge.nonce⟩

structure World (Xdr : Type) where
  challenges : Table (Sep10Challenge Xdr) := .empty
  clock : Nat := 0

structure Nonce where
  bytes : List Nat
  size : bytes.length = 32

def zeroNonce : Nonce := ⟨.replicate 32 0,rfl⟩

structure Answer where
  fails : Bool := false
  nonce : Nonce := zeroNonce

inductive Site where
  | randomBytes
  | createChallenge
  | findChallenge
  | markUsed
  deriving DecidableEq, Repr

abbrev Op (Xdr : Type) := Process Site Answer (World Xdr) Exception

structure Config (Xdr : Type) where
  serverKey : String
  networkPassphrase : String
  homeDomain : String := "hiresettle.com"
  fromPublicKey : String → Except Exception Unit
  hash : String → Body → String
  sign : String → String
  verify : (publicKey hash signature : String) → Except Exception Bool
  toXDR : Transaction → Xdr
  fromXDR : Xdr → Option Transaction

structure Challenge (Xdr : Type) where
  transaction : Xdr
  network_passphrase : String
  deriving DecidableEq, Repr

variable {Xdr : Type} (self : Config Xdr)

def CHALLENGE_TTL_SECONDS : Nat := 300

def BASE_FEE : Nat := 100

-- a name or a value of more than 64 bytes is refused
def manageData (name value source : String) : Except Exception Operation :=
  if 64 < utf16Length name ∨ 64 < (utf8 value).length then .error .stellar
  else .ok (.manageData name (some (utf8 value)) (some source))

def validateAccountId (account : String) : Except Exception Unit :=
  match self.fromPublicKey account with
  | .ok _ => .ok ()
  | .error _ => .error (.badRequest s!"Invalid Stellar account ID: {account}")

def challengeBody (operation : Operation) (now : Nat) : Body where
  source := self.serverKey
  sequence := 0
  fee := BASE_FEE
  minTime := now
  maxTime := now + CHALLENGE_TTL_SECONDS
  operations := [operation]
  memo := "SEP-10 challenge"

def createChallenge (account : String) : Op Xdr (Challenge Xdr) := do
  .ofExcept (validateAccountId self account)
  let (nonce,now) ← .query .randomBytes fun answer w => .ok (Base64.write answer.nonce.bytes,w.clock / 1000)
  let operation ← .ofExcept (manageData s!"{self.homeDomain} auth" nonce account)
  let body := challengeBody self operation now
  let xdr := self.toXDR ⟨body,[self.sign (self.hash self.networkPassphrase body)]⟩
  .transact .createChallenge fun answer w =>
    if answer.fails then .error .database
    else match w.challenges.create
      { account := account
        nonce := nonce
        xdr := xdr
        expiresAt := (now + CHALLENGE_TTL_SECONDS) * 1000 } with
      | none => .error .uniqueViolation
      | some challenges => .ok ((),{ w with challenges := challenges })
  return ⟨xdr,self.networkPassphrase⟩

def Operation.isManageData : Operation → Bool
  | .manageData _ _ _ => true
  | .other => false

def manageDataValue (tx : Transaction) : Option (List Nat) :=
  match tx.body.operations.find? Operation.isManageData with
  | some (.manageData _ value _) => value
  | _ => none

def verifyChallenge (signedXdr : Xdr) : Op Xdr String :=
  match self.fromXDR signedXdr with
  | none => .raise (.badRequest "Invalid transaction XDR")
  | some tx =>
      match manageDataValue tx with
      | none => .raise (.badRequest "Challenge transaction is missing manageData operation")
      | some value => do
          let nonce := Base64.write value
          let (found,now) ← .query .findChallenge fun answer w =>
            if answer.fails then .error .database else .ok (w.challenges.get? nonce,w.clock)
          match found with
          | none => .raise (.unauthorized "Challenge not found")
          | some challenge =>
              if challenge.usedAt.isSome then .raise (.unauthorized "Challenge already used")
              else if challenge.expiresAt < now then .raise (.unauthorized "Challenge expired")
              else do
                let hash := self.hash self.networkPassphrase tx.body
                let serverSigned ← .ofExcept (tx.signatures.anyM (self.verify self.serverKey hash))
                if !serverSigned then .raise (.unauthorized "Server signature missing")
                else do
                  .ofExcept (self.fromPublicKey challenge.account)
                  let clientSigned := tx.signatures.any fun signature =>
                    match self.verify challenge.account hash signature with
                    | .ok valid => valid
                    | .error _ => false
                  if !clientSigned then .raise (.unauthorized "Client signature invalid or missing")
                  else do
                    .transact .markUsed fun answer w =>
                      if answer.fails then .error .database
                      else match w.challenges.modify nonce fun row => { row with usedAt := some w.clock } with
                        | none => .error .recordNotFound
                        | some (_,challenges) => .ok ((),{ w with challenges := challenges })
                    return challenge.account

inductive Request (Xdr : Type) where
  | createChallenge (account : String)
  | verifyChallenge (signedXdr : Xdr)
  deriving DecidableEq, Repr

inductive Reply (Xdr : Type) where
  | challenge (challenge : Challenge Xdr)
  | account (account : String)
  deriving DecidableEq, Repr

def handler : Request Xdr → Op Xdr (Reply Xdr)
  | .createChallenge account => return .challenge (← createChallenge self account)
  | .verifyChallenge signedXdr => return .account (← verifyChallenge self signedXdr)

def service : System (Request Xdr) Nat Site Answer (World Xdr) Exception (Reply Xdr) where
  handler := handler self
  environment elapsed w := { w with clock := w.clock + elapsed }

abbrev Sep10Move (Xdr : Type) := Move (Request Xdr) Nat Answer

/-- Only nonces that `createChallenge` writes are stored. -/
def Issued (w : World Xdr) : Prop := ∀ row ∈ w.challenges.rows, ∃ nonce : Nonce, row.nonce = Base64.write nonce.bytes

/-- The transaction carries a nonce as `createChallenge` writes it. -/
def Carries (tx : Transaction) : Prop := ∃ nonce : Nonce, manageDataValue tx = some (utf8 (Base64.write nonce.bytes))

/-- What `toXDR` writes is read back. -/
def Config.ReadsBack : Prop := ∀ tx, self.fromXDR (self.toXDR tx) = some tx

def signed (tx : Transaction) (signature : String) : Transaction := { tx with signatures := tx.signatures ++ [signature] }

section Lookups

theorem lengthNonce (nonce : Nonce) : (Base64.write nonce.bytes).length = 44 := by rw [Base64.lengthWrite,nonce.size]

/-- The text of a nonce, encoded again, is no nonce. -/
theorem nonceEncodedTwice (nonce nonce' : Nonce) : Base64.write nonce.bytes ≠ Base64.write (utf8 (Base64.write nonce'.bytes)) := by
  intro same
  have lengths := congrArg String.length same
  have written := lengthUtf8 (Base64.write nonce'.bytes)
  rw [lengthNonce,Base64.lengthWrite] at lengths
  rw [lengthNonce] at written
  omega

theorem neverFound {w : World Xdr} (issued : Issued w) (nonce : Nonce) :
    w.challenges.get? (Base64.write (utf8 (Base64.write nonce.bytes))) = none := by
  cases found : w.challenges.get? (Base64.write (utf8 (Base64.write nonce.bytes))) with
  | none => rfl
  | some row =>
    obtain ⟨nonce',its⟩ := issued row (Table.getMem found)
    exact absurd (its.symm.trans (Table.getKey found)) (nonceEncodedTwice nonce' nonce)

end Lookups

section Runs

def issuing : Contract Site Answer (World Xdr) Unit where
  inv c _ := Issued c.world
  admits _ _ := True

def Ends : Request Xdr → Except Exception (Reply Xdr) → Unit → Prop
  | .createChallenge _, out, _ => ∀ challenge, out = .ok (.challenge challenge) →
      ∃ tx, Carries tx ∧ challenge.transaction = self.toXDR tx
  | .verifyChallenge signedXdr, out, _ => ∀ tx, self.fromXDR signedXdr = some tx → Carries tx → ∀ reply, out ≠ .ok reply

theorem issuedCreate {w : World Xdr} {row : Sep10Challenge Xdr} {challenges : Table (Sep10Challenge Xdr)} (issued : Issued w)
    (created : w.challenges.create row = some challenges) {nonce : Nonce} (its : row.nonce = Base64.write nonce.bytes) :
    Issued { w with challenges := challenges } := by
  intro other inside
  obtain old | rfl := (Table.memCreate created).mp inside
  · exact issued other old
  · exact ⟨nonce,its⟩

theorem issuedModify {w : World Xdr} {nonce : String} {f : Sep10Challenge Xdr → Sep10Challenge Xdr} {keeps : ∀ row, (f row).nonce = row.nonce}
    {row : Sep10Challenge Xdr} {challenges : Table (Sep10Challenge Xdr)} (issued : Issued w)
    (modified : w.challenges.modify nonce f keeps = some (row,challenges)) : Issued { w with challenges := challenges } := by
  obtain ⟨_,_,_,rfl⟩ := Table.modifyGet modified
  intro other inside
  obtain ⟨old,there,rfl⟩ := List.mem_map.mp inside
  obtain ⟨nonce',its⟩ := issued old there
  refine ⟨nonce',?_⟩
  split
  · exact (keeps old).trans its
  · exact its

theorem issuingIgnores (site : Site) : (issuing : Contract Site Answer (World Xdr) Unit).Ignores site := fun _ _ _ _ issued => issued

theorem manageDataWritten {name value source : String} {operation : Operation} (made : manageData name value source = .ok operation)
    (now : Nat) (signatures : List String) : manageDataValue ⟨challengeBody self operation now,signatures⟩ = some (utf8 value) := by
  unfold manageData at made
  split at made
  · contradiction
  · cases made
    rfl

theorem safeCreateChallenge (account : String) :
    Safe issuing (Ends self (.createChallenge account)) (handler self (.createChallenge account)) () := by
  refine safeBind (safeChecked (fun _ _ => ?_) fun _ => nofun)
  refine safeAsk (issuingIgnores _) (fun c frame i drawn issued same => ?_) fun _ => nofun
  cases same
  refine safeChecked (fun operation made => ?_) fun _ => nofun
  refine safeBind (safeTransact (fun c frame thread i' value after issued' created _ => ?_) fun c frame thread i error issued' _ =>
    ⟨issued',nofun⟩)
  split at created
  · contradiction
  · split at created
    · contradiction
    · rename_i challenges stored
      cases created
      refine ⟨(),issuedCreate issued' stored rfl,fun challenge same => ?_⟩
      cases same
      exact ⟨_,⟨i.nonce,manageDataWritten self made _ _⟩,rfl⟩

theorem harmlessVerifyChallenge (signedXdr : Xdr) : Safe issuing anyEnd (verifyChallenge self signedXdr) () := by
  unfold verifyChallenge
  split
  · trivial
  · split
    · trivial
    · refine safeAsk (issuingIgnores _) (fun c frame i found issued same => ?_) fun _ => trivial
      obtain ⟨found,now⟩ := found
      cases found with
      | none => trivial
      | some challenge =>
        dsimp only
        split
        · trivial
        · split
          · trivial
          · refine safeChecked (fun serverSigned _ => ?_) fun _ => trivial
            split
            · trivial
            · refine safeChecked (fun _ _ => ?_) fun _ => trivial
              split
              · trivial
              · refine safeThen (safeTransact (fun c frame thread i value after issued' modified _ => ?_)
                  fun c frame thread i error issued' _ => ⟨issued',trivial⟩) fun _ _ => trivial
                split at modified
                · contradiction
                · split at modified
                  · contradiction
                  · rename_i made
                    cases modified
                    exact ⟨(),issuedModify issued' made,trivial⟩

theorem safeVerifyChallenge (signedXdr : Xdr) :
    Safe issuing (Ends self (.verifyChallenge signedXdr)) (handler self (.verifyChallenge signedXdr)) () := by
  by_cases carries : ∃ tx, self.fromXDR signedXdr = some tx ∧ Carries tx
  · obtain ⟨tx,read,nonce,carried⟩ := carries
    refine safeBind ?_
    unfold verifyChallenge
    rw [read]
    dsimp only
    rw [carried]
    refine safeAsk (issuingIgnores _) (fun c frame i found issued same => ?_) fun _ _ _ _ => (by simp)
    split at same
    · contradiction
    · cases same
      rw [neverFound issued nonce]
      exact fun _ _ _ _ => (by simp)
  · have others : Safe issuing anyEnd (handler self (.verifyChallenge signedXdr)) () :=
      safeThen (harmlessVerifyChallenge self signedXdr) fun _ _ => trivial
    exact safeMono (fun _ _ _ tx read carried => absurd ⟨tx,read,carried⟩ carries) others

theorem safeHandler (request : Request Xdr) : Safe issuing (Ends self request) (handler self request) () := by
  cases request with
  | createChallenge account => exact safeCreateChallenge self account
  | verifyChallenge signedXdr => exact safeVerifyChallenge self signedXdr

/-- No run ever accepts a challenge that `createChallenge` has issued, whoever signs it. -/
theorem challengeNeverAccepted (reads : self.ReadsBack) (w : World Xdr) (issued : Issued w) (moves : List (Sep10Move Xdr)) (j k : Nat)
    (account : String) (challenge : Challenge Xdr) (tx : Transaction) (signature : String) (p : Op Xdr (Reply Xdr))
    (created : ((service self).run (Pool.initial w) moves).threads[j]? = some ⟨.createChallenge account,.ret (.challenge challenge)⟩)
    (read : self.fromXDR challenge.transaction = some tx)
    (returned : ((service self).run (Pool.initial w) moves).threads[k]? = some ⟨.verifyChallenge (self.toXDR (signed tx signature)),p⟩) :
    ∀ reply, p ≠ .ret reply := by
  have start : Secured issuing (Ends self) (Pool.initial w : Pool (Request Xdr) Site Answer (World Xdr) Exception (Reply Xdr)) :=
    securedInitial issued
  have run : Secured issuing (Ends self) ((service self).run (Pool.initial w) moves) :=
    securedRun (safeHandler self) (fun _ _ _ issued => issued) start moves (meetsAlways (fun _ _ => trivial) _)
  obtain ⟨_,_,first,_⟩ := securedReturned run created
  obtain ⟨tx',carried,same⟩ := first challenge rfl
  rw [same,reads] at read
  cases read
  rintro reply rfl
  obtain ⟨_,_,second,_⟩ := securedReturned run returned
  exact second (signed tx signature) (reads _) carried reply rfl

/-- A library whose keys sign by their name. -/
def plain : Config Transaction where
  serverKey := "GS"
  networkPassphrase := "Test SDF Network ; September 2015"
  fromPublicKey key := if key.toList.head? = some 'G' then .ok () else .error .stellar
  hash passphrase body := passphrase ++ "/" ++ toString body.minTime
  sign hash := "GS:" ++ hash
  verify key hash signature := .ok (signature = key ++ ":" ++ hash)
  toXDR := id
  fromXDR := some

def issuedTransaction : Transaction where
  body :=
    { source := "GS"
      sequence := 0
      fee := 100
      minTime := 0
      maxTime := 300
      operations := [.manageData "hiresettle.com auth" (some (utf8 (Base64.write (.replicate 32 0)))) (some "GA")]
      memo := "SEP-10 challenge" }
  signatures := ["GS:Test SDF Network ; September 2015/0"]

def clientSignature : String := "GA:Test SDF Network ; September 2015/0"

/-- The client signs the challenge at once and returns it. -/
def signedAndReturned : List (Sep10Move Transaction) :=
  [.start (.createChallenge "GA"),.answer 0 {},.answer 0 {},.start (.verifyChallenge (signed issuedTransaction clientSignature)),
    .answer 1 {},.answer 1 {},.answer 1 {}]

def outcome : Op Transaction (Reply Transaction) → Option (Except Exception (Reply Transaction))
  | .ret reply => some (.ok reply)
  | .raise error => some (.error error)
  | .call _ _ _ => none

theorem signedChallengeNotAccepted : ¬ ∃ reply, ((service plain).run (Pool.initial {}) signedAndReturned).threads[1]? =
    some ⟨.verifyChallenge (plain.toXDR (signed issuedTransaction clientSignature)),.ret reply⟩ :=
  fun ⟨reply,returned⟩ => challengeNeverAccepted plain (fun _ => rfl) {} nofun signedAndReturned 0 1 "GA"
    ⟨issuedTransaction,plain.networkPassphrase⟩ issuedTransaction clientSignature (.ret reply) (by rfl) rfl returned reply rfl

theorem validResponseRejected :
    plain.verify "GA" (plain.hash plain.networkPassphrase issuedTransaction.body) clientSignature = .ok true ∧
    ((service plain).run (Pool.initial {}) signedAndReturned).threads.map (fun t => outcome t.process) =
      [some (.ok (.challenge ⟨issuedTransaction,plain.networkPassphrase⟩)),
        some (.error (.unauthorized "Challenge not found"))] := by
  decide +kernel

end Runs

end HireSettle.Stellar.Sep10
