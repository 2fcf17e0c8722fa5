import HireSettle.Escrow.ChainEvents
import HireSettle.Escrow.Engagements
import HireSettle.Workflow.Sequential

/-! The comparison of engagements with the chain. What the contract still holds for
an engagement is compared with the balance of the contract's account, which is one
for all engagements of a token. -/
namespace HireSettle.Escrow
open Workflow

/-- A balance in the account that Horizon shows. -/
structure HorizonBalance where
  assetType : String
  assetCode : Option String := none
  assetIssuer : Option String := none
  balance : String
  deriving DecidableEq, Repr

structure HorizonAccount where
  balances : List HorizonBalance
  balance : Option String := none
  deriving DecidableEq, Repr

inductive MismatchKind where
  | balanceDrift | statusDrift | notFoundOnChain
  deriving DecidableEq, Repr

structure ReconciliationMismatch where
  engagementId : String
  dbEscrowBalance : String
  onChainEscrowBalance : String
  dbReleasedAmount : String
  onChainReleasedAmount : String
  dbStatus : String
  onChainStatus : String
  kind : MismatchKind
  detectedAt : String
  deriving DecidableEq, Repr

structure ReconciliationReport where
  runAt : String
  totalChecked : Nat
  totalMatched : Nat
  totalMismatched : Nat
  mismatches : List ReconciliationMismatch
  deriving DecidableEq, Repr

variable (self : Config)

namespace StellarService

def usdcToStroops (usdc : String) : Except Exception Int :=
  let parts := usdc.toList.splitOn '.'
  let fraction := parts[1]?.getD []
  let padded := (fraction ++ List.replicate (7 - fraction.length) '0').take 7
  match self.bigIntOf (String.ofList (parts.head?.getD [])),self.bigIntOf (String.ofList padded) with
  | some whole,some fraction => .ok (whole * 10000000 + fraction)
  | _, _ => .error .syntaxError

/-- The balance of an account from what Horizon answers, none when it finds no account. -/
def getBalance (account : Option HorizonAccount) (tokenAddress : String) : Except Exception Int :=
  let isNative := tokenAddress = "native" ∨ tokenAddress = "XLM"
  if ¬ isNative ∧ !self.isTokenAllowed tokenAddress then .error (.badRequest s!"Token {tokenAddress} is not allowed")
  else match account with
    | none => .error (.badRequest "Stellar account not found or not accessible")
    | some account =>
        if isNative then
          let native := account.balances.find? fun b => b.assetType = "native"
          usdcToStroops self (((native.map HorizonBalance.balance).or account.balance).getD "0")
        else
          let trustline := account.balances.find? fun b =>
            match present b.assetCode,present b.assetIssuer with
            | some code,some issuer => s!"{code}:{issuer}" = tokenAddress
            | _, _ => false
          match trustline with
          | none => .ok 0
          | some trustline => usdcToStroops self trustline.balance

end StellarService

namespace ReconciliationService

def ACTIVE_STATUSES : List EngagementStatus := [.active,.replacementRequested]

def onChainStatus : String → String
  | "Active" => EngagementStatus.active.text
  | "Completed" => EngagementStatus.completed.text
  | "Cancelled" => EngagementStatus.cancelled.text
  | "ReplacementRequested" => EngagementStatus.replacementRequested.text
  | raw => raw

def notFound (engagement : Engagement) (amount status detectedAt : String) : ReconciliationMismatch where
  engagementId := engagement.id
  dbEscrowBalance := toString (engagement.totalAmount - engagement.releasedAmount)
  onChainEscrowBalance := amount
  dbReleasedAmount := toString engagement.releasedAmount
  onChainReleasedAmount := amount
  dbStatus := engagement.status.text
  onChainStatus := status
  kind := .notFoundOnChain
  detectedAt := detectedAt

def checkEngagement (engagement : Engagement) : Op (Option ReconciliationMismatch) := do
  let onChain ← EngagementsService.getEngagementOnChain engagement.id
  match onChain with
  | none => do
      let at' ← now
      return some (notFound engagement "0" "NotFound" (self.toISOString at'))
  | some (status,releasedAmount) => do
      let escrowBalance ← stellar (.getBalance engagement.id) Answer.number
      let dbEscrowBalance := engagement.totalAmount - engagement.releasedAmount
      let balanceDrift := escrowBalance ≠ dbEscrowBalance
      let releasedDrift := releasedAmount ≠ engagement.releasedAmount
      let statusDrift := onChainStatus status ≠ engagement.status.text
      if ¬ balanceDrift ∧ ¬ releasedDrift ∧ ¬ statusDrift then return none
      else do
        let at' ← now
        return some
          { engagementId := engagement.id
            dbEscrowBalance := toString dbEscrowBalance
            onChainEscrowBalance := toString escrowBalance
            dbReleasedAmount := toString engagement.releasedAmount
            onChainReleasedAmount := toString releasedAmount
            dbStatus := engagement.status.text
            onChainStatus := onChainStatus status
            kind := if statusDrift ∧ ¬ balanceDrift then .statusDrift else .balanceDrift
            detectedAt := self.toISOString at' }

-- a chain read that fails counts as a mismatch
def checkOrSkip (engagement : Engagement) : Op (Option ReconciliationMismatch) :=
  (checkEngagement self engagement).handle fun _ => do
    let at' ← now
    return some (notFound engagement "unknown" "unknown" (self.toISOString at'))

def findActive : Op (List Engagement) :=
  find .engagement fun db => db.engagements.findMany fun row => ACTIVE_STATUSES.contains row.status && row.txHash.isSome

def runReconciliation : Op ReconciliationReport := do
  let runAt ← now
  let engagements ← findActive
  let mismatches ← .foldEach (fun mismatches engagement => do
    let mismatch ← checkOrSkip self engagement
    return mismatches ++ mismatch.toList) [] engagements
  return {
    runAt := self.toISOString runAt
    totalChecked := engagements.length
    totalMatched := engagements.length - mismatches.length
    totalMismatched := mismatches.length
    mismatches := mismatches }

end ReconciliationService

/-- What the contract and Horizon answer. -/
structure ContractState where
  engagements : String → Option (String × Int)
  account : Option HorizonAccount

/-- The answers of a chain that can be read, and of a database that does not fail. -/
def ContractState.respond (chain : ContractState) (db : Db) : Site → Answer
  | .simulateContract engagementId =>
      match chain.engagements engagementId with
      | some (status,releasedAmount) => { text := status, number := releasedAmount }
      | none => {}
  | .getBalance engagementId =>
      match (db.engagements.get? engagementId).map fun row => StellarService.getBalance self chain.account row.tokenAddress with
      | some (.ok balance) => { number := balance }
      | some (.error _) | none => { fails := true }
  | _ => {}

namespace ReconciliationService

/-- The engagements that have an escrow on the contract. -/
def live (db : Db) : List Engagement := db.engagements.findMany fun row => ACTIVE_STATUSES.contains row.status

def escrowOf (row : Engagement) : Int := row.totalAmount - row.releasedAmount

def escrowed (db : Db) (tokenAddress : String) : Int :=
  (((live db).filter fun row => row.tokenAddress = tokenAddress).map escrowOf).sum

def Mirrored (chain : ContractState) (row : Engagement) : Prop :=
  match chain.engagements row.id with
  | some (status,releasedAmount) => status ≠ "" ∧ releasedAmount = row.releasedAmount ∧ onChainStatus status = row.status.text
  | none => False

instance (chain : ContractState) (row : Engagement) : Decidable (Mirrored chain row) := by unfold Mirrored; split <;> infer_instance

/-- The chain agrees with the database on every live engagement and every token. -/
structure Agrees (config : Config) (chain : ContractState) (db : Db) : Prop where
  engagements : ∀ row ∈ live db, Mirrored chain row
  balances : ∀ row ∈ live db, StellarService.getBalance config chain.account row.tokenAddress = .ok (escrowed db row.tokenAddress)

def reported (chain : ContractState) (db : Db) : Except Exception ReconciliationReport :=
  ((runReconciliation self).interpret (chain.respond self db) db).1

def syncedDb (chain : ContractState) (db : Db) (engagementId : String) : Db :=
  ((EngagementsService.syncFromChain engagementId).interpret (chain.respond self db) db).2

/-- The other live engagements of the token have nothing left in escrow. -/
def Alone (db : Db) (row : Engagement) : Prop :=
  (((live db).filter fun other => other.tokenAddress = row.tokenAddress && other.id ≠ row.id).map escrowOf).sum = 0

instance (db : Db) (row : Engagement) : Decidable (Alone db row) := by unfold Alone; infer_instance

section Alarms

variable {self} {chain : ContractState} {db : Db} {row : Engagement}

theorem liveFound (inside : row ∈ live db) : db.engagements.get? row.id = some row := (Table.findManyGet inside).1

theorem sumOthers {rows : List Engagement} (unique : (rows.map Engagement.id).Nodup) (inside : row ∈ rows) (p : Engagement → Bool)
    (its : p row = true) : ((rows.filter p).map escrowOf).sum =
      escrowOf row + ((rows.filter fun other => p other && other.id ≠ row.id).map escrowOf).sum := by
  induction rows with
  | nil => cases inside
  | cons first rest ih =>
    obtain ⟨fresh,unique⟩ := List.nodup_cons.mp unique
    rcases List.mem_cons.mp inside with rfl | later
    · have others : rest.filter (fun other => p other && other.id ≠ row.id) = rest.filter p := by
        refine List.filter_congr fun other there => ?_
        have apart : other.id ≠ row.id := fun same => fresh (same ▸ List.mem_map_of_mem there)
        simp [apart]
      simp only [List.filter_cons,its,others]
      simp
    · have apart : first.id ≠ row.id := fun same => fresh (same ▸ List.mem_map_of_mem later)
      have rest' := ih unique later
      simp only [List.filter_cons]
      cases here : p first with
      | true => simp [apart,rest']; omega
      | false => simpa using rest'

theorem escrowedAlone (inside : row ∈ live db) : escrowed db row.tokenAddress = escrowOf row ↔ Alone db row := by
  have unique : ((live db).map Engagement.id).Nodup := db.engagements.unique.sublist (List.filter_sublist.map _)
  have split := sumOthers unique inside (fun other => other.tokenAddress = row.tokenAddress) (by simp)
  unfold escrowed Alone
  rw [split]
  omega

theorem respondBalance (agrees : Agrees self chain db) (inside : row ∈ live db) :
    chain.respond self db (.getBalance row.id) = { number := escrowed db row.tokenAddress } := by
  simp only [ContractState.respond,liveFound inside,Option.map_some,agrees.balances row inside]

theorem readsLive (agrees : Agrees self chain db) (inside : row ∈ live db) :
    (∃ status, onChainStatus status = row.status.text ∧
      (EngagementsService.getEngagementOnChain row.id).interpret (chain.respond self db) db = (.ok (some (status,row.releasedAmount)),db)) ∧
    (stellar (.getBalance row.id) Answer.number).interpret (chain.respond self db) db = (.ok (escrowed db row.tokenAddress),db) := by
  have mirrored := agrees.engagements row inside
  unfold Mirrored at mirrored
  constructor
  · cases found : chain.engagements row.id with
    | none =>
      rw [found] at mirrored
      exact mirrored.elim
    | some onChain =>
      obtain ⟨status,releasedAmount⟩ := onChain
      rw [found] at mirrored
      obtain ⟨named,released,same⟩ := mirrored
      refine ⟨status,same,?_⟩
      simp [EngagementsService.getEngagementOnChain,stellar,ContractState.respond,found,present,named,released]
  · simp [stellar,respondBalance agrees inside]

theorem checkedLive (agrees : Agrees self chain db) (inside : row ∈ live db) :
    ∃ mismatch, (checkOrSkip self row).interpret (chain.respond self db) db = (.ok mismatch,db) ∧
      (mismatch = none ↔ escrowed db row.tokenAddress = escrowOf row) := by
  obtain ⟨⟨status,same,onChain⟩,held⟩ := readsLive agrees inside
  have time : now.interpret (chain.respond self db) db = (.ok db.clock,db) := by simp [now]
  by_cases own : escrowed db row.tokenAddress = escrowOf row
  · refine ⟨none,?_,by simp [own]⟩
    have drift : escrowed db row.tokenAddress = row.totalAmount - row.releasedAmount := own
    simp [checkOrSkip,checkEngagement,interpretHandle,interpretBind,onChain,held,drift,same]
  · have drift : ¬ escrowed db row.tokenAddress = row.totalAmount - row.releasedAmount := own
    obtain ⟨mismatch,checked⟩ : ∃ mismatch,
        (checkOrSkip self row).interpret (chain.respond self db) db = (.ok (some mismatch),db) := by
      simp [checkOrSkip,checkEngagement,interpretHandle,interpretBind,onChain,held,drift,same,time]
    exact ⟨some mismatch,checked,by simp [own]⟩

/-- The loop over the engagements finds a mismatch unless each check is clean. -/
theorem checkedAll (agrees : Agrees self chain db) {rows : List Engagement} (inside : ∀ row ∈ rows, row ∈ live db)
    (mismatches : List ReconciliationMismatch) :
    ∃ found, (Process.foldEach (fun mismatches engagement => do
        let mismatch ← checkOrSkip self engagement
        return mismatches ++ mismatch.toList) mismatches rows : Op (List ReconciliationMismatch)).interpret (chain.respond self db) db =
          (.ok (mismatches ++ found),db) ∧
      (found = [] ↔ ∀ row ∈ rows, escrowed db row.tokenAddress = escrowOf row) := by
  induction rows generalizing mismatches with
  | nil => exact ⟨[],by simp [Process.foldEach],by simp⟩
  | cons row rest ih =>
    obtain ⟨mismatch,checked,clean⟩ := checkedLive agrees (inside row List.mem_cons_self)
    obtain ⟨found,others,cleans⟩ := ih (fun other later => inside other (List.mem_cons_of_mem _ later)) (mismatches ++ mismatch.toList)
    refine ⟨mismatch.toList ++ found,?_,?_⟩
    · rw [← List.append_assoc,← others]
      simp [Process.foldEach,interpretBind,checked]
    · simp [← clean,cleans]

theorem reportedClean (agrees : Agrees self chain db) : ∃ report, reported self chain db = .ok report ∧
    (report.totalMismatched = 0 ↔ ∀ row ∈ live db, row.txHash.isSome → escrowed db row.tokenAddress = escrowOf row) := by
  let rows := db.engagements.findMany fun row => ACTIVE_STATUSES.contains row.status && row.txHash.isSome
  have submitted : ∀ row, row ∈ rows ↔ row ∈ live db ∧ row.txHash.isSome := by
    intro row
    simp [rows,live,Table.findMany,and_assoc]
  have time : now.interpret (chain.respond self db) db = (.ok db.clock,db) := by simp [now]
  have active : findActive.interpret (chain.respond self db) db = (.ok rows,db) := by
    simp [findActive,find,ContractState.respond,rows]
  obtain ⟨found,ran,clean⟩ := checkedAll agrees (fun row inside => ((submitted row).mp inside).1) []
  obtain ⟨report,answered,count⟩ : ∃ report, reported self chain db = .ok report ∧ report.totalMismatched = found.length := by
    rw [List.nil_append] at ran
    simp only [reported,runReconciliation,interpretBind,time,active,ran]
    exact ⟨_,rfl,rfl⟩
  refine ⟨report,answered,?_⟩
  rw [count,List.length_eq_zero_iff,clean]
  exact ⟨fun each row inside hash => each row ((submitted row).mpr ⟨inside,hash⟩),
    fun each row inside => each row ((submitted row).mp inside).1 ((submitted row).mp inside).2⟩

theorem writtenEngagement {respond : Site → Answer} {site : Site} (found : db.engagements.get? row.id = some row)
    (f : Engagement → Engagement) (keeps : ∀ e, (f e).id = e.id) (answered : (respond site).fails = false) :
    (write site fun _ db => db.updateEngagement row.id f keeps).interpret respond db =
      (.ok (f row),{ db with engagements := db.engagements.update row.id f keeps }) := by
  have done : db.updateEngagement row.id f keeps = .ok (f row,{ db with engagements := db.engagements.update row.id f keeps }) := by
    simp [Db.updateEngagement,Table.modify,found,required]
  simp [write,answered,done,Process.applied,Except.map]

theorem syncedRow (agrees : Agrees self chain db) (inside : row ∈ live db) :
    ∃ row', (syncedDb self chain db row.id).engagements.get? row.id = some row' ∧
      (row'.fundingShortfall = false ↔ escrowed db row.tokenAddress = escrowOf row) := by
  obtain ⟨⟨status,same,onChain⟩,held⟩ := readsLive agrees inside
  have found : (find .engagement fun db => db.engagements.get? row.id).interpret (chain.respond self db) db = (.ok (some row),db) := by
    simp [find,ContractState.respond,liveFound inside]
  have notified : ∀ (alarm : Prop) [Decidable alarm] (db' : Db),
      (if alarm then (do notify; notify) else return : Op Unit).interpret (chain.respond self db) db' = (.ok (),db') := by
    intro alarm _ db'
    split <;> simp [notify,interpretBind]
  let shortfall : Bool := escrowed db row.tokenAddress ≠ row.totalAmount - row.releasedAmount
  let updated (row' : Engagement) : Engagement :=
    { EngagementsService.synced status row.releasedAmount (escrowed db row.tokenAddress) row' with fundingShortfall := shortfall }
  have synced : syncedDb self chain db row.id = { db with engagements := db.engagements.update row.id updated } := by
    have wrote : (write (.syncEngagement row.id) fun _ db => db.updateEngagement row.id updated (fun _ => rfl)).interpret
        (chain.respond self db) db = (.ok (updated row),{ db with engagements := db.engagements.update row.id updated }) :=
      writtenEngagement (liveFound inside) updated (fun _ => rfl) rfl
    simp only [syncedDb,EngagementsService.syncFromChain,interpretHandle,EngagementsService.sync,interpretBind,onChain,found,held]
    simp only [updated,shortfall] at wrote ⊢
    rw [wrote]
    simp only [notified]
  refine ⟨updated row,?_,?_⟩
  · rw [synced]
    exact Table.getUpdateSelf (liveFound inside) updated fun _ => rfl
  · simp [updated,shortfall,escrowOf]

def digits (text : String) : Option Int := text.toList.foldl (fun n c => n.map fun n => n * 10 + (c.toNat - 48 : Nat)) (some 0)

def reading : Config where
  bigIntOf := digits

def engaged (id tokenAddress : String) (totalAmount releasedAmount : Int) : Engagement where
  id := id
  companyAddress := "GC"
  recruiterAddress := "GR"
  arbiterAddress := "GA"
  tokenAddress := tokenAddress
  totalAmount := totalAmount
  releasedAmount := releasedAmount
  txHash := some "h"

def apartDb : Db where
  engagements := ⟨[engaged "e" "USDC:G" 1000 300,engaged "f" "XLM" 500 0],by decide⟩

def apartChain : ContractState where
  engagements id := if id = "e" then some ("Active",300) else some ("Active",0)
  account := some { balances := [{ assetType := "credit_alphanum4", assetCode := some "USDC", assetIssuer := some "G", balance := "0.0000700" },
    { assetType := "native", balance := "0.0000500" }] }

/-- Two engagements of one token, whose escrows the contract's account holds together. -/
def sharedDb : Db where
  engagements := ⟨[engaged "e" "USDC:G" 1000 300,engaged "f" "USDC:G" 500 0],by decide⟩

def sharedChain : ContractState where
  engagements id := if id = "e" then some ("Active",300) else some ("Active",0)
  account := some { balances := [{ assetType := "credit_alphanum4", assetCode := some "USDC", assetIssuer := some "G", balance := "0.0001200" }] }

end Alarms

end ReconciliationService

end HireSettle.Escrow
