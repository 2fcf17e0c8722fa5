import HireSettle.Common.SystemConfig
import HireSettle.Escrow.Reconciliation

/-! Whether an account exists and has funds, read from the account that Horizon shows.
The check takes each balance for an integer; what a payment is compared with is the
balance in stroops, read from the same text as a decimal. -/
namespace HireSettle.Escrow
open Workflow Numerals

/-- What the request for an account comes to: a failure, an answer that is not ok, or one
whose body is read. -/
inductive HorizonResponse where
  | unreachable
  | notOk
  | ok (json : Except Exception HorizonAccount)

variable (self : Config)

namespace StellarService

def BigInt (text : String) : Except Exception Int :=
  match self.bigIntOf text with
  | some n => .ok n
  | none => .error .syntaxError

-- `some` stops at the first balance that is positive
def somePositive : List HorizonBalance → Except Exception Bool
  | [] => return false
  | b :: rest => do
      let balance ← BigInt self b.balance
      if 0 < balance then return true else somePositive rest

def isFunded (account : HorizonAccount) : Except Exception Bool := do
  let nativeBalance ← BigInt self (account.balance.getD "0")
  if 0 < nativeBalance then return true else somePositive self account.balances

def accountExists (response : HorizonResponse) (requireFunded : Bool) : Bool :=
  match response with
  | .unreachable => false
  | .notOk => false
  | .ok json =>
      if !requireFunded then true
      else match json.bind (isFunded self) with
        | .ok funded => funded
        | .error _ => false

end StellarService

/-- A balance in the format of Horizon: a decimal with at most seven digits behind the point. -/
structure Shows (b : HorizonBalance) (d : Decimal) : Prop where
  text : b.balance = String.ofList d.text
  places : d.places.length ≤ 7

def Positive (b : HorizonBalance) : Prop := ∃ d, Shows b d ∧ 0 < d.value

/-- The two checks of an account agree: it counts as funded exactly when a balance is positive,
which is when the balance in stroops is. -/
def ReadAlike (account : HorizonAccount) : Prop :=
  (StellarService.accountExists self (.ok (.ok account)) true = true ↔ ∃ b ∈ account.balances, Positive b) ∧
  ∀ b ∈ account.balances, Positive b ↔ ∃ stroops, StellarService.usdcToStroops self b.balance = .ok stroops ∧ 0 < stroops

section Balances

variable {self} {b : HorizonBalance} {d : Decimal} (reads : self.bigIntOf = bigIntOf)

include reads

theorem bigIntPlain {digits : List Char} (plain : digits.all Char.isDigit = true) (nonempty : digits ≠ []) :
    self.bigIntOf (String.ofList digits) = .some (Nat.ofDigitChars 10 digits 0 : Nat) := by
  rw [reads,bigIntOf,trimDigits (by rwa [String.toList_ofList]),String.toList_ofList,Numerals.bigIntDigits plain nonempty]

theorem bigIntPointed {places : List Char} (shows : Shows b d) (point : d.fraction = some places) : self.bigIntOf b.balance = none := by
  have plain : ∀ c ∈ (String.ofList d.text).toList, isSpace c = false := by
    intro c inside
    rw [String.toList_ofList,Decimal.text,point] at inside
    obtain digit | inside := List.mem_append.mp inside
    · exact digitNoSpace (List.all_eq_true.mp d.wholeDigits c digit)
    · obtain rfl | digit := List.mem_cons.mp inside
      · rfl
      · exact digitNoSpace (List.all_eq_true.mp (d.fractionDigits places point) c digit)
  rw [reads,shows.text,bigIntOf,trimPlain plain,String.toList_ofList,Numerals.bigIntPoint point]

theorem stroopsShown (shows : Shows b d) :
    ∃ stroops : Nat, StellarService.usdcToStroops self b.balance = .ok stroops ∧ (stroops : ℚ) = d.value * 10 ^ 7 := by
  have parts : d.text.splitOn '.' = d.whole :: d.fraction.toList := by
    unfold Decimal.text
    cases point : d.fraction with
    | none => exact List.splitOn_eq_singleton (Decimal.pointless d.wholeDigits)
    | some places =>
      rw [List.splitOn_append_cons_self_of_not_mem (Decimal.pointless d.wholeDigits),
        List.splitOn_eq_singleton (Decimal.pointless (d.fractionDigits places point))]
      rfl
  have behind : (d.whole :: d.fraction.toList)[1]?.getD [] = d.places := by
    unfold Decimal.places
    cases d.fraction <;> rfl
  have padded : (d.places ++ List.replicate (7 - d.places.length) '0').take 7 = d.places ++ List.replicate (7 - d.places.length) '0' := by
    refine List.take_of_length_le ?_
    have := shows.places
    simp only [List.length_append,List.length_replicate]
    omega
  have digits : (d.places ++ List.replicate (7 - d.places.length) '0').all Char.isDigit = true := by
    rw [List.all_append,d.placesDigits]
    refine List.all_eq_true.mpr fun c zero => ?_
    rw [List.eq_of_mem_replicate zero]
    rfl
  have seven : d.places ++ List.replicate (7 - d.places.length) '0' ≠ [] := by
    refine List.ne_nil_of_length_pos ?_
    have := shows.places
    simp only [List.length_append,List.length_replicate]
    omega
  refine ⟨_,?_,(d.valueScaled shows.places).symm⟩
  unfold StellarService.usdcToStroops
  simp only [shows.text,String.toList_ofList,parts,behind,padded,List.head?_cons,Option.getD_some,
    bigIntPlain reads d.wholeDigits d.nonempty,bigIntPlain reads digits seven]
  push_cast
  rfl

theorem positiveValue (shows : Shows b d) : Positive b ↔ 0 < d.value := by
  refine ⟨fun ⟨d',shows',positive⟩ => ?_,fun positive => ⟨d,shows,positive⟩⟩
  obtain ⟨stroops,read,value⟩ := stroopsShown reads shows
  obtain ⟨stroops',read',value'⟩ := stroopsShown reads shows'
  cases read.symm.trans read'
  rwa [mul_right_cancel₀ (by norm_num) (value.symm.trans value')]

theorem positiveStroops (shows : Shows b d) :
    Positive b ↔ ∃ stroops, StellarService.usdcToStroops self b.balance = .ok stroops ∧ 0 < stroops := by
  obtain ⟨stroops,read,value⟩ := stroopsShown reads shows
  have scaled : 0 < d.value ↔ 0 < (stroops : ℚ) := by rw [value]; exact (mul_pos_iff_of_pos_right (by norm_num)).symm
  rw [positiveValue reads shows,scaled,read]
  constructor
  · exact fun positive => ⟨stroops,rfl,by exact_mod_cast positive⟩
  · rintro ⟨_,same,positive⟩
    cases same
    exact_mod_cast positive

theorem positiveWhole (shows : Shows b d) (point : d.fraction = none) :
    ∃ n : Nat, StellarService.BigInt self b.balance = .ok (n : Int) ∧ (0 < n ↔ Positive b) := by
  refine ⟨Nat.ofDigitChars 10 d.whole 0,?_,?_⟩
  · rw [StellarService.BigInt,shows.text,Decimal.text,point]
    dsimp only
    rw [bigIntPlain reads d.wholeDigits d.nonempty]
  · have same : d.value = (Nat.ofDigitChars 10 d.whole 0 : Nat) := by simp [Decimal.value,Decimal.places,point]
    rw [positiveValue reads shows,same]
    exact_mod_cast Iff.rfl

theorem pointed (shows : Shows b d) : '.' ∈ b.balance.toList ↔ d.fraction ≠ none := by
  rw [shows.text,String.toList_ofList,Decimal.text]
  cases point : d.fraction with
  | none => simp [Decimal.pointless d.wholeDigits]
  | some places => simp

/-- The search for a positive balance ends with one when no balance up to it is written with a point. -/
theorem somePositiveIff {balances : List HorizonBalance} (shows : ∀ b ∈ balances, ∃ d, Shows b d) :
    StellarService.somePositive self balances = .ok true ↔ ∃ before b after, balances = before ++ b :: after ∧ Positive b ∧
      ∀ x ∈ before ++ [b], '.' ∉ x.balance.toList := by
  induction balances with
  | nil => simp [StellarService.somePositive,pure,Except.pure]
  | cons b rest ih =>
    obtain ⟨d,shown⟩ := shows b List.mem_cons_self
    have later := ih fun x inside => shows x (List.mem_cons_of_mem b inside)
    cases point : d.fraction with
    | some places =>
      have thrown : StellarService.somePositive self (b :: rest) = .error .syntaxError := by
        simp [StellarService.somePositive,StellarService.BigInt,bigIntPointed reads shown point,bind,Except.bind]
      rw [thrown]
      refine iff_of_false nofun ?_
      rintro ⟨before,x,after,split,_,plain⟩
      have here : '.' ∈ b.balance.toList := (pointed reads shown).mpr (by simp [point])
      cases before with
      | nil =>
        cases split
        exact plain _ (by simp) here
      | cons y before =>
        cases split
        exact plain _ (by simp) here
    | none =>
      obtain ⟨n,read,positive⟩ := positiveWhole reads shown point
      have plain : '.' ∉ b.balance.toList := fun inside => (pointed reads shown).mp inside point
      by_cases here : 0 < n
      · have found : StellarService.somePositive self (b :: rest) = .ok true := by
          simp [StellarService.somePositive,read,bind,Except.bind,here,pure,Except.pure]
        exact iff_of_true found ⟨[],b,rest,rfl,positive.mp here,by simpa using plain⟩
      · have passed : StellarService.somePositive self (b :: rest) = StellarService.somePositive self rest := by
          simp [StellarService.somePositive,read,bind,Except.bind,here]
        rw [passed,later]
        constructor
        · rintro ⟨before,x,after,rfl,there,pointless⟩
          refine ⟨b :: before,x,after,rfl,there,fun y inside => ?_⟩
          obtain rfl | inside := List.mem_cons.mp inside
          · exact plain
          · exact pointless y inside
        · rintro ⟨before,x,after,split,there,pointless⟩
          cases before with
          | nil =>
            cases split
            exact absurd (positive.mpr there) here
          | cons y before =>
            cases split
            exact ⟨before,x,after,rfl,there,fun z inside => pointless z (List.mem_cons_of_mem _ inside)⟩

theorem existsIff {account : HorizonAccount} (shows : ∀ b ∈ account.balances, ∃ d, Shows b d) (bare : account.balance = none) :
    StellarService.accountExists self (.ok (.ok account)) true = true ↔
      ∃ before b after, account.balances = before ++ b :: after ∧ Positive b ∧ ∀ x ∈ before ++ [b], '.' ∉ x.balance.toList := by
  have zero : StellarService.BigInt self "0" = .ok 0 := by
    rw [StellarService.BigInt,reads]
    rfl
  have funded : StellarService.isFunded self account = StellarService.somePositive self account.balances := by
    simp [StellarService.isFunded,bare,zero,bind,Except.bind]
  rw [← somePositiveIff reads shows,← funded]
  simp only [StellarService.accountExists,Except.bind]
  cases StellarService.isFunded self account <;> simp

/-- The checks agree on an account unless it has funds and a balance with a point stands no later than
the first that is positive. -/
theorem readAlikeIff (account : HorizonAccount) (shows : ∀ b ∈ account.balances, ∃ d, Shows b d) (bare : account.balance = none) :
    ReadAlike self account ↔ ((∃ b ∈ account.balances, Positive b) → ∃ before b after, account.balances = before ++ b :: after ∧
      Positive b ∧ ∀ x ∈ before ++ [b], '.' ∉ x.balance.toList) := by
  unfold ReadAlike
  rw [existsIff reads shows bare]
  constructor
  · exact fun alike => alike.1.mpr
  · refine fun plain => ⟨⟨?_,plain⟩,fun b inside => ?_⟩
    · rintro ⟨before,b,after,split,positive,_⟩
      exact ⟨b,by simp [split],positive⟩
    · obtain ⟨d,shown⟩ := shows b inside
      exact positiveStroops reads shown

end Balances

def horizon : Config where
  bigIntOf := bigIntOf

def holding (balance : String) : HorizonAccount where
  balances := [{ assetType := "native", balance := balance }]

def hundred : Decimal where
  whole := ['1','0','0']
  fraction := none
  nonempty := by simp
  wholeDigits := by decide
  fractionDigits := by simp

def hundredPointed : Decimal where
  whole := ['1','0','0']
  fraction := some (List.replicate 7 '0')
  nonempty := by simp
  wholeDigits := by decide
  fractionDigits := by decide

theorem hundredAlike : StellarService.accountExists horizon (.ok (.ok (holding "100"))) true = true ∧
    (ReadAlike horizon (holding "100") ↔ ((∃ b ∈ (holding "100").balances, Positive b) → ∃ before b after,
      (holding "100").balances = before ++ b :: after ∧ Positive b ∧ ∀ x ∈ before ++ [b], '.' ∉ x.balance.toList)) := by
  refine ⟨by decide +kernel,readAlikeIff rfl _ (fun b inside => ⟨hundred,?_⟩) rfl⟩
  cases List.mem_singleton.mp inside
  exact ⟨rfl,by decide⟩

/-- A hundred lumens, as Horizon writes them, are no funds. -/
theorem hundredMissing : Shows { assetType := "native", balance := "100.0000000" } hundredPointed ∧
    StellarService.accountExists horizon (.ok (.ok (holding "100.0000000"))) true = false ∧
    ¬ ReadAlike horizon (holding "100.0000000") := by
  have shown : Shows { assetType := "native", balance := "100.0000000" } hundredPointed := ⟨rfl,by decide⟩
  have missing : StellarService.accountExists horizon (.ok (.ok (holding "100.0000000"))) true = false := by decide +kernel
  have worth : hundredPointed.value = 100 := by
    rw [Decimal.value,show Nat.ofDigitChars 10 (hundredPointed.whole ++ hundredPointed.places) 0 = 1000000000 from rfl,
      show hundredPointed.places.length = 7 from rfl]
    norm_num
  refine ⟨shown,missing,fun alike => ?_⟩
  have exists' := alike.1.mpr ⟨_,List.mem_singleton.mpr rfl,hundredPointed,shown,by rw [worth]; norm_num⟩
  rw [missing] at exists'
  cases exists'

end HireSettle.Escrow
