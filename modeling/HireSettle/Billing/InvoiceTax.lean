import HireSettle.Common.SystemConfig
import HireSettle.Workflow.Rounding

/-! The tax of an invoice: who is charged at which rate, and the amount of it, rounded
to the smallest unit. -/
namespace HireSettle.Billing.InvoiceTax
open Workflow.Rounding

inductive TaxTreatment where
  | notRegistered
  | domestic
  | reverseCharge
  | euDestination
  | outsideScope
  deriving DecidableEq, Repr

def EU_COUNTRIES : List String :=
  ["AT","BE","BG","HR","CY","CZ","DK","EE","FI","FR","DE","GR","HU","IE",
    "IT","LV","LT","LU","MT","NL","PL","PT","RO","SK","SI","ES","SE"]

def STANDARD_VAT_RATES_BPS : List (String × Int) :=
  [("AT",2000),("BE",2100),("BG",2000),("HR",2500),("CY",1900),("CZ",2100),("DK",2500),("EE",2400),
    ("FI",2550),("FR",2000),("DE",1900),("GR",2400),("HU",2700),("IE",2300),("IT",2200),("LV",2100),
    ("LT",2100),("LU",1700),("MT",1800),("NL",2100),("PL",2300),("PT",2300),("RO",2100),("SK",2300),
    ("SI",2200),("ES",2100),("SE",2500),
    ("GB",2000),("NO",2500),("CH",810)]

def REVERSE_CHARGE_NOTICE : String :=
  "Reverse charge: VAT to be accounted for by the recipient (Article 196, Council Directive 2006/112/EC)."

def OUTSIDE_SCOPE_NOTICE : String :=
  "Services outside the scope of VAT in the supplier's country (place of supply: customer's country)."

def EU_DESTINATION_NOTICE : String :=
  "VAT charged at the rate of the customer's EU member state (One-Stop Shop)."

structure TaxParty where
  country : Option String := none
  taxId : Option String := none
  deriving DecidableEq, Repr

structure InvoiceLineInput where
  description : String
  amount : Int
  deriving DecidableEq, Repr

structure InvoiceTaxLine where
  label : String
  rateBps : Int
  base : Int
  amount : Int
  deriving DecidableEq, Repr

structure InvoiceTaxResult where
  treatment : TaxTreatment
  rateBps : Int
  subtotal : Int
  taxTotal : Int
  total : Int
  taxLines : List InvoiceTaxLine
  notices : List String
  seller : TaxParty
  customer : TaxParty
  deriving DecidableEq, Repr

structure ComputeInvoiceTaxInput where
  seller : TaxParty
  customer : TaxParty
  lines : List InvoiceLineInput
  rateOverrides : Option (List (String × Int)) := none

def isUpper (c : Char) : Bool := 'A' ≤ c && c ≤ 'Z'

def isAlphanumeric (c : Char) : Bool := isUpper c || '0' ≤ c && c ≤ '9'

-- the letters that have no capital of one letter differ from those of `String.toUpper`
variable (toUpperCase : String → String)

def normalizeCountry (country : Option String) : Option String :=
  let value := toUpperCase (trim (country.getD ""))
  if value.toList.length = 2 && value.toList.all isUpper then some value else none

def normalizeTaxId (taxId : Option String) : Option String :=
  let value := toUpperCase (String.ofList ((taxId.getD "").toList.filter fun c => !(isSpace c || c = '.' || c = '-')))
  if 0 < value.toList.length then some value else none

def vatPrefix (country : String) : String := if country = "GR" then "EL" else country

def isPlausibleVatId (taxId country : Option String) : Bool :=
  match present taxId, present country with
  | some taxId, some country =>
      if country ∉ EU_COUNTRIES then
        4 ≤ taxId.toList.length && taxId.toList.length ≤ 20 && taxId.toList.all isAlphanumeric
      else
        let start := (vatPrefix country).toList
        let rest := taxId.toList.drop start.length
        start.isPrefixOf taxId.toList && (2 ≤ rest.length && rest.length ≤ 13 && rest.all isAlphanumeric)
  | _, _ => false

def standardRateBps (country : String) (overrides : List (String × Int)) : Except String Int :=
  match (overrides.lookup country).or (STANDARD_VAT_RATES_BPS.lookup country) with
  | none => .error s!"No standard VAT rate configured for country \"{country}\""
  | some rate => .ok rate

-- Round half up to the nearest minor unit.
def applyRate (base rateBps : Int) : Int :=
  if rateBps = 0 || base = 0 then 0
  else
    let numerator := base * rateBps
    let sign : Int := if numerator < 0 then -1 else 1
    let abs := numerator * sign
    sign * ((abs + 5000).tdiv 10000)

-- a rate of whole basis points has at most two decimals as a percentage
def formatRate (rateBps : Int) : String :=
  let decimals := rateBps.natAbs % 100
  let sign := if rateBps < 0 then "-" else ""
  let fraction :=
    if decimals = 0 then "" else if decimals % 10 = 0 then s!".{decimals / 10}"
    else if decimals < 10 then s!".0{decimals}" else s!".{decimals}"
  s!"{sign}{rateBps.natAbs / 100}{fraction}%"

def computeInvoiceTax (input : ComputeInvoiceTaxInput) : Except String InvoiceTaxResult :=
  let overrides := input.rateOverrides.getD []
  let sellerCountry := normalizeCountry toUpperCase input.seller.country
  let sellerTaxId := normalizeTaxId toUpperCase input.seller.taxId
  let customerCountry := normalizeCountry toUpperCase input.customer.country
  let customerTaxId := normalizeTaxId toUpperCase input.customer.taxId
  let subtotal := input.lines.foldl (fun sum line => sum + line.amount) 0
  let result (treatment : TaxTreatment) (rateBps : Int) (label : Option String) (notices : List String) : InvoiceTaxResult :=
    let taxTotal := applyRate subtotal rateBps
    { treatment := treatment
      rateBps := rateBps
      subtotal := subtotal
      taxTotal := taxTotal
      total := subtotal + taxTotal
      taxLines := (present label).toList.map fun label => ⟨label,rateBps,subtotal,taxTotal⟩
      notices := notices
      seller := ⟨sellerCountry,sellerTaxId⟩
      customer := ⟨customerCountry,customerTaxId⟩ }
  match present sellerCountry, present sellerTaxId with
  | some seller, some _ =>
      match (present customerCountry).filter (· ≠ seller) with
      | none => do
          let rate ← standardRateBps seller overrides
          return result .domestic rate (some s!"VAT {formatRate rate} ({seller})") []
      | some customer =>
          let bothEu := seller ∈ EU_COUNTRIES && customer ∈ EU_COUNTRIES
          if bothEu then
            if isPlausibleVatId customerTaxId customerCountry then
              .ok (result .reverseCharge 0 (some "VAT 0% (reverse charge)") [REVERSE_CHARGE_NOTICE])
            else do
              let rate ← standardRateBps customer overrides
              return result .euDestination rate (some s!"VAT {formatRate rate} ({customer})") [EU_DESTINATION_NOTICE]
          else .ok (result .outsideScope 0 (some "VAT 0% (outside scope)") [OUTSIDE_SCOPE_NOTICE])
  | _, _ => .ok (result .notRegistered 0 none [])

theorem applyRateAway (base rate : Int) : applyRate base rate = awayFromZero (base * rate) 5000 := by
  unfold applyRate
  split
  · rename_i zero
    have none : base * rate = 0 := by
      simp only [Bool.or_eq_true,decide_eq_true_eq] at zero
      exact mul_eq_zero.mpr zero.symm
    rw [none]
    rfl
  · rfl

section Rounds

variable {base above rate : Int}

theorem applyRateNearest : Nearest ((base : Rat) * rate / 10000) (applyRate base rate) := by
  have nearest : Nearest (((base * rate : Int) : Rat) / (2 * (5000 : Int))) (awayFromZero (base * rate) 5000) :=
    awayNearest (by decide)
  rw [applyRateAway]
  convert nearest using 2
  · exact (Int.cast_mul base rate).symm
  · norm_num

example : applyRate 1 5000 = 1 ∧ applyRate 2 2000 = 0 ∧ applyRate (-3) 2000 = -1 := by decide

theorem applyRateNeg : applyRate (-base) rate = -applyRate base rate := by
  have turned : Nearest (-((base : Rat) * rate / 10000)) (-applyRate base rate) := applyRateNearest.neg
  have same : -((base : Rat) * rate / 10000) = ((-base : Int) : Rat) * rate / 10000 := by
    push_cast
    ring
  rw [same] at turned
  exact applyRateNearest.unique turned

theorem applyRateMono (positive : 0 ≤ rate) (le : base ≤ above) : applyRate base rate ≤ applyRate above rate := by
  have ordered : (base : Rat) * rate / 10000 ≤ above * rate / 10000 := by
    gcongr
  exact applyRateNearest.mono applyRateNearest ordered

theorem applyRateWithin : |applyRate base rate * 10000 - base * rate| ≤ 5000 := by
  have error : |(base : Rat) * rate / 10000 - applyRate base rate| ≤ 1 / 2 := applyRateNearest.error
  have lower := (abs_le.mp error).1
  have upper := (abs_le.mp error).2
  have scaled : |(applyRate base rate : Rat) * 10000 - base * rate| ≤ 5000 :=
    abs_le.mpr ⟨by linarith,by linarith⟩
  exact_mod_cast scaled

end Rounds

structure Totals (input : ComputeInvoiceTaxInput) (result : InvoiceTaxResult) : Prop where
  subtotal : result.subtotal = (input.lines.map InvoiceLineInput.amount).sum
  total : result.total = result.subtotal + result.taxTotal
  within : |result.taxTotal * 10000 - result.subtotal * result.rateBps| ≤ 5000

/-- The totals add up, or the country that charges the tax has no rate. -/
def Computed (input : ComputeInvoiceTaxInput) : Except String InvoiceTaxResult → Prop
  | .ok result => Totals input result
  | .error message => ∃ country, message = s!"No standard VAT rate configured for country \"{country}\"" ∧
      (input.rateOverrides.getD []).lookup country = none ∧ STANDARD_VAT_RATES_BPS.lookup country = none

variable {input : ComputeInvoiceTaxInput}

theorem subtotalSum (lines : List InvoiceLineInput) (start : Int) :
    lines.foldl (fun sum line => sum + line.amount) start = start + (lines.map InvoiceLineInput.amount).sum := by
  induction lines generalizing start with
  | nil => simp
  | cons line lines ih =>
      rw [List.foldl_cons,ih,List.map_cons,List.sum_cons,add_assoc]

theorem totalsApplied {result : InvoiceTaxResult}
    (subtotal : result.subtotal = input.lines.foldl (fun sum line => sum + line.amount) 0)
    (applied : result.taxTotal = applyRate result.subtotal result.rateBps)
    (total : result.total = result.subtotal + result.taxTotal) : Totals input result :=
  ⟨by rw [subtotal,subtotalSum,zero_add],total,by rw [applied]; exact applyRateWithin⟩

theorem computedStandard {country : String} {result : Int → InvoiceTaxResult} (totals : ∀ rate, Totals input (result rate)) :
    Computed input (do let rate ← standardRateBps country (input.rateOverrides.getD []); return result rate) := by
  unfold standardRateBps
  split
  · rename_i missing
    obtain ⟨overridden,standard⟩ := Option.or_eq_none_iff.mp missing
    exact ⟨country,rfl,overridden,standard⟩
  · exact totals _

theorem computeTotals (input : ComputeInvoiceTaxInput) : Computed input (computeInvoiceTax toUpperCase input) := by
  unfold computeInvoiceTax
  dsimp only
  split
  · split
    · exact computedStandard fun rate => totalsApplied rfl rfl rfl
    · split
      · split
        · exact totalsApplied rfl rfl rfl
        · exact computedStandard fun rate => totalsApplied rfl rfl rfl
      · exact totalsApplied rfl rfl rfl
  · exact totalsApplied rfl rfl rfl

theorem vatRounds :
    (∀ rate : Nat, (∀ base : Int, Nearest ((base : Rat) * rate / 10000) (applyRate base rate) ∧
      applyRate (-base) rate = -applyRate base rate) ∧ Monotone fun base => applyRate base rate) ∧
    ∀ input, Computed input (computeInvoiceTax toUpperCase input) := by
  refine ⟨fun rate => ⟨fun base => ⟨?_,applyRateNeg⟩,?_⟩,computeTotals toUpperCase⟩
  · have nearest : Nearest ((base : Rat) * (rate : Int) / 10000) (applyRate base rate) := applyRateNearest
    rwa [Int.cast_natCast] at nearest
  · exact fun base above le => applyRateMono (Int.natCast_nonneg rate) le

end HireSettle.Billing.InvoiceTax
