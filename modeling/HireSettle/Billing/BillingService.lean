import HireSettle.Common.Users
import HireSettle.Escrow.Engagements
import HireSettle.Workflow.Dates
import HireSettle.Workflow.Table

/-! The billing of a company: the engagements of a period, with their totals, as a
summary and as two CSV exports. Each reads the engagements once, filtered by the
address of the user, and a filter whose value is undefined filters nothing. Months
begin and end in the time zone of the host. -/
namespace HireSettle.Billing.BillingService
open Workflow
open Escrow (EngagementStatus)

structure Engagement where
  id : String
  companyAddress : String
  totalAmount : Int
  releasedAmount : Int := 0
  jobTitle : String := ""
  status : EngagementStatus := .active
  createdAt : Date
  deriving DecidableEq, Repr

instance : Keyed Engagement String := ⟨Engagement.id⟩

structure Calendar where
  monthStart : Date → Date
  monthEnd : Date → Date

structure BilledEngagement where
  engagementId : String
  jobTitle : String
  createdAt : Date
  totalEscrowed : String
  totalReleased : String
  status : EngagementStatus
  deriving DecidableEq, Repr

structure Totals where
  totalEscrowed : String
  totalReleased : String
  totalEngagements : Nat
  deriving DecidableEq, Repr

structure BillingSummary where
  fromDate : Date
  toDate : Date
  summary : Totals
  engagementBreakdown : List BilledEngagement
  deriving DecidableEq, Repr

variable (calendar : Calendar) (now : Date) (db : Table Engagement)

-- `where: { field: value ?? undefined }`
def equals (value : Option String) (field : String) : Bool :=
  match value with
  | some text => field = text
  | none => true

def within (startDate endDate : Date) (row : Engagement) : Bool := startDate.ms ≤ row.createdAt.ms && row.createdAt.ms ≤ endDate.ms

def latestFirst (a b : Engagement) : Prop := b.createdAt.ms ≤ a.createdAt.ms

instance : DecidableRel latestFirst := fun _ _ => inferInstanceAs (Decidable (_ ≤ _))

def findEngagements (companyAddress : Option String) (startDate endDate : Date) : List Engagement :=
  (db.findMany fun row => equals companyAddress row.companyAddress && within startDate endDate row).insertionSort latestFirst

def getBillingSummary (companyUser : User) (fromDate toDate : Option Date) : BillingSummary :=
  let startDate := fromDate.getD (calendar.monthStart now)
  let endDate := toDate.getD (calendar.monthEnd now)
  let engagements := findEngagements db companyUser.stellarAddress startDate endDate
  { fromDate := startDate
    toDate := endDate
    summary :=
      { totalEscrowed := toString (engagements.map Engagement.totalAmount).sum
        totalReleased := toString (engagements.map Engagement.releasedAmount).sum
        totalEngagements := engagements.length }
    engagementBreakdown := engagements.map fun engagement =>
      { engagementId := engagement.id
        jobTitle := engagement.jobTitle
        createdAt := engagement.createdAt
        totalEscrowed := toString engagement.totalAmount
        totalReleased := toString engagement.releasedAmount
        status := engagement.status } }

-- `replace(/"/g, '""')`
def doubleQuotes (s : String) : String := String.ofList (s.toList.flatMap fun c => if c = '"' then ['"','"'] else [c])

def exportBillingToCsv (companyUser : User) (fromDate toDate : Option Date) : String :=
  let billingData := getBillingSummary calendar now db companyUser fromDate toDate
  let headers := ["Engagement ID","Job Title","Created At","Total Escrowed","Total Released","Status"]
  let rows := billingData.engagementBreakdown.map fun item =>
    [item.engagementId,"\"" ++ doubleQuotes item.jobTitle ++ "\"",item.createdAt.toISOString,item.totalEscrowed,item.totalReleased,
      item.status.text]
  let summaryRow := ["Summary","","",billingData.summary.totalEscrowed,billingData.summary.totalReleased,
    s!"{billingData.summary.totalEngagements} engagements"]
  "\n".intercalate ([",".intercalate headers] ++ rows.map ",".intercalate ++ ["",",".intercalate summaryRow])

def csvCell (value : String) : String :=
  if value.toList.any fun c => c = ',' || c = '"' || c = '\n' then "\"" ++ doubleQuotes value ++ "\"" else value

def buildCsvRow (cells : List String) : String := ",".intercalate (cells.map csvCell)

def exportBillingHistory (requestingUser : User) (fromDate toDate : Option Date) : String :=
  let startDate := fromDate.getD (calendar.monthStart now)
  let endDate := toDate.getD (calendar.monthEnd now)
  let companyAddress := if requestingUser.role = .admin then none else requestingUser.stellarAddress
  let engagements := findEngagements db companyAddress startDate endDate
  let CSV_HEADER := buildCsvRow ["Date","Engagement Reference","Amount (stroops)","Status"]
  "\n".intercalate (CSV_HEADER :: engagements.map fun e =>
    buildCsvRow [e.createdAt.toISOString,e.id,toString e.totalAmount,e.status.text])

/-- The engagements whose company is the user. -/
def ownEngagements (user : User) : List Engagement := db.findMany fun row => user.stellarAddress = some row.companyAddress

structure SameBilling (user : User) (fromDate toDate : Option Date) (db db' : Table Engagement) : Prop where
  summary : getBillingSummary calendar now db user fromDate toDate = getBillingSummary calendar now db' user fromDate toDate
  csv : exportBillingToCsv calendar now db user fromDate toDate = exportBillingToCsv calendar now db' user fromDate toDate
  history : exportBillingHistory calendar now db user fromDate toDate = exportBillingHistory calendar now db' user fromDate toDate

variable {calendar now db} {db' : Table Engagement} {user : User} {fromDate toDate : Option Date}

theorem foundOwn {address : String} (its : user.stellarAddress = some address) (startDate endDate : Date) :
    findEngagements db (some address) startDate endDate =
      ((ownEngagements db user).filter (within startDate endDate)).insertionSort latestFirst := by
  rw [findEngagements,ownEngagements,Table.findMany,Table.findMany,List.filter_filter]
  congr 2
  funext row
  rw [its,equals,Bool.and_comm]
  congr 2
  exact propext ⟨fun same => congrArg some same.symm,fun same => (Option.some.inj same).symm⟩

theorem foundNothing {companyAddress : Option String} {startDate endDate : Date} (empty : endDate.ms < startDate.ms) :
    findEngagements db companyAddress startDate endDate = [] := by
  rw [findEngagements,Table.findMany,List.filter_eq_nil_iff.mpr,List.insertionSort_nil]
  intro row _
  simp only [within,Bool.and_eq_true,decide_eq_true_eq,not_and]
  omega

/-- What is found decides what is reported. -/
theorem sameFound (company : user.role ≠ .admin)
    (found : findEngagements db user.stellarAddress (fromDate.getD (calendar.monthStart now)) (toDate.getD (calendar.monthEnd now)) =
      findEngagements db' user.stellarAddress (fromDate.getD (calendar.monthStart now)) (toDate.getD (calendar.monthEnd now))) :
    SameBilling calendar now user fromDate toDate db db' := by
  have summary : getBillingSummary calendar now db user fromDate toDate = getBillingSummary calendar now db' user fromDate toDate := by
    simp only [getBillingSummary,found]
  refine ⟨summary,?_,?_⟩
  · simp only [exportBillingToCsv,summary]
  · simp only [exportBillingHistory,if_neg company,found]

theorem oneEngagement (row : Engagement) : ([row].map Keyed.key).Nodup := List.nodup_singleton _

/-- A user without a wallet is told of every engagement of the period. -/
theorem summaryLeaks (without : user.stellarAddress = none)
    (some' : (fromDate.getD (calendar.monthStart now)).ms ≤ (toDate.getD (calendar.monthEnd now)).ms) :
    ∃ db db' : Table Engagement, ownEngagements db user = ownEngagements db' user ∧ ¬ SameBilling calendar now user fromDate toDate db db' := by
  let row : Engagement :=
    { id := "e", companyAddress := "GC", totalAmount := 1000, createdAt := fromDate.getD (calendar.monthStart now) }
  refine ⟨.empty,⟨[row],oneEngagement row⟩,?_,fun same => ?_⟩
  · simp [ownEngagements,Table.findMany,Table.empty,without]
  · have counts := congrArg (fun summary => summary.summary.totalEngagements) same.summary
    simp [getBillingSummary,findEngagements,Table.findMany,Table.empty,without,equals,within,row,some'] at counts

/-- The reports of a company user follow from its own engagements, unless it has no wallet. -/
theorem billingScoped (calendar : Calendar) (now : Date) (user : User) (fromDate toDate : Option Date) (company : user.role ≠ .admin) :
    (∀ db db' : Table Engagement, ownEngagements db user = ownEngagements db' user → SameBilling calendar now user fromDate toDate db db') ↔
      user.stellarAddress ≠ none ∨
        (toDate.getD (calendar.monthEnd now)).ms < (fromDate.getD (calendar.monthStart now)).ms := by
  refine ⟨fun agrees => ?_,fun holds db db' own => sameFound company ?_⟩
  · by_contra leaks
    rw [not_or,not_not,not_lt] at leaks
    obtain ⟨db,db',own,differs⟩ := summaryLeaks leaks.1 leaks.2
    exact differs (agrees db db' own)
  · obtain wallet | empty := holds
    · obtain ⟨address,its⟩ := Option.ne_none_iff_exists'.mp wallet
      rw [its,foundOwn its,foundOwn its,own]
    · rw [foundNothing empty,foundNothing empty]

def epoch : Date := .epoch

-- every month begins and ends at once
def momentary : Calendar := ⟨fun _ => epoch,fun _ => epoch⟩

def recent : Engagement := { id := "e", companyAddress := "GC", totalAmount := 1000, createdAt := epoch }

def foreign : Table Engagement := ⟨[recent],oneEngagement recent⟩

theorem companyScoped : SameBilling momentary epoch { id := "u", stellarAddress := some "GU" } none none .empty foreign :=
  (billingScoped momentary epoch { id := "u", stellarAddress := some "GU" } none none (by decide)).mpr (Or.inl nofun) .empty foreign
    (by decide)

theorem walletlessNotScoped : ownEngagements .empty { id := "u" } = ownEngagements foreign { id := "u" } ∧
    exportBillingHistory momentary epoch .empty { id := "u" } none none ≠ exportBillingHistory momentary epoch foreign { id := "u" } none none ∧
    ¬ SameBilling momentary epoch { id := "u" } none none .empty foreign := by
  refine ⟨by decide,by decide +kernel,fun same => ?_⟩
  have counts := congrArg (fun summary => summary.summary.totalEngagements) same.summary
  revert counts
  decide

end HireSettle.Billing.BillingService
