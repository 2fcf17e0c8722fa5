import HireSettle.Common.SystemConfig
import HireSettle.Escrow.Engagements
import HireSettle.Workflow.Outcomes

/-! The import of engagements from a table of comma-separated values. The lines of the
file are split first; the names of the columns are the parts of the first line between
commas, and the cells of every other line are split with regard to quotes. -/
namespace HireSettle.Escrow
open Workflow

inductive ImportError where
  | missingFields (message : String)
  | thrown (error : Exception)
  deriving DecidableEq, Repr

/-- What is reported for a line of the table. -/
structure ImportResult where
  row : Nat
  engagementId : Option String := none
  success : Bool
  error : Option ImportError := none
  deriving DecidableEq, Repr

structure ImportReport where
  totalRows : Nat
  successCount : Nat
  failureCount : Nat
  results : List ImportResult
  deriving DecidableEq, Repr

/-- The table that the import sees: the names of its columns and the cells of each line under them. -/
structure Sheet where
  headers : List String
  rows : List (List (String × String))
  deriving DecidableEq, Repr

variable (self : Config)

namespace EngagementImportService

def REQUIRED_COLUMNS : List String :=
  ["engagementId","companyAddress","recruiterAddress","arbiterAddress","tokenAddress","totalAmount","jobTitle"]

-- `csv.split(/\r?\n/)`
def splitLines : List Char → List (List Char)
  | [] => [[]]
  | '\r' :: '\n' :: rest => [] :: splitLines rest
  | '\n' :: rest => [] :: splitLines rest
  | c :: rest => (splitLines rest).modifyHead (c :: ·)

def linesOf (csv : String) : List (List Char) := (splitLines csv.toList).filter fun line => trim (String.ofList line) ≠ ""

def headersOf (line : List Char) : List String := (line.splitOn ',').map fun h => trim (String.ofList h)

-- the rest of a line from inside or outside of quotes, and what has been read of the current field
def fields : Bool → List Char → List Char → List (List Char)
  | _, current, [] => [current]
  | true, current, '"' :: '"' :: rest => fields true (current ++ ['"']) rest
  | inQuotes, current, '"' :: rest => fields (!inQuotes) current rest
  | false, current, ',' :: rest => current :: fields false [] rest
  | inQuotes, current, c :: rest => fields inQuotes (current ++ [c]) rest

def parseCsvLine (line : List Char) : List (List Char) := fields false [] line

def rowOf (headers : List String) (line : List Char) : List (String × String) :=
  let values := parseCsvLine line
  headers.zipIdx.map fun (h,idx) => (h,(values[idx]?.map fun value => trim (String.ofList value)).getD "")

-- a later column of one name replaces the earlier
def cell (row : List (String × String)) (column : String) : Option String :=
  (row.reverse.find? fun entry => entry.1 = column).map Prod.snd

def readCsv (csv : Option String) : Except Exception Sheet :=
  match csv with
  | none => .error (.badRequest "No file provided or file is empty")
  | some csv =>
      match linesOf csv with
      | header :: line :: rest =>
          let headers := headersOf header
          let missingRequired := REQUIRED_COLUMNS.filter fun c => c ∉ headers
          if missingRequired ≠ [] then
            .error (.badRequest ("CSV is missing required column(s): " ++ String.intercalate ", " missingRequired))
          else .ok { headers := headers, rows := (line :: rest).map (rowOf headers) }
      | _ => .error (.badRequest "CSV file must contain a header row and at least one data row")

def rowMissing (row : List (String × String)) : List String := REQUIRED_COLUMNS.filter fun c => (present (cell row c)).isNone

def tagsOf (row : List (String × String)) : List String :=
  (((cell row "tags").getD "").toList.splitOn '|').map (fun tag => trim (String.ofList tag)) |>.filter (· ≠ "")

-- `create` does not read the tags
def dtoOf (row : List (String × String)) : CreateEngagementDto × List String :=
  let text column := (cell row column).getD ""
  ({ engagementId := text "engagementId"
     companyAddress := text "companyAddress"
     recruiterAddress := text "recruiterAddress"
     arbiterAddress := text "arbiterAddress"
     tokenAddress := text "tokenAddress"
     totalAmount := self.bigIntOf (text "totalAmount")
     jobTitle := some (text "jobTitle")
     jobDescription := present (cell row "jobDescription")
     salaryRange := present (cell row "salaryRange")
     location := present (cell row "location")
     milestones := some [] },tagsOf row)

def createRow (userId : String) (rowNum : Nat) (row : List (String × String)) : Op ImportResult := do
  let (dto,_) := dtoOf self row
  let _ ← EngagementsService.create self userId dto
  return { row := rowNum, engagementId := some dto.engagementId, success := true }

def importRow (userId : String) (rowNum : Nat) (row : List (String × String)) : Op ImportResult :=
  if rowMissing row ≠ [] then
    let message := "Missing required field(s): " ++ String.intercalate ", " (rowMissing row)
    return { row := rowNum, success := false, error := some (.missingFields message) }
  else (createRow self userId rowNum row).handle fun error =>
    return { row := rowNum, success := false, error := some (.thrown error) }

def importRows (userId : String) : Nat → List (List (String × String)) → Op (List ImportResult)
  | _, [] => return []
  | rowNum, row :: rest => do
      let result ← importRow self userId rowNum row
      let results ← importRows userId (rowNum + 1) rest
      return result :: results

def importFromCsv (userId : String) (csv : Option String) : Op ImportReport := do
  let sheet ← .ofExcept (readCsv csv)
  let results ← importRows self userId 2 sheet.rows
  return { totalRows := sheet.rows.length
           successCount := results.countP ImportResult.success
           failureCount := results.countP fun result => !result.success
           results := results }

section Rows

variable {self} {userId : String}

/-- The other requests leave the database alone. -/
def idle (_ : Unit) (db : Db) : Db := db

/-- Without a milestone the percentages sum to nothing. -/
theorem persistThrows (row : List (String × String)) (db : Db) :
    Concludes idle (fun out db' => db' = db ∧ ∃ error, out = .error error)
      (EngagementsService.persist (dtoOf self row).1 none) db := by
  unfold EngagementsService.persist
  dsimp only
  generalize present _ = title
  cases title with
  | none => exact ⟨rfl,_,rfl⟩
  | some title => exact ⟨rfl,_,rfl⟩

theorem createThrows (row : List (String × String)) (db : Db) :
    Concludes idle (fun out db' => db' = db ∧ ∃ error, out = .error error)
      (EngagementsService.create self userId (dtoOf self row).1) db := by
  refine concludesBind.mpr (concludesBind.mpr (concludesQuery.mpr fun _ i => ?_))
  cases fails : i.fails with
  | true => exact ⟨rfl,_,rfl⟩
  | false =>
    show Concludes idle _ (if ((idle _ db).engagements.get? _).isSome = true then _ else _) db
    split
    · exact ⟨rfl,_,rfl⟩
    · split
      · exact ⟨rfl,_,rfl⟩
      · refine concludesMono ?_ (persistThrows row db)
        rintro _ _ ⟨rfl,error,rfl⟩
        exact ⟨rfl,error,rfl⟩

theorem importRowFails (rowNum : Nat) (row : List (String × String)) (db : Db) :
    Concludes idle (fun out db' => db' = db ∧ ∃ result, out = .ok result ∧ result.success = false)
      (importRow self userId rowNum row) db := by
  unfold importRow
  split
  · exact ⟨rfl,_,rfl,rfl⟩
  · refine concludesHandle.mpr (concludesBind.mpr (concludesMono ?_ (createThrows row db)))
    rintro _ _ ⟨rfl,error,rfl⟩
    exact ⟨rfl,_,rfl,rfl⟩

theorem importRowsFail (rows : List (List (String × String))) (rowNum : Nat) (db : Db) :
    Concludes idle (fun out db' => db' = db ∧ ∃ results, out = .ok results ∧ results.length = rows.length ∧
      ∀ result ∈ results, result.success = false) (importRows self userId rowNum rows) db := by
  induction rows generalizing rowNum db with
  | nil => exact ⟨rfl,[],rfl,rfl,by simp⟩
  | cons row rest ih =>
    refine concludesBind.mpr (concludesMono ?_ (importRowFails rowNum row db))
    rintro _ _ ⟨rfl,result,rfl,failed⟩
    refine concludesBind.mpr (concludesMono ?_ (ih (rowNum + 1) _))
    rintro _ _ ⟨rfl,results,rfl,long,each⟩
    exact ⟨rfl,_,rfl,congrArg Nat.succ long,List.forall_mem_cons.mpr ⟨failed,each⟩⟩

def idOf (row : List (String × String)) : String := (cell row "engagementId").getD ""

/-- Every row has its required fields, an allowed token, a positive amount and an id that is new and its own. -/
structure WellFormed (self : Config) (db : Db) (sheet : Sheet) : Prop where
  filled : ∀ row ∈ sheet.rows, rowMissing row = []
  allowed : ∀ row ∈ sheet.rows, ∀ token ∈ cell row "tokenAddress", self.isTokenAllowed token = true
  amounts : ∀ row ∈ sheet.rows, ∀ amount ∈ cell row "totalAmount", ∃ n, self.bigIntOf amount = some n ∧ 0 < n
  fresh : ∀ row ∈ sheet.rows, db.engagements.get? (idOf row) = none
  distinct : (sheet.rows.map idOf).Nodup

/-- The import counts every row as a success and there is an engagement for each. -/
def AllImported (sheet : Sheet) (out : Except Exception ImportReport) (db : Db) : Prop :=
  ∃ report, out = .ok report ∧ report.successCount = sheet.rows.length ∧ ∀ row ∈ sheet.rows, (db.engagements.get? (idOf row)).isSome

/-- However its calls are answered, the import does not bring in the whole table. -/
structure NotImported (self : Config) (userId : String) (csv : Option String) (db : Db) (sheet : Sheet) : Prop where
  concludes : Concludes idle (fun out db' => ¬ AllImported sheet out db') (importFromCsv self userId csv) db

/-- A row that is reported as failed has added no engagement. -/
def FailedAddsNothing (db : Db) (out : Except Exception ImportResult) (db' : Db) : Prop :=
  ∀ result, out = .ok result → result.success = false → db'.engagements = db.engagements

theorem rowsFilled {csv : Option String} {sheet : Sheet} (read : readCsv csv = .ok sheet) : sheet.rows ≠ [] := by
  unfold readCsv at read
  split at read
  · cases read
  · split at read
    · dsimp only at read
      split at read
      · cases read
      · cases read
        exact List.cons_ne_nil _ _
    · cases read

/-- No table is imported, however well formed; a row that fails adds nothing. -/
theorem importNever (self : Config) (userId : String) (csv : Option String) (db : Db) :
    (∀ sheet, readCsv csv = .ok sheet → WellFormed self db sheet → NotImported self userId csv db sheet) ∧
    ∀ rowNum row, Concludes idle (FailedAddsNothing db) (importRow self userId rowNum row) db := by
  refine ⟨fun sheet read _ => ?_,fun rowNum row => ?_⟩
  · refine ⟨concludesBind.mpr (concludesExcept.mpr ?_)⟩
    rw [read]
    refine concludesBind.mpr (concludesMono ?_ (importRowsFail sheet.rows 2 db))
    rintro _ _ ⟨rfl,results,rfl,_,each⟩ ⟨report,returned,counted,_⟩
    cases returned
    have none : results.countP ImportResult.success = 0 := by
      refine List.countP_eq_zero.mpr fun result inside => ?_
      simp [each result inside]
    exact rowsFilled read (List.length_eq_zero_iff.mp (counted.symm.trans none))
  · refine concludesMono ?_ (importRowFails rowNum row db)
    rintro _ _ ⟨rfl,_⟩ _ _ _
    rfl

/-- The lines in which something stands. -/
theorem linesOfList (text : List Char) :
    linesOf (String.ofList text) = (splitLines text).filter fun line => line.any fun c => !isSpace c := by
  rw [linesOf,String.toList_ofList]
  exact List.filter_congr fun line _ => by
    rw [← Bool.decide_coe (line.any _)]
    exact decide_eq_decide.mpr (trimShown line)

def table : String :=
  String.ofList ([','].intercalate (REQUIRED_COLUMNS.map String.toList) ++ '\n' :: "e1,GC,GR,GA,CT,500,Dev".toList)

def tableRow : List (String × String) :=
  [("engagementId","e1"),("companyAddress","GC"),("recruiterAddress","GR"),("arbiterAddress","GA"),("tokenAddress","CT"),
    ("totalAmount","500"),("jobTitle","Dev")]

def importing : Config where
  bigIntOf := bigIntOf

theorem tableRead : readCsv (some table) = .ok { headers := REQUIRED_COLUMNS, rows := [tableRow] } := by
  rw [readCsv,table,linesOfList]
  decide +kernel

theorem tableWellFormed : WellFormed importing {} { headers := REQUIRED_COLUMNS, rows := [tableRow] } where
  filled := by
    intro row inside
    rw [List.mem_singleton.mp inside]
    decide +kernel
  allowed := fun _ _ _ _ => rfl
  amounts := by
    intro row inside amount there
    rw [List.mem_singleton.mp inside,show cell tableRow "totalAmount" = some "500" by decide +kernel] at there
    cases there
    exact ⟨500,by decide +kernel,by decide⟩
  fresh := fun _ _ => Table.getEmpty _
  distinct := List.nodup_singleton _

theorem importNeverTable : NotImported importing "u" (some table) {} { headers := REQUIRED_COLUMNS, rows := [tableRow] } :=
  (importNever importing "u" (some table) {}).1 _ tableRead tableWellFormed

/-- The one row of a well formed table is refused, as it has no milestones. -/
theorem tableRefused : WellFormed importing {} { headers := REQUIRED_COLUMNS, rows := [tableRow] } ∧
    (importFromCsv importing "u" (some table)).interpret (fun _ => {}) {} =
      (.ok { totalRows := 1, successCount := 0, failureCount := 1, results :=
        [{ row := 2, success := false
           error := some (.thrown (.badRequest "Milestone paymentPercent values must sum to exactly 100")) }] },{}) := by
  refine ⟨tableWellFormed,?_⟩
  unfold importFromCsv
  rw [tableRead]
  rfl

end Rows

end EngagementImportService

end HireSettle.Escrow
