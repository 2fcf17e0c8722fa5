import HireSettle.Escrow.EngagementImport

/-! What the import reads of a table that a writer of comma-separated values has written
with every cell in quotes. The cells of a line are read back, the names of the columns
only where they stand without quotes. -/
namespace HireSettle.Escrow
open EngagementImportService

/-- A table of texts without blanks at their ends. -/
structure CellTable where
  headers : List String
  rows : List (List String)
  filled : headers ≠ []
  rectangular : ∀ row ∈ rows, row.length = headers.length
  trimmed : ∀ row ∈ headers :: rows, ∀ text ∈ row, trim text = text

inductive LineBreak where
  | lf | crlf
  deriving DecidableEq, Repr

def LineBreak.text : LineBreak → List Char
  | .lf => ['\n']
  | .crlf => ['\r','\n']

def escaped (text : List Char) : List Char := text.flatMap fun c => if c = '"' then ['"','"'] else [c]

def quoted (text : String) : List Char := '"' :: (escaped text.toList ++ ['"'])

def encodeRow : List String → List Char
  | [] => []
  | [text] => quoted text
  | text :: rest => quoted text ++ ',' :: encodeRow rest

def encodeRows (eol : LineBreak) : List (List String) → List Char
  | [] => []
  | [row] => encodeRow row
  | row :: rest => encodeRow row ++ eol.text ++ encodeRows eol rest

def CellTable.encode (table : CellTable) (eol : LineBreak) : String :=
  String.ofList (encodeRows eol (table.headers :: table.rows))

/-- The import sees the names of the columns, the cells of every row under them and the number of the rows. -/
def ReadBack (table : CellTable) (csv : String) : Prop :=
  ∃ sheet, readCsv (some csv) = .ok sheet ∧ sheet.headers = table.headers ∧
    sheet.rows = table.rows.map table.headers.zip ∧ sheet.rows.length = table.rows.length

section Lines

theorem linesPlain {text line : List Char} (inside : line ∈ splitLines text) : '\n' ∉ line := by
  fun_induction splitLines text generalizing line with
  | case1 =>
    rw [List.mem_singleton.mp inside]
    exact List.not_mem_nil
  | case2 rest ih | case3 rest ih =>
    obtain rfl | inside := List.mem_cons.mp inside
    · exact List.not_mem_nil
    · exact ih inside
  | case4 c rest _ other ih =>
    cases lines : splitLines rest with
    | nil => rw [lines] at inside; cases inside
    | cons first others =>
      rw [lines] at inside ih
      obtain rfl | inside := List.mem_cons.mp inside
      · intro broken
        obtain rfl | broken := List.mem_cons.mp broken
        · exact other rfl
        · exact ih List.mem_cons_self broken
      · exact ih (List.mem_cons_of_mem _ inside)

theorem linesCons {c : Char} {rest : List Char} (here : c ≠ '\n') (next : rest.head? ≠ some '\n') :
    splitLines (c :: rest) = (splitLines rest).modifyHead (c :: ·) := by
  refine splitLines.eq_4 c rest ?_ here
  rintro rest' _ rfl
  exact next rfl

/-- The first line of a text is what stands in front of its first line break. -/
theorem linesFirst (eol : LineBreak) {line : List Char} (plain : '\n' ∉ line) (last : line.getLast? ≠ some '\r') (rest : List Char) :
    splitLines line = [line] ∧ splitLines (line ++ eol.text ++ rest) = line :: splitLines rest := by
  induction line with
  | nil => cases eol <;> simp [splitLines,LineBreak.text]
  | cons c line ih =>
    have here : c ≠ '\n' := fun same => plain (same ▸ List.mem_cons_self)
    have plain' : '\n' ∉ line := fun inside => plain (List.mem_cons_of_mem c inside)
    cases line with
    | nil =>
      have here' : c ≠ '\r' := fun same => last (by simp [same])
      cases eol <;> simp [splitLines,LineBreak.text,here']
    | cons d line =>
      have there : d ≠ '\n' := fun same => plain' (same ▸ List.mem_cons_self)
      obtain ⟨alone,before⟩ := ih plain' (by simpa using last)
      constructor
      · rw [linesCons here (by simpa using there),alone]
        rfl
      · show splitLines (c :: (d :: line ++ eol.text ++ rest)) = _
        rw [linesCons here (by simpa using there),before]
        rfl

end Lines

section Quotes

def quotes (text : List Char) : Nat := text.count '"'

def quotesOf (texts : List String) : Nat := (texts.map fun text => quotes text.toList).sum

theorem quotesDropWhile (text : List Char) : quotes (text.dropWhile isSpace) = quotes text := by
  induction text with
  | nil => rfl
  | cons c rest ih =>
    unfold List.dropWhile
    cases space : isSpace c with
    | false => rfl
    | true =>
      have other : c ≠ '"' := by
        rintro rfl
        revert space
        decide
      simpa [quotes,List.count_cons_of_ne other] using ih

theorem quotesTrim (text : String) : quotes (trim text).toList = quotes text.toList := by
  unfold trim
  rw [String.toList_ofList]
  have turned : ∀ text : List Char, quotes text.reverse = quotes text := fun text => List.count_reverse
  rw [turned,quotesDropWhile,turned,quotesDropWhile]

theorem quotesParts (line : List Char) : ((line.splitOn ',').map quotes).sum = quotes line := by
  induction line with
  | nil => rfl
  | cons c rest ih =>
    rw [List.splitOn_cons_eq_if_modifyHead]
    split
    · rename_i comma
      rw [beq_iff_eq.mp comma]
      simpa [quotes] using ih
    · cases parts : rest.splitOn ',' with
      | nil => exact absurd parts (List.splitOn_ne_nil _ _)
      | cons part others =>
        rw [parts] at ih
        simp only [List.modifyHead_cons,List.map_cons,List.sum_cons,quotes,List.count_cons] at ih ⊢
        omega

theorem quotesHeaders (line : List Char) : quotesOf (headersOf line) = quotes line := by
  have trimmed : (fun text : String => quotes text.toList) ∘ (fun part => trim (String.ofList part)) = quotes := by
    funext part
    rw [Function.comp_apply,quotesTrim,String.toList_ofList]
  rw [quotesOf,headersOf,List.map_map,trimmed,quotesParts]

theorem quotesEscaped (text : List Char) : quotes (escaped text) = 2 * quotes text := by
  induction text with
  | nil => rfl
  | cons c rest ih =>
    simp only [quotes,escaped,List.flatMap_cons,List.count_append] at ih ⊢
    by_cases quote : c = '"'
    · subst quote
      simp only [if_true,List.count_cons_self,List.count_nil]
      omega
    · simp only [quote,if_false,List.count_cons_of_ne quote,List.count_nil]
      omega

theorem quotesQuoted (text : String) : quotes (quoted text) = 2 * quotes text.toList + 2 := by
  have inner := quotesEscaped text.toList
  simp only [quotes] at inner ⊢
  simp only [quoted,List.count_cons_self,List.count_append,List.count_nil,inner]

theorem quotesRow (row : List String) : quotes (encodeRow row) = 2 * quotesOf row + 2 * row.length := by
  induction row with
  | nil => rfl
  | cons text rest ih =>
    have first := quotesQuoted text
    cases rest with
    | nil => simpa [encodeRow,quotesOf] using first
    | cons next rest =>
      have both : quotes (encodeRow (text :: next :: rest)) = quotes (quoted text) + quotes (encodeRow (next :: rest)) := by
        show quotes (quoted text ++ ',' :: encodeRow (next :: rest)) = _
        rw [quotes,List.count_append,List.count_cons_of_ne (by decide)]
        rfl
      rw [both,first,ih]
      simp only [quotesOf,List.map_cons,List.sum_cons,List.length_cons]
      omega

end Quotes

section Headers

variable {table : CellTable} {eol : LineBreak}

theorem rowLast {row : List String} (filled : row ≠ []) : (encodeRow row).getLast? = some '"' := by
  fun_induction encodeRow row with
  | case1 => exact absurd rfl filled
  | case2 text => rw [quoted,← List.cons_append,List.getLast?_append]; rfl
  | case3 text rest other ih =>
    have some := ih (fun none => other none)
    rw [List.getLast?_append,List.getLast?_cons,some]
    rfl

theorem escapedMem {c : Char} (other : c ≠ '"') (text : List Char) : c ∈ escaped text ↔ c ∈ text := by
  induction text with
  | nil => exact Iff.rfl
  | cons d rest ih =>
    rw [escaped,List.flatMap_cons,List.mem_append,List.mem_cons,← escaped,ih]
    by_cases quote : d = '"' <;> simp [quote,other]

theorem rowPlain {row : List String} (plain : ∀ text ∈ row, '\n' ∉ text.toList) : '\n' ∉ encodeRow row := by
  have one : ∀ text : String, '\n' ∉ text.toList → '\n' ∉ quoted text := by
    intro text plain
    simp [quoted,escapedMem,plain]
  fun_induction encodeRow row with
  | case1 => exact List.not_mem_nil
  | case2 text => exact one text (plain text List.mem_cons_self)
  | case3 text rest _ ih =>
    have first := one text (plain text List.mem_cons_self)
    have later := ih fun text inside => plain text (List.mem_cons_of_mem _ inside)
    simp [first,later]

theorem rowShown {row : List String} (filled : row ≠ []) : trim (String.ofList (encodeRow row)) ≠ "" := by
  have quote : '"' ∈ encodeRow row := List.mem_of_getLast? (rowLast filled)
  rw [trimShown]
  exact List.any_eq_true.mpr ⟨_,quote,by decide⟩

/-- Without a line break in a name the first line is the names in quotes. -/
theorem headerLine (plain : ∀ name ∈ table.headers, '\n' ∉ name.toList) :
    (linesOf (table.encode eol)).head? = some (encodeRow table.headers) := by
  have last : (encodeRow table.headers).getLast? ≠ some '\r' := by
    rw [rowLast table.filled]
    decide
  have lines : ∃ others, splitLines (table.encode eol).toList = encodeRow table.headers :: others := by
    unfold CellTable.encode
    rw [String.toList_ofList]
    cases table.rows with
    | nil => exact ⟨[],(linesFirst eol (rowPlain plain) last []).1⟩
    | cons row rest => exact ⟨_,(linesFirst eol (rowPlain plain) last _).2⟩
  obtain ⟨others,lines⟩ := lines
  rw [linesOf,lines,List.filter_cons_of_pos (by simpa using rowShown table.filled)]
  rfl

theorem trimMem {c : Char} {text : String} (inside : c ∈ (trim text).toList) : c ∈ text.toList := by
  unfold trim at inside
  rw [String.toList_ofList,List.mem_reverse] at inside
  have inside := List.mem_reverse.mp ((List.dropWhile_sublist _).subset inside)
  exact (List.dropWhile_sublist _).subset inside

theorem partMem {c : Char} {line part : List Char} (piece : part ∈ line.splitOn ',') (inside : c ∈ part) : c ∈ line := by
  induction line generalizing part with
  | nil =>
    cases List.mem_singleton.mp piece
    cases inside
  | cons d rest ih =>
    rw [List.splitOn_cons_eq_if_modifyHead] at piece
    split at piece
    · obtain rfl | piece := List.mem_cons.mp piece
      · cases inside
      · exact List.mem_cons_of_mem d (ih piece inside)
    · cases parts : rest.splitOn ',' with
      | nil => exact absurd parts (List.splitOn_ne_nil _ _)
      | cons first others =>
        rw [parts] at piece ih
        obtain rfl | piece := List.mem_cons.mp piece
        · obtain rfl | inside := List.mem_cons.mp inside
          · exact List.mem_cons_self
          · exact List.mem_cons_of_mem d (ih List.mem_cons_self inside)
        · exact List.mem_cons_of_mem d (ih (List.mem_cons_of_mem first piece) inside)

theorem headersPlain {line : List Char} (plain : '\n' ∉ line) : ∀ name ∈ headersOf line, '\n' ∉ name.toList := by
  intro name inside broken
  obtain ⟨part,piece,rfl⟩ := List.mem_map.mp inside
  have broken := trimMem broken
  rw [String.toList_ofList] at broken
  exact plain (partMem piece broken)

/-- The names of the columns are never read back, as their quotes are taken for a part of them. -/
theorem neverReadBack (table : CellTable) (eol : LineBreak) : ¬ ReadBack table (table.encode eol) := by
  rintro ⟨sheet,read,same,_⟩
  obtain ⟨header,first,headers⟩ : ∃ header, (linesOf (table.encode eol)).head? = some header ∧ sheet.headers = headersOf header := by
    unfold readCsv at read
    dsimp only at read
    split at read
    · rename_i header line rest lines
      split at read
      · cases read
      · cases read
        exact ⟨header,by rw [lines]; rfl,rfl⟩
    · cases read
  have plain : ∀ name ∈ table.headers, '\n' ∉ name.toList := by
    rw [← same,headers]
    exact headersPlain (linesPlain (List.mem_filter.mp (List.mem_of_mem_head? first)).1)
  cases first.symm.trans (headerLine plain)
  have counted := quotesHeaders (encodeRow table.headers)
  rw [← headers,same,quotesRow] at counted
  have some := List.length_pos_of_ne_nil table.filled
  omega

def listed : CellTable where
  headers := REQUIRED_COLUMNS
  rows := [["e1","GC","GR","GA","CT","500","Dev"]]
  filled := by decide
  rectangular := by decide
  trimmed := by decide +kernel

/-- A table with every column that is required is refused for want of all of them. -/
theorem listedRefused : readCsv (some (listed.encode .crlf)) = .error (.badRequest ("CSV is missing required column(s): " ++
      "engagementId, companyAddress, recruiterAddress, arbiterAddress, tokenAddress, totalAmount, jobTitle")) ∧
    ¬ ReadBack listed (listed.encode .crlf) := by
  have refused : readCsv (some (listed.encode .crlf)) = .error (.badRequest ("CSV is missing required column(s): " ++
      "engagementId, companyAddress, recruiterAddress, arbiterAddress, tokenAddress, totalAmount, jobTitle")) := by
    rw [readCsv,CellTable.encode,linesOfList]
    decide +kernel
  refine ⟨refused,?_⟩
  rintro ⟨sheet,read,_⟩
  rw [refused] at read
  cases read

end Headers

section Cells

theorem fieldsEscaped (text current : List Char) {rest : List Char} (after : rest.head? ≠ some '"') :
    fields true current (escaped text ++ '"' :: rest) = fields false (current ++ text) rest := by
  induction text generalizing current with
  | nil =>
    cases rest with
    | nil => simp [escaped,fields]
    | cons d rest =>
      have other : d ≠ '"' := by simpa using after
      simp [escaped,fields,other]
  | cons c text ih =>
    rw [escaped,List.flatMap_cons,← escaped]
    by_cases quote : c = '"'
    · rw [if_pos quote,quote]
      show fields true (current ++ ['"']) (escaped text ++ '"' :: rest) = _
      rw [ih,List.append_assoc]
      rfl
    · rw [if_neg quote]
      have read : fields true current (c :: (escaped text ++ '"' :: rest)) = fields true (current ++ [c]) (escaped text ++ '"' :: rest) := by
        refine fields.eq_5 true current c _ ?_ ?_ ?_ <;> simp [quote]
      show fields true current (c :: (escaped text ++ '"' :: rest)) = _
      rw [read,ih,List.append_assoc]
      rfl

theorem lineQuoted (text : String) {rest : List Char} (after : rest.head? ≠ some '"') :
    parseCsvLine ('"' :: (escaped text.toList ++ '"' :: rest)) = fields false text.toList rest := by
  have opened : parseCsvLine ('"' :: (escaped text.toList ++ '"' :: rest)) = fields true [] (escaped text.toList ++ '"' :: rest) := by
    simp [parseCsvLine,fields]
  rw [opened,fieldsEscaped _ _ after,List.nil_append]

/-- The cells of a line are read back, whatever stands in them. -/
theorem parseEncoded {row : List String} (filled : row ≠ []) : parseCsvLine (encodeRow row) = row.map String.toList := by
  induction row with
  | nil => exact absurd rfl filled
  | cons text rest ih =>
    cases rest with
    | nil =>
      have last : ([] : List Char).head? ≠ some '"' := nofun
      have read := lineQuoted text last
      simpa [fields,encodeRow,quoted] using read
    | cons next rest =>
      have comma : (',' :: encodeRow (next :: rest)).head? ≠ some '"' := by simp
      have line : encodeRow (text :: next :: rest) = '"' :: (escaped text.toList ++ '"' :: ',' :: encodeRow (next :: rest)) := by
        simp [encodeRow,quoted]
      have first : parseCsvLine (encodeRow (text :: next :: rest)) = text.toList :: parseCsvLine (encodeRow (next :: rest)) := by
        rw [line,lineQuoted text comma]
        simp [fields,parseCsvLine]
      rw [first,ih (List.cons_ne_nil _ _)]
      rfl

theorem rowFilled {table : CellTable} {row : List String} (inside : row ∈ table.rows) : row ≠ [] := by
  rintro rfl
  exact table.filled (List.length_eq_zero_iff.mp (table.rectangular [] inside).symm)

/-- A row on one line comes back under the names of the columns, were they read. -/
theorem rowReadBack {table : CellTable} {row : List String} (inside : row ∈ table.rows) :
    rowOf table.headers (encodeRow row) = table.headers.zip row := by
  have long := table.rectangular row inside
  refine List.ext_getElem (by simp [rowOf,long]) fun idx bound bound' => ?_
  have here : idx < row.length := by
    rw [List.length_zip,long,min_self] at bound'
    omega
  have kept := table.trimmed row (List.mem_cons_of_mem _ inside) row[idx] (List.getElem_mem here)
  simp only [rowOf,parseEncoded (rowFilled inside),List.getElem_map,List.getElem_zipIdx,Nat.zero_add,List.getElem?_map,
    List.getElem?_eq_getElem here,Option.map_some,String.ofList_toList,kept,Option.getD_some,List.getElem_zip]

end Cells

section Files

/-- The names of the columns as they stand, and every cell in quotes. -/
def CellTable.encodeCells (table : CellTable) (eol : LineBreak) : String :=
  String.ofList ([','].intercalate (table.headers.map String.toList) ++ eol.text ++ encodeRows eol table.rows)

theorem trimmedLast {text : String} (trimmed : trim text = text) : text.toList.getLast? ≠ some '\r' := by
  have last := List.head?_dropWhile_not isSpace (text.toList.dropWhile isSpace).reverse
  rw [← trimmed,trim,String.toList_ofList,List.getLast?_reverse]
  intro ends
  rw [ends] at last
  revert last
  decide

theorem joinedLast {names : List String} (trimmed : ∀ name ∈ names, trim name = name) :
    ([','].intercalate (names.map String.toList)).getLast? ≠ some '\r' := by
  induction names with
  | nil => simp
  | cons name rest ih =>
    have later := ih fun name inside => trimmed name (List.mem_cons_of_mem _ inside)
    cases rest with
    | nil => simpa using trimmedLast (trimmed name List.mem_cons_self)
    | cons next rest =>
      rw [List.map_cons] at later
      rw [List.map_cons,List.map_cons,List.intercalate_cons_cons,List.append_assoc,List.getLast?_append,
        List.singleton_append,List.getLast?_cons]
      cases ends : ([','].intercalate (next.toList :: rest.map String.toList)).getLast? with
      | none => simp
      | some c => simpa [ends] using later

theorem joinedPlain {names : List String} (plain : ∀ name ∈ names, '\n' ∉ name.toList) :
    '\n' ∉ [','].intercalate (names.map String.toList) := by
  induction names with
  | nil => simp
  | cons name rest ih =>
    have first := plain name List.mem_cons_self
    have later := ih fun name inside => plain name (List.mem_cons_of_mem _ inside)
    cases rest with
    | nil => simpa using first
    | cons next rest => simpa [List.intercalate_cons_cons,first] using later

theorem headersJoined {names : List String} (filled : names ≠ []) (single : ∀ name ∈ names, ',' ∉ name.toList)
    (trimmed : ∀ name ∈ names, trim name = name) : headersOf ([','].intercalate (names.map String.toList)) = names := by
  rw [headersOf,List.splitOn_intercalate _ (by simpa using single) (by simpa using filled),List.map_map]
  exact (List.map_congr_left fun name inside => by simp [trimmed name inside]).trans (List.map_id names)

/-- Without a line break in a cell every row is a line. -/
theorem rowLines (eol : LineBreak) {rows : List (List String)} (some : rows ≠ [])
    (plain : ∀ row ∈ rows, row ≠ [] ∧ ∀ text ∈ row, '\n' ∉ text.toList) :
    splitLines (encodeRows eol rows) = rows.map encodeRow := by
  induction rows with
  | nil => exact absurd rfl some
  | cons row rest ih =>
    obtain ⟨filled,cells⟩ := plain row List.mem_cons_self
    have last : (encodeRow row).getLast? ≠ Option.some '\r' := by simp [rowLast filled]
    have line := linesFirst eol (rowPlain cells) last
    cases rest with
    | nil => exact (line []).1
    | cons next rest =>
      have later := ih (List.cons_ne_nil _ _) fun row inside => plain row (List.mem_cons_of_mem _ inside)
      rw [encodeRows,(line _).2,later]
      · rfl
      · simp

theorem headersShown {line : List Char} {name : String} (inside : name ∈ headersOf line) (named : name ≠ "") :
    trim (String.ofList line) ≠ "" := by
  obtain ⟨part,piece,rfl⟩ := List.mem_map.mp inside
  obtain ⟨c,here,solid⟩ := List.any_eq_true.mp ((trimShown part).mp named)
  rw [trimShown]
  exact List.any_eq_true.mpr ⟨c,partMem piece here,solid⟩

def remarked : CellTable where
  headers := REQUIRED_COLUMNS
  rows := [["e1","GC","GR","GA","CT","500","Dev, \x22senior\x22"]]
  filled := by decide
  rectangular := by decide
  trimmed := by decide +kernel

end Files

end HireSettle.Escrow
