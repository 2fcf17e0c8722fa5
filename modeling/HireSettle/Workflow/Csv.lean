import Mathlib

/-! Comma-separated values with a line feed between records: the grammar, a reader
of it, and which tables of cells, each written in quotes or as it is, are read back. -/
namespace Workflow.Csv

def doubled (text : List Char) : List Char := text.flatMap fun c => if c = '"' then ['"','"'] else [c]

def quoted (text : List Char) : List Char := '"' :: (doubled text ++ ['"'])

def join (separator : Char) : List (List Char) → List Char
  | [] => []
  | [text] => text
  | text :: rest => text ++ separator :: join separator rest

def TextData (c : Char) : Prop := c ≠ '"' ∧ c ≠ ',' ∧ c ≠ '\r' ∧ c ≠ '\n'

instance (c : Char) : Decidable (TextData c) := inferInstanceAs (Decidable (_ ∧ _))

inductive Field : List Char → List Char → Prop where
  | plain {text} (data : ∀ c ∈ text, TextData c) : Field text text
  | quoted (text) : Field (quoted text) text

inductive Record : List Char → List (List Char) → Prop where
  | last {text value} (field : Field text value) : Record text [value]
  | more {text value rest values} (field : Field text value) (next : Record rest values) :
      Record (text ++ ',' :: rest) (value :: values)

-- a line break at the end of the text ends the last record
inductive File : List Char → List (List (List Char)) → Prop where
  | last {text values} (record : Record text values) : File text [values]
  | ended {text values} (record : Record text values) : File (text ++ ['\n']) [values]
  | more {text values rest records} (record : Record text values) (some : rest ≠ []) (next : File rest records) :
      File (text ++ '\n' :: rest) (values :: records)

/-- The text is well formed and holds these records and no others. -/
def ReadsBack (text : List Char) (table : List (List (List Char))) : Prop := ∀ records, File text records ↔ records = table

/-- What is read from a place on: the rest of a field, the fields after it and the records after it. -/
structure Reading where
  field : List Char
  fields : List (List Char)
  records : List (List (List Char))

namespace Reading

def blank : Reading := ⟨[],[],[]⟩

def table (r : Reading) : List (List (List Char)) := (r.field :: r.fields) :: r.records

def push (c : Char) (r : Reading) : Reading := { r with field := c :: r.field }

def newField (r : Reading) : Reading := ⟨[],r.field :: r.fields,r.records⟩

def newRecord (r : Reading) : Reading := ⟨[],[],r.table⟩

def prepend (text : List Char) (r : Reading) : Reading := { r with field := text ++ r.field }

end Reading

inductive Mode where
  | start | plain | quoted | closing

open Reading

def read : Mode → List Char → Option Reading
  | .quoted, [] => none
  | _, [] => some blank
  | .quoted, c :: rest => if c = '"' then read .closing rest else (read .quoted rest).map (push c)
  | mode, c :: rest =>
      if c = ',' then (read .start rest).map newField
      else if c = '\n' then if rest = [] then some blank else (read .start rest).map newRecord
      else match mode with
        | .start => if c = '"' then read .quoted rest else if c = '\r' then none else (read .plain rest).map (push c)
        | .plain => if c = '"' ∨ c = '\r' then none else (read .plain rest).map (push c)
        | _ => if c = '"' then (read .quoted rest).map (push '"') else none

def decode (text : List Char) : Option (List (List (List Char))) := (read .start text).map table

example : decode "a,\"b\"\"\n\"\n,c\n".toList = some [["a".toList,"b\"\n".toList],[[],"c".toList]] := by decide

/-- What may stand after a field. -/
def Stops : List Char → Prop
  | [] => True
  | c :: _ => c = ',' ∨ c = '\n'

section Fields
variable {tail : List Char}

theorem readPlain {c : Char} (data : TextData c) (mode : Mode) (fresh : mode = .start ∨ mode = .plain) (rest : List Char) :
    read mode (c :: rest) = (read .plain rest).map (push c) := by
  obtain ⟨quote,comma,ret,feed⟩ := data
  obtain rfl | rfl := fresh
  · rw [read,if_neg comma,if_neg feed,if_neg quote,if_neg ret]
  · rw [read,if_neg comma,if_neg feed,if_neg (not_or.mpr ⟨quote,ret⟩)]

theorem readStop (stops : Stops tail) {mode : Mode} (outside : mode ≠ .quoted) : read mode tail = read .closing tail := by
  cases tail with
  | nil => cases mode <;> first | rfl | exact absurd rfl outside
  | cons c rest =>
      obtain rfl | rfl := stops <;> cases mode <;> first | rfl | exact absurd rfl outside

theorem readData {text : List Char} (data : ∀ c ∈ text, TextData c) (stops : Stops tail) {mode : Mode}
    (fresh : mode = .start ∨ mode = .plain) : read mode (text ++ tail) = (read .closing tail).map (prepend text) := by
  induction text generalizing mode with
  | nil =>
      rw [List.nil_append,readStop stops (by obtain rfl | rfl := fresh <;> exact nofun)]
      cases read .closing tail <;> rfl
  | cons c text ih =>
      obtain ⟨here,rest⟩ := List.forall_mem_cons.mp data
      rw [List.cons_append,readPlain here mode fresh,ih rest (.inr rfl),Option.map_map]
      rfl

theorem mapPrependNil (r : Option Reading) : r.map (prepend []) = r := by
  cases r <;> rfl

theorem readDoubled (text : List Char) : read .quoted (doubled text ++ '"' :: tail) = (read .closing tail).map (prepend text) := by
  induction text with
  | nil =>
      rw [mapPrependNil]
      rfl
  | cons c text ih =>
      have joined : (read .quoted (doubled text ++ '"' :: tail)).map (push c) = (read .closing tail).map (prepend (c :: text)) := by
        rw [ih,Option.map_map]
        rfl
      rw [doubled,List.flatMap_cons,← doubled,← joined]
      split
      · rename_i same
        rw [same]
        rfl
      · rename_i other
        rw [List.singleton_append,List.cons_append,read,if_neg other]

theorem readField {text value : List Char} (field : Field text value) (stops : Stops tail) :
    read .start (text ++ tail) = (read .closing tail).map (prepend value) := by
  cases field with
  | plain data => exact readData data stops (.inl rfl)
  | quoted =>
      rw [quoted,List.cons_append,List.append_assoc,List.singleton_append]
      exact readDoubled value

end Fields

section Files

/-- The values of a record in front of what is read after it. -/
def attach : List (List Char) → Reading → Reading
  | [], r => r
  | [value], r => prepend value r
  | value :: values, r => prepend value (newField (attach values r))

theorem readRecord {text : List Char} {values : List (List Char)} (record : Record text values) {tail : List Char}
    (ends : tail = [] ∨ tail.head? = some '\n') : read .start (text ++ tail) = (read .closing tail).map (attach values) := by
  induction record with
  | last field =>
      refine readField field ?_
      cases tail with
      | nil => trivial
      | cons c rest => exact .inr (Option.some.inj (ends.resolve_left nofun))
  | @more text value rest values field next ih =>
      rw [List.append_assoc,List.cons_append,@readField (',' :: (rest ++ tail)) text value field (.inl rfl)]
      show ((read .start (rest ++ tail)).map newField).map _ = _
      rw [ih,Option.map_map,Option.map_map]
      cases next <;> rfl

theorem attachTable {values : List (List Char)} (filled : values ≠ []) (records : List (List (List Char))) :
    (attach values ⟨[],[],records⟩).table = values :: records := by
  have fields : ∀ values : List (List Char), values ≠ [] → (attach values ⟨[],[],records⟩).field :: (attach values ⟨[],[],records⟩).fields =
      values ∧ (attach values ⟨[],[],records⟩).records = records := by
    intro values filled
    induction values with
    | nil => exact absurd rfl filled
    | cons value rest ih =>
        cases rest with
        | nil => exact ⟨by simp [attach,prepend],rfl⟩
        | cons next rest =>
            obtain ⟨same,kept⟩ := ih nofun
            refine ⟨?_,kept⟩
            show (value ++ []) :: ((attach (next :: rest) ⟨[],[],records⟩).field :: (attach (next :: rest) ⟨[],[],records⟩).fields) = _
            rw [List.append_nil,same]
  obtain ⟨same,kept⟩ := fields values filled
  rw [table,same,kept]

theorem recordFilled {text : List Char} {values : List (List Char)} (record : Record text values) : values ≠ [] := by
  cases record <;> exact nofun

theorem readMore {rest : List Char} (some : rest ≠ []) : read .closing ('\n' :: rest) = (read .start rest).map newRecord := by
  show (if rest = [] then Option.some blank else (read .start rest).map newRecord) = _
  rw [if_neg some]

theorem decodeFile {text : List Char} {records : List (List (List Char))} (file : File text records) : decode text = some records := by
  induction file with
  | @last text values record =>
      have whole := @readRecord text values record [] (.inl rfl)
      rw [List.append_nil] at whole
      rw [decode,whole]
      exact congrArg some (attachTable (recordFilled record) [])
  | ended record =>
      rw [decode,readRecord record (.inr rfl)]
      exact congrArg some (attachTable (recordFilled record) [])
  | @more text values rest records record some next ih =>
      rw [decode,readRecord record (.inr rfl),readMore some]
      rw [decode] at ih
      obtain ⟨r,whole,rfl⟩ := Option.map_eq_some_iff.mp ih
      rw [whole]
      exact congrArg Option.some (attachTable (recordFilled record) r.table)

theorem readsBack {text : List Char} {table : List (List (List Char))} (file : File text table) : ReadsBack text table := by
  intro records
  constructor
  · exact fun other => Option.some.inj ((decodeFile other).symm.trans (decodeFile file))
  · exact fun same => same ▸ file

end Files

section Writing

/-- A cell as a writer puts it down, in quotes or as it is. -/
structure Written where
  value : List Char
  inQuotes : Bool

namespace Written

def text (w : Written) : List Char := if w.inQuotes then quoted w.value else w.value

def Sound (w : Written) : Prop := w.inQuotes = false → ∀ c ∈ w.value, TextData c

theorem soundField {w : Written} (sound : w.Sound) : Field w.text w.value := by
  rw [text]
  cases quotes : w.inQuotes with
  | true => exact .quoted w.value
  | false => exact .plain (sound quotes)

end Written

def rowText (row : List Written) : List Char := join ',' (row.map Written.text)

def fileText (rows : List (List Written)) : List Char := join '\n' (rows.map rowText)

def values (rows : List (List Written)) : List (List (List Char)) := rows.map fun row => row.map Written.value

def SoundRow (row : List Written) : Prop := ∀ w ∈ row, w.Sound

theorem soundRecord {row : List Written} (filled : row ≠ []) (sound : SoundRow row) : Record (rowText row) (row.map Written.value) := by
  induction row with
  | nil => exact absurd rfl filled
  | cons w row ih =>
      obtain ⟨here,rest⟩ := List.forall_mem_cons.mp sound
      cases row with
      | nil => exact .last (Written.soundField here)
      | cons next row => exact .more (Written.soundField here) (ih nofun rest)

variable {tail : List Char}

theorem stopped (stops : Stops tail) {r : Reading} (reads : read .closing tail = some r) : r.field = [] := by
  cases tail with
  | nil =>
      cases reads
      rfl
  | cons c rest =>
      obtain rfl | rfl := stops
      · obtain ⟨r,_,rfl⟩ := Option.map_eq_some_iff.mp (reads : (read .start rest).map newField = some r)
        rfl
      · by_cases none : rest = []
        · rw [none] at reads
          cases reads
          rfl
        · rw [readMore none] at reads
          obtain ⟨r,_,rfl⟩ := Option.map_eq_some_iff.mp reads
          rfl

theorem quotedOther {c : Char} (other : c ≠ '"') (rest : List Char) : read .quoted (c :: rest) = (read .quoted rest).map (push c) := by
  rw [read,if_neg other]

theorem closingOther {c : Char} {rest : List Char} {r : Reading} (other : c ≠ '"') (reads : read .closing (c :: rest) = some r) :
    r.field = [] := by
  by_cases stops : c = ',' ∨ c = '\n'
  · exact stopped (show Stops (c :: rest) from stops) reads
  · obtain ⟨comma,feed⟩ := not_or.mp stops
    have none : read .closing (c :: rest) = none := by
      show (if c = ',' then (read .start rest).map newField else if c = '\n' then if rest = [] then some blank
        else (read .start rest).map newRecord else if c = '"' then (read .quoted rest).map (push '"') else none) = none
      rw [if_neg comma,if_neg feed,if_neg other]
    cases none.symm.trans reads

theorem headOther {c : Char} {rest text : List Char} {k : Nat} {r : Reading} (other : c ≠ '"')
    (reads : read .quoted (c :: rest) = some r) : r.field ≠ List.replicate (k + 1) '"' ++ text := by
  intro same
  rw [quotedOther other] at reads
  obtain ⟨r,_,rfl⟩ := Option.map_eq_some_iff.mp reads
  exact other (List.cons.inj same).1

theorem emptyOther {text : List Char} {k : Nat} {r : Reading} (none : r.field = []) : r.field ≠ List.replicate (k + 1) '"' ++ text :=
  fun same => nomatch none.symm.trans same

-- a field that starts with a quote never comes back as it was: what is read in quotes takes two for one
theorem readShort (stops : Stops tail) (n k : Nat) (text : List Char) (short : text.length ≤ n) {r : Reading}
    (reads : read .quoted (text ++ tail) = some r) : r.field ≠ List.replicate (k + 1) '"' ++ text := by
  induction n generalizing k text r with
  | zero =>
      obtain rfl := List.eq_nil_of_length_eq_zero (Nat.le_zero.mp short)
      cases tail with
      | nil => cases reads
      | cons c rest => exact headOther (by obtain rfl | rfl := stops <;> decide) reads
  | succ n ih =>
      cases text with
      | nil => exact ih k [] (Nat.zero_le n) reads
      | cons c text =>
          by_cases quote : c = '"'
          · subst quote
            have after : read .closing (text ++ tail) = some r := reads
            cases text with
            | nil => exact emptyOther (stopped stops after)
            | cons d text =>
                by_cases twice : d = '"'
                · subst twice
                  obtain ⟨r,inner,rfl⟩ := Option.map_eq_some_iff.mp (after : (read .quoted (text ++ tail)).map (push '"') = some _)
                  have longer : List.replicate (k + 1) '"' ++ '"' :: '"' :: text = '"' :: (List.replicate (k + 1 + 1) '"' ++ text) := by
                    rw [List.append_cons,List.append_cons _ _ text,← List.replicate_succ',← List.replicate_succ',
                      List.replicate_succ,List.cons_append]
                  rw [longer]
                  intro same
                  refine ih (k + 1) text ?_ inner (List.cons.inj same).2
                  rw [List.length_cons,List.length_cons] at short
                  omega
                · exact emptyOther (closingOther twice after)
          · exact headOther quote reads

theorem notData {c : Char} {rest : List Char} {r : Reading} (other : ¬ TextData c) {mode : Mode}
    (outside : mode = .plain ∨ (mode = .start ∧ c ≠ '"')) (reads : read mode (c :: rest) = some r) : r.field = [] := by
  by_cases stops : c = ',' ∨ c = '\n'
  · have after : Stops (c :: rest) := stops
    rw [readStop after (by obtain rfl | ⟨rfl,_⟩ := outside <;> exact nofun)] at reads
    exact stopped after reads
  · obtain ⟨comma,feed⟩ := not_or.mp stops
    have refused : c = '"' ∨ c = '\r' := by
      by_contra neither
      obtain ⟨quote,ret⟩ := not_or.mp neither
      exact other ⟨quote,comma,ret,feed⟩
    obtain rfl | ⟨rfl,plain⟩ := outside
    · rw [read,if_neg comma,if_neg feed,if_pos refused] at reads
      cases reads
    · rw [read,if_neg comma,if_neg feed,if_neg plain,if_pos (refused.resolve_left plain)] at reads
      cases reads

theorem plainExact {text : List Char} {r : Reading} (reads : read .plain (text ++ tail) = some r) (same : r.field = text) :
    ∀ c ∈ text, TextData c := by
  induction text generalizing r with
  | nil => exact nofun
  | cons c text ih =>
      by_cases data : TextData c
      · rw [List.cons_append,readPlain data .plain (.inr rfl)] at reads
        obtain ⟨r,inner,rfl⟩ := Option.map_eq_some_iff.mp reads
        exact List.forall_mem_cons.mpr ⟨data,ih inner (List.cons.inj same).2⟩
      · cases (notData data (.inl rfl) reads).symm.trans same

theorem startExact (stops : Stops tail) {text : List Char} {r : Reading} (reads : read .start (text ++ tail) = some r)
    (same : r.field = text) : ∀ c ∈ text, TextData c := by
  cases text with
  | nil => exact nofun
  | cons c text =>
      by_cases data : TextData c
      · rw [List.cons_append,readPlain data .start (.inl rfl)] at reads
        exact plainExact ((readPlain data .plain (.inr rfl) (text ++ tail)).trans reads) same
      · by_cases quote : c = '"'
        · subst quote
          exact absurd same (readShort stops text.length 0 text (Nat.le_refl _) reads)
        · cases (notData data (.inr ⟨rfl,quote⟩) reads).symm.trans same

theorem fieldExact (stops : Stops tail) {w : Written} {r : Reading} (reads : read .start (w.text ++ tail) = some r)
    (same : r.field = w.value) : w.Sound := by
  intro raw
  rw [Written.text,raw] at reads
  exact startExact stops reads same

theorem recordExact {tail : List Char} (ends : tail = [] ∨ tail.head? = some '\n') {row : List Written} {r : Reading}
    (reads : read .start (rowText row ++ tail) = some r) (same : r.field :: r.fields = row.map Written.value) : SoundRow row := by
  induction row generalizing r with
  | nil => exact nofun
  | cons w row ih =>
      cases row with
      | nil =>
          have stops : Stops tail := by
            cases tail with
            | nil => trivial
            | cons c rest => exact .inr (Option.some.inj (ends.resolve_left nofun))
          exact List.forall_mem_cons.mpr ⟨fieldExact stops reads (List.cons.inj same).1,nofun⟩
      | cons next row =>
          have split : rowText (w :: next :: row) ++ tail = w.text ++ ',' :: (rowText (next :: row) ++ tail) := List.append_assoc _ _ _
          have comma : Stops (',' :: (rowText (next :: row) ++ tail)) := .inl rfl
          rw [split] at reads
          have sound := fieldExact comma reads (List.cons.inj same).1
          rw [readField (Written.soundField sound) comma] at reads
          obtain ⟨_,after,rfl⟩ := Option.map_eq_some_iff.mp reads
          obtain ⟨r,inner,rfl⟩ := Option.map_eq_some_iff.mp (after : (read .start (rowText (next :: row) ++ tail)).map newField = some _)
          exact List.forall_mem_cons.mpr ⟨sound,ih inner (List.cons.inj same).2⟩

end Writing

section Tables
variable {rows : List (List Written)} {ending : List Char}

/-- The text does not end in a record that leaves nothing behind. -/
def Solid (rows : List (List Written)) (ending : List Char) : Prop :=
  ending = ['\n'] ∨ (ending = [] ∧ ∀ row ∈ rows.getLast?, rowText row ≠ [])

theorem solidNext {row next : List Written} (solid : Solid (row :: next :: rows) ending) : Solid (next :: rows) ending :=
  solid.imp_right fun ⟨empty,last⟩ => ⟨empty,by rwa [List.getLast?_cons_cons] at last⟩

theorem solidFilled (solid : Solid rows ending) (some : rows ≠ []) : fileText rows ++ ending ≠ [] := by
  obtain rfl | ⟨rfl,last⟩ := solid
  · exact List.append_ne_nil_of_right_ne_nil _ nofun
  · rw [List.append_nil]
    match rows with
    | [] => exact absurd rfl some
    | [row] => exact last row rfl
    | row :: next :: rows => exact List.append_ne_nil_of_right_ne_nil _ nofun

theorem fileSplit (row next : List Written) : fileText (row :: next :: rows) ++ ending =
    rowText row ++ '\n' :: (fileText (next :: rows) ++ ending) := List.append_assoc _ _ _

theorem soundFile (filled : ∀ row ∈ rows, row ≠ []) (some : rows ≠ []) (solid : Solid rows ending)
    (sound : ∀ row ∈ rows, SoundRow row) : File (fileText rows ++ ending) (values rows) := by
  induction rows with
  | nil => exact absurd rfl some
  | cons row rows ih =>
      obtain ⟨here,rest⟩ := List.forall_mem_cons.mp filled
      obtain ⟨first,others⟩ := List.forall_mem_cons.mp sound
      have record := soundRecord here first
      cases rows with
      | nil =>
          obtain rfl | ⟨rfl,_⟩ := solid
          · exact .ended record
          · rw [List.append_nil]
            exact .last record
      | cons next rows =>
          rw [fileSplit]
          exact .more record (solidFilled (solidNext solid) nofun) (ih rest nofun (solidNext solid) others)

theorem fileExact (filled : ∀ row ∈ rows, row ≠ []) (some : rows ≠ []) (solid : Solid rows ending) {r : Reading}
    (reads : read .start (fileText rows ++ ending) = .some r) (same : r.table = values rows) : ∀ row ∈ rows, SoundRow row := by
  induction rows generalizing r with
  | nil => exact nofun
  | cons row rows ih =>
      obtain ⟨here,rest⟩ := List.forall_mem_cons.mp filled
      have first := (List.cons.inj same).1
      cases rows with
      | nil =>
          refine List.forall_mem_cons.mpr ⟨recordExact ?_ reads first,nofun⟩
          exact solid.elim (fun feed => .inr (feed ▸ rfl)) fun ⟨empty,_⟩ => .inl empty
      | cons next rows =>
          rw [fileSplit] at reads
          have sound := recordExact (.inr rfl) reads first
          rw [readRecord (soundRecord here sound) (.inr rfl),readMore (solidFilled (solidNext solid) nofun)] at reads
          obtain ⟨_,after,rfl⟩ := Option.map_eq_some_iff.mp reads
          obtain ⟨r,inner,rfl⟩ := Option.map_eq_some_iff.mp after
          have whole := attachTable (recordFilled (soundRecord here sound)) r.table
          exact List.forall_mem_cons.mpr ⟨sound,ih rest nofun (solidNext solid) inner (List.cons.inj (whole.symm.trans same)).2⟩

/-- A table is read back when, and only when, no cell without quotes has a character that needs them. -/
theorem readsBackIff (filled : ∀ row ∈ rows, row ≠ []) (some : rows ≠ []) (solid : Solid rows ending) :
    ReadsBack (fileText rows ++ ending) (values rows) ↔ ∀ row ∈ rows, SoundRow row := by
  constructor
  · intro back
    have decoded := decodeFile ((back (values rows)).mpr rfl)
    obtain ⟨r,reads,same⟩ := Option.map_eq_some_iff.mp decoded
    exact fileExact filled some solid reads same
  · exact fun sound => readsBack (soundFile filled some solid sound)

end Tables
end Workflow.Csv
