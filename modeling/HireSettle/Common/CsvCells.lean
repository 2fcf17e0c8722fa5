import HireSettle.Workflow.Csv
import HireSettle.Workflow.Numerals
import HireSettle.Workflow.Dates

/-! The tables that the exports write as comma-separated values: a cell with a comma,
a quote or a line feed goes in quotes, every other cell stands as it is. -/
namespace HireSettle.CsvCells
open Workflow

def chars (cell : Option String) : List Char := (cell.getD "").toList

def special (c : Char) : Bool := c = ',' || c = '"' || c = '\n'

def escaped (cell : Option String) : Csv.Written := ⟨chars cell,(chars cell).any special⟩

def raw (cell : Option String) : Csv.Written := ⟨chars cell,false⟩

/-- The text is well formed and holds the table, whose records are of one width. -/
def Readable (text : String) (columns : Nat) (table : List (List (Option String))) : Prop :=
  Csv.ReadsBack text.toList (table.map fun row => row.map chars) ∧ ∀ row ∈ table, row.length = columns

/-- A carriage return in a cell is covered by a character for which the cell goes in quotes. -/
def Kept (cell : Option String) : Prop := '\r' ∈ chars cell → (chars cell).any special = true

def Plain (text : List Char) : Prop := ∀ c ∈ text, Csv.TextData c

def isPlain (text : List Char) : Bool := text.all fun c => !special c && c != '\r'

section Cells
variable {cell : Option String}

theorem specialData {c : Char} (ordinary : special c = false) (ret : c ≠ '\r') : Csv.TextData c := by
  simp only [special,Bool.or_eq_false_iff,decide_eq_false_iff_not] at ordinary
  exact ⟨ordinary.1.2,ordinary.1.1,ret,ordinary.2⟩

theorem plainText {text : List Char} (plain : isPlain text = true) : Plain text := by
  intro c inside
  have ordinary := List.all_eq_true.mp plain c inside
  rw [Bool.and_eq_true,Bool.not_eq_true',bne_iff_ne] at ordinary
  exact specialData ordinary.1 ordinary.2

theorem dataSpecial {c : Char} (data : Csv.TextData c) : special c = false := by
  obtain ⟨quote,comma,_,feed⟩ := data
  simp [special,quote,comma,feed]

theorem soundKept : (escaped cell).Sound ↔ Kept cell := by
  constructor
  · intro sound ret
    by_contra ordinary
    exact (sound (Bool.eq_false_iff.mpr ordinary) '\r' ret).2.2.1 rfl
  · intro kept ordinary c inside
    refine specialData ?_ fun ret => ?_
    · exact Bool.eq_false_iff.mpr fun found => Bool.eq_false_iff.mp ordinary (List.any_eq_true.mpr ⟨c,inside,found⟩)
    · exact Bool.eq_false_iff.mp ordinary (kept (ret ▸ inside))

theorem plainOrdinary (plain : Plain (chars cell)) : (chars cell).any special = false := by
  rw [List.any_eq_false]
  exact fun c inside found => Bool.eq_false_iff.mp (dataSpecial (plain c inside)) found

theorem plainKept (plain : Plain (chars cell)) : Kept cell := fun ret => absurd rfl (plain '\r' ret).2.2.1

theorem plainEscaped (plain : Plain (chars cell)) : escaped cell = raw cell := by
  rw [escaped,plainOrdinary plain,raw]

theorem plainNat (n : Nat) : Plain n.repr.toList := by
  intro c inside
  have digit := List.all_eq_true.mp (Numerals.digitsNat n) c inside
  refine ⟨?_,?_,?_,?_⟩
  all_goals
    rintro rfl
    cases digit

theorem plainInt (n : Int) : Plain (toString n).toList := by
  cases n with
  | ofNat n => exact plainNat n
  | negSucc n =>
      rw [Numerals.textNegSucc]
      exact List.forall_mem_cons.mpr ⟨by decide,plainNat (n + 1)⟩

theorem plainDate (d : Date) : Plain d.toISOString.toList := by
  intro c inside
  refine ⟨?_,?_,?_,?_⟩
  all_goals
    rintro rfl
    exact Date.isoWithout rfl (by decide) d inside

end Cells

section Tables

theorem joinIntercalate (c : Char) (parts : List (List Char)) : [c].intercalate parts = Csv.join c parts := by
  induction parts with
  | nil => rfl
  | cons part parts ih =>
      cases parts with
      | nil => simp [Csv.join]
      | cons next parts =>
          rw [List.intercalate_cons_cons,ih]
          simp [Csv.join]

theorem joined (separator : Char) (parts : List String) :
    ((String.singleton separator).intercalate parts).toList = Csv.join separator (parts.map String.toList) := by
  rw [String.toList_intercalate,String.toList_singleton,joinIntercalate]

theorem terminated (rows : List (List Char)) (some : rows ≠ []) : rows.flatMap (· ++ ['\n']) = Csv.join '\n' rows ++ ['\n'] := by
  induction rows with
  | nil => exact absurd rfl some
  | cons row rows ih =>
      cases rows with
      | nil => simp [Csv.join]
      | cons next rows =>
          rw [List.flatMap_cons,ih nofun]
          simp [Csv.join]

theorem wideText {row : List Csv.Written} (wide : 2 ≤ row.length) : Csv.rowText row ≠ [] := by
  match row with
  | first :: next :: rest => exact List.append_ne_nil_of_right_ne_nil _ nofun

theorem wideSolid {rows : List (List Csv.Written)} (wide : ∀ row ∈ rows, 2 ≤ row.length) {ending : List Char}
    (ends : ending = [] ∨ ending = ['\n']) : Csv.Solid rows ending :=
  ends.symm.imp_right fun empty => ⟨empty,fun row last => wideText (wide row (List.mem_of_getLast? last))⟩

theorem escapedReadable {rows : List (List (Option String))} {columns : Nat} (width : ∀ row ∈ rows, row.length = columns)
    (wide : 2 ≤ columns) (some : rows ≠ []) {ending : List Char} (ends : ending = [] ∨ ending = ['\n']) {text : String}
    (written : text.toList = Csv.fileText (rows.map (List.map escaped)) ++ ending) :
    Readable text columns rows ↔ ∀ row ∈ rows, ∀ cell ∈ row, Kept cell := by
  have wider : ∀ row ∈ rows.map (List.map escaped), 2 ≤ row.length := by
    intro row inside
    obtain ⟨cells,here,rfl⟩ := List.mem_map.mp inside
    rw [List.length_map,width cells here]
    exact wide
  have filled : ∀ row ∈ rows.map (List.map escaped), row ≠ [] := fun row inside none => by
    have := wider row inside
    rw [none] at this
    cases this
  have same : Csv.values (rows.map (List.map escaped)) = rows.map fun row => row.map chars := by
    simp [Csv.values,escaped,Function.comp_def]
  have back := Csv.readsBackIff filled (fun none => some (List.map_eq_nil_iff.mp none)) (wideSolid wider ends)
  rw [Readable,written,← same,back,and_iff_left width]
  simp only [List.forall_mem_map,Csv.SoundRow,soundKept]

end Tables
end HireSettle.CsvCells
