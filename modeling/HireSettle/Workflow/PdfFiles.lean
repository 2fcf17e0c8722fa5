import HireSettle.Workflow.Numerals
import HireSettle.Workflow.Texts

/-! The parts of a PDF file: numbered objects behind a header, the table of their
offsets, and the trailer, which has the offset of the table. -/
namespace Workflow.PdfFiles


-- the low byte of every code unit
def latin1 (text : String) : List Nat := (utf16 text).map (· % 256)

@[simp] theorem latin1Append (s t : String) : latin1 (s ++ t) = latin1 s ++ latin1 t := by
  simp [latin1,utf16]

theorem latin1Intercalate (separator : String) (parts : List String) :
    latin1 (separator.intercalate parts) = (latin1 separator).intercalate (parts.map latin1) := by
  have chars (parts : List String) :
      ((separator.toList.intercalate (parts.map String.toList)).flatMap codeUnits).map (· % 256) =
        (latin1 separator).intercalate (parts.map latin1) := by
    induction parts with
    | nil => rfl
    | cons part parts ih =>
        cases parts with
        | nil => simp [latin1,utf16]
        | cons next parts =>
            simp only [List.map_cons] at ih ⊢
            rw [List.intercalate_cons_cons,List.intercalate_cons_cons,List.flatMap_append,List.flatMap_append,List.map_append,
              List.map_append,ih]
            rfl
  rw [← chars,← String.toList_intercalate]
  rfl

theorem latin1Chars {text : String} (small : ∀ c ∈ text.toList, c.toNat < 256) : latin1 text = text.toList.map Char.toNat := by
  rw [latin1,utf16]
  generalize text.toList = chars at small
  induction chars with
  | nil => rfl
  | cons c chars ih =>
      obtain ⟨first,others⟩ := List.forall_mem_cons.mp small
      have unit : codeUnits c = [c.toNat] := if_pos (first.trans (by decide))
      rw [List.flatMap_cons,unit,List.singleton_append,List.map_cons,ih others,List.map_cons,Nat.mod_eq_of_lt first]

theorem digitSmall {c : Char} (digit : c.isDigit = true) : c.toNat < 256 := by
  have most : c.toNat ≤ 57 := (Char.isDigit_iff_toNat.mp digit).2
  omega

/-- The text stands at this byte of the file. -/
def At (file : List Nat) (offset : Nat) (text : List Nat) : Prop := text <+: file.drop offset

theorem atAppend (front text behind : List Nat) : At (front ++ (text ++ behind)) front.length text := by
  rw [At,List.drop_left]
  exact List.prefix_append text behind

def header : List Nat := latin1 "%PDF-1.4\n"

def objectText (id : Nat) (body : List Nat) : List Nat := latin1 s!"{id} 0 obj\n" ++ body ++ latin1 "\nendobj\n"

def padStart (width : Nat) (text : String) : String := String.ofList (List.replicate (width - text.length) '0') ++ text

def entry (offset : Nat) : List Nat := latin1 (padStart 10 (toString offset)) ++ latin1 " 00000 n \n"

def crossReference (offsets : List Nat) : List Nat :=
  latin1 s!"xref\n0 {offsets.length + 1}\n0000000000 65535 f \n" ++ offsets.flatMap entry

def trailer (size start : Nat) : List Nat :=
  latin1 s!"trailer\n<< /Size {size} /Root 1 0 R >>\nstartxref\n{start}\n%%EOF\n"

/-- Every object is at its offset in the table, and the table at the offset behind it. -/
structure Structured (file : List Nat) (bodies : List (List Nat)) (offsets : List Nat) (start : Nat) : Prop where
  header : At file 0 header
  table : file.drop start = crossReference offsets ++ trailer (bodies.length + 1) start
  complete : offsets.length = bodies.length
  referenced : ∀ i body, bodies[i]? = some body → ∃ offset, offsets[i]? = some offset ∧ At file offset (objectText (i + 1) body)
  width : ∀ offset ∈ offsets, offset < 10 ^ 10 → (entry offset).length = 20

def objectsFrom : Nat → List (List Nat) → List Nat
  | _, [] => []
  | id, body :: bodies => objectText id body ++ objectsFrom (id + 1) bodies

def offsetsFrom : Nat → Nat → List (List Nat) → List Nat
  | _, _, [] => []
  | start, id, body :: bodies => start :: offsetsFrom (start + (objectText id body).length) (id + 1) bodies

theorem offsetsLength (start id : Nat) (bodies : List (List Nat)) : (offsetsFrom start id bodies).length = bodies.length := by
  induction bodies generalizing start id with
  | nil => rfl
  | cons body bodies ih => rw [offsetsFrom,List.length_cons,ih,List.length_cons]

theorem offsetsAt {bodies : List (List Nat)} {i : Nat} {body : List Nat} (front behind : List Nat) (id : Nat)
    (found : bodies[i]? = some body) :
    ∃ offset, (offsetsFrom front.length id bodies)[i]? = some offset ∧
      At (front ++ (objectsFrom id bodies ++ behind)) offset (objectText (id + i) body) := by
  induction bodies generalizing front id i with
  | nil => cases found
  | cons first bodies ih =>
      cases i with
      | zero =>
          cases found
          refine ⟨front.length,rfl,?_⟩
          rw [objectsFrom,List.append_assoc]
          exact atAppend _ _ _
      | succ i =>
          obtain ⟨offset,listed,stands⟩ := ih (front ++ objectText id first) (id + 1) found
          rw [List.length_append] at listed
          rw [List.append_assoc,Nat.add_right_comm,Nat.add_assoc] at stands
          exact ⟨offset,listed,by rw [objectsFrom,List.append_assoc]; exact stands⟩

theorem entryWidth {offset : Nat} (fits : offset < 10 ^ 10) : (entry offset).length = 20 := by
  have short : offset.repr.length ≤ 10 := (Nat.length_repr_le_iff (by decide)).mpr fits
  have small : ∀ c ∈ (padStart 10 (toString offset)).toList, c.toNat < 256 := by
    rw [padStart,String.toList_append,String.toList_ofList]
    refine List.forall_mem_append.mpr ⟨fun c zero => ?_,fun c inside => ?_⟩
    · rw [List.eq_of_mem_replicate zero]
      decide
    · exact digitSmall (List.all_eq_true.mp (Numerals.digitsNat offset) c inside)
  have tail : (latin1 " 00000 n \n").length = 10 := rfl
  have count : (padStart 10 (toString offset)).toList.length = 10 := by
    have same : (toString offset).length = offset.repr.length := rfl
    rw [padStart,String.toList_append,String.toList_ofList,List.length_append,List.length_replicate,String.length_toList]
    omega
  rw [entry,List.length_append,tail,latin1Chars small,List.length_map,count]

theorem structuredFile {bodies : List (List Nat)} {front file offsets : List Nat} (begins : front = header ++ objectsFrom 1 bodies)
    (listed : offsets = offsetsFrom header.length 1 bodies)
    (made : file = front ++ (crossReference offsets ++ trailer (bodies.length + 1) front.length)) :
    Structured file bodies offsets front.length := by
  subst made
  refine ⟨?_,List.drop_left,by rw [listed,offsetsLength],fun i body found => ?_,fun offset _ => entryWidth⟩
  · rw [begins,List.append_assoc]
    exact List.prefix_append header _
  · obtain ⟨offset,place,stands⟩ := offsetsAt header (crossReference offsets ++ trailer (bodies.length + 1) front.length) 1 found
    rw [← List.append_assoc,← begins,Nat.add_comm 1] at stands
    exact ⟨offset,listed ▸ place,stands⟩

end Workflow.PdfFiles
