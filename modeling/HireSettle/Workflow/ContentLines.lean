import Mathlib

/-! Content lines as RFC 5545 has them: delimited by CRLF, folded with a space at the start
of every further part, and texts in them with their separators escaped. -/
namespace Workflow.ContentLines

variable {line rest : List Char}

-- in UTF-8
def octets (text : List Char) : Nat := (text.map Char.utf8Size).sum

def split : List Char → List (List Char)
  | [] => [[]]
  | '\r' :: '\n' :: rest => [] :: split rest
  | c :: rest => (split rest).modifyHead (c :: ·)

def unfold : List Char → List Char
  | [] => []
  | '\r' :: '\n' :: ' ' :: rest => unfold rest
  | c :: rest => c :: unfold rest

def unescape : List Char → List Char
  | [] => []
  | '\\' :: '\\' :: rest => '\\' :: unescape rest
  | '\\' :: ';' :: rest => ';' :: unescape rest
  | '\\' :: ',' :: rest => ',' :: unescape rest
  | '\\' :: 'n' :: rest => '\n' :: unescape rest
  | '\\' :: 'N' :: rest => '\n' :: unescape rest
  | c :: rest => c :: unescape rest

-- CRLF read as LF
def breaks : List Char → List Char
  | [] => []
  | '\r' :: '\n' :: rest => '\n' :: breaks rest
  | c :: rest => c :: breaks rest

def delimited (lines : List (List Char)) : List Char := lines.flatMap fun line => line ++ ['\r','\n']

def folded : List (List Char) → List Char
  | [] => []
  | part :: parts => part ++ parts.flatMap fun part => '\r' :: '\n' :: ' ' :: part

-- the lines that the parts of a folded line stand on
def physical : List (List Char) → List (List Char)
  | [] => []
  | part :: parts => part :: parts.map (' ' :: ·)

theorem octetsAppend (s t : List Char) : octets (s ++ t) = octets s + octets t := by
  simp [octets]

theorem foldedDelimited (parts : List (List Char)) (some : parts ≠ []) :
    folded parts ++ ['\r','\n'] = delimited (physical parts) := by
  cases parts with
  | nil => exact absurd rfl some
  | cons part parts =>
    have later : ∀ parts : List (List Char), (parts.flatMap fun part => '\r' :: '\n' :: ' ' :: part) ++ ['\r','\n'] =
        '\r' :: '\n' :: delimited (parts.map (' ' :: ·)) := by
      intro parts
      induction parts with
      | nil => rfl
      | cons part parts ih => simp [delimited] at ih ⊢; exact ih
    rw [folded,List.append_assoc,later]
    simp [physical,delimited]

theorem physicalPlain {parts : List (List Char)} (plain : ∀ part ∈ parts, '\n' ∉ part) : ∀ part ∈ physical parts, '\n' ∉ part := by
  cases parts with
  | nil => exact plain
  | cons first parts =>
    intro part inside
    obtain rfl | inside := List.mem_cons.mp inside
    · exact plain _ List.mem_cons_self
    · obtain ⟨part,there,rfl⟩ := List.mem_map.mp inside
      simpa using plain part (List.mem_cons_of_mem _ there)

theorem splitCons {c : Char} (next : c = '\r' → rest.head? ≠ some '\n') : split (c :: rest) = (split rest).modifyHead (c :: ·) := by
  refine split.eq_3 c rest ?_
  rintro rest' same rfl
  exact next same rfl

theorem splitLine (plain : '\n' ∉ line) : split (line ++ '\r' :: '\n' :: rest) = line :: split rest := by
  induction line with
  | nil => rfl
  | cons c line ih =>
    have plain' : '\n' ∉ line := fun inside => plain (List.mem_cons_of_mem c inside)
    have next : (line ++ '\r' :: '\n' :: rest).head? ≠ some '\n' := by
      cases line with
      | nil => simp
      | cons d line => exact fun same => plain' (by simp_all)
    rw [List.cons_append,splitCons fun _ => next,ih plain']
    rfl

/-- What is delimited splits into its lines. -/
theorem splitDelimited (lines : List (List Char)) (plain : ∀ line ∈ lines, '\n' ∉ line) : split (delimited lines) = lines ++ [[]] := by
  induction lines with
  | nil => rfl
  | cons line lines ih =>
    have text : delimited (line :: lines) = line ++ '\r' :: '\n' :: delimited lines := by simp [delimited]
    rw [text,splitLine (plain line List.mem_cons_self),ih fun line inside => plain line (List.mem_cons_of_mem _ inside)]
    rfl

theorem unfoldCons {c : Char} (next : c = '\r' → rest.head? ≠ some '\n') : unfold (c :: rest) = c :: unfold rest := by
  refine unfold.eq_3 c rest ?_
  rintro rest' same rfl
  exact next same rfl

theorem unfoldPlain (plain : '\n' ∉ line) (next : rest.head? ≠ some '\n') : unfold (line ++ rest) = line ++ unfold rest := by
  induction line with
  | nil => rfl
  | cons c line ih =>
    have plain' : '\n' ∉ line := fun inside => plain (List.mem_cons_of_mem c inside)
    have next : (line ++ rest).head? ≠ some '\n' := by
      cases line with
      | nil => exact next
      | cons d line => exact fun same => plain' (by simp_all)
    rw [List.cons_append,unfoldCons fun _ => next,ih plain']
    rfl

theorem unfoldDelimiter (next : rest.head? ≠ some ' ') : unfold ('\r' :: '\n' :: rest) = '\r' :: '\n' :: unfold rest := by
  have first : unfold ('\r' :: '\n' :: rest) = '\r' :: unfold ('\n' :: rest) := by
    refine unfold.eq_3 _ _ ?_
    rintro rest' _ same
    cases same
    exact next rfl
  rw [first,unfoldCons fun same => absurd same (by decide)]

theorem unfoldParts (parts : List (List Char)) (plain : ∀ part ∈ parts, '\n' ∉ part) (next : rest.head? ≠ some '\n') :
    unfold (folded parts ++ rest) = parts.flatten ++ unfold rest := by
  have later : ∀ parts : List (List Char), (∀ part ∈ parts, '\n' ∉ part) →
      unfold ((parts.flatMap fun part => '\r' :: '\n' :: ' ' :: part) ++ rest) = parts.flatten ++ unfold rest ∧
      ((parts.flatMap fun part => '\r' :: '\n' :: ' ' :: part) ++ rest).head? ≠ some '\n' := by
    intro parts plain
    induction parts with
    | nil => exact ⟨rfl,next⟩
    | cons part parts ih =>
      obtain ⟨unfolded,after⟩ := ih fun part inside => plain part (List.mem_cons_of_mem _ inside)
      have text : ((part :: parts).flatMap fun part => '\r' :: '\n' :: ' ' :: part) ++ rest =
          '\r' :: '\n' :: ' ' :: (part ++ ((parts.flatMap fun part => '\r' :: '\n' :: ' ' :: part) ++ rest)) := by simp
      refine ⟨?_,by rw [text]; simp⟩
      rw [text,unfold,unfoldPlain (plain part List.mem_cons_self) after,unfolded,List.flatten_cons,List.append_assoc]
  cases parts with
  | nil => rfl
  | cons part parts =>
    obtain ⟨unfolded,after⟩ := later parts fun part inside => plain part (List.mem_cons_of_mem _ inside)
    rw [folded,List.append_assoc,unfoldPlain (plain part List.mem_cons_self) after,unfolded,List.flatten_cons,List.append_assoc]

end Workflow.ContentLines
