import HireSettle.Workflow.ContentLines
import HireSettle.Workflow.Dates

/-! The calendar feed of a user as RFC 5545 text. Every property is one content line; the
texts in it are escaped, and lines longer than 75 octets are folded. -/
namespace HireSettle
open Workflow ContentLines

def dayMs : Int := 24 * 60 * 60 * 1000

/-- An event of the feed. Its uid is made from the id of a milestone and so is on one line, and
the day after its date is a date, too. -/
structure CalendarEvent where
  uid : String
  date : Date
  summary : String
  description : String
  oneLine : '\n' ∉ uid.toList
  dayAfter : (date.ms + dayMs).natAbs ≤ 8640000000000000

namespace CalendarEvent

def ends (event : CalendarEvent) : Date := ⟨event.date.ms + dayMs,event.dayAfter⟩

end CalendarEvent

namespace CalendarService

-- `replace` of every `c` by a backslash and `c`
def escapeChar (c : Char) (text : List Char) : List Char := text.flatMap fun d => if d = c then ['\\',c] else [d]

-- `replace(/\r?\n/g, '\\n')`
def escapeBreaks : List Char → List Char
  | [] => []
  | '\r' :: '\n' :: rest => '\\' :: 'n' :: escapeBreaks rest
  | '\n' :: rest => '\\' :: 'n' :: escapeBreaks rest
  | c :: rest => c :: escapeBreaks rest

def escapeText (value : String) : List Char := escapeBreaks (escapeChar ',' (escapeChar ';' (escapeChar '\\' value.toList)))

-- the parts from the current one on, which takes `limit` octets
def foldFrom (limit : Nat) (current : List Char) : List Char → List (List Char)
  | [] => [current]
  | c :: rest =>
      if limit < octets current + c.utf8Size then current :: foldFrom 74 [c] rest
      else foldFrom limit (current ++ [c]) rest

def foldLine (line : List Char) : List Char :=
  if octets line ≤ 75 then line else folded (foldFrom 75 [] line)

def formatDate (date : Date) : List Char := (date.toISOString.toList.take 10).filter (· ≠ '-')

-- `replace(/\.\d{3}/, '')`
def dropFraction : List Char → List Char
  | [] => []
  | '.' :: a :: b :: c :: rest =>
      if a.isDigit && b.isDigit && c.isDigit then rest else '.' :: dropFraction (a :: b :: c :: rest)
  | c :: rest => c :: dropFraction rest

def formatDateTime (date : Date) : List Char := dropFraction (date.toISOString.toList.filter fun c => c ≠ '-' && c ≠ ':')

def eventLines (stamp : List Char) (event : CalendarEvent) : List (List Char) :=
  ["BEGIN:VEVENT".toList,
    "UID:".toList ++ event.uid.toList,
    "DTSTAMP:".toList ++ stamp,
    "DTSTART;VALUE=DATE:".toList ++ formatDate event.date,
    "DTEND;VALUE=DATE:".toList ++ formatDate event.ends,
    "SUMMARY:".toList ++ escapeText event.summary,
    "DESCRIPTION:".toList ++ escapeText event.description,
    "TRANSP:TRANSPARENT".toList,
    "END:VEVENT".toList]

def contentLines (events : List CalendarEvent) (now : Date) : List (List Char) :=
  ["BEGIN:VCALENDAR".toList,
    "VERSION:2.0".toList,
    "PRODID:-//HireSettle//Milestone Calendar//EN".toList,
    "CALSCALE:GREGORIAN".toList,
    "METHOD:PUBLISH".toList,
    "X-WR-CALNAME:HireSettle milestones".toList] ++
  events.flatMap (eventLines (formatDateTime now)) ++ ["END:VCALENDAR".toList]

def buildIcs (events : List CalendarEvent) (now : Date) : String :=
  String.ofList (['\r','\n'].intercalate ((contentLines events now).map foldLine) ++ ['\r','\n'])

section Escaping

theorem escapeBreaksPlain (text : List Char) : '\n' ∉ escapeBreaks text := by
  fun_induction escapeBreaks text with
  | case1 => exact List.not_mem_nil
  | case2 rest ih | case3 rest ih => simp [ih]
  | case4 c rest _ other ih =>
    intro inside
    obtain rfl | inside := List.mem_cons.mp inside
    · exact other rfl
    · exact ih inside

def separators : List Char := ['\\',';',',']

def escapeSeparators (text : List Char) : List Char := text.flatMap fun c => if c ∈ separators then ['\\',c] else [c]

theorem escapeSeparatorsOnce (text : List Char) : escapeChar ',' (escapeChar ';' (escapeChar '\\' text)) = escapeSeparators text := by
  induction text with
  | nil => rfl
  | cons c rest ih =>
    simp only [escapeChar,escapeSeparators,List.flatMap_cons,List.flatMap_append] at ih ⊢
    rw [ih]
    congr 1
    by_cases slash : c = '\\'
    · subst slash; rfl
    by_cases semicolon : c = ';'
    · subst semicolon; rfl
    by_cases comma : c = ','
    · subst comma; rfl
    simp [separators,slash,semicolon,comma]

theorem escapeBreaksCons {c : Char} {rest : List Char} (here : c ≠ '\n') (next : c = '\r' → rest.head? ≠ some '\n') :
    escapeBreaks (c :: rest) = c :: escapeBreaks rest := by
  refine escapeBreaks.eq_4 c rest ?_ here
  rintro rest' same rfl
  exact next same rfl

theorem separatorsHead {rest : List Char} (next : rest.head? ≠ some '\n') : (escapeSeparators rest).head? ≠ some '\n' := by
  cases rest with
  | nil => exact nofun
  | cons c rest =>
    rw [escapeSeparators,List.flatMap_cons]
    split
    · simp
    · exact next

theorem unescapeSeparator {c : Char} (separator : c ∈ separators) (rest : List Char) : unescape ('\\' :: c :: rest) = c :: unescape rest := by
  simp only [separators,List.mem_cons,List.not_mem_nil,or_false] at separator
  obtain rfl | rfl | rfl := separator <;> rfl

theorem unescapePlain {c : Char} (plain : c ∉ separators) (rest : List Char) : unescape (c :: rest) = c :: unescape rest := by
  have other : c ≠ '\\' := fun same => plain (same ▸ List.mem_cons_self)
  refine unescape.eq_7 c rest ?_ ?_ ?_ ?_ ?_ <;> exact fun _ same _ => other same

theorem unescapeBreaks (text : List Char) : unescape (escapeBreaks (escapeSeparators text)) = breaks text := by
  fun_induction breaks text with
  | case1 => rfl
  | case2 rest ih =>
    show unescape ('\\' :: 'n' :: escapeBreaks (escapeSeparators rest)) = _
    rw [unescape,ih]
  | case3 c rest other ih =>
    have parts : escapeSeparators (c :: rest) = (if c ∈ separators then ['\\',c] else [c]) ++ escapeSeparators rest := by
      rw [escapeSeparators,List.flatMap_cons]
      rfl
    rw [parts]
    by_cases line : c = '\n'
    · subst line
      show unescape ('\\' :: 'n' :: escapeBreaks (escapeSeparators rest)) = _
      rw [unescape,ih]
    have next : c = '\r' → rest.head? ≠ some '\n' := by
      rintro rfl same
      cases rest with
      | nil => cases same
      | cons d rest => exact other rest rfl (by rw [Option.some.inj same])
    split
    · rename_i separator
      show unescape (escapeBreaks ('\\' :: c :: escapeSeparators rest)) = _
      have same : c ≠ '\r' := by
        rintro rfl
        revert separator
        decide
      rw [escapeBreaksCons (by decide) (fun other => absurd other (by decide)),escapeBreaksCons line (fun other => absurd other same),
        unescapeSeparator separator,ih]
    · rename_i plain
      show unescape (escapeBreaks (c :: escapeSeparators rest)) = _
      rw [escapeBreaksCons line (fun same => separatorsHead (next same)),unescapePlain plain,ih]

/-- A text comes back from its escaped form, its line ends as line feeds. -/
theorem unescapeEscape (value : String) : unescape (escapeText value) = breaks value.toList := by
  rw [escapeText,escapeSeparatorsOnce,unescapeBreaks]

end Escaping

section Folding

theorem foldFlatten (limit : Nat) (current line : List Char) : (foldFrom limit current line).flatten = current ++ line := by
  induction line generalizing limit current with
  | nil => simp [foldFrom]
  | cons c rest ih =>
    unfold foldFrom
    split
    · rw [List.flatten_cons,ih]
      rfl
    · rw [ih,List.append_assoc]
      rfl

theorem foldFilled (limit : Nat) (current line : List Char) : foldFrom limit current line ≠ [] := by
  induction line generalizing limit current with
  | nil => exact List.cons_ne_nil _ _
  | cons c rest ih =>
    unfold foldFrom
    split
    · exact List.cons_ne_nil _ _
    · exact ih limit _

theorem charOctets (c : Char) : c.utf8Size ≤ 4 := c.utf8Size_le_four

/-- The first part keeps to its limit, and the further ones to one octet less than a line has. -/
theorem foldShort (limit : Nat) (current line : List Char) (fits : octets current ≤ limit) :
    (∀ part ∈ (foldFrom limit current line).head?, octets part ≤ limit) ∧
      ∀ part ∈ (foldFrom limit current line).tail, octets part ≤ 74 := by
  induction line generalizing limit current with
  | nil => simpa [foldFrom] using fits
  | cons c rest ih =>
    unfold foldFrom
    split
    · have small : octets [c] ≤ 74 := by
        have := charOctets c
        simp only [octets,List.map_cons,List.map_nil,List.sum_cons,List.sum_nil]
        omega
      obtain ⟨first,later⟩ := ih 74 [c] small
      refine ⟨by simpa using fits,fun part inside => ?_⟩
      cases parts : foldFrom 74 [c] rest with
      | nil => exact absurd parts (foldFilled _ _ _)
      | cons head tail =>
        rw [parts] at first later inside
        obtain rfl | inside := List.mem_cons.mp inside
        · exact first _ rfl
        · exact later part inside
    · rename_i room
      refine ih limit _ ?_
      rw [octetsAppend]
      simpa [octets] using not_lt.mp room

theorem foldOctets (line : List Char) : ∀ part ∈ physical (foldFrom 75 [] line), octets part ≤ 75 := by
  obtain ⟨first,later⟩ := foldShort 75 [] line (Nat.zero_le _)
  cases parts : foldFrom 75 [] line with
  | nil => exact absurd parts (foldFilled _ _ _)
  | cons head tail =>
    rw [parts] at first later
    intro part inside
    obtain rfl | inside := List.mem_cons.mp inside
    · exact first _ rfl
    · obtain ⟨part,there,rfl⟩ := List.mem_map.mp inside
      have short := later part there
      have blank : ' '.utf8Size = 1 := rfl
      simp only [octets,List.map_cons,List.sum_cons,blank] at short ⊢
      omega

/-- The parts that a line is written in. -/
def partsOf (line : List Char) : List (List Char) := if octets line ≤ 75 then [line] else foldFrom 75 [] line

theorem partsLine (line : List Char) : foldLine line = folded (partsOf line) ∧ (partsOf line).flatten = line ∧ partsOf line ≠ [] ∧
    ∀ part ∈ physical (partsOf line), octets part ≤ 75 := by
  unfold foldLine partsOf
  split
  · rename_i short
    exact ⟨by simp [folded],by simp,List.cons_ne_nil _ _,by simpa [physical] using short⟩
  · exact ⟨rfl,foldFlatten 75 [] line,foldFilled _ _ _,foldOctets line⟩

end Folding

section Feed

variable {lines : List (List Char)}

theorem joined (some : lines ≠ []) : ['\r','\n'].intercalate lines ++ ['\r','\n'] = delimited lines := by
  induction lines with
  | nil => exact absurd rfl some
  | cons line rest ih =>
    cases rest with
    | nil => simp [delimited]
    | cons next rest =>
      rw [List.intercalate_cons_cons,List.append_assoc,ih (List.cons_ne_nil _ _)]
      simp [delimited]

/-- A line of the feed: on one line, and not taken for the rest of the line before. -/
structure Line (line : List Char) : Prop where
  plain : '\n' ∉ line
  starts : line.head? ≠ some ' '
  filled : line ≠ []

instance (line : List Char) : Decidable (Line line) :=
  decidable_of_iff ('\n' ∉ line ∧ line.head? ≠ some ' ' ∧ line ≠ [])
    ⟨fun ⟨plain,starts,filled⟩ => ⟨plain,starts,filled⟩,fun line => ⟨line.plain,line.starts,line.filled⟩⟩

theorem partsPlain {line : List Char} (proper : Line line) : ∀ part ∈ partsOf line, '\n' ∉ part := by
  intro part inside broken
  refine proper.plain ?_
  rw [← (partsLine line).2.1]
  exact List.mem_flatten.mpr ⟨part,inside,broken⟩

/-- Folded lines split into their physical lines, and come back unfolded. -/
theorem foldedLines (proper : ∀ line ∈ lines, Line line) :
    delimited (lines.map foldLine) = delimited (lines.flatMap fun line => physical (partsOf line)) ∧
    unfold (delimited (lines.map foldLine)) = delimited lines ∧ (delimited (lines.map foldLine)).head? ≠ some ' ' := by
  induction lines with
  | nil => exact ⟨rfl,rfl,nofun⟩
  | cons line rest ih =>
    obtain ⟨lines,unfolded,starts⟩ := ih fun line inside => proper line (List.mem_cons_of_mem _ inside)
    have this := proper line List.mem_cons_self
    obtain ⟨text,whole,some,_⟩ := partsLine line
    have cut : delimited ((line :: rest).map foldLine) = folded (partsOf line) ++ '\r' :: '\n' :: delimited (rest.map foldLine) := by
      simp [delimited,text]
    refine ⟨?_,?_,?_⟩
    · have parts := foldedDelimited (partsOf line) some
      rw [cut,List.flatMap_cons]
      simp only [delimited,List.flatMap_append] at parts lines ⊢
      rw [← parts,← lines]
      simp
    · rw [cut,unfoldParts _ (partsPlain this) (by simp),whole,unfoldDelimiter starts,unfolded]
      simp [delimited]
    · rw [cut]
      cases parts : partsOf line with
      | nil => exact absurd parts some
      | cons first parts' =>
        cases first with
        | nil => cases parts' <;> simp [folded]
        | cons c first =>
          have head : line.head? = .some c := by rw [← whole,parts]; rfl
          simpa [folded] using fun same => this.starts (by rw [head,same])

theorem lineAfter {name text : List Char} (proper : Line name) (plain : '\n' ∉ text) : Line (name ++ text) where
  plain := by simp [proper.plain,plain]
  starts := by
    cases name with
    | nil => exact absurd rfl proper.filled
    | cons c name => exact proper.starts
  filled := fun none => proper.filled (List.append_eq_nil_iff.mp none).1

theorem fractionMem {c : Char} (text : List Char) (inside : c ∈ dropFraction text) : c ∈ text := by
  fun_induction dropFraction text with
  | case1 => exact inside
  | case2 a b d rest digits => simp [inside]
  | case3 a b d rest digits ih =>
    obtain rfl | inside := List.mem_cons.mp inside
    · exact List.mem_cons_self
    · exact List.mem_cons_of_mem _ (ih inside)
  | case4 d rest _ ih =>
    obtain rfl | inside := List.mem_cons.mp inside
    · exact List.mem_cons_self
    · exact List.mem_cons_of_mem _ (ih inside)

theorem datePlain (date : Date) : '\n' ∉ formatDate date ∧ '\n' ∉ formatDateTime date := by
  have plain := Date.isoWithout (c := '\n') rfl (by decide) date
  refine ⟨fun inside => plain (List.mem_of_mem_take (List.mem_filter.mp inside).1),fun inside => plain ?_⟩
  exact (List.mem_filter.mp (fractionMem _ inside)).1

/-- No text of an event breaks its line. -/
theorem properEvent (event : CalendarEvent) (now : Date) : ∀ line ∈ eventLines (formatDateTime now) event, Line line := by
  have literal : ∀ name ∈ ["BEGIN:VEVENT","UID:","DTSTAMP:","DTSTART;VALUE=DATE:","DTEND;VALUE=DATE:","SUMMARY:","DESCRIPTION:",
      "TRANSP:TRANSPARENT","END:VEVENT"], Line name.toList := by decide
  simp only [List.forall_mem_cons] at literal
  obtain ⟨opens,uid,stamp,starts,ends,summary,description,transparent,closes,_⟩ := literal
  simp only [eventLines,List.forall_mem_cons]
  exact ⟨opens,lineAfter uid event.oneLine,lineAfter stamp (datePlain now).2,lineAfter starts (datePlain _).1,lineAfter ends (datePlain _).1,
    lineAfter summary (escapeBreaksPlain _),lineAfter description (escapeBreaksPlain _),transparent,closes,by simp⟩

theorem properLines (events : List CalendarEvent) (now : Date) : ∀ line ∈ contentLines events now, Line line := by
  have literal : ∀ line ∈ ["BEGIN:VCALENDAR".toList,"VERSION:2.0".toList,"PRODID:-//HireSettle//Milestone Calendar//EN".toList,
      "CALSCALE:GREGORIAN".toList,"METHOD:PUBLISH".toList,"X-WR-CALNAME:HireSettle milestones".toList], Line line := by decide
  intro line inside
  obtain inside | inside := List.mem_append.mp inside
  · obtain inside | inside := List.mem_append.mp inside
    · exact literal line inside
    · obtain ⟨event,_,inside⟩ := List.mem_flatMap.mp inside
      exact properEvent event now line inside
  · rw [List.mem_singleton.mp inside]
    decide

end Feed

end CalendarService

end HireSettle
