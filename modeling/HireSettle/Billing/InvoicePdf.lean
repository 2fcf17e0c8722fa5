import HireSettle.Billing.InvoiceTax
import HireSettle.Workflow.Dates
import HireSettle.Workflow.PdfFiles
import HireSettle.Workflow.PdfTokens

/-! The PDF file of an invoice: its texts laid out on pages, and the pages written as
objects with the table of their offsets. -/
namespace HireSettle.Billing.InvoicePdf
open Workflow Workflow.PdfFiles Workflow.PdfTokens InvoiceTax

structure InvoiceSeller where
  name : String
  country : Option String
  taxId : Option String
  deriving DecidableEq, Repr

structure InvoiceCustomer where
  name : String
  email : Option String
  country : Option String
  taxId : Option String
  deriving DecidableEq, Repr

structure InvoicePdfInput where
  invoiceNumber : String
  -- a date is none when it is no time, and `toISOString` throws
  issuedAt : Option Date
  periodFrom : Option Date
  periodTo : Option Date
  seller : InvoiceSeller
  customer : InvoiceCustomer
  lines : List InvoiceLineInput
  tax : InvoiceTaxResult
  unit : String

def PAGE_WIDTH : Int := 612
def PAGE_HEIGHT : Int := 792
def LEFT : Int := 72
def AMOUNT_RIGHT : Int := PAGE_WIDTH - 72
def BOTTOM : Int := 72

-- `[\x20-\x7E\xA0-\xFF]`
def isPrintable (unit : Nat) : Bool := 0x20 ≤ unit && unit ≤ 0x7e || 0xa0 ≤ unit && unit ≤ 0xff

-- the expression replaces code units, so a character above them becomes two marks
def replaceUnprintable (c : Char) : List Char :=
  if isPrintable c.toNat then [c] else List.replicate (codeUnits c).length '?'

def replaceChar (c : Char) (mark text : List Char) : List Char := text.flatMap fun d => if d = c then mark else [d]

/-- Escape text for a PDF literal string and drop non-Latin-1 characters. -/
def escapePdfText (text : String) : String :=
  String.ofList (replaceChar ')' ['\\',')'] (replaceChar '(' ['\\','('] (replaceChar '\\' ['\\','\\']
    (text.toList.flatMap replaceUnprintable))))

def formatDate (date : Option Date) : Option String := date.map fun date => String.ofList (date.toISOString.toList.take 10)

/-- Helvetica average glyph width is ~0.5em: good enough to right-align numbers. -/
def approxWidth (text : String) (size : Nat) : Rat := utf16Length text * size * (1 / 2)

-- `Math.round`
def round (x : Rat) : Int := (x + 1 / 2).floor

-- the finished pages, the commands of the last one, and the height of the next text
structure Layout where
  finished : List (List String) := []
  page : List String := []
  y : Int := PAGE_HEIGHT - 72

def Layout.pages (s : Layout) : List (List String) := s.finished ++ [s.page]

def text (value : String) (size : Nat) (x : Int) (s : Layout) : Layout :=
  { s with page := s.page ++ [s!"BT /F1 {size} Tf {x} {s.y} Td ({escapePdfText value}) Tj ET"] }

def right (value : String) (size : Nat) (s : Layout) : Layout :=
  text value size (round (AMOUNT_RIGHT - approxWidth value size)) s

def advance (dy : Nat) (s : Layout) : Layout :=
  let y := s.y - dy
  if y < BOTTOM then { finished := s.finished ++ [s.page], page := [], y := PAGE_HEIGHT - 72 } else { s with y := y }

def row (label amount : String) (size : Nat) (s : Layout) : Layout :=
  advance (size + 6) (right amount size (text label size LEFT s))

-- the calls of the three functions, in order
inductive Step where
  | text (value : String) (size : Nat)
  | advance (dy : Nat)
  | row (label amount : String) (size : Nat)
  deriving DecidableEq, Repr

def Step.draw (s : Layout) : Step → Layout
  | .text value size => InvoicePdf.text value size LEFT s
  | .advance dy => InvoicePdf.advance dy s
  | .row label amount size => InvoicePdf.row label amount size s

def optional (label : String) (value : Option String) : List Step :=
  (present value).toList.flatMap fun value => [.text s!"{label}: {value}" 10,.advance 14]

def heading (input : InvoicePdfInput) (issuedAt periodFrom periodTo : String) : List Step :=
  [.text s!"{input.seller.name} Invoice" 18,.advance 26,
    .text s!"Invoice #: {input.invoiceNumber}" 11,.advance 15,
    .text s!"Issued: {issuedAt}" 11,.advance 15,
    .text s!"Period: {periodFrom} to {periodTo}" 11,.advance 24]

def sender (seller : InvoiceSeller) : List Step :=
  List.flatten [[.text "From" 11,.advance 15,.text seller.name 10,.advance 14],optional "Country" seller.country,
    optional "VAT ID" seller.taxId,[.advance 8]]

def recipient (customer : InvoiceCustomer) : List Step :=
  let email := customer.email.getD "N/A"
  List.flatten [[.text "Bill to" 11,.advance 15,.text customer.name 10,.advance 14,.text s!"Contact: {email}" 10,.advance 14],
    optional "Country" customer.country,optional "VAT ID" customer.taxId,[.advance 10]]

def lineRows (unit : String) (lines : List InvoiceLineInput) : List Step :=
  List.flatten [[.row "Description" s!"Amount ({unit})" 11],
    if lines.length = 0 then [.row "No billable engagements in this period" "0" 10] else [],
    lines.map fun line => .row line.description (toString line.amount) 10,[.advance 6]]

def taxRows (tax : InvoiceTaxResult) : List Step :=
  List.flatten [[.row "Subtotal (net)" (toString tax.subtotal) 11],
    tax.taxLines.map fun taxLine => .row s!"{taxLine.label} on {taxLine.base}" (toString taxLine.amount) 11,
    if tax.taxLines.length = 0 then [.row "VAT" "not applicable" 11] else [],
    [.row s!"Total due ({formatRate tax.rateBps} VAT)" (toString tax.total) 12,.advance 10],
    tax.notices.flatMap fun notice => [.text notice 8,.advance 12]]

def steps (input : InvoicePdfInput) (issuedAt periodFrom periodTo : String) : List Step :=
  List.flatten [heading input issuedAt periodFrom periodTo,sender input.seller,recipient input.customer,
    lineRows input.unit input.lines,taxRows input.tax]

def drawn (steps : List Step) : List (List String) := (steps.foldl Step.draw {}).pages

def buildInvoiceContent (input : InvoicePdfInput) : Option (List (List String)) := do
  let issuedAt ← formatDate input.issuedAt
  let periodFrom ← formatDate input.periodFrom
  let periodTo ← formatDate input.periodTo
  return drawn (steps input issuedAt periodFrom periodTo)

-- `Buffer.byteLength(text, 'latin1')`
def byteLength (text : String) : Nat := (latin1 text).length

def catalog : String := "<< /Type /Catalog /Pages 2 0 R >>"

def font : String := "<< /Type /Font /Subtype /Type1 /BaseFont /Helvetica /Encoding /WinAnsiEncoding >>"

def pagesTree (pageIds : List Nat) (count : Nat) : String :=
  let kids := " ".intercalate (pageIds.map fun id => s!"{id} 0 R")
  s!"<< /Type /Pages /Kids [{kids}] /Count {count} >>"

def pageObject (pageId : Nat) : String :=
  s!"<< /Type /Page /Parent 2 0 R /MediaBox [0 0 {PAGE_WIDTH} {PAGE_HEIGHT}] " ++
    s!"/Contents {pageId + 1} 0 R /Resources << /Font << /F1 3 0 R >> >> >>"

def contentObject (commands : List String) : String :=
  let stream := "\n".intercalate commands
  s!"<< /Length {byteLength stream} >>\nstream\n{stream}\nendstream"

-- the objects from number 1 on: a page has an even number, and its content the next one
def objects (pages : List (List String)) : List String :=
  let pageIds := (List.range pages.length).map fun i => 4 + i * 2
  [catalog,pagesTree pageIds pages.length,font] ++
    (pages.zip pageIds).flatMap fun (commands,pageId) => [pageObject pageId,contentObject commands]

def appendObjects : Nat → List String → String × List Nat → String × List Nat
  | _, [], s => s
  | id, body :: rest, (pdf,offsets) =>
      appendObjects (id + 1) rest (pdf ++ s!"{id} 0 obj\n{body}\nendobj\n",offsets ++ [byteLength pdf])

def appendEntries (pdf : String) (offsets : List Nat) : String :=
  offsets.foldl (fun pdf offset => pdf ++ (padStart 10 (toString offset) ++ " 00000 n \n")) pdf

def renderPdf (pages : List (List String)) : List Nat :=
  let objects := objects pages
  let (pdf,offsets) := appendObjects 1 objects ("%PDF-1.4\n",[])
  let xrefOffset := byteLength pdf
  let pdf := pdf ++ s!"xref\n0 {objects.length + 1}\n0000000000 65535 f \n"
  let pdf := appendEntries pdf offsets
  let pdf := pdf ++ s!"trailer\n<< /Size {objects.length + 1} /Root 1 0 R >>\nstartxref\n{xrefOffset}\n%%EOF\n"
  latin1 pdf

def renderInvoicePdf (input : InvoicePdfInput) : Option (List Nat) := (buildInvoiceContent input).map renderPdf

def cleanUnit (unit : Nat) : Nat := if isPrintable unit then unit else 63

/-- The code units of a text, with a question mark for each that is not printable. -/
def clean (value : String) : List Nat := (utf16 value).map cleanUnit

/-- A text on a page, with its size and its place. -/
structure Command where
  size : Nat
  x : Int
  y : Int
  value : String
  deriving DecidableEq, Repr

namespace Command

def text (c : Command) : String := s!"BT /F1 {c.size} Tf {c.x} {c.y} Td ({escapePdfText c.value}) Tj ET"

def tokens (c : Command) : List Token :=
  [.word (latin1 "BT"),.name (latin1 "F1"),.word (latin1 (toString c.size)),.word (latin1 "Tf"),.word (latin1 (toString c.x)),
    .word (latin1 (toString c.y)),.word (latin1 "Td"),.string (clean c.value),.word (latin1 "Tj"),.word (latin1 "ET")]

end Command

section Escaping

def escapedChar (c : Char) : List Char := if c = '\\' ∨ c = '(' ∨ c = ')' then ['\\',c] else [c]

theorem replacedOnce (text : List Char) : replaceChar ')' ['\\',')'] (replaceChar '(' ['\\','('] (replaceChar '\\' ['\\','\\'] text)) =
    text.flatMap escapedChar := by
  induction text with
  | nil => rfl
  | cons c text ih =>
      unfold replaceChar at ih ⊢
      simp only [List.flatMap_cons,List.flatMap_append,ih]
      congr 1
      obtain rfl | backslash := eq_or_ne c '\\'
      · rfl
      · obtain rfl | opening := eq_or_ne c '('
        · rfl
        · obtain rfl | closing := eq_or_ne c ')'
          · rfl
          · simp [escapedChar,backslash,opening,closing]

theorem printableSmall {unit : Nat} (printable : isPrintable unit = true) : 32 ≤ unit ∧ unit < 256 := by
  simp only [isPrintable,Bool.or_eq_true,Bool.and_eq_true,decide_eq_true_eq] at printable
  omega

theorem highUnprintable {unit : Nat} (high : 256 ≤ unit) : cleanUnit unit = 63 := by
  refine if_neg fun printable => ?_
  have small : unit < 256 := (printableSmall printable).2
  omega

theorem markBytes (n : Nat) : (((List.replicate n '?').flatMap escapedChar).flatMap codeUnits).map (· % 256) =
    (List.replicate n 63).flatMap escaped := by
  induction n with
  | zero => rfl
  | succ n ih =>
      rw [List.replicate_succ,List.replicate_succ,List.flatMap_cons,List.flatMap_append,List.map_append,ih]
      rfl

theorem charBytes (c : Char) : (((replaceUnprintable c).flatMap escapedChar).flatMap codeUnits).map (· % 256) =
    ((codeUnits c).map cleanUnit).flatMap escaped := by
  cases printable : isPrintable c.toNat with
  | true =>
      have small : c.toNat < 256 := (printableSmall printable).2
      have unit : codeUnits c = [c.toNat] := if_pos (small.trans (by decide))
      have special : (c = '\\' ∨ c = '(' ∨ c = ')') ↔ (c.toNat = 92 ∨ c.toNat = 40 ∨ c.toNat = 41) := by
        rw [← Char.toNat_inj,← Char.toNat_inj,← Char.toNat_inj]
        rfl
      rw [replaceUnprintable,if_pos printable,unit]
      simp only [List.map_cons,List.map_nil,List.flatMap_cons,List.flatMap_nil,List.append_nil,cleanUnit,printable,if_true,
        escapedChar,escaped]
      simp only [special]
      split
      · simp only [List.flatMap_cons,List.flatMap_nil,unit,List.append_nil,List.map_append,List.map_cons,List.map_nil,
          Nat.mod_eq_of_lt small]
        rfl
      · simp only [List.flatMap_cons,List.flatMap_nil,unit,List.append_nil,List.map_cons,List.map_nil,Nat.mod_eq_of_lt small]
  | false =>
      have marks : (codeUnits c).map cleanUnit = List.replicate (codeUnits c).length 63 := by
        unfold codeUnits
        split
        · simp [cleanUnit,printable]
        · rw [List.map_cons,List.map_cons,highUnprintable (by omega),highUnprintable (by omega)]
          rfl
      rw [replaceUnprintable,printable,marks]
      exact markBytes _

theorem escapedBytes (value : String) : latin1 (escapePdfText value) = (clean value).flatMap escaped := by
  rw [latin1,utf16,escapePdfText,replacedOnce,String.toList_ofList,clean,utf16]
  generalize value.toList = chars
  induction chars with
  | nil => rfl
  | cons c chars ih =>
      simp only [List.flatMap_cons,List.flatMap_append,List.map_append]
      rw [ih,charBytes]

theorem cleanUnbroken (value : String) : 13 ∉ clean value := by
  intro inside
  obtain ⟨unit,_,same⟩ := List.mem_map.mp inside
  unfold cleanUnit at same
  split at same
  · rename_i printable
    have least : 32 ≤ unit := (printableSmall printable).1
    omega
  · cases same

end Escaping

section Commands

theorem regularNat (n : Nat) : latin1 (toString n) ≠ [] ∧ ∀ b ∈ latin1 (toString n), isRegular b = true := by
  have small : ∀ c ∈ (toString n).toList, c.isDigit = true := fun c inside =>
    List.all_eq_true.mp (Numerals.digitsNat n) c inside
  rw [latin1Chars fun c inside => digitSmall (small c inside)]
  refine ⟨?_,List.forall_mem_map.mpr fun c inside => ?_⟩
  · have filled : 0 < (toString n).length := Nat.length_repr_pos
    rw [ne_eq,List.map_eq_nil_iff,← List.length_eq_zero_iff,String.length_toList]
    omega
  · have bounds : 48 ≤ c.toNat ∧ c.toNat ≤ 57 := Char.isDigit_iff_toNat.mp (small c inside)
    simp [isRegular,isWhite,isDelimiter]
    omega

theorem regularInt (n : Int) : latin1 (toString n) ≠ [] ∧ ∀ b ∈ latin1 (toString n), isRegular b = true := by
  cases n with
  | ofNat n => exact regularNat n
  | negSucc n =>
      have signed : toString (Int.negSucc n) = "-" ++ toString (n + 1) :=
        String.toList_injective (by rw [Numerals.textNegSucc,String.toList_append]; rfl)
      have sign : latin1 "-" = [45] := rfl
      rw [signed,latin1Append,sign]
      exact ⟨List.cons_ne_nil _ _,List.forall_mem_cons.mpr ⟨by decide,(regularNat (n + 1)).2⟩⟩

/-- Each command is read as its own tokens. -/
theorem readsCommand (c : Command) : Reads (latin1 c.text) c.tokens := by
  have word (text : String) (filled : latin1 text ≠ []) (regular : (latin1 text).all isRegular = true) :
      Reads (latin1 text) [.word (latin1 text)] := readsWord filled (List.all_eq_true.mp regular)
  have joined := @readsJoined 32 rfl
    [(latin1 "BT",[.word (latin1 "BT")]),(47 :: latin1 "F1",[.name (latin1 "F1")]),
      (latin1 (toString c.size),[.word (latin1 (toString c.size))]),(latin1 "Tf",[.word (latin1 "Tf")]),
      (latin1 (toString c.x),[.word (latin1 (toString c.x))]),(latin1 (toString c.y),[.word (latin1 (toString c.y))]),
      (latin1 "Td",[.word (latin1 "Td")]),(40 :: ((clean c.value).flatMap escaped ++ [41]),[.string (clean c.value)]),
      (latin1 "Tj",[.word (latin1 "Tj")]),(latin1 "ET",[.word (latin1 "ET")])] ?_
  · have text : latin1 c.text = latin1 "BT /F1 " ++ latin1 (toString c.size) ++ latin1 " Tf " ++ latin1 (toString c.x) ++ latin1 " " ++
        latin1 (toString c.y) ++ latin1 " Td (" ++ (clean c.value).flatMap escaped ++ latin1 ") Tj ET" := by
      rw [← escapedBytes]
      simp only [← latin1Append]
      rfl
    have pieces : latin1 "BT /F1 " = latin1 "BT" ++ 32 :: 47 :: latin1 "F1" ++ [32] ∧ latin1 " Tf " = 32 :: latin1 "Tf" ++ [32] ∧
        latin1 " " = [32] ∧ latin1 " Td (" = 32 :: latin1 "Td" ++ [32,40] ∧
        latin1 ") Tj ET" = [41,32] ++ latin1 "Tj" ++ 32 :: latin1 "ET" := ⟨rfl,rfl,rfl,rfl,rfl⟩
    obtain ⟨start,font,space,place,behind⟩ := pieces
    rw [text,start,font,space,place,behind]
    simp only [List.map_cons,List.map_nil,List.intercalate_cons_cons,List.intercalate_singleton,List.append_assoc,
      List.cons_append,List.nil_append,List.flatten_cons,List.flatten_nil] at joined ⊢
    exact joined
  · simp only [List.forall_mem_cons]
    exact ⟨word "BT" nofun rfl,readsName (by decide),readsWord (regularNat _).1 (regularNat _).2,word "Tf" nofun rfl,
      readsWord (regularInt _).1 (regularInt _).2,readsWord (regularInt _).1 (regularInt _).2,word "Td" nofun rfl,
      readsString (cleanUnbroken _),word "Tj" nofun rfl,word "ET" nofun rfl,nofun⟩

end Commands

section Pages

-- the values that a step draws, and its label and amount
def Step.values : Step → List String
  | .text value _ => [value]
  | .advance _ => []
  | .row label amount _ => [label,amount]

def Step.rows : Step → List (String × String)
  | .text _ _ => []
  | .advance _ => []
  | .row label amount _ => [(label,amount)]

/-- The text and the amount stand one behind the other on the page, at the same height. -/
def Paired (page : List Command) (label amount : String) : Prop :=
  ∃ front first second behind, page = front ++ first :: second :: behind ∧ first.value = label ∧ second.value = amount ∧
    first.y = second.y

/-- The layout has these pages, the last one apart, and these values and rows are on them. -/
structure Laid (values : List String) (rows : List (String × String)) (s : Layout) (done : List (List Command))
    (last : List Command) : Prop where
  finished : s.finished = done.map fun page => page.map Command.text
  page : s.page = last.map Command.text
  height : 72 ≤ s.y ∧ s.y ≤ 720
  inside : ∀ page ∈ done ++ [last], ∀ command ∈ page, 72 ≤ command.y ∧ command.y ≤ 720
  values : (done ++ [last]).flatten.map Command.value = values
  rows : ∀ entry ∈ rows, ∃ page ∈ done ++ [last], Paired page entry.1 entry.2

variable {values : List String} {rows : List (String × String)} {s : Layout} {done : List (List Command)} {last : List Command}

theorem pairedMore {page : List Command} {label amount : String} (paired : Paired page label amount) (c : Command) :
    Paired (page ++ [c]) label amount := by
  obtain ⟨front,first,second,behind,rfl,texts⟩ := paired
  exact ⟨front,first,second,behind ++ [c],by simp,texts⟩

theorem laidText (laid : Laid values rows s done last) (value : String) (size : Nat) (x : Int) :
    Laid (values ++ [value]) rows (text value size x s) done (last ++ [⟨size,x,s.y,value⟩]) := by
  refine ⟨laid.finished,?_,laid.height,?_,?_,?_⟩
  · rw [List.map_append,← laid.page]
    rfl
  · obtain ⟨before,current⟩ := List.forall_mem_append.mp laid.inside
    refine List.forall_mem_append.mpr ⟨before,List.forall_mem_singleton.mpr (List.forall_mem_append.mpr ⟨?_,?_⟩)⟩
    · exact List.forall_mem_singleton.mp current
    · exact List.forall_mem_singleton.mpr laid.height
  · have values := laid.values
    simp only [List.flatten_append,List.flatten_singleton,List.map_append,List.map_cons,List.map_nil] at values ⊢
    rw [← List.append_assoc,values]
  · intro entry inside
    obtain ⟨page,found,paired⟩ := laid.rows entry inside
    obtain earlier | current := List.mem_append.mp found
    · exact ⟨page,List.mem_append_left _ earlier,paired⟩
    · obtain rfl := List.mem_singleton.mp current
      exact ⟨_,List.mem_append_right _ (List.mem_singleton.mpr rfl),pairedMore paired _⟩

theorem laidAdvance (laid : Laid values rows s done last) (dy : Nat) :
    ∃ done last, Laid values rows (advance dy s) done last := by
  obtain ⟨least,most⟩ := laid.height
  unfold advance
  dsimp only
  split
  · refine ⟨done ++ [last],[],?_,rfl,(by decide : (72 : Int) ≤ 720 ∧ (720 : Int) ≤ 720),?_,?_,?_⟩
    · rw [List.map_append,← laid.finished,laid.page]
      rfl
    · exact List.forall_mem_append.mpr ⟨laid.inside,List.forall_mem_singleton.mpr nofun⟩
    · rw [List.flatten_append,List.flatten_singleton,List.append_nil]
      exact laid.values
    · intro entry inside
      obtain ⟨page,found,paired⟩ := laid.rows entry inside
      exact ⟨page,List.mem_append_left _ found,paired⟩
  · rename_i more
    have height : 72 ≤ s.y - dy := not_lt.mp more
    exact ⟨done,last,laid.finished,laid.page,⟨height,by dsimp only; omega⟩,laid.inside,laid.values,laid.rows⟩

theorem laidRow (laid : Laid values rows s done last) (label amount : String) (size : Nat) :
    ∃ done last, Laid (values ++ [label,amount]) (rows ++ [(label,amount)]) (row label amount size s) done last := by
  have both := laidText (laidText laid label size LEFT) amount size (round (AMOUNT_RIGHT - approxWidth amount size))
  refine laidAdvance ⟨both.finished,both.page,both.height,both.inside,?_,?_⟩ (size + 6)
  · rw [both.values,List.append_assoc]
    rfl
  · refine List.forall_mem_append.mpr ⟨both.rows,List.forall_mem_singleton.mpr ?_⟩
    exact ⟨_,List.mem_append_right _ (List.mem_singleton.mpr rfl),last,_,_,[],List.append_assoc _ _ _,rfl,rfl,rfl⟩

theorem laidSteps (steps : List Step) (laid : Laid values rows s done last) :
    ∃ done last, Laid (values ++ steps.flatMap Step.values) (rows ++ steps.flatMap Step.rows) (steps.foldl Step.draw s) done last := by
  induction steps generalizing values rows s done last with
  | nil => exact ⟨done,last,by simpa using laid⟩
  | cons step steps ih =>
      obtain ⟨done,last,drawn⟩ : ∃ done last, Laid (values ++ step.values) (rows ++ step.rows) (step.draw s) done last := by
        cases step with
        | text value size =>
            rw [Step.rows,List.append_nil]
            exact ⟨_,_,laidText laid value size LEFT⟩
        | advance dy =>
            rw [Step.values,Step.rows,List.append_nil,List.append_nil]
            exact laidAdvance laid dy
        | row label amount size => exact laidRow laid label amount size
      have rest := ih drawn
      rwa [List.append_assoc,List.append_assoc,← List.flatMap_cons,← List.flatMap_cons] at rest

/-- The pages have these commands. All are between the margins, their values are those of the steps, and every row is on one page. -/
structure Drawing (steps : List Step) (pages : List (List String)) (commands : List (List Command)) : Prop where
  written : pages = commands.map fun page => page.map Command.text
  inside : ∀ page ∈ commands, ∀ command ∈ page, 72 ≤ command.y ∧ command.y ≤ 720
  values : commands.flatten.map Command.value = steps.flatMap Step.values
  rows : ∀ entry ∈ steps.flatMap Step.rows, ∃ page ∈ commands, Paired page entry.1 entry.2

theorem drawnDrawing (steps : List Step) : ∃ commands, Drawing steps (drawn steps) commands := by
  have start : Laid [] [] {} [] [] := ⟨rfl,rfl,by decide,List.forall_mem_singleton.mpr nofun,rfl,nofun⟩
  obtain ⟨done,last,laid⟩ := laidSteps steps start
  refine ⟨done ++ [last],?_,laid.inside,laid.values,laid.rows⟩
  rw [drawn,Layout.pages,laid.finished,laid.page,List.map_append]
  rfl

end Pages

section Files

variable {pdf : String} {offsets : List Nat}

theorem appendedObjects (id : Nat) (bodies : List String) (pdf : String) (offsets : List Nat) :
    latin1 (appendObjects id bodies (pdf,offsets)).1 = latin1 pdf ++ objectsFrom id (bodies.map latin1) ∧
      (appendObjects id bodies (pdf,offsets)).2 = offsets ++ offsetsFrom (latin1 pdf).length id (bodies.map latin1) := by
  induction bodies generalizing id pdf offsets with
  | nil => simp [appendObjects,objectsFrom,offsetsFrom]
  | cons body bodies ih =>
      have object : latin1 s!"{id} 0 obj\n{body}\nendobj\n" = objectText id (latin1 body) := by
        rw [objectText,← latin1Append,← latin1Append]
        rfl
      obtain ⟨text,listed⟩ := ih (id + 1) (pdf ++ s!"{id} 0 obj\n{body}\nendobj\n") (offsets ++ [byteLength pdf])
      rw [latin1Append,object] at text listed
      rw [appendObjects,text,listed]
      constructor
      · rw [List.map_cons,objectsFrom,List.append_assoc]
      · rw [List.map_cons,offsetsFrom,List.length_append,List.append_assoc]
        rfl

theorem appendedEntries (pdf : String) (offsets : List Nat) :
    latin1 (appendEntries pdf offsets) = latin1 pdf ++ offsets.flatMap entry := by
  unfold appendEntries
  induction offsets generalizing pdf with
  | nil => simp
  | cons offset offsets ih =>
      rw [List.foldl_cons,ih,latin1Append,latin1Append,List.flatMap_cons,List.append_assoc]
      rfl

theorem renderStructured (pages : List (List String)) :
    ∃ offsets start, Structured (renderPdf pages) ((objects pages).map latin1) offsets start := by
  obtain ⟨begins,listed⟩ := appendedObjects 1 (objects pages) "%PDF-1.4\n" []
  obtain ⟨pdf,offsets,made⟩ : ∃ pdf offsets, appendObjects 1 (objects pages) ("%PDF-1.4\n",[]) = (pdf,offsets) := ⟨_,_,rfl⟩
  rw [made] at begins listed
  unfold renderPdf
  dsimp only at begins listed ⊢
  rw [made]
  rw [List.nil_append] at listed
  have count : (objects pages).length = offsets.length := by rw [listed,offsetsLength,List.length_map]
  refine ⟨offsets,(latin1 pdf).length,structuredFile begins listed ?_⟩
  rw [latin1Append,appendedEntries,latin1Append,List.length_map,crossReference,count,List.append_assoc,List.append_assoc,
    List.append_assoc]
  rfl

def stream (page : List Command) : List Nat := latin1 ("\n".intercalate (page.map Command.text))

def content (stream : List Nat) : List Nat :=
  latin1 s!"<< /Length {stream.length} >>\nstream\n" ++ stream ++ latin1 "\nendstream"

/-- The file has the catalog, the list of exactly these pages, and a page with its content for each of them. -/
def Document (file : List Nat) (streams : List (List Nat)) : Prop :=
  ∃ bodies offsets start, Structured file bodies offsets start ∧ bodies.length = 3 + 2 * streams.length ∧
    bodies[0]? = some (latin1 catalog) ∧
    bodies[1]? = some (latin1 (pagesTree ((List.range streams.length).map fun i => 4 + i * 2) streams.length)) ∧
    ∀ i stream, streams[i]? = some stream →
      bodies[3 + 2 * i]? = some (latin1 (pageObject (4 + i * 2))) ∧ bodies[4 + 2 * i]? = some (content stream)

theorem contentLatin1 (commands : List String) :
    latin1 (contentObject commands) = content (latin1 ("\n".intercalate commands)) := by
  rw [content,← latin1Append,← latin1Append]
  rfl

theorem pairAt {α : Type} (first second : α → String) (items : List α) (i : Nat) :
    (items.flatMap fun item => [first item,second item])[2 * i]? = items[i]?.map first ∧
      (items.flatMap fun item => [first item,second item])[2 * i + 1]? = items[i]?.map second := by
  induction items generalizing i with
  | nil => simp
  | cons item items ih =>
      cases i with
      | zero => simp
      | succ i => exact ih i

theorem pairsLength {α : Type} (first second : α → String) (items : List α) :
    (items.flatMap fun item => [first item,second item]).length = 2 * items.length := by
  induction items with
  | nil => rfl
  | cons item items ih =>
      rw [List.flatMap_cons,List.length_append,ih,List.length_cons,List.length_cons,List.length_cons,List.length_nil]
      omega

theorem objectsLength (pages : List (List String)) : (objects pages).length = 3 + 2 * pages.length := by
  have pairs := pairsLength (fun entry : List String × Nat => pageObject entry.2) (fun entry => contentObject entry.1)
    (pages.zip ((List.range pages.length).map fun i => 4 + i * 2))
  rw [objects,List.length_append,pairs,List.length_zip,List.length_map,List.length_range,Nat.min_self]
  rfl

theorem objectsAt {pages : List (List String)} {i : Nat} {commands : List String} (listed : pages[i]? = some commands) :
    (objects pages)[3 + 2 * i]? = some (pageObject (4 + i * 2)) ∧ (objects pages)[4 + 2 * i]? = some (contentObject commands) := by
  obtain ⟨first,second⟩ := pairAt (fun entry : List String × Nat => pageObject entry.2) (fun entry => contentObject entry.1)
    (pages.zip ((List.range pages.length).map fun i => 4 + i * 2)) i
  have less : i < pages.length := (List.getElem?_eq_some_iff.mp listed).1
  have zipped : (pages.zip ((List.range pages.length).map fun i => 4 + i * 2))[i]? = some (commands,4 + i * 2) := by
    rw [List.getElem?_zip_eq_some]
    exact ⟨listed,by simp [less]⟩
  rw [zipped] at first second
  have even : 3 + 2 * i = 2 * i + 3 := by omega
  have odd : 4 + 2 * i = 2 * i + 1 + 3 := by omega
  rw [even,odd]
  exact ⟨first,second⟩

theorem renderDocument (pages : List (List Command)) :
    Document (renderPdf (pages.map fun page => page.map Command.text)) (pages.map stream) := by
  obtain ⟨offsets,start,structured⟩ := renderStructured (pages.map fun page => page.map Command.text)
  refine ⟨_,offsets,start,structured,?_,rfl,?_,fun i found present => ?_⟩
  · rw [List.length_map,objectsLength,List.length_map,List.length_map]
  · rw [objects,List.length_map,List.length_map]
    rfl
  · rw [List.getElem?_map] at present
    obtain ⟨page,listed,same⟩ := Option.map_eq_some_iff.mp present
    have texts : (pages.map fun page => page.map Command.text)[i]? = some (page.map Command.text) := by
      rw [List.getElem?_map,listed,Option.map_some]
    obtain ⟨first,second⟩ := objectsAt texts
    rw [List.getElem?_map,List.getElem?_map,first,second,Option.map_some,Option.map_some,contentLatin1,← same]
    exact ⟨rfl,rfl⟩

theorem streamTokens (page : List Command) : PdfTokens.tokens (stream page) = some (page.flatMap Command.tokens) := by
  have separator : latin1 "\n" = [10] := rfl
  have each : ∀ part ∈ page.map fun command => (latin1 command.text,command.tokens), Reads part.1 part.2 := by
    intro part inside
    obtain ⟨command,_,same⟩ := List.mem_map.mp inside
    subst same
    dsimp only
    exact readsCommand command
  have read : Reads ([10].intercalate (page.map fun command => latin1 command.text)) (page.map Command.tokens).flatten := by
    have joined := readsJoined (by decide : isWhite 10 = true) each
    simpa only [List.map_map,Function.comp_def] using joined
  have whole := readsWhole read
  simpa only [stream,latin1Intercalate,separator,List.flatMap_def,List.map_map,Function.comp_def] using whole

end Files

/-- The commands of the invoice fit on its pages, the file has just these pages, and each is read as its commands. -/
def Sound (input : InvoicePdfInput) (file : List Nat) : Prop :=
  ∃ issuedAt periodFrom periodTo commands, formatDate input.issuedAt = some issuedAt ∧ formatDate input.periodFrom = some periodFrom ∧
    formatDate input.periodTo = some periodTo ∧
    Drawing (steps input issuedAt periodFrom periodTo) (drawn (steps input issuedAt periodFrom periodTo)) commands ∧
    Document file (commands.map stream) ∧ ∀ page ∈ commands, PdfTokens.tokens (stream page) = some (page.flatMap Command.tokens)

/-- An invoice whose dates are times has a sound file. -/
theorem invoiceSound (input : InvoicePdfInput) :
    match renderInvoicePdf input with
    | none => input.issuedAt = none ∨ input.periodFrom = none ∨ input.periodTo = none
    | some file => Sound input file := by
  unfold renderInvoicePdf buildInvoiceContent
  cases issued : input.issuedAt with
  | none => exact .inl rfl
  | some issuedAt =>
      cases first : input.periodFrom with
      | none => exact .inr (.inl rfl)
      | some periodFrom =>
          cases last : input.periodTo with
          | none => exact .inr (.inr rfl)
          | some periodTo =>
              obtain ⟨commands,drawing⟩ := drawnDrawing (steps input _ _ _)
              have document := renderDocument commands
              rw [← drawing.written] at document
              exact ⟨_,_,_,commands,congrArg formatDate issued,congrArg formatDate first,congrArg formatDate last,drawing,document,
                fun page _ => streamTokens page⟩


end HireSettle.Billing.InvoicePdf
