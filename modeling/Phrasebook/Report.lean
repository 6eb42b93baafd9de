import Phrasebook.Error
import Phrasebook.Text.Width

/-!
# Reports

A report shows an error in its source text for a terminal. Its head gives the
message, the name of the source, and the line and column; below it stand the
lines of the span, with the place marked underneath and labelled with the
message. Every drawn character carries its own colour codes. What a report is
about does not depend on how it is drawn: `Report.rows` is one drawing.
-/

namespace Phrasebook

namespace Report

/-! ## Lines of a source -/

/-- The characters that end a line. A line feed after a carriage return belongs
to the same line end. -/
def endsLine (c : Char) : Bool :=
  (0x0A ≤ c.toNat && c.toNat ≤ 0x0D) || c.toNat = 0x85 ||
    c.toNat = 0x2028 || c.toNat = 0x2029

def splitLines : List Char → List (List Char)
  | [] => []
  | '\r' :: '\n' :: rest => ['\r', '\n'] :: splitLines rest
  | c :: rest =>
      if endsLine c then
        [c] :: splitLines rest
      else
        match splitLines rest with
        | [] => [[c]]
        | line :: others => (c :: line) :: others

/-- The lines of a text make up the text. -/
theorem flatten_splitLines (text : List Char) :
    (splitLines text).flatten = text := by
  fun_induction splitLines text with
  | case1 => rfl
  | case2 rest inductionHypothesis => simp [inductionHypothesis]
  | case3 c rest _ _ inductionHypothesis => simp [inductionHypothesis]
  | case4 c rest _ _ noLine inductionHypothesis =>
      simp [noLine] at inductionHypothesis
      simp [inductionHypothesis]
  | case5 c rest _ _ line others someLines inductionHypothesis =>
      simp [someLines] at inductionHypothesis
      simp [inductionHypothesis]

/-- A line of a source: its number, counted from one, the number of characters
before it, and its text with the line end. -/
structure Line where
  number : Nat
  start : Nat
  text : List Char

/-- The line that holds a character, among lines that begin with the given
number and offset. The last line also answers for all places behind it. -/
def lineAmong : List (List Char) → Nat → Nat → Nat → Line
  | [], number, start, _ => ⟨number, start, []⟩
  | [text], number, start, _ => ⟨number, start, text⟩
  | text :: others, number, start, position =>
      if position < start + text.length then
        ⟨number, start, text⟩
      else
        lineAmong others (number + 1) (start + text.length) position

def lineAt (source : List Char) (position : Nat) : Line :=
  lineAmong (splitLines source) 1 0 position

/-- The part of a line that is shown: trailing blanks are left out. -/
def Line.shown (line : Line) : List Char :=
  (line.text.reverse.dropWhile isBlank).reverse

/-! ## Colours -/

/-- Wraps a text in the codes that switch a colour on and off. -/
def coloured (code text : String) : String :=
  "\x1b[" ++ code ++ "m" ++ text ++ "\x1b[0m"

def red (text : String) : String := coloured "31" text

def grey (text : String) : String := coloured "38;5;246" text

def darkGrey (text : String) : String := coloured "38;5;240" text

def lightGrey (text : String) : String := coloured "38;5;249" text

def blanks (count : Nat) : String :=
  "".pushn ' ' count

def times (count : Nat) (text : String) : String :=
  String.join (List.replicate count text)

/-! ## Cells -/

/-- How a character is drawn at a column: a tabulator reaches to the next
multiple of four, and any other blank is one blank. -/
def drawn (column : Nat) (c : Char) : List Char :=
  if c = '\t' then
    List.replicate ((column / 4 + 1) * 4 - column) ' '
  else if isBlank c then
    [' ']
  else
    [c]

/-- The cells that a column of a shown text takes. Columns behind the text take
one. -/
def cellsAt (shown : List Char) (column : Nat) : Nat :=
  match shown[column]? with
  | none => 1
  | some c =>
      if isBlank c then (drawn column c).length else charWidth c

/-- Draws the columns below `count`, each as often as it takes cells. -/
def drawColumns (shown : List Char) (count : Nat)
    (draw : Nat → Nat → String) : String :=
  String.join
    ((List.range count).map fun column => draw column (cellsAt shown column))

/-- The shown text of a line, with the columns from `first` up to `last` in the
colour of the marked place. -/
def drawLine (line : Line) (first last : Nat) : String :=
  let drawColumn (column : Nat) (c : Char) : String :=
    let colour := if first ≤ column ∧ column < last then red else lightGrey
    String.join ((drawn column c).map fun cell =>
      colour (String.singleton cell))
  String.join (line.shown.mapIdx drawColumn)

/-! ## Rows -/

/-- The margin in front of a source line: its number, aligned to the right. -/
def lineMargin (width number : Nat) : String :=
  let digits := toString number
  " " ++ grey (blanks (width - digits.length) ++ digits ++ " │") ++ " "

def blankMargin (width : Nat) (bar : String) : String :=
  " " ++ darkGrey (blanks (width + 1) ++ bar) ++ " "

/-- A span within one line. The middle of the span is marked, and an arm leads
from it to the label behind the span. -/
def sameLineRows (width : Nat) (line : Line) (span : Span)
    (label : String) : List String :=
  let first := span.start - line.start
  let last := span.stop - line.start
  let middle := (first + last) / 2
  let mark (corner : String) (cells : Nat) : String :=
    if cells = 0 then "" else red corner ++ times (cells - 1) (red "─")
  let underline (column cells : Nat) : String :=
    if column = middle then mark "┬" cells
    else if first ≤ column ∧ column < last then times cells (red "─")
    else blanks cells
  let arm (column cells : Nat) : String :=
    if column = middle then mark "╰" cells
    else if middle < column then times cells (red "─")
    else blanks cells
  let count := last + 2
  [ lineMargin width line.number ++ drawLine line first last,
    blankMargin width "│" ++ drawColumns line.shown count underline,
    blankMargin width "│" ++ drawColumns line.shown count arm ++
      " " ++ label ]

/-- A span over several lines. An arm leads from its first line to its last one
and on to the label; one row stands for all lines between. -/
def severalLineRows (width : Nat) (first last : Line) (span : Span)
    (label : String) : List String :=
  let sourceRow (line : Line) (corner : String) : String :=
    lineMargin width line.number ++ red corner ++ red "─" ++ red "▶" ++
      red " " ++
      drawLine line (span.start - line.start) (span.stop - line.start)
  let between :=
    if first.number + 1 < last.number then
      [blankMargin width "┆" ++ red "┆" ++ blanks 3]
    else
      []
  let count := last.text.length + 2
  [sourceRow first "╭"] ++ between ++
    [ sourceRow last "├",
      blankMargin width "│" ++ red "│" ++ blanks 3 ++
        drawColumns last.shown count (fun _ cells => blanks cells),
      blankMargin width "│" ++ red "╰" ++ times 3 (red "─") ++
        drawColumns last.shown count
          (fun _ cells => times cells (red "─")) ++
        " " ++ label ]

def rows (name : String) (source : List Char) (span : Span)
    (message : String) : List String :=
  let first := lineAt source span.start
  let last := lineAt source (max span.start (span.stop - 1))
  let width := (toString last.number).length
  let column := span.start - first.start + 1
  let place := s!"{name}:" ++ toString first.number ++ ":" ++ toString column
  [ red "Error:" ++ " " ++ message,
    blanks (width + 2) ++ grey "╭" ++ grey "─" ++ grey "[" ++ place ++
      grey "]",
    blanks (width + 2) ++ grey "│" ] ++
  (if first.number = last.number then
    sameLineRows width first span message
  else
    severalLineRows width first last span message) ++
  [grey (times (width + 2) "─" ++ "╯")]

end Report

/-- What draws the rows of a report, given the name of a source, the source, a
span of it and a message. -/
abbrev Report.Drawing := String → List Char → Span → String → List String

/-- The report on an error in a source of a given name, in a given drawing. An
error inside entries is shown in the innermost entry, under its key. -/
def ResolveError.reportIn (draw : Report.Drawing) (error : ResolveError)
    (source name : String) : String :=
  let root := error.root
  let entry := error.entries.getLast?.getD ⟨name, source⟩
  String.join ((draw entry.key entry.template.toList root.span
    root.message).map fun row => row ++ "\n")

def ResolveError.report (error : ResolveError) (source name : String) :
    String :=
  error.reportIn Report.rows source name

end Phrasebook
