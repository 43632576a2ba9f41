/-
Rows of tables: a header, under it a row of dashes that aligns the columns, and the rows of the
body. Pipes separate the cells of a row.
-/
import DocTabs.Markdown.Block
import DocTabs.Markdown.Opening
import DocTabs.Markdown.Punctuation

namespace DocTabs.Markdown.Row

open Line

/-! ## Cells -/

/-- The pieces of a row between its pipes. A backslash keeps a pipe from separating, even an escaped
one. -/
def split : List Char → List Source
  | [] => [[]]
  | '\\' :: '\\' :: '|' :: r => push [.pipe 2] (split r)
  | '\\' :: '|' :: r => push [.pipe 1] (split r)
  | '\\' :: c :: r =>
    if isAsciiPunctuation c then push [.char '\\', .char c] (split r)
    else push [.char '\\'] (split (c :: r))
  | '|' :: r => [] :: split r
  | c :: r => push [.char c] (split r)
where
  /-- Adds source text to the first piece. -/
  push (s : Source) : List Source → List Source
    | [] => [s]
    | piece :: pieces => (s ++ piece) :: pieces

/-- The cells of a row, trimmed. A pipe at either end of the row separates nothing. -/
def cells (s : List Char) : List Source :=
  let s := strip s
  let pieces := (split s).map Source.strip
  let pieces := if s.head? = some '|' then pieces.drop 1 else pieces
  if pieces.getLast? = some [] then pieces.dropLast else pieces

/-- The cells of a row, the first one with the character of the page before it, unless a pipe or a blank
stands between the two. -/
def cellsBehind (before : Option Char) (s : List Char) : List Source :=
  match cells s with
  | first :: cells =>
    if s.head?.any fun c => c = '|' || isSpace c then first :: cells
    else first.behind before :: cells
  | [] => []

/-- The number of pipes in a line that no backslash escapes. -/
def pipes (s : List Char) : Nat :=
  let pieces := split s
  pieces.length - 1 + pieces.flatten.count (.pipe 2)

/-- The number of columns of a header, where the pipes are counted that no backslash escapes. One
at either end of the line separates nothing. -/
def width (s : List Char) : Nat :=
  let cells := cells s
  let last := (cells.getLast?.bind (·.getLast?)).toList.count (.pipe 2)
  cells.length + cells.flatten.count (.pipe 2) - last

/-- The cells of a row, fitted to the number of columns. -/
def fit (columns : Nat) (cells : List Source) : List Source :=
  (cells ++ List.replicate (columns - cells.length) []).take columns

/-! ## The row of dashes -/

/-- What is known after a part of the row of dashes. -/
structure Dashes where
  /-- Alignments of the columns before, latest first. -/
  columns : List Alignment := []
  /-- Alignment of the column that is being read. -/
  current : Alignment := .none
  /-- Whether the column has something yet. -/
  begun : Bool := false
  /-- Whether the column has a dash. -/
  dashed : Bool := false
  /-- Whether any column has one. -/
  anyDash : Bool := false
  anyPipe : Bool := false

namespace Dashes

/-- A colon before the dashes aligns left, one behind them right, and both center. -/
def colon (d : Dashes) : Dashes :=
  let next := match d.begun, d.current with
    | false, .none => .left
    | true, .left => .center
    | true, .none => .right
    | _, a => a
  { d with current := next, begun := true }

/-- Reads a row of dashes. Each column but the last has a dash, some column has one, and there is a
pipe. -/
def read? (d : Dashes) : List Char → Option (List Alignment)
  | [] =>
    if d.anyPipe && d.anyDash then
      some ((if d.begun then d.current :: d.columns else d.columns).reverse)
    else none
  | c :: r =>
    if c = ' ' then read? d r
    else if c = ':' then read? d.colon r
    else if c = '-' then read? { d with begun := true, dashed := true, anyDash := true } r
    else if c = '|' ∧ d.dashed then
      read? { d with
        columns := d.current :: d.columns
        current := .none
        begun := false
        dashed := false
        anyPipe := true } r
    else none

end Dashes

/-- The alignments that a row of dashes asks for. A pipe at its start separates nothing. -/
def alignments? (s : List Char) : Option (List Alignment) :=
  let spaces := s.takeWhile (· = ' ')
  if 3 < spaces.length then none
  else
    match s.drop spaces.length with
    | '|' :: r => Dashes.read? { anyPipe := true } r
    | r => Dashes.read? {} r

/-! ## Headers -/

/-- The alignments and the header of a table whose header is the line at the head of `s`, where that
has `width` columns, and the text behind its row of dashes. -/
def header? (ms : List Margin) (width : Nat) (before : Option Char) (s : List Char) :
    Option (List Alignment × List Source × List Char) := do
  let (inside, c) := Margin.enter ms (behind s)
  if !inside then none
  else
    let columns ← alignments? (body c.rest)
    if columns.length = width then some (columns, fit width (cellsBehind before (body s)), behind c.rest)
    else none

/-- The header of a table at the head of a paragraph. It has a pipe, and a backslash at its end does
not break the line. -/
def heads? (ms : List Margin) (before : Option Char) (s : List Char) :
    Option (List Alignment × List Source × List Char) :=
  let line := body s
  let slashes := (line.reverse.takeWhile (· = '\\')).length
  if pipes line = 0 ∨ slashes % 2 = 1 then none else header? ms (width line) before s

/-- Whether a line ends the paragraph before it: a table with a pipe at its start may do so, too. -/
def interrupts (ms : List Margin) (strict : Bool) (s : List Char) : Bool :=
  Opening.interrupts strict s ||
    (s.head? = some '|' && (header? ms (cells (body s)).length none s).isSome)

end DocTabs.Markdown.Row
