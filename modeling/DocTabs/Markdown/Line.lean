/-
Lines of a markdown page. A place in a page is given by the rest of the page there. A line ends
with a line feed, a carriage return, or both in this order; where a block takes its lines as they
are, they end with a line feed alone.
-/
import DocTabs.Text.Seek

namespace DocTabs.Markdown

namespace Line

/-! ## Characters -/

/-- Blank characters inside a line. -/
def isSpace (c : Char) : Bool :=
  c = ' ' || c = '\t' || c = '\x0b' || c = '\x0c'

/-- The characters that end a line. -/
def isEnd (c : Char) : Bool :=
  c = '\n' || c = '\x0d'

/-- Blank characters, those that end a line among them. -/
def isGap (c : Char) : Bool :=
  isSpace c || isEnd c

/-- The text without the blanks behind it. -/
def stripEnd (s : List Char) : List Char :=
  (s.reverse.dropWhile isSpace).reverse

/-- The text without the blanks around it. -/
def strip (s : List Char) : List Char :=
  stripEnd (s.dropWhile isSpace)

/-! ## Parts of a line -/

/-- The text behind a line end. The end of the page ends a line, too. -/
def afterEnd? : List Char → Option (List Char)
  | [] => some []
  | '\x0d' :: '\n' :: r => some r
  | c :: r => if isEnd c then some r else none

/-- The text behind a line of which nothing but blanks is left. -/
def afterBlank? (s : List Char) : Option (List Char) :=
  afterEnd? (s.dropWhile isSpace)

/-- Whether nothing but blanks is left of the line. -/
def isBlank (s : List Char) : Bool :=
  (afterBlank? s).isSome

/-- The line without its end. -/
def body (s : List Char) : List Char :=
  s.takeWhile (!isEnd ·)

/-- The end of the line. -/
def ending (s : List Char) : List Char :=
  match s.dropWhile (!isEnd ·) with
  | '\x0d' :: '\n' :: _ => ['\x0d', '\n']
  | c :: _ => [c]
  | [] => []

/-- The text behind the line. -/
def behind (s : List Char) : List Char :=
  s.drop ((body s).length + (ending s).length)

/-- The character before the place `s`, on a line that the page goes on with at `line`. -/
def previous? (line s : List Char) : Option Char :=
  (line.take (line.length - s.length)).getLast?

/-! ## Lines as they are -/

/-- The text through its first line feed, and the text behind it. -/
def throughFeed (s : List Char) : List Char × List Char :=
  let line := s.takeWhile (· ≠ '\n')
  (s.take (line.length + 1), s.drop (line.length + 1))

/-- A line without the carriage return before its last character. -/
def withoutReturn (line : List Char) : List Char :=
  match line.reverse with
  | c :: '\x0d' :: r => (c :: r).reverse
  | _ => line

end Line

/-! ## Columns -/

/-- A place in a line. -/
structure Cursor where
  /-- Column of `rest`. -/
  column : Nat
  /-- Columns of a tab that was consumed in part. -/
  pending : Nat
  /-- The rest of the page. -/
  rest : List Char
  deriving Repr

namespace Cursor

/-- The start of a line. -/
def ofLine (s : List Char) : Cursor := ⟨0, 0, s⟩

/-- Skips up to `n` columns of blanks; the number tells how many were missing. -/
def skip (n : Nat) (c : Cursor) : Cursor × Nat :=
  go (n - c.pending) c.column (c.pending - n) c.rest
where
  /-- Goes on behind the pending columns. -/
  go : Nat → Nat → Nat → List Char → Cursor × Nat
    | 0, column, pending, s => (⟨column, pending, s⟩, 0)
    | n, column, pending, [] => (⟨column, pending, []⟩, n)
    | n + 1, column, pending, c :: r =>
      if c = ' ' then go n (column + 1) pending r
      else if c = '\t' then
        let width := 4 - column % 4
        if width ≤ n + 1 then go (n + 1 - width) (column + width) 0 r
        else (⟨column + width, width - (n + 1), r⟩, 0)
      else (⟨column, pending, c :: r⟩, n + 1)

/-- Moves over the next `n` characters. -/
def advance (n : Nat) (c : Cursor) : Cursor :=
  ⟨c.column + n, 0, c.rest.drop n⟩

/-- Moves over all spaces and tabs. -/
def trimmed (c : Cursor) : Cursor :=
  c.advance (c.rest.takeWhile fun d => d = ' ' || d = '\t').length

/-- Whether the line ends here. -/
def atEnd (c : Cursor) : Bool :=
  (Line.afterEnd? c.rest).isSome

/-- The rest of the line through its line feed, with pending columns as blanks, and the rest of the
page behind it. -/
def wholeLine (c : Cursor) : List Char × List Char :=
  let (line, rest) := Line.throughFeed c.rest
  (List.replicate c.pending ' ' ++ Line.withoutReturn line, rest)

end Cursor

/-! ## Margins -/

/-- What a line starts with where it goes on in a container. -/
inductive Margin where
  /-- A `>`. -/
  | quote
  /-- The indent of a list item. -/
  | item (indent : Nat)
  /-- The indent of a footnote. -/
  | footnote
  deriving DecidableEq, Repr

namespace Margin

/-- The place behind a margin, where there is one. Blank lines need no indent. -/
def pass? (m : Margin) (c : Cursor) : Option Cursor :=
  let indented (n : Nat) : Option Cursor :=
    let (d, missing) := c.skip n
    if missing = 0 ∨ d.atEnd then some d else none
  match m with
  | quote =>
    let d := (c.skip 3).1
    if d.rest.head? = some '>' then
      some (Cursor.skip 1 ⟨d.column + 1, d.pending, d.rest.drop 1⟩).1
    else none
  | item indent => indented indent
  | footnote => indented 4

/-- Passes margins, outermost first, as far as they go on: how many do, and the place behind
them. -/
def pass : List Margin → Cursor → Nat × Cursor
  | [], c => (0, c)
  | m :: ms, c =>
    match m.pass? c with
    | some c =>
      let (n, c) := pass ms c
      (n + 1, c)
    | none => (0, c)

/-- Whether all margins go on in the line, and the place behind those that do. -/
def enter (ms : List Margin) (s : List Char) : Bool × Cursor :=
  let (n, c) := pass ms (.ofLine s)
  (n = ms.length, c)

end Margin

end DocTabs.Markdown
