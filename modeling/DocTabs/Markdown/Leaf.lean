/-
The blocks of a page that hold text: how far each goes, given the margins of the containers around
it. Every reader takes the rest of the page at its place and answers with what it read and the rest
behind that; `fuel` bounds the number of lines.
-/
import DocTabs.Markdown.Link
import DocTabs.Markdown.Row

namespace DocTabs.Markdown.Leaf

open Line

/-! ## Code -/

/-- The code of a fence, which is indented by `indent` columns, from the line behind it on. -/
def fenced (ms : List Margin) (f : Opening.Fence) (indent : Nat) :
    Nat → List Char → List Char × List Char
  | 0, s => ([], s)
  | fuel + 1, s =>
    let (inside, c) := Margin.enter ms s
    if !inside then ([], s)
    else
      let c := (c.skip indent).1
      let (close, missing) := c.skip (4 - indent)
      match if missing = 0 then none else f.afterClose? close.rest with
      | some rest => ([], rest)
      | none =>
        let (line, rest) := c.wholeLine
        let (lines, rest) := fenced ms f indent fuel rest
        (line ++ lines, rest)

/-- The lines of indented code behind its first line, each with a mark for a blank one. -/
def indentedLines (ms : List Margin) : Nat → List Char → List (List Char × Bool) × List Char
  | 0, s => ([], s)
  | fuel + 1, s =>
    let (inside, c) := Margin.enter ms s
    let (d, missing) := c.skip 4
    if !inside || !(missing = 0 || d.atEnd) || d.rest.isEmpty then ([], s)
    else
      let (line, rest) := d.wholeLine
      let (lines, rest) := indentedLines ms fuel rest
      ((line, isBlank d.rest) :: lines, rest)

/-- Indented code whose first line is left at `c`, and whether blank lines stand behind it. -/
def indented (ms : List Margin) (c : Cursor) : (List Char × Bool) × List Char :=
  let (line, rest) := c.wholeLine
  let (lines, rest) := indentedLines ms (rest.length + 1) rest
  let kept := (lines.reverse.dropWhile (·.2)).reverse
  ((line ++ kept.flatMap (·.1), kept.length < lines.length), rest)

/-! ## Raw HTML -/

/-- The lines of a block of raw HTML behind its first line. -/
def htmlLines (ms : List Margin) (extent : Tag.Extent) : Nat → List Char → List Char × List Char
  | 0, s => ([], s)
  | fuel + 1, s =>
    let (inside, c) := Margin.enter ms s
    if !inside || c.rest.isEmpty then ([], s)
    else
      let (line, rest) := c.wholeLine
      let (goesOn, keepsOn) := match extent with
        | .upToBlank => (!isBlank c.rest, true)
        | .through stop => (true, !Text.contains stop line)
      if !goesOn then ([], s)
      else if !keepsOn then (line, rest)
      else
        let (lines, rest) := htmlLines ms extent fuel rest
        (line ++ lines, rest)

/-- A block of raw HTML whose first line starts at `s` behind `indent` columns. -/
def html (ms : List Margin) (extent : Tag.Extent) (indent : Nat) (s : List Char) :
    List Char × List Char :=
  let (line, rest) := (⟨0, indent, s⟩ : Cursor).wholeLine
  let done := match extent with
    | .upToBlank => false
    | .through stop => Text.contains stop line
  if done then (line, rest)
  else
    let (lines, rest) := htmlLines ms extent (rest.length + 1) rest
    (line ++ lines, rest)

/-! ## Tables -/

/-- The rows of a table's body. -/
def rows (ms : List Margin) (columns : Nat) : Nat → List Char → List (List Source) × List Char
  | 0, s => ([], s)
  | fuel + 1, s =>
    let (inside, c) := Margin.enter ms s
    let t := c.trimmed.rest
    if !inside || Opening.interrupts false t then ([], s)
    else
      match Row.cellsBehind (previous? s t) (body t) with
      | [] => ([], s)
      | cells =>
        let (rows, rest) := rows ms columns fuel (behind t)
        (Row.fit columns cells :: rows, rest)

/-! ## Paragraphs -/

/-- A line of a paragraph. -/
structure TextLine where
  /-- What the containers and the indent take of the line. -/
  margin : List Char
  indent : List Char
  /-- The page from the text of the line on. -/
  text : List Char
  deriving Repr

/-- How a paragraph ends: it may be underlined, which makes it a heading. -/
structure End where
  level : Option Nat
  /-- The page from the underline on, or from the line behind the paragraph. -/
  page : List Char
  /-- The page behind the paragraph and its underline. -/
  rest : List Char
  deriving Repr

/-- The lines of a paragraph behind its first line. A line that starts no other block adds to it,
even where containers have ended. -/
def textLines (ms : List Margin) : Nat → List Char → List TextLine × End
  | 0, s => ([], ⟨none, s, s⟩)
  | fuel + 1, s =>
    let (inside, c) := Margin.enter ms s
    let (d, missing) := c.skip 4
    let shallow := missing ≠ 0
    match if inside ∧ shallow then Opening.underline? d.rest else none with
    | some (level, rest) => ([], ⟨some level, s, rest⟩)
    | none =>
      let t := c.trimmed.rest
      if (shallow && Row.interrupts ms inside d.rest) || (afterEnd? t).isSome then
        ([], ⟨none, s, s⟩)
      else
        let margin := s.take (s.length - c.rest.length)
        let indent := c.rest.take (c.rest.length - t.length)
        let (lines, e) := textLines ms fuel (behind t)
        (⟨margin, indent, t⟩ :: lines, e)

/-- The source text that starts at `t` and goes on in these lines. -/
def source (t : List Char) : List TextLine → Source
  | [] => Source.ofChars (stripEnd (body t))
  | l :: lines =>
    Source.ofChars (body t) ++ .turn (ending t) l.margin l.indent :: source l.text lines

/-- The extent of a paragraph, or of what is left of it behind link definitions. -/
structure Paragraph where
  /-- The character before the text of the first line. -/
  before : Option Char
  /-- The page from the text of the first line on. -/
  first : List Char
  later : List TextLine
  ending : End
  deriving Repr

namespace Paragraph

/-- The paragraph that starts at `t`. -/
def ofPage (ms : List Margin) (before : Option Char) (t : List Char) : Paragraph :=
  let r := behind t
  let (lines, e) := textLines ms (r.length + 1) r
  ⟨before, t, lines, e⟩

/-- The source text of a paragraph. -/
def source (p : Paragraph) : Source :=
  Leaf.source p.first p.later

/-- The link definition at the head of a paragraph, and what is left of the paragraph in the lines
behind it. -/
def definition? (p : Paragraph) : Option ((List Char × Link.Target) × Option Paragraph) := do
  let (d, rest) ← Link.definition? p.source
  let turns := (p.source.upTo rest).countP Glyph.isTurn
  match rest, p.later.drop (turns - 1) with
  | _ :: _, l :: lines => some (d, some ⟨(l.margin ++ l.indent).getLast?, l.text, lines, p.ending⟩)
  | _, _ => some (d, none)

end Paragraph

/-- What starts at a place where nothing else does. -/
inductive Read where
  | table (columns : List Alignment) (header : List Source) (rows : List (List Source))
  | heading (level : Nat) (text : Source)
  | paragraph (text : Source)
  deriving Repr

/-- Reads a table, an underlined heading or a paragraph. -/
def read (ms : List Margin) (p : Paragraph) : Read × List Char :=
  match Row.heads? ms p.before p.first with
  | some (columns, header, r) =>
    let (rows, rest) := rows ms columns.length (r.length + 1) r
    (.table columns header rows, rest)
  | none =>
    let text := p.source.behind p.before
    match p.ending.level with
    | some level => (.heading level text, p.ending.rest)
    | none => (.paragraph text, p.ending.rest)

end DocTabs.Markdown.Leaf
