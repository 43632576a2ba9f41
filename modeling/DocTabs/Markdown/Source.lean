/-
Source text of inline content. It is a text in which the turns from line to line are marked, since
a turn holds more than a line end: what the containers around the text take of the next line, and
the indent of the text there. How much of this counts depends on what is read across the turn.
-/
import DocTabs.Markdown.Line

namespace DocTabs.Markdown

/-- A character of a source text, or something that stands between its characters. -/
inductive Glyph where
  | char (c : Char)
  /-- The turn to the next line: the line end, and what the containers and the indent take of the
  next line. -/
  | turn (ending margin indent : List Char)
  /-- A pipe in a table cell, behind backslashes that keep it in the cell. -/
  | pipe (slashes : Nat)
  /-- A check box. -/
  | box (checked : Bool)
  /-- Text at the end of a heading that belongs to the piece before it. -/
  | tail (content : List Char)
  /-- The character of the page before the text. It is no part of the text, but a neighbour of what the
  text starts with. -/
  | edge (c : Char)
  deriving DecidableEq, Repr

/-- Source text of inline content. -/
abbrev Source := List Glyph

namespace Glyph

/-- The text of the page that a glyph stands for. -/
def raw : Glyph → List Char
  | char c => [c]
  | turn ending margin indent => ending ++ margin ++ indent
  | pipe slashes => List.replicate slashes '\\' ++ ['|']
  | box _ => []
  | tail s => s
  | edge _ => []

/-- The same without what the containers take. -/
def inside : Glyph → List Char
  | turn ending _ indent => ending ++ indent
  | g => g.raw

/-- Whether a glyph holds only characters of the kind `p`. -/
def has (p : Char → Bool) : Glyph → Bool
  | char c => p c
  | pipe _ => p '\\' && p '|'
  | _ => false

/-- Whether a glyph is a turn. -/
def isTurn : Glyph → Bool
  | turn _ _ _ => true
  | _ => false

/-- Whether a glyph is a blank character or a turn. -/
def isGap (g : Glyph) : Bool :=
  g.has Line.isSpace || g.isTurn

end Glyph

namespace Source

/-- A source text on one line. -/
def ofChars (s : List Char) : Source :=
  s.map .char

/-- A text with the character of the page before it, if there is one on its line. -/
def behind (before : Option Char) (s : Source) : Source :=
  (before.map .edge).toList ++ s

/-- The text behind the word `w`, where `s` starts with `w`. -/
def after? (w : String) (s : Source) : Option Source :=
  (ofChars w.toList).isPrefixOf? s

/-- The text behind the earliest occurrence of `w`. -/
def behind? (w : String) (s : Source) : Option Source :=
  match after? w s with
  | some r => some r
  | none =>
    match s with
    | [] => none
    | _ :: r => behind? w r

/-- The text without the blank characters at its start. -/
def dropSpaces (s : Source) : Source :=
  s.dropWhile (·.has Line.isSpace)

/-- The text without the blanks at its start, of which at most one is a turn. -/
def skipGap (s : Source) : Source :=
  match dropSpaces s with
  | .turn _ _ _ :: r => dropSpaces r
  | r => r

/-- The text behind the line, where nothing but blanks is left of it. -/
def afterBlank? (s : Source) : Option Source :=
  match dropSpaces s with
  | [] => some []
  | .turn _ _ _ :: r => some r
  | _ => none

/-- The text without the blank characters around it. -/
def strip (s : Source) : Source :=
  (dropSpaces (dropSpaces s).reverse).reverse

/-- What of `s` stands before its rest `r`. -/
def upTo (s r : Source) : Source :=
  s.take (s.length - r.length)

end Source

end DocTabs.Markdown
