/-
Emphasis. Runs of `*`, `_` and `~` are matched inside out: a run that may close takes the nearest
earlier run of its mark that may open, and what stands between them becomes its content.
-/
import DocTabs.Markdown.Inline
import DocTabs.Markdown.Punctuation
import DocTabs.Markdown.Source
import DocTabs.Text.Blank

namespace DocTabs.Markdown

/-- A run of emphasis marks. -/
structure Delimiter where
  mark : Char
  /-- Marks not used yet. -/
  count : Nat
  /-- Marks in the source. -/
  width : Nat
  opens : Bool
  closes : Bool
  /-- Text behind the run that is kept only if a mark of the run is. -/
  tail : List Char := []
  deriving DecidableEq, Repr

namespace Delimiter

/-- Whether a side of a run is open to blanks: the text ends there or a blank stands there. -/
def blankSide (c : Option Char) : Bool :=
  (c.map Text.isBlank).getD true

/-- Whether a side of a run holds punctuation. -/
def markSide (c : Option Char) : Bool :=
  (c.map isPunctuation).getD false

/-- The run of `width` marks between two characters. `*` and `~~` may stand inside a word, `_` and
`~` may not, but behind an escaped `~` every run of `~` may close. -/
def ofRun (mark : Char) (width : Nat) (before behind : Option Char) : Delimiter :=
  let inWord := mark = '*' || (mark = '~' && width > 1)
  { mark, count := width, width
    opens := !blankSide behind &&
      (blankSide before || markSide before || (inWord && (mark = '~' || !markSide behind)))
    closes := !blankSide before &&
      (blankSide behind || markSide behind || (inWord && !markSide before) ||
        (mark = '~' && before = some '~')) }

/-- Whether `o` may open what `c` closes. Runs of `~` must have the same width; for the other marks
a run that may both open and close must not make a sum of three with its partner, unless the
partner's width is a multiple of three. -/
def pairs (o c : Delimiter) : Bool :=
  o.mark = c.mark && o.opens &&
    if c.mark = '~' then o.width = c.width
    else (!o.closes && !c.opens) || (o.width + c.width) % 3 ≠ 0 || c.width % 3 = 0

/-- The marks of a run as text. -/
def text (d : Delimiter) : Inline :=
  .text (String.ofList (List.replicate d.count d.mark ++ d.tail))

end Delimiter

/-- What a source text has been read into so far. -/
inductive Piece where
  /-- Characters of the text. -/
  | text (content : String)
  /-- Content that is settled. -/
  | done (content : Inline)
  /-- A backslash that breaks the line. -/
  | slash
  /-- A run that may still open emphasis. -/
  | run (delimiter : Delimiter)
  /-- An opening bracket that may still start a link or an image; `behind` is the text behind it. -/
  | bracket (image active : Bool) (behind : Source)
  deriving Repr

namespace Piece

/-- A piece as content, where it can no longer become anything else. -/
def settle : Piece → Inline
  | .text s => .text s
  | .done x => x
  | .slash => .hardBreak
  | .run d => d.text
  | .bracket true _ _ => .text "!["
  | .bracket false _ _ => .text "["

/-- Whether a piece is a run of emphasis marks. -/
def isRun : Piece → Bool
  | .run _ => true
  | _ => false

/-- The nearest run that may open what `c` closes: the pieces after it, the run, and the pieces
before it, all latest first. -/
def opener? (c : Delimiter) : List Piece → Option (List Piece × Delimiter × List Piece)
  | [] => none
  | .run o :: below =>
    if o.pairs c then some ([], o, below)
    else (opener? c below).map fun p => (.run o :: p.1, p.2)
  | p :: below => (opener? c below).map fun q => (p :: q.1, q.2)

/-- How many marks a pair uses: both of a strong pair, one of an emphasis, all of a strikethrough.
-/
def used (o c : Delimiter) : Nat :=
  if c.mark = '~' then c.count else if 2 ≤ o.count ∧ 2 ≤ c.count then 2 else 1

/-- Content between the marks of a pair. -/
def wrap (mark : Char) (used : Nat) (content : List Inline) : Inline :=
  if mark = '~' then .strikethrough content
  else if used = 2 then .strong content
  else .emphasis content

/-- The pieces after a run of `~` that found no partner: earlier runs of `~` will not open
anything. -/
def spend (c : Delimiter) (stack : List Piece) : List Piece :=
  if c.closes ∧ c.mark = '~' then
    stack.map fun p => match p with
      | .run o => .run (if o.mark = '~' then { o with opens := false } else o)
      | p => p
  else stack

/-- Reads a run against the pieces before it, latest first. `fuel` bounds the number of pairs. -/
def addRun : Nat → Delimiter → List Piece → List Piece
  | 0, _, stack => stack
  | fuel + 1, c, stack =>
    if c.count = 0 then stack
    else
      match if c.closes then opener? c stack else none with
      | some (inner, o, below) =>
        let n := used o c
        let content := (inner.map settle).reverse
        let below :=
          if o.count ≤ n then below else .run { o with count := o.count - n } :: below
        addRun fuel { c with count := c.count - n } (.done (wrap c.mark n content) :: below)
      | none => (if c.opens then .run c else .done c.text) :: spend c stack

/-- Adds a piece to the pieces before it, latest first. -/
def add (stack : List Piece) : Piece → List Piece
  | .run c => addRun (c.count + 1) c stack
  | p => p :: stack

/-- The content of pieces in order, with their runs matched. -/
def resolve (pieces : List Piece) : List Inline :=
  ((pieces.foldl add []).map settle).reverse

end Piece

end DocTabs.Markdown
