/-
What a line of a markdown page can start, judged by the rest of the page at its first character
that is not blank.
-/
import DocTabs.Markdown.Label
import DocTabs.Markdown.Tag

namespace DocTabs.Markdown.Opening

open Line

/-! ## Rules and headings -/

/-- The text behind a line that is a thematic break. -/
def afterRule? (s : List Char) : Option (List Char) :=
  let line := body s
  match line with
  | c :: _ =>
    if (c = '*' ∨ c = '-' ∨ c = '_') ∧ 3 ≤ line.count c ∧
        line.all (fun d => d = c || d = ' ' || d = '\t') then some (behind s)
    else none
  | [] => none

/-- The level of a heading that starts with number signs. -/
def heading? (s : List Char) : Option Nat :=
  let level := (s.takeWhile (· = '#')).length
  if 1 ≤ level ∧ level ≤ 6 ∧ ((s.drop level).head?.map isGap).getD true then some level else none

/-- The text of a heading without the spaces at its end, and without a run of number signs there
that is the whole text or follows a space. -/
def withoutClosing (s : List Char) : List Char :=
  let spaceless (t : List Char) := (t.reverse.dropWhile (· = ' ')).reverse
  let t := spaceless s
  let opened := (t.reverse.dropWhile (· = '#')).reverse
  if opened = [] then []
  else if opened.getLast? = some ' ' then spaceless opened
  else t

/-- The source of a heading's text, of which `s` is the line behind the number signs. Blanks other
than spaces at its end belong to the piece before them. -/
def headingSource (s : List Char) : Source :=
  let line := (body s).dropWhile isSpace
  let read := stripEnd line
  let shown := withoutClosing line
  if shown.length ≤ read.length then Source.ofChars shown
  else Source.ofChars read ++ [.tail (shown.drop read.length)]

/-- The level of the heading that an underline makes of the paragraph before it, and the text
behind the underline. -/
def underline? (s : List Char) : Option (Nat × List Char) :=
  match s with
  | '=' :: r => (afterBlank? (r.dropWhile (· = '='))).map (1, ·)
  | '-' :: r => (afterBlank? (r.dropWhile (· = '-'))).map (2, ·)
  | _ => none

/-! ## Fences -/

/-- A fence that opens a code block: its mark, its width, and its info string. -/
structure Fence where
  mark : Char
  width : Nat
  info : List Char
  deriving DecidableEq, Repr

namespace Fence

/-- The fence at the head of a text, and the text behind its line. -/
def read? (s : List Char) : Option (Fence × List Char) :=
  match s with
  | c :: _ =>
    let width := (s.takeWhile (· = c)).length
    let (line, rest) := throughFeed (s.drop width)
    if (c = '\x60' ∧ '\x60' ∉ line ∨ c = '~') ∧ 3 ≤ width then
      let info := (line.reverse.dropWhile isGap).reverse
      some (⟨c, width, info.dropWhile isSpace⟩, rest)
    else none
  | [] => none

/-- The text behind a line that closes the fence, behind which only spaces may stand. The end of the
page closes it, too. -/
def afterClose? (f : Fence) (s : List Char) : Option (List Char) :=
  let width := (s.takeWhile (· = f.mark)).length
  if s = [] then some []
  else if width < f.width then none
  else afterEnd? ((s.drop width).dropWhile (· = ' '))

end Fence

/-! ## Containers -/

/-- A list marker: its final character, the number of an ordered one, and its width. -/
structure Marker where
  mark : Char
  number : Option Nat
  width : Nat
  deriving DecidableEq, Repr

namespace Marker

/-- The list marker at the head of a text. A blank or the end of the line follows it. -/
def read? (s : List Char) : Option Marker :=
  let digits := s.takeWhile Char.isDigit
  let bullet := match s with
    | c :: r => if c = '-' ∨ c = '+' ∨ c = '*' then some (⟨c, none, 1⟩, r) else none
    | [] => none
  let ordered := match s.drop digits.length with
    | c :: r =>
      if 1 ≤ digits.length ∧ digits.length ≤ 9 ∧ (c = '.' ∨ c = ')') then
        some (⟨c, some (digits.foldl (fun n d => n * 10 + (d.toNat - 48)) 0), digits.length + 1⟩, r)
      else none
    | [] => none
  match (bullet <|> ordered : Option (Marker × List Char)) with
  | some (m, r) =>
    if (r.head?.map fun c => c = ' ' || c = '\t' || isEnd c).getD true then some m else none
  | none => none

/-- Whether the item of a marker, behind which the text `r` stands, may interrupt a paragraph: it
has text on this line or the next one, and its number, if any, is one. -/
def interrupts (m : Marker) (r : List Char) : Bool :=
  m.number.getD 1 = 1 && !((afterBlank? r).map isBlank).getD false

end Marker

/-- The label of a footnote whose text starts here, and the text behind its colon. -/
def footnote? (s : List Char) : Option (List Char × List Char) :=
  match s with
  | '[' :: '^' :: r =>
    match Label.read? false (Source.ofChars (body r)) with
    | some (label, .char ':' :: rest) => some (label, r.drop ((body r).length - rest.length))
    | _ => none
  | _ => none

/-- The state of a check box at the head of a list item, and the text behind it. A blank follows
it. -/
def checkBox? (s : List Char) : Option (Bool × List Char) :=
  match s with
  | '[' :: x :: ']' :: e :: r =>
    if isGap e ∧ (isSpace x ∨ x = 'x' ∨ x = 'X') then some (!isSpace x, e :: r) else none
  | _ => none

/-! ## Interruptions -/

/-- Whether a line ends the paragraph before it. Where `strict` holds, a list may do so only if its
marker may. -/
def interrupts (strict : Bool) (s : List Char) : Bool :=
  (afterEnd? s).isSome || (afterRule? s).isSome || (heading? s).isSome ||
    (Fence.read? s).isSome || s.head? = some '>' ||
    (match Marker.read? s with
      | some m => !strict || m.interrupts (s.drop m.width)
      | none => false) ||
    (match s with
      | '<' :: r => (Tag.interrupting? r).isSome
      | _ => false) ||
    (footnote? s).isSome

end DocTabs.Markdown.Opening
