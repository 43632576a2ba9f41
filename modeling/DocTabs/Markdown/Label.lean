/-
Labels of links and footnotes. A label ends at the first closing bracket that is not escaped, and
two labels are the same when they differ in case and in the blanks between words alone.
-/
import DocTabs.Markdown.Source
import DocTabs.Text.CaseFold

namespace DocTabs.Markdown.Label

open Line

/-- The source up to the closing bracket and behind it. There is none where an opening bracket comes
before it. -/
def split? : Source → Option (Source × Source)
  | [] => none
  | .char '\\' :: g :: r => (split? r).map fun p => (.char '\\' :: g :: p.1, p.2)
  | .char ']' :: r => some ([], r)
  | .char '[' :: _ => none
  | g :: r => (split? r).map fun p => (g :: p.1, p.2)

/-- Whether a label holds more than blanks and escapes. -/
def hasText : Source → Bool
  | [] => false
  | .char '\\' :: _ :: r => hasText r
  | g :: r => !g.isGap || hasText r

/-- The size of a label, which is bounded: bytes of characters beyond ASCII, blanks and escapes. -/
def size : Source → Nat
  | [] => 0
  | .char '\\' :: _ :: r => 2 + size r
  | .char c :: r => (if isSpace c then 1 else if c.toNat < 0x80 then 0 else c.utf8Size) + size r
  | g :: r => g.raw.length + size r

/-- The text of a label with one space for each run of blanks; `gap` tells whether a blank came
before. -/
def spaced (gap : Bool) : Source → List Char
  | [] => []
  | .pipe _ :: r => '|' :: spaced false r
  | .char '\\' :: g :: r => '\\' :: g.raw ++ spaced false r
  | g :: r =>
    if g.isGap then (if gap then [] else [' ']) ++ spaced true r else g.raw ++ spaced false r

/-- The text of a label without blanks around it. -/
def text (s : Source) : List Char :=
  let t := (spaced true s).reverse.dropWhile isGap
  t.reverse

/-- The text of a label and the source behind its closing bracket, where `s` follows the opening
one. `turns` tells whether the label may go on in another line. -/
def read? (turns : Bool) (s : Source) : Option (List Char × Source) := do
  let (label, rest) ← split? s
  if hasText label ∧ size label < 1000 ∧ (turns ∨ !label.any Glyph.isTurn) then
    some (text label, rest)
  else none

/-- The label of a footnote, where `s` follows an opening bracket. -/
def footnote? (s : Source) : Option (List Char × Source) :=
  match s with
  | .char '^' :: .char ']' :: _ => none
  | .char '^' :: r => read? false r
  | _ => none

/-- The form in which labels are compared. -/
def key (label : List Char) : List Char :=
  Text.caseFold label

end DocTabs.Markdown.Label
