/-
Character references in markdown source: `&name;`, `&#decimal;` and `&#xhex;`.
-/
import DocTabs.Markdown.Entity.Table
import DocTabs.Markdown.Punctuation

namespace DocTabs.Markdown

namespace Entity

/-- The text that a named reference stands for. -/
def named? (name : String) : Option (List Char) :=
  (byInitial.findSome? (·.lookup name)).map (·.map Char.ofNat)

/-- The character of a code point; what is no character is shown as U+FFFD. -/
def ofCodePoint (n : Nat) : Char :=
  if n ≠ 0 ∧ n.isValidChar then Char.ofNat n else Char.ofNat 0xFFFD

/-- The value of a digit below the base. -/
def digit? (base : Nat) (c : Char) : Option Nat :=
  let n := c.toNat
  let value :=
    if '0'.toNat ≤ n ∧ n ≤ '9'.toNat then n - '0'.toNat
    else if 'a'.toNat ≤ n ∧ n ≤ 'f'.toNat then n - 'a'.toNat + 10
    else if 'A'.toNat ≤ n ∧ n ≤ 'F'.toNat then n - 'A'.toNat + 10
    else base
  if value < base then some value else none

/-- The number written at the head of the text, with between 1 and `most` digits, and the text
behind it. -/
def number? (base most : Nat) (s : List Char) : Option (Nat × List Char) :=
  let digits := s.takeWhile fun c => (digit? base c).isSome
  if digits.isEmpty ∨ most < digits.length then none
  else some ((digits.filterMap (digit? base)).foldl (fun n d => n * base + d) 0,
    s.drop digits.length)

/-- The text that a reference stands for and the text behind it, where `s` follows the `&`. -/
def read? (s : List Char) : Option (List Char × List Char) :=
  match s with
  | '#' :: x :: r =>
    let found := if x = 'x' ∨ x = 'X' then number? 16 6 r else number? 10 7 (x :: r)
    match found with
    | some (n, ';' :: rest) => some ([ofCodePoint n], rest)
    | _ => none
  | _ =>
    let name := s.takeWhile Char.isAlphanum
    match s.drop name.length with
    | ';' :: rest => (named? (String.ofList name)).map (·, rest)
    | _ => none

end Entity

/-- The text with backslash escapes and character references resolved. `fuel` bounds the number of
steps. -/
def unescape (s : List Char) : List Char :=
  go s.length s
where
  /-- One step per character, escape or reference. -/
  go : Nat → List Char → List Char
    | 0, _ => []
    | _, [] => []
    | fuel + 1, '\\' :: c :: r =>
      if isAsciiPunctuation c then c :: go fuel r else '\\' :: go fuel (c :: r)
    | fuel + 1, '&' :: r =>
      match Entity.read? r with
      | some (cs, rest) => cs ++ go fuel rest
      | none => '&' :: go fuel r
    | fuel + 1, c :: r => c :: go fuel r

end DocTabs.Markdown
