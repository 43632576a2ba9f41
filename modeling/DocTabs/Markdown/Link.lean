/-
Links in markdown source: destinations, titles, inline targets and definitions.
-/
import DocTabs.Markdown.Entity
import DocTabs.Markdown.Label

namespace DocTabs.Markdown.Link

/-- A link target. -/
structure Target where
  destination : String
  title : String
  deriving DecidableEq, Repr

/-- Definitions by the keys of their labels, earliest first. -/
abbrev Definitions := List (List Char × Target)

/-! ## Destinations -/

/-- A destination in angle brackets and the text behind it, where `s` follows the `<`. -/
def angled? : Source → Option (List Char × Source)
  | .char '>' :: r => some ([], r)
  | .char '\\' :: .char c :: r =>
    if isAsciiPunctuation c then (angled? r).map fun p => ('\\' :: c :: p.1, p.2)
    else (angled? (.char c :: r)).map fun p => ('\\' :: p.1, p.2)
  | .char c :: r => if c = '<' then none else (angled? r).map fun p => (c :: p.1, p.2)
  | .pipe _ :: r => (angled? r).map fun p => ('\\' :: '|' :: p.1, p.2)
  | _ => none

/-- How many parentheses may be open in a bare destination. -/
def maxDepth : Nat := 33

/-- A bare destination and the text behind it. Parentheses inside it are balanced; `depth` counts
the open ones. -/
def bare? : Nat → Source → Option (List Char × Source)
  | depth, .char '\\' :: .char c :: r =>
    if isAsciiPunctuation c then (bare? depth r).map fun p => ('\\' :: c :: p.1, p.2)
    else (bare? depth (.char c :: r)).map fun p => ('\\' :: p.1, p.2)
  | depth, .char c :: r =>
    if c.toNat ≤ 0x20 ∨ (c = ')' ∧ depth = 0) then
      if depth = 0 then some ([], .char c :: r) else none
    else if c = '(' ∧ depth = maxDepth then none
    else
      let depth := if c = '(' then depth + 1 else if c = ')' then depth - 1 else depth
      (bare? depth r).map fun p => (c :: p.1, p.2)
  | depth, .pipe _ :: r => (bare? depth r).map fun p => ('\\' :: '|' :: p.1, p.2)
  | depth, r => if depth = 0 then some ([], r) else none

/-- A destination and the text behind it. -/
def destination? (s : Source) : Option (String × Source) :=
  let found := match s with
    | .char '<' :: r => angled? r
    | _ => bare? 0 s
  found.map fun p => (String.ofList (unescape p.1), p.2)

/-! ## Titles -/

/-- The text up to the first unescaped `stop`, and the text behind it. There is none where an
unescaped `start` comes before it. -/
def quoted? (start stop : Char) : Source → Option (List Char × Source)
  | .char '\\' :: .char c :: r =>
    if isAsciiPunctuation c then (quoted? start stop r).map fun p => ('\\' :: c :: p.1, p.2)
    else (quoted? start stop (.char c :: r)).map fun p => ('\\' :: p.1, p.2)
  | .char c :: r =>
    if c = stop then some ([], r)
    else if c = start then none
    else (quoted? start stop r).map fun p => (c :: p.1, p.2)
  | .turn ending _ _ :: r =>
    (quoted? start stop r).map fun p =>
      ((if ending = ['\x0d'] then ['\n'] else ending) ++ p.1, p.2)
  | .pipe _ :: r => (quoted? start stop r).map fun p => ('\\' :: '|' :: p.1, p.2)
  | g :: r => (quoted? start stop r).map fun p => (g.raw ++ p.1, p.2)
  | [] => none

/-- The written form of a title in its marks, and the text behind it. -/
def title? : Source → Option (List Char × Source)
  | .char '"' :: r => quoted? '"' '"' r
  | .char '\'' :: r => quoted? '\'' '\'' r
  | .char '(' :: r => quoted? '(' ')' r
  | _ => none

/-! ## Inline targets and definitions -/

/-- The target in parentheses behind a link text, and the text behind it, where `s` follows the
opening parenthesis. -/
def inline? (s : Source) : Option (Target × Source) := do
  let (d, r) ← destination? s.skipGap
  let r := r.skipGap
  let (t, r) := match title? r with
    | some (t, r) => (unescape t, r.skipGap)
    | none => ([], r)
  match r with
  | .char ')' :: rest => some (⟨d, String.ofList t⟩, rest)
  | _ => none

/-- The text behind the blanks between two parts of a definition, and whether they hold a turn.
There is none where the paragraph ends or holds nothing but blanks in a line. -/
def gap? (s : Source) : Option (Source × Bool) :=
  match s.dropSpaces with
  | [] => none
  | .turn _ _ _ :: r =>
    match Source.dropSpaces r with
    | [] => none
    | .turn _ _ _ :: _ => none
    | r => some (r, true)
  | r => some (r, false)

/-- The title of a definition and the text behind its line. The text `s` follows the destination;
whether the title must come is told, too. -/
def definitionTitle? (s : Source) : Bool × Option (String × Source) :=
  match gap? s with
  | none => (false, none)
  | some (r, turned) =>
    if r.length = s.length then (true, none)
    else
      let found := do
        let (t, r) ← title? r
        let rest ← r.afterBlank?
        return (String.ofList (unescape (t.filter (· ≠ '\x0d'))), rest)
      (!turned, found)

/-- A definition `[label]: destination "title"` at the head of a text, and the text behind it. A
line behind the destination that is no title is left. -/
def definition? : Source → Option ((List Char × Target) × Source)
  | .char '[' :: s => do
    let (label, r) ← Label.read? true s
    match r with
    | .char ':' :: r =>
      let (start, _) ← gap? r
      let (d, r) ← destination? start
      if r.length = start.length then none
      else
        match definitionTitle? r with
        | (_, some (t, rest)) => some ((Label.key label, ⟨d, t⟩), rest)
        | (true, none) => none
        | (false, none) => r.afterBlank?.map ((Label.key label, ⟨d, ""⟩), ·)
    | _ => none
  | _ => none

end DocTabs.Markdown.Link
