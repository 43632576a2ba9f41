/-
Raw HTML in markdown source: tags, comments, processing instructions, declarations and CDATA
sections inside a text, and the blocks of raw HTML that a line starts. Every recogniser answers
with the text behind what it recognised.
-/
import DocTabs.Markdown.Source

namespace DocTabs.Markdown.Tag

open Text Line

/-! ## Tags -/

/-- The text without the blanks and turns at its start. -/
def skip (s : Source) : Source :=
  s.dropWhile Glyph.isGap

/-- The text behind a tag name. -/
def name? : Source → Option Source
  | .char c :: r =>
    if c.isAlpha then some (r.dropWhile (·.has fun c => c.isAlphanum || c = '-')) else none
  | _ => none

/-- The text behind the first `quote`. -/
def behindQuote? (quote : Char) (s : Source) : Option Source :=
  match s.dropWhile (· ≠ .char quote) with
  | _ :: rest => some rest
  | [] => none

/-- Whether a character may stand in an attribute value without quotes. -/
def isBare (c : Char) : Bool :=
  !isEnd c && c ∉ [' ', '"', '\'', '=', '<', '>', '\x60']

/-- The text behind an attribute value. -/
def value? : Source → Option Source
  | .char '"' :: r => behindQuote? '"' r
  | .char '\'' :: r => behindQuote? '\'' r
  | g :: r => if g.has isBare then some (r.dropWhile (·.has isBare)) else none
  | [] => none

/-- The text behind an attribute, which has a name and may have a value. -/
def attribute? : Source → Option Source
  | .char c :: r =>
    if c.isAlpha || c = '_' || c = ':' then
      let rest := r.dropWhile (·.has fun c => c.isAlphanum || c ∈ ['_', '.', ':', '-'])
      match skip rest with
      | .char '=' :: v => value? (skip v)
      | _ => some rest
    else none
  | _ => none

/-- The text behind the attributes and the end of a start tag. A blank comes before each
attribute. `fuel` bounds their number. -/
def attributes? : Nat → Source → Option Source
  | 0, _ => none
  | fuel + 1, s =>
    let r := skip s
    match r with
    | .char '>' :: rest => some rest
    | .char '/' :: .char '>' :: rest => some rest
    | _ => if r.length = s.length then none else attribute? r >>= attributes? fuel

/-- The text behind a complete start or end tag, where `s` follows the `<`. -/
def tag? : Source → Option Source
  | .char '/' :: s => do
    match (← name? s).dropWhile (·.has isSpace) with
    | .char '>' :: rest => some rest
    | _ => none
  | s => name? s >>= attributes? (s.length + 1)

/-! ## Inline HTML -/

/-- The text through the first `>` and behind it. The margin of a turn may hold the `>`; then the
rest of the turn is passed over. -/
def declaration? : Source → Option (List Char × Source)
  | [] => none
  | .char '>' :: r => some (['>'], r)
  | .turn ending margin indent :: r =>
    if '>' ∈ margin then some (ending ++ margin.takeWhile (· ≠ '>') ++ ['>'], r)
    else (declaration? r).map fun p => (ending ++ margin ++ indent ++ p.1, p.2)
  | g :: r => (declaration? r).map fun p => (g.raw ++ p.1, p.2)

/-- The text behind a CDATA section, which lasts through its first brackets. -/
def section? (s : Source) : Option Source :=
  let r := s.dropWhile (· ≠ .char ']')
  match r, r.dropWhile (· = .char ']') with
  | _ :: _, .char '>' :: rest => some rest
  | _, _ => none

/-- Inline HTML and the text behind it, where `s` follows the `<`. A comment, an instruction and a
section hold their text as it stands in the page; a tag does without what the containers around it
take of its lines. -/
def inline? (s : Source) : Option (List Char × Source) :=
  let whole (rest : Source) := ('<' :: (s.upTo rest).flatMap Glyph.raw, rest)
  match s.after? "!--" with
  | some r => (r.after? ">" <|> r.after? "->" <|> r.behind? "-->").map whole
  | none =>
    match s with
    | .char '?' :: r => (Source.behind? "?>" r).map whole
    | .char '!' :: .char c :: r =>
      if c.isAlpha then (declaration? r).map fun p => ('<' :: '!' :: c :: p.1, p.2)
      else (s.after? "![CDATA[" >>= section?).map whole
    | _ => (tag? s).map fun rest => ('<' :: (s.upTo rest).flatMap Glyph.inside, rest)

/-! ## Blocks of raw HTML -/

/-- How far a block of raw HTML goes. -/
inductive Extent where
  /-- Through the first line that holds this text. -/
  | through (stop : String)
  /-- Up to the first blank line. -/
  | upToBlank
  deriving DecidableEq, Repr

/-- Elements whose content is raw: the block lasts through their end tag. -/
def rawElements : List String := ["pre", "style", "script", "textarea"]

/-- Elements that start a block which a blank line ends. -/
def blockElements : List String :=
  ["address", "article", "aside", "base", "basefont", "blockquote", "body", "caption", "center",
    "col", "colgroup", "dd", "details", "dialog", "dir", "div", "dl", "dt", "fieldset",
    "figcaption", "figure", "footer", "form", "frame", "frameset", "h1", "h2", "h3", "h4", "h5",
    "h6", "head", "header", "hr", "html", "iframe", "legend", "li", "link", "main", "menu",
    "menuitem", "nav", "noframes", "ol", "optgroup", "option", "p", "param", "search", "section",
    "summary", "table", "tbody", "td", "tfoot", "th", "thead", "title", "tr", "track", "ul"]

/-- The block that one of the raw elements starts, where `s` follows the `<`. -/
def rawElement? (s : List Char) : Option Extent :=
  rawElements.findSome? fun e =>
    let word := (s.take e.length).map Char.toLower
    if word = e.toList && ((s.drop e.length).head?.map fun c => isGap c || c = '>').getD true then
      some (.through ("</" ++ e ++ ">"))
    else none

/-- The block that a comment, an instruction, a section or a declaration starts. -/
def special? (s : List Char) : Option Extent :=
  if (after? "!--" s).isSome then some (.through "-->")
  else if (after? "?" s).isSome then some (.through "?>")
  else if (after? "![CDATA[" s).isSome then some (.through "]]>")
  else match s with
    | '!' :: c :: _ => if c.isAlpha then some (.through ">") else none
    | _ => none

/-- Whether the text starts with the name of a block element, in a start or an end tag. -/
def startsBlockElement (s : List Char) : Bool :=
  let s := match s with
    | '/' :: r => r
    | _ => s
  let name := s.takeWhile Char.isAlphanum
  let rest := s.drop name.length
  String.ofList (name.map Char.toLower) ∈ blockElements &&
    (rest.isEmpty || rest.head?.any (fun c => c = ' ' || c = '\t' || isEnd c || c = '>') ||
      (after? "/>" rest).isSome)

/-- The block that starts even inside a paragraph, where `s` follows the `<`. -/
def interrupting? (s : List Char) : Option Extent :=
  rawElement? s <|> special? s <|> if startsBlockElement s then some .upToBlank else none

/-- The block of raw HTML that starts at the head of a line. A complete tag alone on its line
starts one too. -/
def block? : List Char → Option Extent
  | '<' :: s =>
    interrupting? s <|>
      match tag? (Source.ofChars (body s)) with
      | some rest => if rest.all (·.has isSpace) then some .upToBlank else none
      | none => none
  | _ => none

end DocTabs.Markdown.Tag
