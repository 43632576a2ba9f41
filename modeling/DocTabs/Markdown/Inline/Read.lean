/-
Reading inline content from its source text. The text is read from left to right into pieces; a
closing bracket looks for its opening one and makes a link, an image or a footnote reference of
what stands between them, and at the end the runs of emphasis marks are matched.
-/
import DocTabs.Markdown.Inline.Delimiter
import DocTabs.Markdown.Link
import DocTabs.Markdown.Tag

namespace DocTabs.Markdown

open Line

/-- What references in the text may refer to. -/
structure References where
  links : Link.Definitions := []
  /-- The keys of the footnotes. -/
  footnotes : List (List Char) := []

namespace Piece

/-- Adds text to the pieces so far, joining it with text before it. -/
def pushText (s : List Char) : List Piece → List Piece
  | .text t :: below => .text (t ++ String.ofList s) :: below
  | stack => .text (String.ofList s) :: stack

/-- Adds settled content to the pieces so far. -/
def push (x : Inline) (stack : List Piece) : List Piece :=
  .done x :: stack

/-- Adds the text at the end of a heading, which belongs to the piece before it: it is kept where
that piece is text. -/
def pushTail (s : List Char) : List Piece → List Piece
  | .run d :: below => .run { d with tail := s } :: below
  | .bracket image _ _ :: below => pushText ((if image then ['!', '['] else ['[']) ++ s) below
  | .text t :: below => pushText s (.text t :: below)
  | stack => stack

/-! ## Code spans and autolinks -/

/-- The text up to the first run of exactly `n` backticks, and the text behind the run. -/
def codeEnd? (n : Nat) : Nat → Source → Option (Source × Source)
  | 0, _ => none
  | fuel + 1, s =>
    let before := s.takeWhile (· ≠ .char '\x60')
    let r := s.drop before.length
    let run := r.takeWhile (· = .char '\x60')
    let rest := r.drop run.length
    if run.isEmpty then none
    else if run.length = n then some (before, rest)
    else (codeEnd? n fuel rest).map fun p => (before ++ run ++ p.1, p.2)

/-- What a code span shows of a glyph. Characters that end a line become blanks, and a pipe loses
one of the backslashes before it. -/
def codeGlyph : Glyph → List Char
  | .pipe slashes => (Glyph.pipe (slashes - 1)).raw
  | g => g.inside.map fun c => if isEnd c then ' ' else c

/-- The text of a code span: one blank is dropped from each end where both ends have one and not
all is blank. -/
def codeContent (s : Source) : List Char :=
  let t := s.flatMap codeGlyph
  if t.all (· = ' ') then t
  else
    match t, t.getLast? with
    | ' ' :: r, some ' ' => r.dropLast
    | _, _ => t

/-- Whether a text is an absolute address. -/
def isAddress (s : List Char) : Bool :=
  let scheme := s.takeWhile fun c => c.isAlphanum || c ∈ ['+', '.', '-']
  s.head?.any Char.isAlpha && 2 ≤ scheme.length && scheme.length ≤ 32 &&
    s[scheme.length]? = some ':' && s.all fun c => 0x20 < c.toNat && c ≠ '<'

/-- Whether a text is one part of a mail domain. -/
def isDomainPart (s : List Char) : Bool :=
  0 < s.length && s.length ≤ 63 && s.all (fun c => c.isAlphanum || c = '-') &&
    s.head? ≠ some '-' && s.getLast? ≠ some '-'

/-- Whether a text is a mail address. -/
def isMailAddress (s : List Char) : Bool :=
  let user := s.takeWhile fun c => c.isAlphanum || c ∈ ".!#$%&'*+/=?^_\x60\x7b|\x7d~-".toList
  match s.drop user.length with
  | '@' :: domain => !user.isEmpty && (Text.splitOn (· = '.') domain).all isDomainPart
  | _ => false

/-- What an opening angle bracket starts, and the text behind it, where `s` follows the bracket. -/
def angle? (s : Source) : Option (Inline × Source) :=
  let inner := s.takeWhile (· ≠ .char '>')
  let address := inner.flatMap Glyph.raw
  let link (lead : String) : Option (Inline × Source) :=
    let shown := String.ofList address
    some (.link (lead ++ shown) "" [.text shown], s.drop (inner.length + 1))
  let closed := inner.length < s.length
  if closed && isAddress address then link ""
  else if closed && isMailAddress address then link "mailto:"
  else (Tag.inline? s).map fun p => (.html (String.ofList p.1), p.2)

/-! ## Brackets -/

/-- The nearest opening bracket: the pieces after it, whether it is an image's, whether it may still
start a link, the text behind it, and the pieces before it. -/
def bracket? : List Piece → Option (List Piece × (Bool × Bool × Source) × List Piece)
  | [] => none
  | .bracket image active behind :: below => some ([], (image, active, behind), below)
  | p :: below => (bracket? below).map fun q => (p :: q.1, q.2)

/-- Keeps the earlier brackets from starting a link around a link. -/
def deactivate : List Piece → List Piece
  | .bracket false _ behind :: below => .bracket false false behind :: deactivate below
  | p :: below => p :: deactivate below
  | [] => []

/-- Keeps the earlier brackets from starting anything. -/
def dismiss (stack : List Piece) : List Piece :=
  stack.map fun p => match p with
    | .bracket _ _ _ => .done p.settle
    | p => p

/-- What the text behind a closing bracket refers to. -/
inductive Meaning where
  | link (target : Link.Target)
  | footnote (label : List Char)

/-- The meaning of a text in brackets, from the source behind its opening bracket and what follows
its closing one: an inline target, the label of a definition, or else the text itself as a label.
The rest behind the whole is told, and whether it ends in text of its own. -/
def meaning? (refs : References) (source behind : Source) : Option (Meaning × Source × Bool) :=
  let named (label : List Char) (rest : Source) : Option (Meaning × Source × Bool) :=
    (refs.links.lookup (Label.key label)).map fun t => (.link t, rest, false)
  let own (rest : Source) : Option (Meaning × Source × Bool) :=
    match Label.footnote? source, Label.read? true source with
    | some (label, r), _ =>
      if r.length = behind.length ∧ Label.key label ∈ refs.footnotes then
        some (.footnote label, behind, false)
      else none
    | none, some (label, r) => if r.length = behind.length then named label rest else none
    | none, none => none
  let inlined := match behind with
    | .char '(' :: r => Link.inline? r
    | _ => none
  match inlined with
  | some (t, rest) => some (.link t, rest, true)
  | none =>
    match behind with
    | .char '[' :: .char ']' :: rest => own rest
    | .char '[' :: r =>
      match Label.footnote? r, Label.read? true r with
      | none, some (label, rest) => named label rest
      | _, _ => own behind
    | _ => own behind

/-- The pieces in brackets, latest first. A backslash that breaks the line before the closing
bracket is shown as it is where there are emphasis marks in the brackets. -/
def closed : List Piece → List Piece
  | .slash :: below =>
    if below.any isRun then .text "\\" :: below else .slash :: below
  | inner => inner

/-- Reads a closing bracket, given the text behind it and the pieces before it. -/
def close (refs : References) (behind : Source) (stack : List Piece) : List Piece × Source :=
  match bracket? stack with
  | none => (pushText [']'] stack, behind)
  | some (inner, (image, active, source), below) =>
    let opened := pushText (if image then ['!', '['] else ['[']) below
    let literal := (pushText [']'] (inner ++ opened), behind)
    if !active && !image then literal
    else
      match meaning? refs source behind with
      | none => literal
      | some (.footnote label, rest, _) =>
        let below := if image then pushText ['!'] below else below
        (push (.footnote (String.ofList label)) (dismiss below), rest)
      | some (.link t, rest, own) =>
        let content := resolve (closed inner).reverse
        let stack :=
          if image then push (.image t.destination t.title content) below
          else push (.link t.destination t.title content) (deactivate below)
        (if own then pushText [] stack else stack, rest)

/-! ## The text -/

/-- Whether a character can only be text. -/
def isOrdinary (c : Char) : Bool :=
  !isSpace c && c ∉ ['\\', '\x60', '*', '_', '~', '&', '<', '!', '[', ']']

/-- Reads a text into pieces, latest first, given the character before it. `fuel` bounds the number
of steps; every step reads a glyph. -/
def read (refs : References) : Nat → Option Char → Source → List Piece → List Piece
  | 0, _, _, stack => stack
  | _, _, [], stack => stack
  | fuel + 1, _, .turn ending margin indent :: r, stack =>
    read refs fuel (ending ++ margin ++ indent).getLast? r (push .softBreak stack)
  | fuel + 1, _, .pipe _ :: r, stack => read refs fuel (some '|') r (pushText ['|'] stack)
  | fuel + 1, before, .box checked :: r, stack =>
    read refs fuel before r (push (.checkBox checked) stack)
  | fuel + 1, before, .tail s :: r, stack => read refs fuel before r (pushTail s stack)
  | fuel + 1, _, .edge c :: r, stack => read refs fuel (some c) r stack
  | fuel + 1, before, .char c :: r, stack =>
    match c with
    | '\\' =>
      match r with
      | .turn ending margin indent :: rest =>
        read refs fuel (ending ++ margin ++ indent).getLast? rest (.slash :: stack)
      | .char e :: rest =>
        if isAsciiPunctuation e then read refs fuel (some e) rest (pushText [e] stack)
        else read refs fuel (some c) r (pushText [c] stack)
      | _ => read refs fuel (some c) r (pushText [c] stack)
    | '\x60' =>
      let run := c :: (r.takeWhile (· = .char '\x60')).map fun _ => '\x60'
      let rest := r.dropWhile (· = .char '\x60')
      match codeEnd? run.length (rest.length + 1) rest with
      | some (code, rest) =>
        read refs fuel (some c) rest (push (.code (String.ofList (codeContent code))) stack)
      | none => read refs fuel (some c) rest (pushText run stack)
    | '&' =>
      let line := (r.takeWhile (·.has fun _ => true)).flatMap Glyph.raw
      match Entity.read? line with
      | some (cs, rest) =>
        read refs fuel (some ';') (r.drop (line.length - rest.length))
          (push (.text (String.ofList cs)) stack)
      | none => read refs fuel (some c) r (pushText [c] stack)
    | '<' =>
      match angle? r with
      | some (x, rest) => read refs fuel (some '>') rest (pushText [] (push x stack))
      | none => read refs fuel (some c) r (pushText [c] stack)
    | '!' =>
      match r with
      | .char '[' :: rest => read refs fuel (some '[') rest (.bracket true true rest :: stack)
      | _ => read refs fuel (some c) r (pushText [c] stack)
    | '[' => read refs fuel (some c) r (.bracket false true r :: stack)
    | ']' =>
      let (stack, rest) := close refs r stack
      read refs fuel (some c) rest stack
    | _ =>
      if c = '*' ∨ c = '_' ∨ c = '~' then
        let width := (r.takeWhile (· = .char c)).length + 1
        let rest := r.dropWhile (· = .char c)
        let d := Delimiter.ofRun c width before (rest.head?.bind (·.raw.head?))
        if (d.opens || d.closes) && (c ≠ '~' || width ≤ 2) then
          read refs fuel (some c) rest (.run d :: stack)
        else read refs fuel (some c) rest (pushText (List.replicate width c) stack)
      else if isSpace c then
        let blanks := c :: (r.takeWhile (·.has isSpace)).flatMap Glyph.raw
        match r.dropWhile (·.has isSpace) with
        | .turn ending margin indent :: rest =>
          read refs fuel (ending ++ margin ++ indent).getLast? rest
            (push (if 2 ≤ blanks.length then .hardBreak else .softBreak) stack)
        | rest => read refs fuel (some c) rest (pushText blanks stack)
      else
        let run := c :: (r.takeWhile (·.has isOrdinary)).flatMap Glyph.raw
        read refs fuel run.getLast? (r.dropWhile (·.has isOrdinary)) (pushText run stack)

end Piece

/-- The inline content of a source text. -/
def Inline.ofSource (refs : References) (s : Source) : List Inline :=
  Piece.resolve (Piece.read refs s.length none s []).reverse

end DocTabs.Markdown
