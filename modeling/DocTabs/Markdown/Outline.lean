/-
The block structure of a page, read block by block. The state after some blocks holds the open
containers with the blocks they have so far. The next line first finds how many of the containers
go on and closes the others; then it opens new ones, and its text becomes a block.
-/
import DocTabs.Markdown.Leaf

namespace DocTabs.Markdown

open Line Opening

/-- An open container with its blocks so far, latest first. -/
inductive Frame where
  | quote (blocks : List (Block Source))
  /-- A list between its items; `mark` is the final character of its markers. -/
  | list (mark : Char) (start : Option Nat) (loose : Bool) (items : List (List (Block Source)))
  /-- An item, whose later lines are indented by `indent` columns. -/
  | item (indent : Nat) (blocks : List (Block Source))
  | footnote (label : List Char) (blocks : List (Block Source))
  deriving Repr

/-- The margin that lines have in a container. -/
def Frame.margin? : Frame → Option Margin
  | quote _ => some .quote
  | list _ _ _ _ => none
  | item indent _ => some (.item indent)
  | footnote _ _ => some .footnote

/-- What is known after some blocks of a page. -/
structure Outline where
  /-- Blocks outside all containers, latest first. -/
  blocks : List (Block Source) := []
  /-- Open containers, innermost first. -/
  frames : List Frame := []
  /-- Whether a blank line came last, outside quotes. -/
  blank : Bool := false
  /-- Whether an item came last that has no text on the line of its marker. -/
  bare : Bool := false
  links : Link.Definitions := []
  /-- The keys of footnotes. -/
  footnotes : List (List Char) := []

namespace Outline

/-- The margins of the open containers, outermost first. -/
def margins (o : Outline) : List Margin :=
  o.frames.reverse.filterMap Frame.margin?

/-! ## Closing -/

/-- Adds a block to the innermost container. -/
def add (o : Outline) (b : Block Source) : Outline :=
  match o.frames with
  | [] => { o with blocks := b :: o.blocks }
  | .quote bs :: fs => { o with frames := .quote (b :: bs) :: fs }
  | .item indent bs :: fs => { o with frames := .item indent (b :: bs) :: fs }
  | .footnote label bs :: fs => { o with frames := .footnote label (b :: bs) :: fs }
  | .list _ _ _ _ :: _ => o

/-- A list as a block. The paragraphs of a tight list lose their tags. -/
def listBlock (start : Option Nat) (loose : Bool) (items : List (List (Block Source))) :
    Block Source :=
  .list start (if loose then items.reverse else items.reverse.map (·.map Block.tighten))

/-- Closes the innermost container. -/
def closeFrame (o : Outline) : Outline :=
  match o.frames with
  | [] => o
  | .quote bs :: fs => { o with frames := fs }.add (.quote bs.reverse)
  | .footnote label bs :: fs =>
    { o with frames := fs }.add (.footnote (String.ofList label) bs.reverse)
  | .list _ start loose items :: fs =>
    { o with frames := fs, bare := o.bare && loose }.add (listBlock start loose items)
  | .item _ bs :: .list mark start loose items :: fs =>
    { o with frames := .list mark start loose (bs.reverse :: items) :: fs }
  | .item _ _ :: fs => { o with frames := fs }

/-- Closes the innermost containers until `n` are left. -/
def keep (n : Nat) (o : Outline) : Outline :=
  closeTimes (o.frames.length - n) o
where
  /-- Closes so many containers. -/
  closeTimes : Nat → Outline → Outline
    | 0, o => o
    | k + 1, o => closeTimes k o.closeFrame

/-- How many of the containers, outermost first, go on in a line, and the place behind what they
take of it. -/
def continued : List Frame → Cursor → Nat × Cursor
  | [], c => (0, c)
  | f :: fs, c =>
    match (match f.margin? with
      | some m => m.pass? c
      | none => some c) with
    | some c =>
      let (n, c) := continued fs c
      (n + 1, c)
    | none => (0, c)

/-- Closes an item that has begun with blank lines alone. -/
def settle (o : Outline) : Outline :=
  let o' := { o with bare := false }
  match o.frames with
  | .item _ _ :: _ => if o.bare && o.blank then o'.closeFrame else o'
  | _ => o'

/-- Marks the list around the innermost container as loose, if it is an item's. -/
def loosen (o : Outline) : Outline :=
  match o.frames with
  | .item indent bs :: .list mark start _ items :: fs =>
    { o with frames := .item indent bs :: .list mark start true items :: fs }
  | _ => o

/-- Prepares for a block that is no list item: a list whose item has ended is closed, and a blank
line before the block makes the list around it loose. -/
def beginBlock (o : Outline) : Outline :=
  let o := o.settle
  let o := match o.frames with
    | .list _ _ _ _ :: _ => o.closeFrame
    | _ => o
  if o.blank then { o.loosen with blank := false } else o

/-- Prepares for a list item: it continues a list of the same mark, which a blank line before it
makes loose, or starts a list. -/
def beginItem (m : Marker) (o : Outline) : Outline :=
  let o := o.settle
  let fresh (o : Outline) : Outline :=
    let o := o.beginBlock
    { o with frames := .list m.mark m.number false [] :: o.frames }
  match o.frames with
  | .list mark start loose items :: fs =>
    if mark = m.mark then
      { o with frames := .list mark start (loose || o.blank) items :: fs, blank := false }
    else fresh o
  | _ => fresh o

/-! ## Blocks of text -/

/-- Adds a blank line. Lines behind it need no indent to belong to an item that has nothing yet, so
that the item ends with the next block. -/
def addBlank (o : Outline) : Outline :=
  match o.frames with
  | .quote _ :: _ => o
  | .item _ bs :: fs =>
    if o.bare then { o with frames := .item 0 bs :: fs, blank := true }
    else { o with blank := true }
  | _ => { o with blank := true }

/-- Adds what was read where nothing else starts. A check box comes first. -/
def addRead (box : Source) (r : Leaf.Read) (o : Outline) : Outline :=
  match r with
  | .table columns header rows => o.add (.table columns header rows)
  | .heading level text => o.add (.heading level (box ++ text))
  | .paragraph text => o.add (.paragraph (box ++ text))

/-- Adds the link definitions at the head of a paragraph and then what is left of it. `fuel` bounds
the number of definitions. -/
def addText : Nat → Leaf.Paragraph → Outline → Outline × List Char
  | 0, _, o => (o, [])
  | fuel + 1, p, o =>
    let ms := o.margins
    match p.definition? with
    | some (d, some q) => addText fuel q { o with links := o.links ++ [d] }
    | some (d, none) =>
      let o := { o with links := o.links ++ [d] }
      let page := p.ending.page
      let (inside, c) := Margin.enter ms page
      let (e, missing) := c.skip 4
      if missing ≠ 0 ∧ Row.interrupts ms inside e.rest then (o, page)
      else
        let s := c.trimmed.rest
        addText fuel (.ofPage ms (previous? page s) s) o
    | none =>
      let (r, rest) := Leaf.read ms p
      (o.addRead [] r, rest)

/-- Adds the block of text that starts at a place in a line. The page goes on with that line at `line`.
-/
def addLeaf (line : List Char) (c : Cursor) (o : Outline) : Outline × List Char :=
  match afterBlank? c.rest with
  | some rest => (o.addBlank, rest)
  | none =>
    let o := o.beginBlock
    let ms := o.margins
    let (d, missing) := c.skip 4
    let s := d.rest
    if missing = 0 then
      let ((code, blank), rest) := Leaf.indented ms d
      ({ o with blank }.add (.code "" (String.ofList code)), rest)
    else
      match Tag.block? s with
      | some extent =>
        let (html, rest) := Leaf.html ms extent (max c.pending (4 - missing)) s
        (o.add (.html (String.ofList html)), rest)
      | none =>
        match afterRule? s, heading? s, Fence.read? s with
        | some rest, _, _ => (o.add .rule, rest)
        | none, some level, _ => (o.add (.heading level (headingSource (s.drop level))), behind s)
        | none, none, some (f, r) =>
          let (code, rest) := Leaf.fenced ms f (4 - missing) (r.length + 1) r
          let info := unescape (f.info.filter (· ≠ '\x0d'))
          (o.add (.code (String.ofList info) (String.ofList code)), rest)
        | none, none, none => addText (s.length + 1) (.ofPage ms (previous? line s) s) o

/-! ## Containers -/

/-- Opens the item of a list marker at the cursor. There is text left on the line, or the rest of
the page behind what was read. -/
def openItem (m : Marker) (indent : Nat) (c : Cursor) (o : Outline) :
    Outline × (Cursor ⊕ List Char) :=
  let o := o.beginItem m
  let item (width : Nat) : Outline := { o with frames := .item width [] :: o.frames }
  let behind := c.advance m.width
  match afterBlank? behind.rest with
  | some rest => ({ item (indent + m.width + 1) with bare := true }, .inr rest)
  | none =>
    let (d, missing) := behind.skip 5
    let (d, o) :=
      if missing = 0 then ((behind.skip 1).1, item (indent + m.width + 1))
      else (d, item (indent + m.width + (5 - missing)))
    match checkBox? (d.skip 3).1.rest with
    | none => (o, .inl d)
    | some (checked, r) =>
      let box : Source := [.box checked]
      match afterBlank? r with
      | some rest => ({ o.add (.tight box) with bare := true }, .inr rest)
      | none =>
        let s := (Cursor.ofLine r).trimmed.rest
        let (text, rest) := Leaf.read o.margins (.ofPage o.margins (previous? r s) s)
        (o.addRead box text, .inr rest)

/-- Opens the containers that a line starts and then adds its block of text. `fuel` bounds the
number of containers; each takes a character of the line, with which the page goes on at `line`. -/
def start (line : List Char) : Nat → Cursor → Outline → Outline × List Char
  | 0, _, o => (o, [])
  | fuel + 1, c, o =>
    let (d, missing) := c.skip 4
    let indent := 4 - missing
    if missing = 0 then o.addLeaf line c
    else
      match footnote? d.rest with
      | some (label, r) =>
        let o := o.beginBlock
        start line fuel (.ofLine ((afterBlank? r).getD r))
          { o with
            frames := .footnote label [] :: o.frames
            footnotes := Label.key label :: o.footnotes }
      | none =>
        match if (afterRule? d.rest).isSome then none else Marker.read? d.rest with
        | some m =>
          match o.openItem m indent d with
          | (o, .inl rest) => start line fuel rest o
          | (o, .inr rest) => (o, rest)
        | none =>
          if d.rest.head? = some '>' then
            let o := o.beginBlock
            start line fuel ((d.advance 1).skip 1).1 { o with frames := .quote [] :: o.frames }
          else o.addLeaf line c

/-! ## Pages -/

/-- The outline after the next block of a page, and the rest of the page. -/
def step (o : Outline) (s : List Char) : Outline × List Char :=
  let (n, c) := continued o.frames.reverse (.ofLine s)
  (o.keep n).start s (s.length + 1) c

/-- The outline after the rest of a page. `fuel` bounds the number of blocks. -/
def run : Nat → Outline → List Char → Outline
  | 0, o, _ => o
  | _, o, [] => o
  | fuel + 1, o, s =>
    let (o, rest) := o.step s
    run fuel o rest

/-- The outline of a page with everything closed. -/
def ofPage (s : List Char) : Outline :=
  (run s.length {} s).keep 0

end Outline

end DocTabs.Markdown
