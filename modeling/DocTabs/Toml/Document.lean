/-
Reading a TOML document into its root table. Nothing but success and failure is told: a document
with any mistake, in its text or in how its tables are put together, is no document.
-/
import DocTabs.Toml.Moment
import DocTabs.Toml.Number
import DocTabs.Toml.Value

namespace DocTabs.Toml

/-! ## Blanks, comments and line ends -/

/-- The text behind spaces and tabs. -/
def dropBlanks (s : List Char) : List Char :=
  s.dropWhile fun c => c == ' ' || c == '\t'

/-- The text behind blanks, line ends and comments. Fails at a character that no comment may
hold. -/
def dropGap? : Bool → List Char → Option (List Char)
  | _, [] => some []
  | _, '\n' :: r => dropGap? false r
  | _, '\r' :: '\n' :: r => dropGap? false r
  | true, c :: r => if Quoted.isPlain c then dropGap? true r else none
  | false, c :: r =>
    if c == ' ' || c == '\t' then dropGap? false r
    else if c == '#' then dropGap? true r
    else some (c :: r)

/-- Whether the rest of the line holds nothing but blanks and a comment. -/
def endsLine (s : List Char) : Bool :=
  match dropBlanks s with
  | '#' :: _ => true
  | [] => true
  | s => (Quoted.afterBreak? s).isSome

/-! ## Keys -/

/-- Whether a character may stand in a key without quotes. -/
def isBare (c : Char) : Bool :=
  c.isAlphanum || c == '_' || c == '-'

/-- Reads one part of a key. -/
def readPart? : List Char → Option (String × List Char)
  | '"' :: r => Quoted.readLine? '"' r
  | '\'' :: r => Quoted.readLine? '\'' r
  | s =>
    if s.takeWhile isBare = [] then none
    else some (String.ofList (s.takeWhile isBare), s.dropWhile isBare)

/-- How many parts a key may have. -/
def maxParts : Nat := 80

/-- Reads a key of at most `n` parts with dots between them. -/
def readKey? : Nat → List Char → Option (List String × List Char)
  | 0, _ => none
  | n + 1, s => do
    let (part, r) ← readPart? s
    match dropBlanks r with
    | '.' :: r =>
      let (parts, r) ← readKey? n (dropBlanks r)
      return (part :: parts, r)
    | r => return ([part], r)

/-! ## Values -/

/-- Whether a character may stand in a value without quotes. -/
def isAtom (c : Char) : Bool :=
  Quoted.isPlain c && !" \t#,=[]\x7b\x7d\"'".toList.contains c

/-- The value that a text without quotes spells. -/
def atom? (s : List Char) : Option Value :=
  if s == "true".toList then some (.boolean true)
  else if s == "false".toList then some (.boolean false)
  else if Moment.isMoment s then some (.moment (String.ofList s))
  else if Number.isFloat s then some (.float (String.ofList s))
  else (Number.integer? s).map .integer

/-- Reads a value without quotes. One space may stand between a date and a time. -/
def readAtom? (s : List Char) : Option (Value × List Char) := do
  let word := s.takeWhile isAtom
  let rest := s.dropWhile isAtom
  match rest with
  | ' ' :: c :: r =>
    if Moment.isDate word && c.isDigit then
      let time := (c :: r).takeWhile isAtom
      return (← atom? (word ++ ' ' :: time), (c :: r).dropWhile isAtom)
    else return (← atom? word, rest)
  | _ => return (← atom? word, rest)

/-- How deep arrays and tables in braces may nest. -/
def maxNesting : Nat := 80

mutual

/-- Reads a value that may nest `depth` levels. The first number bounds the steps. -/
def readValue? : Nat → Nat → List Char → Option (Value × List Char)
  | 0, _, _ => none
  | n + 1, depth, '[' :: r => if depth = 0 then none else readItems? n (depth - 1) [] r
  | n + 1, depth, '\x7b' :: r => if depth = 0 then none else readPairs? n (depth - 1) [] r
  | _ + 1, _, '"' :: r => (Quoted.read? '"' r).map fun p => (.text p.1, p.2)
  | _ + 1, _, '\'' :: r => (Quoted.read? '\'' r).map fun p => (.text p.1, p.2)
  | _ + 1, _, s => readAtom? s

/-- Reads the rest of an array behind the items in `before`, latest first. -/
def readItems? : Nat → Nat → List Value → List Char → Option (Value × List Char)
  | 0, _, _, _ => none
  | n + 1, depth, before, s => do
    match ← dropGap? false s with
    | ']' :: r => return (.array before.reverse, r)
    | s =>
      let (v, r) ← readValue? n depth s
      match ← dropGap? false r with
      | ',' :: r => readItems? n depth (v :: before) r
      | ']' :: r => return (.array (v :: before).reverse, r)
      | _ => none

/-- Reads the rest of a table in braces that holds `t` so far. -/
def readPairs? : Nat → Nat → Table → List Char → Option (Value × List Char)
  | 0, _, _, _ => none
  | n + 1, depth, t, s => do
    match ← dropGap? false s with
    | '\x7d' :: r => return (.table .inline t, r)
    | s =>
      let (key, r) ← readKey? maxParts s
      match ← dropGap? false r with
      | '=' :: r =>
        let (v, r) ← readValue? n depth (← dropGap? false r)
        let t ← t.add? v key
        match ← dropGap? false r with
        | ',' :: r => readPairs? n depth t r
        | '\x7d' :: r => return (.table .inline t, r)
        | _ => none
      | _ => none

end

/-! ## Documents -/

/-- Reads a header behind its brackets: its key, and the text behind `closing`. -/
def readHeader? (closing : String) (s : List Char) : Option (List String × List Char) := do
  let (key, r) ← readKey? maxParts (dropBlanks s)
  let r ← Text.after? closing (dropBlanks r)
  if endsLine r then some (key, r) else none

/-- Reads a key with its value. -/
def readPair? (s : List Char) : Option (List String × Value × List Char) := do
  let (key, r) ← readKey? maxParts s
  match dropBlanks r with
  | '=' :: r =>
    let (v, r) ← readValue? (2 * r.length + 2) maxNesting (dropBlanks r)
    if endsLine r then some (key, v, r) else none
  | _ => none

/-- Reads at most `n` headers and pairs into the root table, below the given header. -/
def readLines? : Nat → List String → Table → List Char → Option Table
  | 0, _, _, _ => none
  | n + 1, header, t, s => do
    match ← dropGap? false s with
    | [] => return t
    | '[' :: '[' :: r =>
      let (key, r) ← readHeader? "]]" r
      readLines? n key (← t.addRow? key) r
    | '[' :: r =>
      let (key, r) ← readHeader? "]" r
      readLines? n key (← t.define? key) r
    | s =>
      let (key, v, r) ← readPair? s
      readLines? n header (← t.addIn? header key v) r

/-- The root table of a document. A byte order mark at its start is left out. -/
def read? (document : String) : Option Table :=
  let s := document.toList
  let s := if s.head? == some '\ufeff' then s.tail else s
  readLines? (s.length + 1) [] [] s

end DocTabs.Toml
