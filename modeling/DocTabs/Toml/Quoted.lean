/-
Quoted text of TOML: basic strings with escapes and literal strings without, each on one line or
as a block between threefold quotes.
-/
import DocTabs.Text.Seek

namespace DocTabs.Toml.Quoted

/-! ## The closing quote -/

/-- The text up to the closing quote, and the text after it. -/
def close (quote : Char) (escapes : Bool) : Bool → List Char → Option (List Char × List Char)
  | _, [] => none
  | true, c :: r => (close quote escapes false r).map fun p => (c :: p.1, p.2)
  | false, c :: r =>
    if c == quote then some ([], r)
    else (close quote escapes (escapes && c == '\\') r).map fun p => (c :: p.1, p.2)

/-- The text up to the closing threefold quote, and the text after it. Up to two more quotes in
front of the closing one belong to the text. -/
def closeBlock (quote : Char) (escapes : Bool) : Bool → List Char → Option (List Char × List Char)
  | _, [] => none
  | true, c :: r => (closeBlock quote escapes false r).map fun p => (c :: p.1, p.2)
  | false, c :: r =>
    match Text.after? (String.ofList [quote, quote, quote]) (c :: r) with
    | some rest =>
      let extra := (rest.take 2).takeWhile (· == quote)
      some (extra, rest.drop extra.length)
    | none =>
      (closeBlock quote escapes (escapes && c == '\\') r).map fun p => (c :: p.1, p.2)

/-! ## Characters -/

/-- Whether a character may stand for itself in quoted text and in comments. -/
def isPlain (c : Char) : Bool :=
  c == '\t' || (0x20 ≤ c.toNat && c != '\x7f')

/-- The value of a hexadecimal digit. -/
def hexValue? (c : Char) : Option Nat :=
  if c.isDigit then some (c.toNat - 48)
  else if 'a' ≤ c && c ≤ 'f' then some (c.toNat - 87)
  else if 'A' ≤ c && c ≤ 'F' then some (c.toNat - 55)
  else none

/-- The character whose number has `n` hexadecimal digits at the start of the text. -/
def hexEscape? (n : Nat) (s : List Char) : Option (Char × List Char) := do
  let digits ← (s.take n).mapM hexValue?
  let value := digits.foldl (fun v d => v * 16 + d) 0
  if digits.length == n && value.isValidChar then some (Char.ofNat value, s.drop n) else none

/-- The character that an escape stands for; the text starts behind the backslash. -/
def escape? : List Char → Option (Char × List Char)
  | 'b' :: r => some ('\x08', r)
  | 't' :: r => some ('\t', r)
  | 'n' :: r => some ('\n', r)
  | 'f' :: r => some ('\x0c', r)
  | 'r' :: r => some ('\r', r)
  | 'e' :: r => some ('\x1b', r)
  | '"' :: r => some ('"', r)
  | '\\' :: r => some ('\\', r)
  | 'x' :: r => hexEscape? 2 r
  | 'u' :: r => hexEscape? 4 r
  | 'U' :: r => hexEscape? 8 r
  | _ => none

/-- The text behind blanks and line ends. -/
def dropBreaks : List Char → List Char
  | ' ' :: r => dropBreaks r
  | '\t' :: r => dropBreaks r
  | '\n' :: r => dropBreaks r
  | '\r' :: '\n' :: r => dropBreaks r
  | s => s

/-- The text behind a line end. -/
def afterBreak? : List Char → Option (List Char)
  | '\n' :: r => some r
  | '\r' :: '\n' :: r => some r
  | _ => none

/-- The text behind a line end that a backslash takes away, with the blanks around it. -/
def joinLine? (s : List Char) : Option (List Char) :=
  (afterBreak? (s.dropWhile fun c => c == ' ' || c == '\t')).map dropBreaks

/-- The text that the inside of a basic string stands for. -/
def basic (block : Bool) (s : List Char) : Option (List Char) :=
  go s.length s
where
  /-- Reads at most `n` characters or escapes. -/
  go : Nat → List Char → Option (List Char)
    | _, [] => some []
    | 0, _ :: _ => none
    | n + 1, c :: r =>
      match c == '\\', afterBreak? (c :: r) with
      | true, _ =>
        match escape? r with
        | some (d, rest) => (go n rest).map (d :: ·)
        | none => if block then (joinLine? r).bind (go n) else none
      | false, some rest =>
        if block then (go n rest).map ((c :: r).take (r.length + 1 - rest.length) ++ ·) else none
      | false, none => if isPlain c then (go n r).map (c :: ·) else none

/-- The text that the inside of a literal string stands for, which is that text itself. -/
def literal (block : Bool) (s : List Char) : Option (List Char) :=
  if check s then some s else none
where
  /-- Whether all characters may stand there. -/
  check : List Char → Bool
    | [] => true
    | '\r' :: '\n' :: r => block && check r
    | c :: r => (isPlain c || (block && c == '\n')) && check r

/-- The text behind a quote, read as quoted text on one line. -/
def readLine? (quote : Char) (s : List Char) : Option (String × List Char) := do
  let (inside, rest) ← close quote (quote == '"') false s
  let text ← if quote == '"' then basic false inside else literal false inside
  return (String.ofList text, rest)

/-- The text behind a threefold quote, read as a block. A line end at its start is left out. -/
def readBlock? (quote : Char) (s : List Char) : Option (String × List Char) := do
  let (inside, rest) ← closeBlock quote (quote == '"') false ((afterBreak? s).getD s)
  let text ← if quote == '"' then basic true inside else literal true inside
  return (String.ofList text, rest)

/-- Reads quoted text of either length; the text starts behind its first quote. -/
def read? (quote : Char) (s : List Char) : Option (String × List Char) :=
  match Text.after? (String.ofList [quote, quote]) s with
  | some inside => readBlock? quote inside
  | none => readLine? quote s

end DocTabs.Toml.Quoted
