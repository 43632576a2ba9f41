/-
References to environment variables in a text. `$\x7bNAME\x7d` and `$\x7bNAME:-FALLBACK\x7d` stand
for the value of a variable, and so does `$NAME`, and `$$` stands for `$`. Values are inserted as
they are. A text without `$\x7b` holds no references at all.
-/
import DocTabs.Text.Alphanumeric
import DocTabs.Text.Seek

namespace DocTabs.Settings

/-- The variables of an environment. -/
structure Environment where
  bindings : List (String × String) := []

/-- The value of a variable. An empty name has none. Behind its first character a name may go on with
`=` into the value of the variable, and then stands for what follows a further `=` there. -/
def Environment.get? (env : Environment) (name : String) : Option String :=
  match name.toList with
  | [] => none
  | c :: r =>
    match Text.cut? "=" r with
    | none => env.bindings.lookup name
    | some (start, inside) => env.bindings.findSome? fun (n, v) =>
      if n.toList = c :: start then
        (Text.after? (String.ofList inside ++ "=") v.toList).map String.ofList
      else none

/-- A piece of a text with references. -/
inductive Piece where
  | char (c : Char)
  | reference (name : List Char) (fallback : Option (List Char))
  deriving DecidableEq, Repr

namespace Piece

/-- Whether a character may stand in a name without braces. -/
def isNameChar (c : Char) : Bool :=
  Text.isAlphanumeric c || c == '_'

/-- The reference with the given text in braces. It is cut at its first `:-`, unless no name would
be left. -/
def braced (inside : List Char) : Piece :=
  match Text.cut? ":-" inside with
  | some (c :: name, fallback) => .reference (c :: name) (some fallback)
  | _ => .reference inside none

/-- The piece that a `$` in front of the text starts, and the text behind it. -/
def ofDollar : List Char → Piece × List Char
  | [] => (.char '$', [])
  | c :: r =>
    if c = '\x7b' then
      match Text.cut? "\x7d" r with
      | some (inside, rest) => (braced inside, rest)
      | none => (.char '$', c :: r)
    else if isNameChar c then
      (.reference (c :: r.takeWhile isNameChar) none, r.dropWhile isNameChar)
    else if c = '$' then (.char '$', r)
    else (.char '$', c :: r)

theorem length_ofDollar_le (s : List Char) : (ofDollar s).2.length ≤ s.length := by
  unfold ofDollar
  split
  · simp
  · rename_i c r
    split
    · split
      · rename_i inside rest h
        obtain ⟨t, ht, ha⟩ := Text.first_some h
        have := Text.after?_length ha
        simp only [ht, List.length_cons, List.length_append]
        omega
      · simp
    · split
      · have := (List.dropWhile_sublist (l := r) isNameChar).length_le
        simp only [List.length_cons]
        omega
      · split <;> simp

/-- The pieces of a text. -/
def ofText : List Char → List Piece
  | [] => []
  | c :: r =>
    if c = '$' then (ofDollar r).1 :: ofText (ofDollar r).2
    else .char c :: ofText r
termination_by s => s.length
decreasing_by
  · exact Nat.lt_succ_of_le (length_ofDollar_le r)
  · simp

/-- What a piece stands for. Fails with the name of a variable that is not set, where there is no
fallback. -/
def value (env : Environment) : Piece → Except String (List Char)
  | .char c => .ok [c]
  | .reference name fallback =>
    match env.get? (String.ofList name), fallback with
    | some v, _ => .ok v.toList
    | none, some f => .ok f
    | none, none => .error (String.ofList name)

end Piece

/-- The text with its references replaced. Fails with the name of the first variable that is
neither set nor has a fallback. -/
def expandReferences (env : Environment) (s : String) : Except String String :=
  if Text.contains "$\x7b" s.toList then do
    return String.ofList (← (Piece.ofText s.toList).mapM (·.value env)).flatten
  else .ok s

end DocTabs.Settings
