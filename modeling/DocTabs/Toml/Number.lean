/-
Numbers of TOML. Underscores stand between digits only. An integer has to fit 128 bits, and a float
has to round to a finite one.
-/
import DocTabs.Text.Blank
import DocTabs.Text.Seek
import DocTabs.Toml.Quoted

namespace DocTabs.Toml.Number

/-- The number that digits of a base spell, with single underscores between them. -/
def digits? (base : Nat) (s : List Char) : Option Nat := do
  let groups := Text.splitOn (· == '_') s
  if groups.any (·.isEmpty) then none
  else
    let values ← groups.flatten.mapM Quoted.hexValue?
    if values.all (· < base) then some (values.foldl (fun v d => v * base + d) 0) else none

/-- The number that decimal digits spell, which start with 0 only where they are 0. -/
def decimal? (s : List Char) : Option Nat :=
  match s with
  | '0' :: _ :: _ => none
  | s => digits? 10 s

/-- A sign, if there is one, and what follows. -/
def splitSign : List Char → Bool × List Char
  | '+' :: r => (false, r)
  | '-' :: r => (true, r)
  | s => (false, s)

/-- Whether an integer fits 128 bits, with a sign or without. -/
def fits (n : Int) : Bool :=
  -Int.pow 2 127 ≤ n && n < Int.pow 2 128

/-- The integer that the text spells. -/
def integer? (s : List Char) : Option Int := do
  let n ← match s with
    | '0' :: 'x' :: r => (digits? 16 r).map Int.ofNat
    | '0' :: 'o' :: r => (digits? 8 r).map Int.ofNat
    | '0' :: 'b' :: r => (digits? 2 r).map Int.ofNat
    | s =>
      let (negative, r) := splitSign s
      (decimal? r).map fun n => if negative then -Int.ofNat n else Int.ofNat n
  if fits n then some n else none

/-! ## Floats -/

/-- Whether `m` times the power of ten with exponent `e` rounds to a finite double. -/
def isFinite (m : Nat) (e : Int) : Bool :=
  let bound := Nat.pow 2 1024 - Nat.pow 2 970
  let magnitude := e + (toString m).length
  if m = 0 || magnitude < 300 then true
  else if magnitude > 400 then false
  else if e < 0 then decide (m < bound * Nat.pow 10 e.natAbs)
  else decide (m * Nat.pow 10 e.toNat < bound)

/-- The exponent that the text spells behind its `e`. -/
def exponent? (s : List Char) : Option Int :=
  let (negative, r) := splitSign s
  (digits? 10 r).map fun n => if negative then -Int.ofNat n else Int.ofNat n

/-- Whether the text spells a float with digits. -/
def isDecimalFloat (s : List Char) : Bool :=
  let isPart (c : Char) : Bool := c.isDigit || c == '_'
  let whole := s.takeWhile isPart
  let (fraction, rest) := match s.dropWhile isPart with
    | '.' :: r => (some (r.takeWhile isPart), r.dropWhile isPart)
    | r => (none, r)
  let exponent := match rest with
    | 'e' :: r => some (exponent? r)
    | 'E' :: r => some (exponent? r)
    | _ => none
  let digits := whole.filter Char.isDigit ++ (fraction.getD []).filter Char.isDigit
  let places := ((fraction.getD []).filter Char.isDigit).length
  (decimal? whole).isSome && (fraction.all fun f => (digits? 10 f).isSome) &&
    match exponent with
    | some none => false
    | some (some e) => isFinite ((digits? 10 digits).getD 0) (e - places)
    | none => rest.isEmpty && fraction.isSome && isFinite ((digits? 10 digits).getD 0) (-places)

/-- Whether the text spells a float. -/
def isFloat (s : List Char) : Bool :=
  let (_, r) := splitSign s
  r == "inf".toList || r == "nan".toList || isDecimalFloat r

end DocTabs.Toml.Number
