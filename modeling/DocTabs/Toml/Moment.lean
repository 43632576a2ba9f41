/-
Dates and times of TOML. The seconds of a time may be left out, and a date with a time may carry
an offset.
-/
namespace DocTabs.Toml.Moment

/-- The number that two digits spell. -/
def pair? (a b : Char) : Option Nat :=
  if a.isDigit && b.isDigit then some ((a.toNat - 48) * 10 + (b.toNat - 48)) else none

/-- Number of days in a month. -/
def daysIn (year month : Nat) : Nat :=
  if month = 2 then if year % 4 = 0 ∧ (year % 100 ≠ 0 ∨ year % 400 = 0) then 29 else 28
  else if month ∈ [4, 6, 9, 11] then 30 else 31

/-- The text behind a date. -/
def afterDate? : List Char → Option (List Char)
  | a :: b :: c :: d :: '-' :: e :: f :: '-' :: g :: h :: rest => do
    let year := (← pair? a b) * 100 + (← pair? c d)
    let month ← pair? e f
    let day ← pair? g h
    if 1 ≤ month && month ≤ 12 && 1 ≤ day && day ≤ daysIn year month then some rest else none
  | _ => none

/-- The text behind an hour and a minute. -/
def afterClock? : List Char → Option (List Char)
  | a :: b :: ':' :: c :: d :: rest => do
    if (← pair? a b) ≤ 23 && (← pair? c d) ≤ 59 then some rest else none
  | _ => none

/-- The text behind a time. A minute may have a 60th second. -/
def afterTime? (s : List Char) : Option (List Char) := do
  match ← afterClock? s with
  | ':' :: a :: b :: rest =>
    if (← pair? a b) ≤ 60 then
      match rest with
      | '.' :: fraction =>
        if fraction.takeWhile Char.isDigit = [] then none
        else some (fraction.dropWhile Char.isDigit)
      | rest => some rest
    else none
  | ':' :: _ => none
  | rest => some rest

/-- Whether the text is an offset or nothing. -/
def isOffset : List Char → Bool
  | [] => true
  | c :: rest =>
    if c == 'Z' || c == 'z' then rest.isEmpty
    else (c == '+' || c == '-') && afterClock? rest == some []

/-- Whether the text is a date alone. -/
def isDate (s : List Char) : Bool :=
  afterDate? s == some []

/-- Whether the text is a date, a time, or both. -/
def isMoment (s : List Char) : Bool :=
  match afterDate? s with
  | some [] => true
  | some (c :: time) =>
    (c == 'T' || c == 't' || c == ' ') &&
      match afterTime? time with
      | some rest => isOffset rest
      | none => false
  | none => afterTime? s == some []

end DocTabs.Toml.Moment
