/-
Sets of characters as ascending ranges of code points.
-/
namespace DocTabs.Text

/-- First and last code point of each range. -/
abbrev Ranges := List (Nat × Nat)

/-- Whether a character lies in one of the ranges. -/
def Ranges.has (ranges : Ranges) (c : Char) : Bool :=
  ranges.any fun r => r.1 ≤ c.toNat && c.toNat ≤ r.2

end DocTabs.Text
