/-
Which branch starts active.
-/
namespace DocTabs.Tabs

/-- A wish for the branch that starts active. -/
inductive Preference where
  /-- The first branch of this name, or the first of all. -/
  | named (name : String)
  /-- The first branch. -/
  | first

/-- Position of the branch that starts active, if there is any branch. Names are compared
exactly. -/
def Preference.choose (p : Preference) (names : List String) : Option Nat :=
  match names, p with
  | [], _ => none
  | _, .named name => some ((names.findIdx? (· == name)).getD 0)
  | _, .first => some 0

end DocTabs.Tabs
