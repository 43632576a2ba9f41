/-
Lowercasing by the Unicode rules: the simple mappings, `i` with a dot above for U+0130, and the
final form of sigma at the end of a word.
-/
import DocTabs.Text.LowerCase.Table

namespace DocTabs.Text

namespace LowerCase

/-- The counterpart of a character in a run, if the character is in the run. -/
def Run.map? (r : Run) (n : Nat) : Option Nat :=
  let d := n - r.start
  if r.start ≤ n && d % r.step == 0 && d / r.step < r.count then some (r.image + d) else none

/-- The lowercase form of one character, whatever stands around it. -/
def char (c : Char) : List Char :=
  if c.toNat < 0x80 then [c.toLower]
  else if c.toNat = 0x130 then ['i', Char.ofNat 0x307]
  else [Char.ofNat ((runs.findSome? (·.map? c.toNat)).getD c.toNat)]

/-- Whether a cased character comes next when the ignorable ones are passed over. -/
def meetsCased (s : List Char) : Bool :=
  ((s.dropWhile caseIgnorable.has).head?.map cased.has).getD false

/-- Lowercases a text that stands behind `passed`, latest character first. A capital sigma takes
its final form where a cased character comes before it and none after it. -/
def mapText (passed : List Char) : List Char → List Char
  | [] => []
  | c :: r =>
    (if c.toNat = 0x3A3 then
      [Char.ofNat (if meetsCased passed && !meetsCased r then 0x3C2 else 0x3C3)]
    else char c) ++ mapText (c :: passed) r

end LowerCase

/-- The text in lower case. -/
def lowerCase (s : List Char) : List Char :=
  LowerCase.mapText [] s

end DocTabs.Text
