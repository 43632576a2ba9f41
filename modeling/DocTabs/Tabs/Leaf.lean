/-
Leaf content. A lone line of text may arrive with or without the paragraph tags that a markdown
renderer puts around it; both forms have the same leaf.
-/
import DocTabs.Text.Blank
import DocTabs.Text.Seek

namespace DocTabs.Tabs.Leaf

open Text

/-- Drops the paragraph wrapper of a trimmed text that starts with `<p>`, given the text behind the
tag: the pair when its end tag is the only one and stands last, the start tag alone when no end
tag follows, nothing otherwise. -/
def unwrapped (whole inside : List Char) : List Char :=
  match before? "</p>" inside with
  | some inner => if contains "</p>" inner then whole else trim inner
  | none => if contains "</p>" inside then whole else trim inside

/-- The leaf of a content: trimmed, and without an incidental paragraph wrapper. -/
def ofContent (s : List Char) : List Char :=
  let s := trim s
  match after? "<p>" s with
  | some inside => unwrapped s inside
  | none => s

/-- `ofContent` on a string. -/
def normalize (s : String) : String :=
  String.ofList (ofContent s.toList)

end DocTabs.Tabs.Leaf
