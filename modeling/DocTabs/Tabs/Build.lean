/-
The tab tree of a container's body: one tab and one pane per platform branch, in order, and inside
a pane of a sample container one tab and one pane per language branch.
-/
import DocTabs.Tabs.Branch
import DocTabs.Tabs.Container
import DocTabs.Tabs.Leaf
import DocTabs.Tabs.Preference
import DocTabs.Text.LowerCase

namespace DocTabs.Tabs

open Text

/-- Id of a platform's pane: the container's id, a dash, and the words of the lowercased name
joined by dashes. -/
def paneId (container platform : String) : String :=
  container ++ "-" ++
    String.intercalate "-" ((words (lowerCase platform.toList)).map String.ofList)

/-- The pane of a branch without inner tabs. -/
def leafPane (b : Branch) (active : Bool) : Pane :=
  .leaf ⟨b.name, none, active⟩ (Leaf.normalize b.content)

/-- The tabs and panes of language branches; the first starts active. -/
def languagePane (id : String) (b : Branch) (languages : List Branch) (active : Bool) : Pane :=
  let chosen := (Preference.first.choose (languages.map (·.name))).getD 0
  .nested ⟨b.name, some id, active⟩ .language
    (languages.mapIdx fun i l => ⟨l.name, none, id, i == chosen⟩)
    (languages.mapIdx fun i l => leafPane l (i == chosen))

/-- The pane of a platform branch. Only a sample container looks for languages. -/
def platformPane (kind : Kind) (id : String) (b : Branch) (active : Bool) : Pane :=
  match kind, b.withLanguages.languages with
  | .plain, _ => leafPane b active
  | .sample, [] => leafPane b active
  | .sample, languages => languagePane (paneId id b.name) b languages active

/-- The container with this id and body, if the body has a platform branch. -/
def Container.ofBody? (kind : Kind) (id : String) (body : List Char) (preferred : String) :
    Option Container := do
  let branches := Branch.scan .platform body
  let chosen ← (Preference.named preferred).choose (branches.map (·.name))
  return {
    id, kind
    tabs := {
      level := .platform
      tabs := branches.mapIdx fun i b => ⟨b.name, some (icon b.name), id, i == chosen⟩
      panes := branches.mapIdx fun i b => platformPane kind id b (i == chosen) } }

/-- The HTML of the container with this id and body, or the fragment for an empty one. -/
def renderBody (kind : Kind) (id : String) (body : List Char) (preferred : String) : String :=
  ((Container.ofBody? kind id body preferred).map Container.toHtml).getD emptyContainerHtml

end DocTabs.Tabs
