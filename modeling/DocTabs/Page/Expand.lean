/-
Expansion of a page: every container span is replaced by the HTML of its tab tree, and everything
else stays as it is.
-/
import DocTabs.Page.Segment
import DocTabs.Page.Session
import DocTabs.Tabs.Build

namespace DocTabs.Page

open Tabs

/-- Outcome of expanding a page or a part of one. -/
structure Expansion where
  /-- The page with its containers replaced. -/
  html : String := ""
  /-- Number of containers, empty ones included. -/
  containers : Nat := 0
  /-- One warning for each container without branches. -/
  warnings : List String := []
  deriving DecidableEq, Repr

/-- Outcome of expanding one part and then another. -/
def Expansion.append (a b : Expansion) : Expansion :=
  ⟨a.html ++ b.html, a.containers + b.containers, a.warnings ++ b.warnings⟩

/-- The warning for a container without branches. -/
def emptyWarning (kind : Kind) (id : String) : String :=
  kind.keyword ++ " container '" ++ id ++ "' contains no platform blocks"

/-- The replacement of a container whose id is known. -/
def expandSpan (kind : Kind) (id : String) (body : List Char) (preferred : String) : Expansion :=
  match Container.ofBody? kind id body preferred with
  | some c => ⟨c.toHtml, 1, []⟩
  | none => ⟨emptyContainerHtml, 1, [emptyWarning kind id]⟩

/-- Expands one segment. A container without an id draws one, even when it is empty. -/
def Segment.expand (s : Session) : Segment → Expansion × Session
  | .text t => (⟨String.ofList t, 0, []⟩, s)
  | .span kind (some id) body => (expandSpan kind id body s.preferred, s)
  | .span kind none body =>
    let (id, s) := s.draw kind
    (expandSpan kind id body s.preferred, s)

/-- Expands segments in order. -/
def expandAll (s : Session) : List Segment → Expansion × Session
  | [] => ({}, s)
  | g :: gs =>
    let (a, s) := g.expand s
    let (b, s) := expandAll s gs
    (a.append b, s)

/-- Expands a page. -/
def expand (page : String) (s : Session) : Expansion × Session :=
  expandAll s (segments page.toList)

end DocTabs.Page
