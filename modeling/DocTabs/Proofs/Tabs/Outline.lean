/-
The tags of a container do not depend on its names, scopes and ids. These change values of attributes
and texts of buttons, but which tags there are, with which attributes and which classes, is the same
for all of them.
-/
import DocTabs.Proofs.Tabs.Elements

namespace DocTabs.Tabs

open Html

/-- A tag with its name and the names of its attributes. Of the values, only that of the class is kept. -/
def outline : Tag → Tag
  | .start name as => .start name (as.map fun a => if a.1 = "class" then a else (a.1, ""))
  | .stop name => .stop name

/-- The outlines of the tags of an HTML text, in order. -/
def outlines? (html : String) : Option (List Tag) :=
  (tokens? html).map fun p => p.1.map fun t => outline t.tag

/-! ## Containers without names, scopes and ids -/

/-- A tab without its name and scope. -/
def Tab.erase (t : Tab) : Tab := { t with name := "", scope := "" }

/-- A pane head without its name and the value of its id. -/
def PaneHead.erase (h : PaneHead) : PaneHead := { h with name := "", id := h.id.map fun _ => "" }

mutual

/-- A pane without the names, scopes and ids in it. -/
def Pane.erase : Pane → Pane
  | .leaf h content => .leaf h.erase content
  | .nested h level tabs panes => .nested h.erase level (tabs.map Tab.erase) (erasePanes panes)

def erasePanes : List Pane → List Pane
  | [] => []
  | p :: ps => p.erase :: erasePanes ps

end

/-- A container without the names, scopes and ids in it. -/
def Container.erase (c : Container) : Container :=
  ⟨"", c.kind, c.tabs.level, c.tabs.tabs.map Tab.erase, erasePanes c.tabs.panes⟩

/-! ## The tags of elements -/

/-- The outlines of the tags of elements in order. -/
def outlines (ns : List Node) : List Tag := (tokensAll ns).map fun t => outline t.tag

theorem outlines_cons (n : Node) (ns : List Node) :
    outlines (n :: ns) = (n.tokens.map fun t => outline t.tag) ++ outlines ns := by
  rw [outlines, tokensAll, List.map_append]
  rfl

/-- Elements with the same tag have the same outlines if their attributes and children do. -/
theorem outlines_element {before before' tag last last' : String} {as as' : List (String × String)}
    {children children' ns ns' : List Node} (has : outline (.start tag as) = outline (.start tag as'))
    (hchildren : outlines children = outlines children') (hns : outlines ns = outlines ns') :
    outlines (.element before tag as children last :: ns) =
      outlines (.element before' tag as' children' last' :: ns') := by
  rw [outlines_cons, outlines_cons, Node.tokens, Node.tokens, hns]
  simp only [List.map_cons, List.map_append, List.map_nil, has]
  rw [show (tokensAll children).map (fun t => outline t.tag) = outlines children from rfl, hchildren]
  rfl

theorem outlines_tabs (level : Level) (tabs : List Tab) :
    outlines (tabs.map (Tab.node level)) = outlines ((tabs.map Tab.erase).map (Tab.node level)) := by
  induction tabs with
  | nil => rfl
  | cons t tabs ih =>
    have has : outline (.start "button" (escaped (t.attributes level))) =
        outline (.start "button" (escaped (t.erase.attributes level))) := by
      cases level <;> rfl
    exact outlines_element has rfl ih

theorem outlines_tabSet (level : Level) (tabs : List Tab) {panes panes' : List Node}
    (h : outlines panes = outlines panes') :
    outlines (tabSetNodes level tabs panes) = outlines (tabSetNodes level (tabs.map Tab.erase) panes') :=
  outlines_element rfl (outlines_tabs level tabs) (outlines_element rfl h rfl)

theorem outline_head (level : Level) (h : PaneHead) :
    outline (.start "div" (escaped (h.attributes level))) =
      outline (.start "div" (escaped (h.erase.attributes level))) := by
  obtain ⟨name, id, active⟩ := h
  cases level <;> cases id <;> rfl

theorem outlines_panes (level : Level) (ps : List Pane) :
    outlines (paneNodes level ps) = outlines (paneNodes level (erasePanes ps)) := by
  cases ps with
  | nil => rfl
  | cons p ps =>
    have hps := outlines_panes level ps
    cases p with
    | leaf h content => exact outlines_element (outline_head level h) rfl hps
    | nested h inner tabs panes =>
      exact outlines_element (outline_head level h)
        (outlines_tabSet inner tabs (outlines_panes inner panes)) hps

/-- The tags of the HTML are those of the elements. -/
theorem outlines?_toHtml {c : Container} (h : c.IsPlain) :
    outlines? c.toHtml = some (outlines [c.node]) := by
  have hread := tokens?_print h.node (show '<' ∉ "".toList by simp)
  rw [String.append_empty] at hread
  rw [outlines?, ← c.print_node, Node.print, hread, outlines_cons, outlines, tokensAll, List.map_nil,
    List.append_nil]
  rfl

/-- The tags of a container are known without its names, scopes and ids. -/
theorem outlines_erase (c : Container) : outlines [c.node] = outlines [c.erase.node] :=
  outlines_element rfl (outlines_tabSet c.tabs.level c.tabs.tabs (outlines_panes c.tabs.level c.tabs.panes))
    rfl

end DocTabs.Tabs
