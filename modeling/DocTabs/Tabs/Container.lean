/-
Tab markup as a tree, and its HTML. A container holds the tab set of its platforms; a pane holds
either a leaf or the tab set of its languages.
-/
import DocTabs.Html.Escape
import DocTabs.Tabs.Vocabulary

namespace DocTabs.Tabs

/-- A header button. -/
structure Tab where
  /-- Branch name, shown as the label. -/
  name : String
  /-- Icon class before the label. -/
  icon : Option String
  /-- Id of the element that a switch is confined to. -/
  scope : String
  /-- Whether the tab starts active. -/
  active : Bool
  deriving DecidableEq, Repr

/-- What every pane has besides its body. -/
structure PaneHead where
  /-- Branch name. -/
  name : String
  /-- Element id. -/
  id : Option String
  /-- Whether the pane starts active. -/
  active : Bool
  deriving DecidableEq, Repr

/-- A content pane: a leaf that is embedded as it is, or a nested tab set. -/
inductive Pane where
  | leaf (head : PaneHead) (content : String)
  | nested (head : PaneHead) (level : Level) (tabs : List Tab) (panes : List Pane)
  deriving Repr

/-- What the pane has besides its body. -/
def Pane.head : Pane → PaneHead
  | leaf h _ => h
  | nested h _ _ _ => h

/-- The buttons and panes of one level. -/
structure TabSet where
  level : Level
  tabs : List Tab
  panes : List Pane
  deriving Repr

/-- A container with its root id. -/
structure Container where
  id : String
  kind : Kind
  tabs : TabSet
  deriving Repr

/-! ## HTML -/

open Html

/-- A `div` whose class may be followed by the active class. -/
def divOpen (cls : String) (active : Bool) (attrs : String) : String :=
  "<div class=\"" ++ cls ++ (if active then " " ++ activeClass else "") ++ "\"" ++ attrs ++ ">"

/-- The HTML of a button at a level. -/
def Tab.toHtml (level : Level) (t : Tab) : String :=
  "<button class=\"" ++ level.tabClass ++ (if t.active then " " ++ activeClass else "") ++ "\"" ++
    attr level.nameAttribute t.name ++ attr level.scopeAttribute t.scope ++ ">" ++
    (match t.icon with
      | some icon => "<i class=\"fa " ++ icon ++ "\"></i> "
      | none => "") ++
    escape t.name ++ "</button>"

/-- The start tag of a pane at a level. -/
def PaneHead.toHtml (level : Level) (h : PaneHead) : String :=
  divOpen level.paneClass h.active
    (attr level.nameAttribute h.name ++ (h.id.map (attr "id")).getD "")

/-- The HTML of a tab set with its panes already written. -/
def tabSetHtml (level : Level) (tabs : List Tab) (panes : String) : String :=
  divOpen level.headerClass false "" ++ String.join (tabs.map (Tab.toHtml level)) ++ "</div>" ++
    divOpen level.bodyClass false "" ++ panes ++ "</div>"

mutual

/-- The HTML of a pane at a level. -/
def Pane.toHtml (level : Level) : Pane → String
  | .leaf h content => h.toHtml level ++ content ++ "</div>"
  | .nested h inner tabs panes =>
    h.toHtml level ++ tabSetHtml inner tabs (panesHtml inner panes) ++ "</div>"

/-- The HTML of panes in order. -/
def panesHtml (level : Level) : List Pane → String
  | [] => ""
  | p :: ps => p.toHtml level ++ panesHtml level ps

end

/-- The HTML of a tab set. -/
def TabSet.toHtml (t : TabSet) : String :=
  tabSetHtml t.level t.tabs (panesHtml t.level t.panes)

/-- The HTML of a container. -/
def Container.toHtml (c : Container) : String :=
  divOpen c.kind.rootClass false (attr "id" c.id) ++ c.tabs.toHtml ++ "</div>"

/-! ## Appending HTML to a text -/

/-- Appends a button at a level. -/
def Tab.write (level : Level) (out : String) (t : Tab) : String :=
  let out := out ++ "<button class=\"" ++ level.tabClass ++
    (if t.active then " " ++ activeClass else "") ++ "\"" ++ attr level.nameAttribute t.name ++
    attr level.scopeAttribute t.scope ++ ">"
  let out := match t.icon with
    | some icon => out ++ "<i class=\"fa " ++ icon ++ "\"></i> "
    | none => out
  out ++ escape t.name ++ "</button>"

/-- Appends the start tag of a pane at a level. -/
def PaneHead.write (level : Level) (out : String) (h : PaneHead) : String :=
  let out := out ++ "<div class=\"" ++ level.paneClass ++
    (if h.active then " " ++ activeClass else "") ++ "\"" ++ attr level.nameAttribute h.name
  let out := match h.id with
    | some id => out ++ attr "id" id
    | none => out
  out ++ ">"

/-- Appends the header of a tab set and the start tag of its body. -/
def writeHeader (level : Level) (out : String) (tabs : List Tab) : String :=
  tabs.foldl (Tab.write level) (out ++ "<div class=\"" ++ level.headerClass ++ "\">") ++ "</div>" ++
    "<div class=\"" ++ level.bodyClass ++ "\">"

mutual

/-- Appends a pane at a level. -/
def Pane.write (level : Level) (out : String) : Pane → String
  | .leaf h content => h.write level out ++ content ++ "</div>"
  | .nested h inner tabs panes =>
    writePanes inner (writeHeader inner (h.write level out) tabs) panes ++ "</div>" ++ "</div>"

/-- Appends panes in order. -/
def writePanes (level : Level) (out : String) : List Pane → String
  | [] => out
  | p :: ps => writePanes level (p.write level out) ps

end

/-- Appends a tab set. -/
def TabSet.write (out : String) (t : TabSet) : String :=
  writePanes t.level (writeHeader t.level out t.tabs) t.panes ++ "</div>"

/-- Appends a container. -/
def Container.write (out : String) (c : Container) : String :=
  c.tabs.write (out ++ "<div class=\"" ++ c.kind.rootClass ++ "\"" ++ attr "id" c.id ++ ">") ++ "</div>"

end DocTabs.Tabs
