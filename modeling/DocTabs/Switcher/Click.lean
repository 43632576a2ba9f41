/-
Switching tabs by a click. The click finds a button, the button its scope, and the scope a pane;
then the button becomes the only active tab of the scope's header and the pane the only active pane
of the scope's body.
-/
import DocTabs.Switcher.Element
import DocTabs.Tabs.Vocabulary

namespace DocTabs.Switcher

open Tabs Element

/-- What a click switches. -/
structure Switch where
  level : Level
  /-- The element that the switch is confined to. -/
  scope : Path
  /-- The clicked button. -/
  button : Path
  /-- Position of the header region in the scope, if there is one. -/
  header : Option Nat
  /-- Position of the body region in the scope. -/
  body : Nat
  /-- Position of the pane to be shown in the body region. -/
  pane : Nat
  deriving DecidableEq, Repr

/-- Whether an element confines the switches of a level. -/
def isScopeRoot : Level → Element → Bool
  | .platform, e => e.hasClass Kind.plain.rootClass || e.hasClass Kind.sample.rootClass
  | .language, e => e.hasClass Level.platform.paneClass

/-- Whether a scope root accepts a button. Only an id that differs from the button's scope rules it
out; an empty id or scope does not. -/
def accepts (scope : Option String) (e : Element) : Bool :=
  match scope with
  | none => true
  | some s => s.isEmpty || e.id.isEmpty || e.id == s

/-- The button under a click and its level; platform buttons come first. -/
def button? (root : Element) (target : Path) : Option (Level × Path) :=
  ((root.closest (·.hasClass Level.platform.tabClass) target).map (.platform, ·)) <|>
    ((root.closest (·.hasClass Level.language.tabClass) target).map (.language, ·))

/-- The scope of a button: the innermost scope root around it that accepts it. -/
def scope? (root : Element) (level : Level) (button : Path) : Option Path := do
  let b ← root.at? button
  root.closest (fun e => isScopeRoot level e && accepts (b.attr? level.scopeAttribute) e) button

/-- The positions of the children of a class. -/
def positions (cls : String) (e : Element) : List Nat :=
  (List.range e.children.length).filter fun i => (e.children[i]?).any (·.hasClass cls)

/-- The position of the pane for a button: the pane in the button's own place among the tabs if it
has the button's name, or the first pane of that name. -/
def pane? (level : Level) (place : Option Nat) (name : Option String) (body : Element) :
    Option Nat :=
  let panes := positions level.paneClass body
  let named (i : Nat) := (body.children[i]?).any (·.attr? level.nameAttribute == name)
  ((place >>= (panes[·]?)).filter named) <|> panes.find? named

/-- What a click on an element switches, if anything. -/
def switch? (root : Element) (target : Path) : Option Switch := do
  let (level, button) ← button? root target
  let scope ← scope? root level button
  let b ← root.at? button
  let e ← root.at? scope
  let header := (positions level.headerClass e).head?
  let body ← (positions level.bodyClass e).head?
  let tabs := match header with
    | some h => (((e.children[h]?).map (positions level.tabClass)).getD []).map (scope ++ [h, ·])
    | none => []
  let pane ← pane? level (tabs.findIdx? (· == button)) (b.attr? level.nameAttribute)
    (← e.children[body]?)
  return { level, scope, button, header, body, pane }

/-- Makes exactly the chosen children of a class active. -/
def activate (cls : String) (chosen : Nat → Bool) : Element → Element
  | .node as cs =>
    .node as (cs.mapIdx fun i c => if c.hasClass cls then c.toggle activeClass (chosen i) else c)

/-- The tree after a switch. -/
def Switch.apply (s : Switch) (root : Element) : Element :=
  let root := match s.header with
    | some h =>
      root.modify (activate s.level.tabClass (s.scope ++ [h, ·] == s.button)) (s.scope ++ [h])
    | none => root
  root.modify (activate s.level.paneClass (· == s.pane)) (s.scope ++ [s.body])

/-- A page in the browser: its elements, and how often its layout was measured anew. -/
structure View where
  root : Element
  resizes : Nat := 0

/-- A click on the element at a path. -/
def View.click (v : View) (target : Path) : View :=
  match switch? v.root target with
  | some s => ⟨s.apply v.root, v.resizes + 1⟩
  | none => v

/-- The paths of the active elements, in document order. -/
def View.active (v : View) : List Path :=
  v.root.pathsWhere (·.hasClass activeClass)

end DocTabs.Switcher
