/-
Element trees: elements with attributes and children, addressed by paths of child positions.
-/
namespace DocTabs.Switcher

/-- An element with its attributes and child elements. -/
inductive Element where
  | node (attributes : List (String × String)) (children : List Element)
  deriving Repr

/-- Child positions from the root down; the empty path is the root. -/
abbrev Path := List Nat

namespace Element

/-- The attributes of an element. -/
def attributes : Element → List (String × String)
  | node as _ => as

/-- The child elements. -/
def children : Element → List Element
  | node _ cs => cs

/-! ## Attributes -/

/-- The value of an attribute, if it is present. -/
def attr? (e : Element) (name : String) : Option String :=
  e.attributes.lookup name

/-- The id, empty where there is none. -/
def id (e : Element) : String :=
  (e.attr? "id").getD ""

/-- The element with an attribute set or, for `none`, removed. -/
def setAttr (name : String) (value : Option String) : Element → Element
  | node as cs =>
    let others := as.filter (·.1 ≠ name)
    match value with
    | some v =>
      node (if (as.lookup name).isSome then as.map fun a => if a.1 = name then (name, v) else a
        else as ++ [(name, v)]) cs
    | none => node others cs

/-! ## Classes -/

/-- The blanks that separate class names. -/
def isClassBlank (c : Char) : Bool :=
  c = ' ' || c = '\t' || c = '\n' || c = '\x0c' || c = '\x0d'

/-- The class names in a text, in order of first appearance. -/
def classNames (s : String) : List String :=
  ((s.toList.foldr (fun c names =>
    match isClassBlank c, names with
    | true, _ => [] :: names
    | false, [] => [[c]]
    | false, n :: ns => (c :: n) :: ns) [[]]).filter (!·.isEmpty)).map String.ofList |>.eraseDups

/-- The class names of an element. -/
def classes (e : Element) : List String :=
  classNames ((e.attr? "class").getD "")

/-- Whether an element has a class. -/
def hasClass (e : Element) (c : String) : Bool :=
  c ∈ e.classes

/-- The element with a class added or removed. Where that changes nothing, the attribute stays as it
is written. -/
def toggle (c : String) (on : Bool) (e : Element) : Element :=
  if e.hasClass c = on then e
  else if on then e.setAttr "class" (some (" ".intercalate (e.classes ++ [c])))
  else e.setAttr "class" (some (" ".intercalate (e.classes.filter (· ≠ c))))

/-! ## Paths -/

/-- The element at a path. -/
def at? (e : Element) : Path → Option Element
  | [] => some e
  | i :: p => e.children[i]? >>= (at? · p)

/-- The tree with the element at a path replaced; a path that leads nowhere changes nothing. -/
def modify (f : Element → Element) : Path → Element → Element
  | [], e => f e
  | i :: p, node as cs => node as (cs.modify i (modify f p))

/-- The tree without the element at a path. The root has no parent and stays. -/
def remove (p : Path) (e : Element) : Element :=
  match p.getLast? with
  | none => e
  | some i => e.modify (fun | node as cs => node as (cs.eraseIdx i)) p.dropLast

/-- A path and the paths of the elements around it, innermost first. -/
def upward : Path → List Path
  | [] => [[]]
  | i :: p => (upward p).map (i :: ·) ++ [[]]

/-- The innermost element that satisfies `p`, at a path or around it. -/
def closest (root : Element) (p : Element → Bool) (path : Path) : Option Path :=
  (upward path).find? fun q => (root.at? q).any p

mutual

/-- The paths of the elements that satisfy `p`, in document order. -/
def pathsWhere (p : Element → Bool) : Element → List Path
  | node as cs => (if p (node as cs) then [[]] else []) ++ pathsAmong p 0 cs

/-- The paths among sibling elements, of which the first has position `i`. -/
def pathsAmong (p : Element → Bool) (i : Nat) : List Element → List Path
  | [] => []
  | c :: cs => (pathsWhere p c).map (i :: ·) ++ pathsAmong p (i + 1) cs

end

end Element

end DocTabs.Switcher
