/-
The markup of a container as a tree: printing the tree gives the container's HTML, and the elements
of the tree are those that a browser makes of this HTML. What a browser makes of a leaf's own HTML
is left open.
-/
import DocTabs.Proofs.Tabs.Tree
import DocTabs.Switcher.Element

namespace DocTabs.Tabs

open Html Switcher

/-! ## Markup -/

/-- A piece of HTML. -/
inductive Markup where
  /-- Text, of which the special characters are escaped. -/
  | text (s : String)
  /-- HTML that is embedded as it is. -/
  | embedded (html : String)
  | element (tag : String) (attributes : List (String × String)) (children : List Markup)

namespace Markup

mutual

/-- The HTML of a piece. -/
def print : Markup → String
  | .text s => escape s
  | .embedded html => html
  | .element tag as cs =>
    "<" ++ tag ++ String.join (as.map fun a => attr a.1 a.2) ++ ">" ++ printAll cs ++ "</" ++ tag ++ ">"

/-- The HTML of pieces in order. -/
def printAll : List Markup → String
  | [] => ""
  | m :: ms => print m ++ printAll ms

end

mutual

/-- The elements of a piece, where `parse` gives those of embedded HTML. -/
def elements (parse : String → List Element) : Markup → List Element
  | .text _ => []
  | .embedded html => parse html
  | .element _ as cs => [.node as (elementsAll parse cs)]

/-- The elements of pieces in order. -/
def elementsAll (parse : String → List Element) : List Markup → List Element
  | [] => []
  | m :: ms => elements parse m ++ elementsAll parse ms

end

theorem printAll_append (ms ns : List Markup) : printAll (ms ++ ns) = printAll ms ++ printAll ns := by
  induction ms with
  | nil => simp [printAll]
  | cons m ms ih => rw [List.cons_append, printAll, printAll, ih, String.append_assoc]

theorem printAll_map {α : Type} {f : α → Markup} {g : α → String} {xs : List α}
    (h : ∀ x ∈ xs, print (f x) = g x) : printAll (xs.map f) = String.join (xs.map g) := by
  induction xs with
  | nil => rfl
  | cons x xs ih =>
    rw [List.map_cons, List.map_cons, printAll, String.join_cons, h x (List.mem_cons_self ..),
      ih fun y hy => h y (List.mem_cons_of_mem _ hy)]

theorem elementsAll_map {α : Type} {parse : String → List Element} {f : α → Markup}
    {g : α → Element} {xs : List α} (h : ∀ x ∈ xs, elements parse (f x) = [g x]) :
    elementsAll parse (xs.map f) = xs.map g := by
  induction xs with
  | nil => rfl
  | cons x xs ih =>
    rw [List.map_cons, List.map_cons, elementsAll, h x (List.mem_cons_self ..),
      ih fun y hy => h y (List.mem_cons_of_mem _ hy)]
    rfl

end Markup

/-! ## The markup of a container -/

/-- The value of a class attribute. -/
def classText (cls : String) (active : Bool) : String :=
  cls ++ if active then " " ++ activeClass else ""

/-- The icon of a button and the blank behind it. -/
def iconMarkup : Option String → List Markup
  | some icon => [.element "i" [("class", "fa " ++ icon)] [], .text " "]
  | none => []

/-- The HTML of the icon of a button and of the blank behind it. -/
def iconHtml : Option String → String
  | some icon => "<i class=\"fa " ++ icon ++ "\"></i> "
  | none => ""

/-- The attributes of a button at a level. -/
def Tab.attributes (level : Level) (t : Tab) : List (String × String) :=
  [("class", classText level.tabClass t.active), (level.nameAttribute, t.name),
    (level.scopeAttribute, t.scope)]

def Tab.markup (level : Level) (t : Tab) : Markup :=
  .element "button" (t.attributes level) (iconMarkup t.icon ++ [.text t.name])

/-- The attributes of a pane at a level. -/
def PaneHead.attributes (level : Level) (h : PaneHead) : List (String × String) :=
  [("class", classText level.paneClass h.active), (level.nameAttribute, h.name)] ++
    (h.id.map fun id => ("id", id)).toList

/-- The header and the body of a tab set whose panes are given. -/
def tabSetMarkup (level : Level) (tabs : List Tab) (panes : List Markup) : List Markup :=
  [.element "div" [("class", level.headerClass)] (tabs.map (Tab.markup level)),
    .element "div" [("class", level.bodyClass)] panes]

mutual

def Pane.markup (level : Level) : Pane → Markup
  | .leaf h content => .element "div" (h.attributes level) [.embedded content]
  | .nested h inner tabs panes =>
    .element "div" (h.attributes level) (tabSetMarkup inner tabs (panesMarkup inner panes))

/-- The markup of panes in order. -/
def panesMarkup (level : Level) : List Pane → List Markup
  | [] => []
  | p :: ps => p.markup level :: panesMarkup level ps

end

def Container.markup (c : Container) : Markup :=
  .element "div" [("class", c.kind.rootClass), ("id", c.id)]
    (tabSetMarkup c.tabs.level c.tabs.tabs (panesMarkup c.tabs.level c.tabs.panes))

theorem panesMarkup_eq (level : Level) (ps : List Pane) :
    panesMarkup level ps = ps.map (Pane.markup level) := by
  induction ps with
  | nil => rfl
  | cons p ps ih => rw [panesMarkup, ih, List.map_cons]

/-! ## Printing -/

theorem escape_classText_tab (level : Level) (active : Bool) :
    escape (classText level.tabClass active) = classText level.tabClass active := by
  cases level <;> cases active <;> decide

theorem escape_classText_pane (level : Level) (active : Bool) :
    escape (classText level.paneClass active) = classText level.paneClass active := by
  cases level <;> cases active <;> decide

theorem icon_mem (name : String) : icon name ∈ defaultIcon :: icons.map (·.2) := by
  unfold icon
  cases h : icons.lookup name with
  | none => exact List.mem_cons_self ..
  | some i =>
    refine List.mem_cons_of_mem _ (List.mem_map.2 ?_)
    obtain ⟨l₁, l₂, hl, -⟩ := List.lookup_eq_some_iff.1 h
    exact ⟨(name, i), by rw [hl]; simp, rfl⟩

theorem escape_icon (name : String) : escape ("fa " ++ icon name) = "fa " ++ icon name :=
  have hicon : ∀ i ∈ defaultIcon :: icons.map (·.2), escape ("fa " ++ i) = "fa " ++ i := by decide
  hicon _ (icon_mem name)

/-- The HTML of an element whose first attribute is its class. -/
theorem print_element (tag cls : String) (as : List (String × String)) (cs : List Markup) :
    (Markup.element tag (("class", cls) :: as) cs).print =
      "<" ++ (tag ++ (" class=\"" ++ (escape cls ++ ("\"" ++
        (String.join (as.map fun a => attr a.1 a.2) ++
          (">" ++ (Markup.printAll cs ++ ("</" ++ (tag ++ ">"))))))))) := by
  have hclass : attr "class" cls = " class=\"" ++ escape cls ++ "\"" := rfl
  rw [Markup.print, List.map_cons, String.join_cons, hclass]
  simp only [String.append_assoc]

theorem print_icon {icon : Option String} (h : ∀ i ∈ icon, escape ("fa " ++ i) = "fa " ++ i) :
    Markup.printAll (iconMarkup icon) = iconHtml icon := by
  have hopen : "<i class=\"fa " = "<" ++ ("i" ++ (" class=\"" ++ "fa ")) := by decide
  have hend : "\"></i> " = "\"" ++ (">" ++ ("</" ++ ("i" ++ (">" ++ " ")))) := by decide
  have hblank : escape " " = " " := by decide
  cases icon with
  | none => rw [iconMarkup, Markup.printAll, iconHtml]
  | some i =>
    rw [iconMarkup, Markup.printAll, Markup.printAll, Markup.printAll, print_element, h i rfl,
      Markup.print, hblank, Markup.printAll, iconHtml, hopen, hend]
    simp only [List.map_nil, String.join_nil, String.append_assoc, String.empty_append,
      String.append_empty]

theorem print_label (icon : Option String) (name : String) :
    Markup.printAll (iconMarkup icon ++ [.text name]) =
      Markup.printAll (iconMarkup icon) ++ escape name := by
  rw [Markup.printAll_append, Markup.printAll, Markup.printAll, Markup.print, String.append_empty]

theorem Tab.toHtml_eq (level : Level) (t : Tab) : t.toHtml level =
    "<button class=\"" ++ level.tabClass ++ (if t.active then " " ++ activeClass else "") ++ "\"" ++
      attr level.nameAttribute t.name ++ attr level.scopeAttribute t.scope ++ ">" ++ iconHtml t.icon ++
      escape t.name ++ "</button>" := rfl

theorem Tab.print_markup (level : Level) (t : Tab)
    (h : ∀ icon ∈ t.icon, escape ("fa " ++ icon) = "fa " ++ icon) :
    (t.markup level).print = t.toHtml level := by
  have hopen : "<button class=\"" = "<" ++ ("button" ++ " class=\"") := by decide
  have hend : "</button>" = "</" ++ ("button" ++ ">") := by decide
  rw [Tab.toHtml_eq, Tab.markup, Tab.attributes, print_element, escape_classText_tab, print_label,
    print_icon h, hopen, hend]
  simp only [classText, List.map_cons, List.map_nil, String.join_cons, String.join_nil,
    String.append_assoc, String.empty_append]

theorem print_div (cls : String) (active : Bool) (as : List (String × String)) (cs : List Markup)
    (h : escape (classText cls active) = classText cls active) :
    (Markup.element "div" (("class", classText cls active) :: as) cs).print =
      divOpen cls active (String.join (as.map fun a => attr a.1 a.2)) ++ Markup.printAll cs ++
        "</div>" := by
  have hopen : "<div class=\"" = "<" ++ ("div" ++ " class=\"") := by decide
  have hend : "</div>" = "</" ++ ("div" ++ ">") := by decide
  unfold divOpen
  rw [print_element, h, hopen, hend]
  simp only [classText, String.append_assoc]

/-- The attribute with the id of a pane, if it has one. -/
theorem join_attr_id (id : Option String) :
    String.join ((id.map fun i => ("id", i)).toList.map fun a => attr a.1 a.2) =
      (id.map (attr "id")).getD "" := by
  cases id with
  | none => rfl
  | some i => rw [Option.map_some, Option.map_some, Option.toList_some, List.map_cons, List.map_nil,
      String.join_cons, String.join_nil, String.append_empty, Option.getD_some]

theorem PaneHead.print_markup (level : Level) (h : PaneHead) (cs : List Markup) :
    (Markup.element "div" (h.attributes level) cs).print =
      h.toHtml level ++ Markup.printAll cs ++ "</div>" := by
  rw [PaneHead.attributes, List.cons_append, List.cons_append, List.nil_append,
    print_div _ _ _ _ (escape_classText_pane level h.active), List.map_cons, String.join_cons,
    join_attr_id]
  unfold PaneHead.toHtml
  rfl

/-- The icons of the tabs stand for themselves in an attribute. -/
def PlainIcons (tabs : List Tab) : Prop :=
  ∀ t ∈ tabs, ∀ icon ∈ t.icon, escape ("fa " ++ icon) = "fa " ++ icon

theorem print_tabSet (level : Level) {tabs : List Tab} (h : PlainIcons tabs) (panes : List Markup) :
    Markup.printAll (tabSetMarkup level tabs panes) =
      tabSetHtml level tabs (Markup.printAll panes) := by
  have hheader : classText level.headerClass false = level.headerClass := String.append_empty ..
  have hbody : classText level.bodyClass false = level.bodyClass := String.append_empty ..
  have hheader' : escape (classText level.headerClass false) = classText level.headerClass false := by
    cases level <;> decide
  have hbody' : escape (classText level.bodyClass false) = classText level.bodyClass false := by
    cases level <;> decide
  have htabs : Markup.printAll (tabs.map (Tab.markup level)) =
      String.join (tabs.map (Tab.toHtml level)) :=
    Markup.printAll_map fun t ht => t.print_markup level (h t ht)
  have hh := print_div level.headerClass false [] (tabs.map (Tab.markup level)) hheader'
  have hb := print_div level.bodyClass false [] panes hbody'
  rw [hheader] at hh
  rw [hbody] at hb
  rw [tabSetMarkup, Markup.printAll, Markup.printAll, Markup.printAll, hh, hb, htabs,
    String.append_empty]
  unfold tabSetHtml
  simp only [List.map_nil, String.join_nil, String.append_assoc]

theorem print_leaf (level : Level) (h : PaneHead) (content : String) :
    ((Pane.leaf h content).markup level).print = (Pane.leaf h content).toHtml level := by
  rw [Pane.markup, PaneHead.print_markup, Pane.toHtml, Markup.printAll, Markup.printAll,
    Markup.print, String.append_empty]

theorem print_nested (level : Level) (h : PaneHead) (inner : Level) {tabs : List Tab}
    (ht : PlainIcons tabs) {panes : List Pane}
    (hp : Markup.printAll (panesMarkup inner panes) = panesHtml inner panes) :
    ((Pane.nested h inner tabs panes).markup level).print =
      (Pane.nested h inner tabs panes).toHtml level := by
  rw [Pane.markup, PaneHead.print_markup, print_tabSet inner ht, hp, Pane.toHtml]

theorem print_panes {level : Level} {panes : List Pane}
    (h : ∀ p ∈ panes, (p.markup level).print = p.toHtml level) :
    Markup.printAll (panesMarkup level panes) = panesHtml level panes := by
  induction panes with
  | nil => rfl
  | cons p ps ih =>
    rw [panesMarkup, Markup.printAll, panesHtml, h p (List.mem_cons_self ..),
      ih fun q hq => h q (List.mem_cons_of_mem _ hq)]

theorem print_paneOf {kind : Kind} {id : String} {b : Branch} {p : Pane} (h : PaneOf kind id b p)
    (level : Level) : (p.markup level).print = p.toHtml level := by
  rcases h with ⟨-, -, -, tabs, panes, hp, hf, hicons, hleaf⟩ | ⟨-, -, hp⟩
  · have hplain : PlainIcons tabs := fun t ht icon hi => by rw [hicons t ht] at hi; cases hi
    rw [hp]
    refine print_nested level _ .language hplain (print_panes fun q hq => ?_)
    obtain ⟨i, l, hl, hi⟩ := hf.exists_branch hq
    rw [(hleaf i l q hl hi).2]
    exact print_leaf ..
  · rw [hp]
    exact print_leaf ..

/-- The markup of a built container is a tree of the container's HTML. -/
theorem print_ofBody? {kind : Kind} {id preferred : String} {body : List Char} {c : Container}
    (h : Container.ofBody? kind id body preferred = some c) : c.markup.print = c.toHtml := by
  obtain ⟨-, htree⟩ := treeOf_ofBody? h
  obtain ⟨chosen, -, hf⟩ := htree.follows
  have hplain : PlainIcons c.tabs.tabs := fun t ht icon hi => by
    rw [icon_ofBody? h t ht] at hi
    cases hi
    exact escape_icon t.name
  have hpanes : ∀ p ∈ c.tabs.panes, (p.markup c.tabs.level).print = p.toHtml c.tabs.level :=
    fun p hp => by
      obtain ⟨i, b, hb, hi⟩ := hf.exists_branch hp
      exact print_paneOf (htree.panes i b p hb hi) _
  have hroot : classText c.kind.rootClass false = c.kind.rootClass := String.append_empty ..
  have hroot' : escape (classText c.kind.rootClass false) = classText c.kind.rootClass false := by
    cases c.kind <;> decide
  have hdiv := print_div c.kind.rootClass false [("id", c.id)]
    (tabSetMarkup c.tabs.level c.tabs.tabs (panesMarkup c.tabs.level c.tabs.panes)) hroot'
  rw [hroot] at hdiv
  rw [Container.markup, hdiv, print_tabSet _ hplain, print_panes hpanes]
  unfold Container.toHtml TabSet.toHtml
  rw [List.map_cons, List.map_nil, String.join_cons, String.join_nil, String.append_empty]

end DocTabs.Tabs
