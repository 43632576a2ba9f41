/-
The elements that the HTML of a container is read as. Names, scopes and ids stand escaped in attribute
values and in the texts of buttons, so they never end a tag, a value or a text; icons and leaves are
embedded as they are, and must not hold a quote or a `<`.
-/
import DocTabs.Proofs.Html.Escape
import DocTabs.Proofs.Html.Nesting
import DocTabs.Proofs.Tabs.Markup

namespace DocTabs.Tabs

open Html

/-! ## The elements of a container -/

/-- Attributes with their values escaped. -/
def escaped (as : List (String × String)) : List (String × String) :=
  as.map fun a => (a.1, escape a.2)

def iconNodes : Option String → List Node
  | some icon => [.element "" "i" [("class", "fa " ++ icon)] [] ""]
  | none => []

/-- The text of a button: its name, behind a blank if an icon comes first. -/
def Tab.label (t : Tab) : String :=
  (if t.icon.isSome then " " else "") ++ escape t.name

def Tab.node (level : Level) (t : Tab) : Node :=
  .element "" "button" (escaped (t.attributes level)) (iconNodes t.icon) t.label

/-- The header and the body of a tab set whose panes are given. -/
def tabSetNodes (level : Level) (tabs : List Tab) (panes : List Node) : List Node :=
  [.element "" "div" [("class", level.headerClass)] (tabs.map (Tab.node level)) "",
    .element "" "div" [("class", level.bodyClass)] panes ""]

mutual

def Pane.node (level : Level) : Pane → Node
  | .leaf h content => .element "" "div" (escaped (h.attributes level)) [] content
  | .nested h inner tabs panes =>
    .element "" "div" (escaped (h.attributes level)) (tabSetNodes inner tabs (paneNodes inner panes)) ""

/-- The elements of panes in order. -/
def paneNodes (level : Level) : List Pane → List Node
  | [] => []
  | p :: ps => p.node level :: paneNodes level ps

end

/-- The root element of a container. -/
def Container.node (c : Container) : Node :=
  .element "" "div" [("class", c.kind.rootClass), ("id", escape c.id)]
    (tabSetNodes c.tabs.level c.tabs.tabs (paneNodes c.tabs.level c.tabs.panes)) ""

/-! ## Printing -/

theorem map_rawAttribute_escaped (as : List (String × String)) :
    (escaped as).map rawAttribute = as.map fun a => attr a.1 a.2 := by
  rw [escaped, List.map_map]
  rfl

theorem print_nodes {α : Type} {f : α → Node} {g : α → String} {xs : List α}
    (h : ∀ x ∈ xs, (f x).print = g x) : Node.printAll (xs.map f) = String.join (xs.map g) := by
  induction xs with
  | nil => exact Node.printAll_nil
  | cons x xs ih =>
    rw [List.map_cons, List.map_cons, Node.printAll_cons, String.join_cons, h x (List.mem_cons_self ..),
      ih fun y hy => h y (List.mem_cons_of_mem _ hy)]

theorem Tab.print_content (t : Tab) :
    Node.printAll (iconNodes t.icon) ++ t.label = iconHtml t.icon ++ escape t.name := by
  rw [Tab.label]
  cases t.icon with
  | none => rw [iconNodes, Node.printAll_nil, iconHtml, Option.isSome_none, if_neg Bool.false_ne_true,
      String.empty_append]
  | some icon =>
    have hopen : "<i class=\"fa " = "<" ++ ("i" ++ (" class=\"" ++ "fa ")) := by decide
    have hend : "\"></i> " = "\"" ++ (">" ++ ("</" ++ ("i" ++ (">" ++ " ")))) := by decide
    rw [iconNodes, Node.printAll_cons, Node.printAll_nil, Node.print_eq, List.map_nil, String.join_nil,
      Node.printAll_nil, iconHtml, Option.isSome_some, if_pos rfl, hopen, hend]
    simp only [String.append_assoc, String.empty_append]

theorem Tab.print_node (level : Level) (t : Tab) : (t.node level).print = t.toHtml level := by
  have hopen : "<button class=\"" = "<" ++ ("button" ++ " class=\"") := by decide
  have hend : "</button>" = "</" ++ ("button" ++ ">") := by decide
  have hcontent := congrArg (· ++ "</button>") t.print_content
  rw [Tab.toHtml_eq, Tab.node, Tab.attributes, escaped, List.map_cons, Node.print_eq,
    escape_classText_tab, hopen]
  simp only [hend, String.append_assoc] at hcontent ⊢
  rw [hcontent]
  simp only [classText, List.map_cons, List.map_nil, String.join_cons, String.join_nil, rawAttribute, attr,
    String.append_assoc, String.empty_append]

/-- The HTML of a `div` with a class that may be active. -/
theorem print_divNode (cls : String) (active : Bool) (as : List (String × String))
    (children : List Node) (text : String) :
    (Node.element "" "div" (("class", classText cls active) :: escaped as) children text).print =
      divOpen cls active (String.join (as.map fun a => attr a.1 a.2)) ++ Node.printAll children ++ text ++
        "</div>" := by
  have hopen : "<div class=\"" = "<" ++ ("div" ++ " class=\"") := by decide
  have hend : "</div>" = "</" ++ ("div" ++ ">") := by decide
  unfold divOpen
  rw [Node.print_eq, map_rawAttribute_escaped, hopen, hend]
  simp only [classText, String.append_assoc]

theorem PaneHead.print_node (level : Level) (h : PaneHead) (children : List Node) (text : String) :
    (Node.element "" "div" (escaped (h.attributes level)) children text).print =
      h.toHtml level ++ Node.printAll children ++ text ++ "</div>" := by
  have hescaped : escaped (h.attributes level) = ("class", classText level.paneClass h.active) ::
      escaped ((level.nameAttribute, h.name) :: (h.id.map fun id => ("id", id)).toList) := by
    rw [PaneHead.attributes, List.cons_append, List.cons_append, List.nil_append, escaped, List.map_cons,
      escape_classText_pane]
    rfl
  rw [hescaped, print_divNode, List.map_cons, String.join_cons, join_attr_id]
  rfl

theorem print_tabSetNodes (level : Level) (tabs : List Tab) (panes : List Node) :
    Node.printAll (tabSetNodes level tabs panes) = tabSetHtml level tabs (Node.printAll panes) := by
  have hregion : ∀ cls children, (Node.element "" "div" [("class", cls)] children "").print =
      divOpen cls false "" ++ Node.printAll children ++ "</div>" := by
    intro cls children
    have h := print_divNode cls false [] children ""
    rwa [show classText cls false = cls from String.append_empty, String.append_empty] at h
  rw [tabSetNodes, Node.printAll_cons, Node.printAll_cons, Node.printAll_nil, hregion, hregion,
    print_nodes fun t _ => t.print_node level, tabSetHtml]
  simp only [String.append_assoc, String.append_empty]

mutual

theorem Pane.print_node (level : Level) (p : Pane) : (p.node level).print = p.toHtml level := by
  cases p with
  | leaf h content =>
    rw [Pane.node, PaneHead.print_node, Node.printAll_nil, Pane.toHtml, String.append_empty]
  | nested h inner tabs panes =>
    rw [Pane.node, PaneHead.print_node, print_tabSetNodes, print_paneNodes, Pane.toHtml, String.append_empty]

theorem print_paneNodes (level : Level) (ps : List Pane) :
    Node.printAll (paneNodes level ps) = panesHtml level ps := by
  cases ps with
  | nil => exact Node.printAll_nil
  | cons p ps => rw [paneNodes, Node.printAll_cons, Pane.print_node, print_paneNodes, panesHtml]

end

/-- The root element of a container is written as the HTML of the container. -/
theorem Container.print_node (c : Container) : c.node.print = c.toHtml := by
  have h := print_divNode c.kind.rootClass false [("id", c.id)]
    (tabSetNodes c.tabs.level c.tabs.tabs (paneNodes c.tabs.level c.tabs.panes)) ""
  have hroot : classText c.kind.rootClass false = c.kind.rootClass := String.append_empty
  rw [hroot, String.append_empty, print_tabSetNodes, print_paneNodes] at h
  exact h

/-! ## Plain containers -/

/-- The tabs of the tab set that a pane holds. -/
def Pane.tabs : Pane → List Tab
  | .leaf .. => []
  | .nested _ _ tabs _ => tabs

/-- The icons of all tabs of a container. -/
def Container.icons (c : Container) : List String :=
  (c.tabs.tabs ++ c.allPanes.flatMap Pane.tabs).filterMap (·.icon)

/-- Nothing that is embedded as it is can be taken for a tag or for the end of a value: no leaf holds a
`<`, and no icon a quote. -/
structure Container.IsPlain (c : Container) : Prop where
  leaves : ∀ content ∈ c.leaves, '<' ∉ content.toList
  icons : ∀ icon ∈ c.icons, '"' ∉ icon.toList

/-- The same for tabs and for panes. -/
def PlainTabs (tabs : List Tab) : Prop := ∀ t ∈ tabs, ∀ icon ∈ t.icon, '"' ∉ icon.toList

def PlainPanes (ps : List Pane) : Prop :=
  ∀ p ∈ panesWithin ps, (∀ content ∈ p.content?, '<' ∉ content.toList) ∧ PlainTabs p.tabs

theorem Container.IsPlain.tabs {c : Container} (h : c.IsPlain) : PlainTabs c.tabs.tabs :=
  fun t ht icon hi => h.icons icon (List.mem_filterMap.2 ⟨t, List.mem_append_left _ ht, hi⟩)

theorem Container.IsPlain.panes {c : Container} (h : c.IsPlain) : PlainPanes c.tabs.panes :=
  fun p hp => ⟨fun content hc => h.leaves content (List.mem_filterMap.2 ⟨p, hp, hc⟩),
    fun t ht icon hi => h.icons icon (List.mem_filterMap.2
      ⟨t, List.mem_append_right _ (List.mem_flatMap.2 ⟨p, hp, ht⟩), hi⟩)⟩

theorem plainPanes_cons {p : Pane} {ps : List Pane} :
    PlainPanes (p :: ps) ↔ PlainPanes [p] ∧ PlainPanes ps := by
  simp only [PlainPanes, panesWithin, List.append_nil, List.forall_mem_append]

theorem plainPanes_leaf {h : PaneHead} {content : String} (hp : PlainPanes [.leaf h content]) :
    '<' ∉ content.toList :=
  (hp (.leaf h content) (by simp [panesWithin, Pane.within])).1 content rfl

theorem plainPanes_nested {h : PaneHead} {inner : Level} {tabs : List Tab} {panes : List Pane}
    (hp : PlainPanes [.nested h inner tabs panes]) : PlainTabs tabs ∧ PlainPanes panes := by
  simp only [PlainPanes, panesWithin, Pane.within, List.append_nil, List.forall_mem_cons] at hp
  exact ⟨hp.1.2, hp.2⟩

/-- The elements of a container are plain where their attributes, their children and their text are. -/
theorem isPlain_node (tag : String) (htag : tag ∈ ["div", "button", "i"])
    {as : List (String × String)} (has : ∀ a ∈ as, '=' ∉ a.1.toList ∧ '"' ∉ a.2.toList)
    {children : List Node} (hchildren : ∀ t ∈ tokensAll children, t.IsPlain) {text : String}
    (htext : '<' ∉ text.toList) :
    ∀ t ∈ (Node.element "" tag as children text).tokens, t.IsPlain := by
  simp only [List.mem_cons, List.not_mem_nil, or_false] at htag
  have hname : ('>' ∉ tag.toList) ∧ ∃ c w, tag.toList = c :: w ∧ c ≠ '/' ∧ '>' ∉ w ∧ ' ' ∉ w := by
    rcases htag with rfl | rfl | rfl
    · exact ⟨by decide, 'd', ['i', 'v'], rfl, by decide⟩
    · exact ⟨by decide, 'b', ['u', 't', 't', 'o', 'n'], rfl, by decide⟩
    · exact ⟨by decide, 'i', [], rfl, by decide⟩
  exact isPlain_element (by simp) ⟨hname.2, has⟩ hchildren htext hname.1

theorem plain_escaped {as : List (String × String)} (has : ∀ a ∈ as, '=' ∉ a.1.toList) :
    ∀ a ∈ escaped as, '=' ∉ a.1.toList ∧ '"' ∉ a.2.toList := by
  intro a ha
  obtain ⟨b, hb, rfl⟩ := List.mem_map.1 ha
  exact ⟨has b hb, not_mem_escape (by decide) b.2⟩

theorem isPlain_nil : ∀ t ∈ tokensAll [], t.IsPlain := by
  simp [tokensAll]

theorem Tab.isPlain_node (level : Level) {t : Tab} (h : ∀ icon ∈ t.icon, '"' ∉ icon.toList) :
    ∀ token ∈ (t.node level).tokens, token.IsPlain := by
  have hnames : ∀ a ∈ t.attributes level, '=' ∉ a.1.toList := by
    simp only [Tab.attributes, List.forall_mem_cons]
    cases level <;> decide
  have hicon : ∀ token ∈ tokensAll (iconNodes t.icon), token.IsPlain := by
    cases hi : t.icon with
    | none => exact isPlain_nil
    | some icon =>
      have hclass : ∀ a ∈ [("class", "fa " ++ icon)], '=' ∉ a.1.toList ∧ '"' ∉ a.2.toList := by
        simp [h icon hi]
      rw [iconNodes, tokensAll, tokensAll, List.append_nil]
      exact Tabs.isPlain_node "i" (by decide) hclass isPlain_nil (by simp)
  have hlabel : '<' ∉ t.label.toList := by
    have hblank : '<' ∉ (if t.icon.isSome then " " else "").toList := by split <;> decide
    rw [Tab.label, String.toList_append, List.mem_append, not_or]
    exact ⟨hblank, not_mem_escape (by decide) t.name⟩
  exact Tabs.isPlain_node "button" (by decide) (plain_escaped hnames) hicon hlabel

theorem isPlain_tabSetNodes (level : Level) {tabs : List Tab} (h : PlainTabs tabs) {panes : List Node}
    (hpanes : ∀ t ∈ tokensAll panes, t.IsPlain) :
    ∀ t ∈ tokensAll (tabSetNodes level tabs panes), t.IsPlain := by
  have hclass : ∀ cls ∈ [level.headerClass, level.bodyClass],
      ∀ a ∈ [("class", cls)], '=' ∉ a.1.toList ∧ '"' ∉ a.2.toList := by
    cases level <;> decide
  have htabs : ∀ token ∈ tokensAll (tabs.map (Tab.node level)), token.IsPlain := by
    rw [tokensAll_map]
    intro token htoken
    obtain ⟨t, ht, htoken⟩ := List.mem_flatMap.1 htoken
    exact Tab.isPlain_node level (h t ht) token htoken
  rw [tabSetNodes, tokensAll, tokensAll, tokensAll, List.append_nil, List.forall_mem_append]
  exact ⟨isPlain_node "div" (by decide) (hclass _ (by simp)) htabs (by simp),
    isPlain_node "div" (by decide) (hclass _ (by simp)) hpanes (by simp)⟩

theorem PaneHead.plain_attributes (level : Level) (h : PaneHead) :
    ∀ a ∈ escaped (h.attributes level), '=' ∉ a.1.toList ∧ '"' ∉ a.2.toList := by
  refine plain_escaped ?_
  rw [PaneHead.attributes, List.forall_mem_append]
  constructor
  · simp only [List.forall_mem_cons]
    cases level <;> decide
  · cases h.id <;> simp

mutual

theorem Pane.isPlain_node (level : Level) (p : Pane) (h : PlainPanes [p]) :
    ∀ t ∈ (p.node level).tokens, t.IsPlain := by
  cases p with
  | leaf head content =>
    exact Tabs.isPlain_node "div" (by decide) (head.plain_attributes level) isPlain_nil (plainPanes_leaf h)
  | nested head inner tabs panes =>
    obtain ⟨htabs, hpanes⟩ := plainPanes_nested h
    exact Tabs.isPlain_node "div" (by decide) (head.plain_attributes level)
      (isPlain_tabSetNodes inner htabs (isPlain_paneNodes inner panes hpanes)) (by simp)

theorem isPlain_paneNodes (level : Level) (ps : List Pane) (h : PlainPanes ps) :
    ∀ t ∈ tokensAll (paneNodes level ps), t.IsPlain := by
  cases ps with
  | nil => exact isPlain_nil
  | cons p ps =>
    obtain ⟨hp, hps⟩ := plainPanes_cons.1 h
    rw [paneNodes, tokensAll, List.forall_mem_append]
    exact ⟨p.isPlain_node level hp, isPlain_paneNodes level ps hps⟩

end

theorem Container.IsPlain.node {c : Container} (h : c.IsPlain) : ∀ t ∈ c.node.tokens, t.IsPlain := by
  have has : ∀ a ∈ [("class", c.kind.rootClass), ("id", escape c.id)],
      '=' ∉ a.1.toList ∧ '"' ∉ a.2.toList := by
    have hroot : '"' ∉ c.kind.rootClass.toList := by cases c.kind <;> decide
    have hid : '"' ∉ (escape c.id).toList := not_mem_escape (by decide) c.id
    simp [hroot, hid]
  exact isPlain_node "div" (by decide) has
    (isPlain_tabSetNodes c.tabs.level h.tabs (isPlain_paneNodes c.tabs.level c.tabs.panes h.panes))
    (by simp)

/-- The HTML of a plain container is read as its root element. -/
theorem elements?_toHtml {c : Container} (h : c.IsPlain) : elements? c.toHtml = some ([c.node], "") := by
  rw [← c.print_node]
  exact elements?_print h.node

end DocTabs.Tabs
