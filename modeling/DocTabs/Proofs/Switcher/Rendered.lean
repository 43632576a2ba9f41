/-
Pages with built containers in the browser: the elements of every container hold a tab set for its
platforms and one for the languages of each sample, so on such a page the renderer and the switcher
agree over every run of clicks.
-/
import DocTabs.Proofs.Switcher.Part
import DocTabs.Proofs.Tabs.Draft
import DocTabs.Proofs.Tabs.Markup

namespace DocTabs.Switcher

open Tabs Element

/-! ## Classes of rendered elements -/

instance (e : Element) : Decidable (Free e) := inferInstanceAs (Decidable (∀ c ∈ _, _))

theorem className_of_switcher : ∀ c ∈ switcherClasses, ClassName c := by decide

theorem classText_eq (cls : String) (active : Bool) :
    classText cls active = " ".intercalate (cls :: if active then [activeClass] else []) := by
  cases active with
  | false => simp [classText]
  | true => simp [classText, String.append_assoc]

/-- An element with a class of the switcher, and perhaps the active one, plays that part and no
other. -/
theorem plays_classText {e : Element} {cls : String} (hc : cls ∈ switcherClasses) {active : Bool}
    (he : e.attr? "class" = some (classText cls active)) :
    Plays cls e ∧ e.hasClass activeClass = active := by
  have hnames : ∀ n ∈ cls :: (if active then [activeClass] else []), ClassName n := fun n hn => by
    rcases List.mem_cons.1 hn with rfl | hn
    · exact className_of_switcher _ hc
    · cases active with
      | false => cases hn
      | true => rw [List.mem_singleton.1 hn]; exact className_active
  have hmem : ∀ c, e.hasClass c = true ↔ c = cls ∨ (active = true ∧ c = activeClass) := fun c => by
    rw [hasClass_iff, he, Option.getD_some, classText_eq, mem_classNames_intercalate hnames,
      List.mem_cons]
    cases active <;> simp
  have hne : ∀ c ∈ switcherClasses, c ≠ activeClass := by decide
  refine ⟨fun c hc => ?_, ?_⟩
  · rw [hmem]
    exact or_iff_left fun h => hne c hc h.2
  · rw [Bool.eq_iff_iff, hmem]
    exact ⟨fun h => (h.resolve_left fun h => hne cls hc h.symm).1, fun h => .inr ⟨h, rfl⟩⟩

theorem plays_of_class {e : Element} {cls : String} (hc : cls ∈ switcherClasses)
    (he : e.attr? "class" = some cls) : Plays cls e := by
  have hcls : classText cls false = cls := String.append_empty ..
  exact (plays_classText hc (he.trans (congrArg some hcls.symm))).1

/-! ## Elements of a container -/

variable (parse : String → List Element)

/-- The element of a button. -/
def tabElement (level : Level) (t : Tab) : Element :=
  .node (t.attributes level) (Markup.elementsAll parse (iconMarkup t.icon ++ [.text t.name]))

/-- The elements of a tab set. -/
def tabSetElements (level : Level) (tabs : List Tab) (panes : List Pane) : List Element :=
  Markup.elementsAll parse (tabSetMarkup level tabs (panesMarkup level panes))

/-- The elements inside a pane. -/
def innerElements : Pane → List Element
  | .leaf _ content => parse content
  | .nested _ inner tabs panes => tabSetElements parse inner tabs panes

/-- The element of a pane. -/
def paneElement (level : Level) (p : Pane) : Element :=
  .node (p.head.attributes level) (innerElements parse p)

/-- The element of a container. -/
def containerElement (c : Container) : Element :=
  .node [("class", c.kind.rootClass), ("id", c.id)]
    (tabSetElements parse c.tabs.level c.tabs.tabs c.tabs.panes)

/-- A browser makes one element of a container's markup. -/
theorem elements_markup (c : Container) : c.markup.elements parse = [containerElement parse c] := by
  rw [Container.markup, Markup.elements]; rfl

theorem elements_pane (level : Level) (p : Pane) :
    (p.markup level).elements parse = [paneElement parse level p] := by
  cases p with
  | leaf h content =>
    rw [Pane.markup, Markup.elements, Markup.elementsAll, Markup.elementsAll, Markup.elements,
      List.append_nil]
    rfl
  | nested h inner tabs panes => rw [Pane.markup, Markup.elements]; rfl

/-- The header of a tab set. -/
def headerElement (level : Level) (tabs : List Tab) : Element :=
  .node [("class", level.headerClass)] (tabs.map (tabElement parse level))

/-- The body of a tab set. -/
def bodyElement (level : Level) (panes : List Pane) : Element :=
  .node [("class", level.bodyClass)] (panes.map (paneElement parse level))

theorem tabSetElements_eq (level : Level) (tabs : List Tab) (panes : List Pane) :
    tabSetElements parse level tabs panes =
      [headerElement parse level tabs, bodyElement parse level panes] := by
  have htabs : Markup.elementsAll parse (tabs.map (Tab.markup level)) =
      tabs.map (tabElement parse level) :=
    Markup.elementsAll_map fun t _ => by rw [Tab.markup, Markup.elements]; rfl
  have hpanes : Markup.elementsAll parse (panesMarkup level panes) =
      panes.map (paneElement parse level) := by
    rw [panesMarkup_eq]
    exact Markup.elementsAll_map fun p _ => elements_pane parse level p
  rw [tabSetElements, tabSetMarkup, Markup.elementsAll, Markup.elementsAll, Markup.elementsAll,
    Markup.elements, Markup.elements, htabs, hpanes]
  rfl

/-! ## Tab sets of a container -/

/-- Of the tabs and of the panes those at index `k` are rendered active and no others. -/
def RenderedAt (tabs : List Tab) (panes : List Pane) (k : Nat) : Prop :=
  ∀ i : Nat, (tabs[i]?).any (·.active) = (i == k) ∧ (panes[i]?).any (·.head.active) = (i == k)

theorem renderedAt_of_follows {branches : List Branch} {scope : String} {chosen : Nat}
    {tabs : List Tab} {panes : List Pane} (h : Follows branches scope chosen tabs panes) :
    RenderedAt tabs panes chosen := by
  have hend : ∀ i, branches.length ≤ i → (i == chosen) = false := fun i hi =>
    beq_false_of_ne (Nat.ne_of_gt (Nat.lt_of_lt_of_le h.chosen_lt hi))
  intro i
  constructor
  · cases ht : tabs[i]? with
    | none => exact (hend i (h.length_tabs ▸ List.getElem?_eq_none_iff.1 ht)).symm
    | some t => rw [Option.any_some, Bool.eq_iff_iff, h.tabActive i t ht, beq_iff_eq]
  · cases hp : panes[i]? with
    | none => exact (hend i (h.length_panes ▸ List.getElem?_eq_none_iff.1 hp)).symm
    | some p => rw [Option.any_some, Bool.eq_iff_iff, h.paneActive i p hp, beq_iff_eq]

theorem plays_tabElement (level : Level) (t : Tab) :
    Plays level.tabClass (tabElement parse level t) ∧
      (tabElement parse level t).hasClass activeClass = t.active :=
  plays_classText (tabClass_mem level) rfl

theorem plays_paneElement (level : Level) (p : Pane) :
    Plays level.paneClass (paneElement parse level p) ∧
      (paneElement parse level p).hasClass activeClass = p.head.active :=
  plays_classText (paneClass_mem level) rfl

theorem free_icon (name : String) : Free (.node [("class", "fa " ++ icon name)] []) :=
  have hicon : ∀ i ∈ defaultIcon :: icons.map (·.2), Free (.node [("class", "fa " ++ i)] []) := by
    decide
  hicon _ (icon_mem name)

theorem foreign_label {t : Tab} {level : Level}
    (h : ∀ icon ∈ t.icon, Free (.node [("class", "fa " ++ icon)] [])) :
    ∀ c ∈ (tabElement parse level t).children, Foreign c := by
  obtain ⟨name, icon, scope, active⟩ := t
  cases icon with
  | none => intro c hc; cases hc
  | some icon =>
    intro c hc
    obtain rfl := List.mem_singleton.1 (show c ∈ [Element.node [("class", "fa " ++ icon)] []] from hc)
    exact (h icon rfl).foreign

/-- An element whose children are the elements of tabs and panes that follow some branches holds
the tab set of these branches. -/
theorem holdsTabs_of_follows {branches : List Branch} {scope : String} {chosen : Nat}
    {tabs : List Tab} {panes : List Pane} (hf : Follows branches scope chosen tabs panes)
    (hicons : ∀ t ∈ tabs, ∀ icon ∈ t.icon, Free (.node [("class", "fa " ++ icon)] []))
    {level : Level} {e : Element} (hroot : isScopeRoot level e = true) (hid : e.id = scope)
    (hc : e.children = tabSetElements parse level tabs panes) :
    HoldsTabs level (branches.map (·.name)) e (headerElement parse level tabs)
      (bodyElement parse level panes) where
  scopeRoot := hroot
  children := hc.trans (tabSetElements_eq ..)
  header := plays_of_class (headerClass_mem level) rfl
  body := plays_of_class (bodyClass_mem level) rfl
  tabs_length := by simp [headerElement, Element.children, hf.length_tabs]
  panes_length := by simp [bodyElement, Element.children, hf.length_panes]
  tab := by
    intro i x hx
    obtain ⟨t, ht, rfl⟩ := Option.map_eq_some_iff.1 (List.getElem?_map ▸ hx)
    have hname : (branches.map (·.name))[i]? = some t.name := by
      rw [← hf.tabNames, List.getElem?_map, ht, Option.map_some]
    refine ⟨(plays_tabElement parse level t).1, ?_, ?_, ?_⟩
    · rw [hname]
      cases level <;> rfl
    · rw [hid, ← hf.scopes t (List.mem_of_getElem? ht)]
      cases level <;> rfl
    · exact foreign_label parse (hicons t (List.mem_of_getElem? ht))
  pane := by
    intro i x hx
    obtain ⟨p, hp, rfl⟩ := Option.map_eq_some_iff.1 (List.getElem?_map ▸ hx)
    have hname : (branches.map (·.name))[i]? = some p.head.name := by
      rw [← hf.paneNames, List.getElem?_map, hp, Option.map_some]
    refine ⟨(plays_paneElement parse level p).1, ?_⟩
    rw [hname]
    cases level <;> rfl

section Built

variable {kind : Kind} {id preferred : String} {body : List Char} {c : Container}

theorem plays_container (c : Container) : Plays c.kind.rootClass (containerElement parse c) :=
  plays_of_class (rootClass_mem c.kind) rfl

/-- A built container holds the tab set of its platforms. -/
theorem holdsTabs_container (hc : Container.ofBody? kind id body preferred = some c) :
    c.tabs.level = .platform ∧ ∃ names k, names.length = c.tabs.tabs.length ∧
      HoldsTabs .platform names (containerElement parse c)
        (headerElement parse .platform c.tabs.tabs) (bodyElement parse .platform c.tabs.panes) ∧
      RenderedAt c.tabs.tabs c.tabs.panes k := by
  obtain ⟨-, htree⟩ := treeOf_ofBody? hc
  obtain ⟨chosen, -, hf⟩ := htree.follows
  have hroot : isScopeRoot .platform (containerElement parse c) = true := by
    have := (plays_container parse c).hasClass (rootClass_mem c.kind)
    unfold isScopeRoot
    cases hk : c.kind <;> rw [hk] at this <;> simp [this]
  have hicons : ∀ t ∈ c.tabs.tabs, ∀ icon ∈ t.icon,
      Free (.node [("class", "fa " ++ icon)] []) := fun t ht icon hi => by
    rw [icon_ofBody? hc t ht] at hi
    cases hi
    exact free_icon t.name
  refine ⟨htree.level_eq, _, chosen, ?_, holdsTabs_of_follows parse hf hicons hroot htree.id_eq ?_,
    renderedAt_of_follows hf⟩
  · rw [List.length_map, hf.length_tabs]
  · rw [← htree.level_eq]; rfl

/-- A pane of a built container is a leaf, or it holds the tab set of its languages, whose panes are
leaves. -/
theorem pane_container (hc : Container.ofBody? kind id body preferred = some c) {p : Pane}
    (hp : p ∈ c.tabs.panes) :
    (∃ h content, p = .leaf h content) ∨ ∃ h tabs panes names, p = .nested h .language tabs panes ∧
      names.length = tabs.length ∧ HoldsTabs .language names (paneElement parse .platform p)
        (headerElement parse .language tabs) (bodyElement parse .language panes) ∧
      RenderedAt tabs panes 0 ∧ ∀ q ∈ panes, ∃ h content, q = .leaf h content := by
  obtain ⟨-, htree⟩ := treeOf_ofBody? hc
  obtain ⟨chosen, -, hf⟩ := htree.follows
  obtain ⟨i, b, hb, hi⟩ := hf.exists_branch hp
  rcases htree.panes i b p hb hi with ⟨-, -, hid, tabs, panes, he, hl, hicons, hleaf⟩ | ⟨-, -, he⟩
  · have hfree : ∀ t ∈ tabs, ∀ icon ∈ t.icon, Free (.node [("class", "fa " ++ icon)] []) :=
      fun t ht icon hi => by rw [hicons t ht] at hi; cases hi
    have hroot : isScopeRoot .language (paneElement parse .platform p) = true :=
      (plays_paneElement parse .platform p).1.hasClass (paneClass_mem .platform)
    have hpid : (paneElement parse .platform p).id = paneId id b.name := by
      unfold Element.id paneElement PaneHead.attributes
      rw [hid]; rfl
    have hinner : (paneElement parse .platform p).children =
        tabSetElements parse .language tabs panes := by
      rw [he]; rfl
    refine .inr ⟨p.head, tabs, panes, _, he, ?_,
      holdsTabs_of_follows parse hl hfree hroot hpid hinner, renderedAt_of_follows hl, fun q hq => ?_⟩
    · rw [List.length_map, hl.length_tabs]
    · obtain ⟨j, l, hj, hq⟩ := hl.exists_branch hq
      exact ⟨_, _, (hleaf j l q hj hq).2⟩
  · exact .inl ⟨_, _, he⟩

/-! ## Leaves of a container -/

variable {parse}

/-- The HTML is that of a leaf in the container. -/
def HasLeaf (c : Container) (content : String) : Prop :=
  (∃ h, .leaf h content ∈ c.tabs.panes) ∨ ∃ h level tabs panes h',
    .nested h level tabs panes ∈ c.tabs.panes ∧ .leaf h' content ∈ panes

/-- The elements in a leaf are free. -/
theorem leaf_free {level : Level} {h : PaneHead} {content : String}
    (hfree : ∀ e ∈ parse content, Foreign e) {i : Nat} {r : Path} {x : Element}
    (hx : (paneElement parse level (.leaf h content)).at? (i :: r) = some x) : Free x := by
  rw [at?_cons] at hx
  obtain ⟨y, hy, hx⟩ := Option.bind_eq_some_iff.1 hx
  exact hfree y (List.mem_of_getElem? hy) r x hx

theorem bodyElement_child {level : Level} {panes : List Pane} {i : Nat} {x : Element}
    (hx : (bodyElement parse level panes).children[i]? = some x) :
    ∃ p, panes[i]? = some p ∧ paneElement parse level p = x :=
  Option.map_eq_some_iff.1 (List.getElem?_map ▸ hx)

end Built

end DocTabs.Switcher
