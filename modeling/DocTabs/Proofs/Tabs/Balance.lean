/-
The HTML of a container is balanced, whatever its names, scopes and ids are: these stand escaped, and the
tags around the leaves start and end each `div` in turn. A leaf stands as deep as its place in the tree of
panes says, and balanced leaves keep the whole balanced.
-/
import DocTabs.Proofs.Tabs.Place
import DocTabs.Proofs.Tabs.Woven

namespace DocTabs.Tabs

open Html

/-! ## Buttons -/

theorem quiet_icon {icon : Option String} (h : ∀ i ∈ icon, '<' ∉ i.toList) :
    Quiet (iconHtml icon).toList := by
  cases icon with
  | none => exact quiet_of_noTag (by decide)
  | some i =>
    have hend : "\"></i> " = "\">" ++ "</i> " := by decide
    have htag : Quiet ("<i class=\"fa ".toList ++ (i.toList ++ "\">".toList)) :=
      quiet_tag (c := 'i') (s := " class=\"fa ".toList ++ (i.toList ++ "\">".toList)) (by decide)
        (by simp [h i rfl])
    rw [iconHtml, hend]
    simp only [String.toList_append]
    rw [List.append_assoc, ← List.append_assoc i.toList, ← List.append_assoc]
    exact htag.append (by decide) (apart_sign _ "/i> ".toList)

/-- An icon ends with a blank. -/
theorem apart_icon (icon : Option String) (b : List Char) : Apart (iconHtml icon).toList b := by
  cases icon with
  | none => exact apart_nil b
  | some i =>
    have hend : "\"></i> " = "\"></i>" ++ " " := by decide
    rw [iconHtml, hend, ← String.append_assoc, String.toList_append]
    exact apart_end (by decide) _ b

theorem Tab.quiet (level : Level) {t : Tab} (h : ∀ icon ∈ t.icon, '<' ∉ icon.toList) :
    Quiet (t.toHtml level).toList := by
  have hstart : Quiet ("<button class=\"".toList ++ (t.inside level).toList ++ ['>']) :=
    quiet_tag (c := 'b') (s := "utton class=\"".toList ++ (t.inside level).toList ++ ['>']) (by decide)
      (by simp [t.noTag_inside level])
  have hstop : Quiet ((escape t.name).toList ++ "</button>".toList) :=
    (quiet_of_noTag (noTag_escape t.name)).append (by decide) (apart_sign _ "/button>".toList)
  have hcontent := (quiet_icon h).append hstop (apart_icon t.icon _)
  have hquiet := hstart.append hcontent (apart_end (by decide) _ _)
  rw [Tab.toHtml_inside]
  simp only [List.append_assoc] at hquiet
  simp only [String.toList_append, List.append_assoc]
  exact hquiet

/-! ## Tab sets and panes -/

/-- The HTML of a tab set up to where its panes stand. -/
def tabSetOpen (level : Level) (tabs : List Tab) : String :=
  divOpen level.headerClass false "" ++ String.join (tabs.map (Tab.toHtml level)) ++ "</div>" ++
    divOpen level.bodyClass false ""

theorem tabSetHtml_eq (level : Level) (tabs : List Tab) (panes : String) :
    tabSetHtml level tabs panes = tabSetOpen level tabs ++ panes ++ "</div>" := by
  simp only [tabSetHtml, tabSetOpen, String.append_assoc]

theorem balanced_buttons (level : Level) {tabs : List Tab} (h : TaglessIcons tabs) :
    Balanced (String.join (tabs.map (Tab.toHtml level))).toList := by
  induction tabs with
  | nil => exact (quiet_of_noTag (List.not_mem_nil)).balanced
  | cons t tabs ih =>
    obtain ⟨ht, hts⟩ := List.forall_mem_cons.1 h
    have hapart : Apart (t.toHtml level).toList (String.join (tabs.map (Tab.toHtml level))).toList := by
      have hend : "</button>" = "</button" ++ ">" := by decide
      rw [Tab.toHtml_eq, hend, ← String.append_assoc, String.toList_append]
      exact apart_end (by decide) _ _
    rw [List.map_cons, String.join_cons, String.toList_append]
    exact (Tab.quiet level ht).balanced.append (ih hts) hapart

section TabSet

variable (level : Level) {tabs : List Tab}

/-- The header of a tab set. -/
def headerHtml (tabs : List Tab) : List Char :=
  (divOpen level.headerClass false "").toList ++ (String.join (tabs.map (Tab.toHtml level))).toList ++
    divStop

theorem tabSetOpen_eq (tabs : List Tab) : (tabSetOpen level tabs).toList =
    headerHtml level tabs ++ (divOpen level.bodyClass false "").toList := by
  simp only [tabSetOpen, headerHtml, String.toList_append, divStop]

theorem balanced_header (h : TaglessIcons tabs) : Balanced (headerHtml level tabs) :=
  (balanced_buttons level h).wrap (isDivTag_header level)

/-- Behind the start of a tab set its body is open. -/
theorem divDepth_tabSetOpen (h : TaglessIcons tabs) (b : List Char) :
    divDepth ((tabSetOpen level tabs).toList ++ b) = 1 + divDepth b := by
  rw [tabSetOpen_eq, List.append_assoc, divDepth_append ((isDivTag_body level).apart_left _ b),
    (balanced_header level h).level, divDepth_append ((isDivTag_body level).apart b),
    (isDivTag_body level).divDepth_eq, Int.zero_add]

theorem balanced_tabSet (h : TaglessIcons tabs) {panes : String} (hp : Balanced panes.toList) :
    Balanced (tabSetHtml level tabs panes).toList := by
  have hbody := (isDivTag_body level).apart_left (headerHtml level tabs) (panes.toList ++ divStop)
  rw [← List.append_assoc] at hbody
  rw [tabSetHtml_eq, String.toList_append, String.toList_append, tabSetOpen_eq, List.append_assoc,
    List.append_assoc, ← List.append_assoc _ panes.toList]
  exact (balanced_header level h).append (hp.wrap (isDivTag_body level)) hbody

end TabSet

/-- What a pane holds itself is balanced: its leaf, if it is one, and the icons of its tabs. -/
def Pane.IsBalanced (p : Pane) : Prop :=
  (∀ content ∈ p.content?, Balanced content.toList) ∧ TaglessIcons p.tabs

theorem Pane.toHtml_leaf (level : Level) (h : PaneHead) (content : String) :
    ((Pane.leaf h content).toHtml level).toList =
      (h.toHtml level).toList ++ content.toList ++ divStop := by
  simp only [Pane.toHtml, String.toList_append, divStop]

theorem Pane.toHtml_nested (level : Level) (h : PaneHead) (inner : Level) (tabs : List Tab)
    (panes : List Pane) : ((Pane.nested h inner tabs panes).toHtml level).toList =
      (h.toHtml level).toList ++ (tabSetHtml inner tabs (panesHtml inner panes)).toList ++ divStop := by
  simp only [Pane.toHtml, String.toList_append, divStop]

theorem Pane.apart_left (level : Level) (p : Pane) (a b : List Char) :
    Apart a ((p.toHtml level).toList ++ b) := by
  cases p with
  | leaf h content =>
    rw [toHtml_leaf, List.append_assoc, List.append_assoc]
    exact (h.isDivTag level).apart_left a _
  | nested h inner tabs panes =>
    rw [toHtml_nested, List.append_assoc, List.append_assoc]
    exact (h.isDivTag level).apart_left a _

theorem apart_panes (level : Level) (ps : List Pane) (a : List Char) :
    Apart a ((panesHtml level ps).toList ++ divStop) := by
  cases ps with
  | nil =>
    rw [panesHtml]
    exact apart_stop a
  | cons p ps =>
    rw [panesHtml, String.toList_append, List.append_assoc]
    exact p.apart_left level a _

mutual

theorem Pane.balanced (level : Level) (p : Pane) (h : ∀ q ∈ p.within, q.IsBalanced) :
    Balanced (p.toHtml level).toList := by
  cases p with
  | leaf head content =>
    rw [Pane.toHtml_leaf]
    exact ((h (.leaf head content) (by simp [Pane.within])).1 content rfl).wrap (head.isDivTag level)
  | nested head inner tabs panes =>
    rw [Pane.within, List.forall_mem_cons] at h
    rw [Pane.toHtml_nested]
    exact (balanced_tabSet inner h.1.2 (balanced_panes inner panes h.2)).wrap (head.isDivTag level)

theorem balanced_panes (level : Level) (ps : List Pane) (h : ∀ q ∈ panesWithin ps, q.IsBalanced) :
    Balanced (panesHtml level ps).toList := by
  cases ps with
  | nil => exact (quiet_of_noTag (by simp [panesHtml])).balanced
  | cons p ps =>
    rw [panesWithin, List.forall_mem_append] at h
    rw [panesHtml, String.toList_append]
    exact (p.balanced level h.1).append (balanced_panes level ps h.2)
      (Apart.mono (apart_panes level ps _) (List.prefix_append ..))

end

/-! ## Leaves -/

theorem panesHtml_append (level : Level) (ps qs : List Pane) :
    panesHtml level (ps ++ qs) = panesHtml level ps ++ panesHtml level qs := by
  induction ps with
  | nil => rw [List.nil_append, panesHtml, String.empty_append]
  | cons p ps ih => rw [List.cons_append, panesHtml, panesHtml, ih, String.append_assoc]

/-- The leaf at a place stands between two texts that do not depend on its content, inside a pane and a
body for each level around it and in its own pane. -/
theorem leaf_stands {place : List Nat} {ps : List Pane} {content : String}
    (h : leafIn? place ps = some content) (hps : ∀ q ∈ panesWithin ps, q.IsBalanced) (level : Level) :
    ∃ before after : String,
      (∀ other, panesHtml level (setLeafIn other place ps) = before ++ other ++ after) ∧
        divDepth before.toList + 1 = 2 * place.length := by
  induction place generalizing ps level with
  | nil => cases h
  | cons i place ih =>
    obtain ⟨p, hp, hleaf⟩ := leafIn?_cons h
    obtain ⟨xs, ys, rfl, hmodify⟩ := modify_of_getElem? hp
    rw [panesWithin_eq, List.flatMap_append, List.forall_mem_append, List.flatMap_cons,
      List.forall_mem_append, ← panesWithin_eq] at hps
    have hbalanced := balanced_panes level xs hps.1
    rcases hleaf with ⟨head, rfl, rfl⟩ | ⟨head, inner, tabs, panes, rfl, hin⟩
    · refine ⟨panesHtml level xs ++ head.toHtml level, "</div>" ++ panesHtml level ys, fun other => ?_, ?_⟩
      · rw [setLeafIn, hmodify, panesHtml_append, panesHtml, Pane.toHtml]
        simp only [String.append_assoc]
      · have hhead := (head.isDivTag level).apart_left (panesHtml level xs).toList []
        rw [List.append_nil] at hhead
        rw [String.toList_append, divDepth_append hhead, hbalanced.level,
          (head.isDivTag level).divDepth_eq]
        rfl
    · rw [Pane.within, List.forall_mem_cons] at hps
      have htabs : TaglessIcons tabs := hps.2.1.1.2
      obtain ⟨before, after, hother, hdepth⟩ := ih hin hps.2.1.2 inner
      refine ⟨panesHtml level xs ++ head.toHtml level ++ tabSetOpen inner tabs ++ before,
        after ++ "</div>" ++ "</div>" ++ panesHtml level ys, fun other => ?_, ?_⟩
      · rw [setLeafIn, hmodify, panesHtml_append, panesHtml, Pane.toHtml, hother, tabSetHtml_eq]
        simp only [String.append_assoc]
      · simp only [String.toList_append, List.append_assoc]
        rw [divDepth_append ((head.isDivTag level).apart_left _ _), hbalanced.level,
          divDepth_append ((head.isDivTag level).apart _), (head.isDivTag level).divDepth_eq,
          divDepth_tabSetOpen inner htabs, List.length_cons]
        push_cast
        omega

/-! ## Containers -/

theorem Container.toHtml_eq (c : Container) : c.toHtml.toList =
    (divOpen c.kind.rootClass false (attr "id" c.id)).toList ++ c.tabs.toHtml.toList ++ divStop := by
  simp only [Container.toHtml, String.toList_append, divStop]

section Container

variable {c : Container} (hicons : ∀ icon ∈ c.icons, ∃ platform, icon = Tabs.icon platform)

include hicons

theorem Container.tagless : TaglessIcons c.tabs.tabs ∧ ∀ p ∈ c.allPanes, TaglessIcons p.tabs := by
  have known : ∀ icon ∈ c.icons, '<' ∉ icon.toList := fun icon h => by
    obtain ⟨platform, rfl⟩ := hicons icon h
    exact noTag_icon platform
  exact ⟨fun t ht icon hi =>
      known icon (List.mem_filterMap.2 ⟨t, List.mem_append_left _ ht, hi⟩),
    fun p hp t ht icon hi => known icon (List.mem_filterMap.2
      ⟨t, List.mem_append_right _ (List.mem_flatMap.2 ⟨p, hp, ht⟩), hi⟩)⟩

variable (hleaves : ∀ content ∈ c.leaves, Balanced content.toList)

include hleaves

theorem Container.isBalanced : ∀ p ∈ panesWithin c.tabs.panes, p.IsBalanced := fun p hp =>
  ⟨fun content hc => hleaves content (List.mem_filterMap.2 ⟨p, hp, hc⟩),
    (Container.tagless hicons).2 p hp⟩

theorem Container.balanced_tabs : Balanced c.tabs.toHtml.toList :=
  balanced_tabSet c.tabs.level (Container.tagless hicons).1
    (balanced_panes c.tabs.level c.tabs.panes (Container.isBalanced hicons hleaves))

theorem Container.leaf_stands {place : List Nat} {content : String}
    (h : c.leafAt? place = some content) : ∃ before after : String,
      (∀ other, (c.setLeaf place other).toHtml = before ++ other ++ after) ∧
        divDepth before.toList = 2 * place.length + 1 := by
  obtain ⟨before, after, hother, hdepth⟩ :=
    Tabs.leaf_stands h (Container.isBalanced hicons hleaves) c.tabs.level
  refine ⟨divOpen c.kind.rootClass false (attr "id" c.id) ++ tabSetOpen c.tabs.level c.tabs.tabs ++ before,
    after ++ "</div>" ++ "</div>", fun other => ?_, ?_⟩
  · rw [Container.toHtml, TabSet.toHtml, Container.setLeaf, tabSetHtml_eq, hother]
    simp only [String.append_assoc]
  · rw [String.toList_append, String.toList_append, List.append_assoc,
      divDepth_append (c.isDivTag.apart _), c.isDivTag.divDepth_eq,
      divDepth_tabSetOpen c.tabs.level (Container.tagless hicons).1]
    omega

end Container

/-- The HTML of a container whose icons are those of platforms and whose leaves are balanced is balanced,
whatever its kind, levels, nesting, names, scopes and ids are, and its root element is the whole of it.
Each leaf stands in it between two texts that do not depend on what the leaf holds, inside one element for
the container and two for each level of its place. In a balanced page the HTML may take the place of any
balanced text that starts and ends between tags, an empty one for instance. -/
theorem toHtml_balanced {c : Container} (hicons : ∀ icon ∈ c.icons, ∃ platform, icon = Tabs.icon platform)
    (hleaves : ∀ content ∈ c.leaves, Balanced content.toList) :
    Balanced c.toHtml.toList ∧
    (divStart <+: c.toHtml.toList ∧ ∀ p, p <+: c.toHtml.toList → divStart <+: p →
      p ≠ c.toHtml.toList → 0 < divDepth p) ∧
    (∀ content, content ∈ c.leaves ↔ ∃ place, c.leafAt? place = some content) ∧
    (∀ place content, c.leafAt? place = some content → ∃ before after : String,
      c.toHtml = before ++ content ++ after ∧
      (∀ other, (c.setLeaf place other).toHtml = before ++ other ++ after) ∧
      divDepth before.toList = 2 * place.length + 1) ∧
    ∀ a x b, Balanced (a ++ x ++ b) → Balanced x → Apart a (x ++ b) → Apart x b →
      Balanced (a ++ c.toHtml.toList ++ b) := by
  have htabs := Container.balanced_tabs hicons hleaves
  have hbalanced : Balanced c.toHtml.toList := by
    rw [c.toHtml_eq]
    exact htabs.wrap c.isDivTag
  refine ⟨hbalanced, ⟨?_, fun p hp hstart hne => ?_⟩, fun content => ?_, fun place content h => ?_,
    fun a x b hpage hx hax hxb => ?_⟩
  · obtain ⟨r, hr, -⟩ := c.isDivTag
    rw [c.toHtml_eq, hr]
    exact ⟨r ++ ['>'] ++ c.tabs.toHtml.toList ++ divStop, by simp only [List.append_assoc]⟩
  · rw [c.toHtml_eq] at hp hne
    exact c.isDivTag.divDepth_pos htabs hp hne hstart
  · rw [Container.mem_leaves]
    exact ⟨fun ⟨_, h⟩ => exists_place h, fun ⟨_, h⟩ => mem_of_leafIn? h⟩
  · obtain ⟨before, after, hother, hdepth⟩ := Container.leaf_stands hicons hleaves h
    refine ⟨before, after, ?_, hother, hdepth⟩
    rw [← hother content, Container.setLeaf, setLeafIn_self h]
  · have hsign : ∃ s, c.toHtml.toList = '<' :: s := by
      obtain ⟨s, hs, -⟩ := c.isDivTag.quiet_tail
      exact ⟨_, by rw [c.toHtml_eq, hs]; rfl⟩
    have hend : ∃ s, c.toHtml.toList = s ++ ['>'] := by
      have hstop : divStop = "</div".toList ++ ['>'] := rfl
      exact ⟨_, by rw [c.toHtml_eq, hstop, ← List.append_assoc]⟩
    refine hpage.replace hx hbalanced hax hxb ?_ ?_
    · obtain ⟨s, hs⟩ := hsign
      rw [hs]
      exact apart_sign a (s ++ b)
    · obtain ⟨s, hs⟩ := hend
      rw [hs]
      exact apart_end (by decide) s b

/-- A container whose names, scopes and ids hold tags, and whose leaves hold elements and cut tags. -/
def nestedDivs : Container where
  id := "</div>"
  kind := .sample
  tabs := {
    level := .language
    tabs := [⟨"</div><div", some "fa-apple", "\"><div>", true⟩, ⟨"</div", none, "", false⟩]
    panes := [
      .nested ⟨"</div>", some "<div", true⟩ .platform [⟨"<div>", some "fa-code", "</div>", true⟩]
        [.leaf ⟨"x", none, true⟩ "<div><div>1</div></div><", .leaf ⟨"y", none, false⟩ "2"],
      .leaf ⟨"<", none, false⟩ "</di"] }

theorem toHtml_balanced_nestedDivs :
    (∀ content ∈ nestedDivs.leaves, Balanced content.toList) ∧ Balanced nestedDivs.toHtml.toList ∧
    Balanced ("<div>".toList ++ nestedDivs.toHtml.toList ++ divStop) ∧
    ∃ before after : String, nestedDivs.toHtml = before ++ "2" ++ after ∧ divDepth before.toList = 5 := by
  have hleaves : ∀ content ∈ nestedDivs.leaves, Balanced content.toList := by decide
  have hicons : ∀ icon ∈ nestedDivs.icons, ∃ platform, icon = Tabs.icon platform := by
    have heq : nestedDivs.icons = [Tabs.icon "iOS", Tabs.icon "</div>"] := by decide
    intro icon h
    rw [heq] at h
    rcases List.mem_cons.1 h with rfl | h
    · exact ⟨"iOS", rfl⟩
    · exact ⟨"</div>", List.mem_singleton.1 h⟩
  obtain ⟨hbalanced, -, -, hplace, hpage⟩ := toHtml_balanced hicons hleaves
  obtain ⟨before, after, hhtml, -, hdepth⟩ := hplace [0, 1] "2" (by decide)
  exact ⟨hleaves, hbalanced, hpage "<div>".toList [] divStop (by decide) (by decide) (apart_stop _)
    (apart_nil _), before, after, hhtml, hdepth⟩

end DocTabs.Tabs
