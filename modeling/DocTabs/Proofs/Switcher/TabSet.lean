/-
Tab sets in an element tree: a scope root with a header of buttons and a body of panes. In a tree
whose buttons all belong to tab sets, a click on or inside a button shows that button's pane, any
other click does nothing, and each tab set shows what the last click on one of its own buttons
chose.
-/
import DocTabs.Proofs.Switcher.Wiring

namespace DocTabs.Switcher

open Tabs Element

/-! ## Parts -/

/-- Of the switcher's classes the element has exactly this one. -/
def Plays (cls : String) (e : Element) : Prop :=
  ∀ c ∈ switcherClasses, (e.hasClass c = true ↔ c = cls)

/-- An element with none of the switcher's classes. -/
def Free (e : Element) : Prop := ∀ c ∈ switcherClasses, e.hasClass c = false

/-- An element that is free, as are all the elements in it. -/
def Foreign (e : Element) : Prop := ∀ q x, e.at? q = some x → Free x

/-- The element `e` holds the tab set of a level: a header `h` with one button and a body `b` with
one pane for each name, in order, and every button is confined to `e`. -/
structure HoldsTabs (level : Level) (names : List String) (e h b : Element) : Prop where
  scopeRoot : isScopeRoot level e = true
  children : e.children = [h, b]
  header : Plays level.headerClass h
  body : Plays level.bodyClass b
  tabs_length : h.children.length = names.length
  panes_length : b.children.length = names.length
  tab : ∀ (i : Nat) t, h.children[i]? = some t → Plays level.tabClass t ∧
    t.attr? level.nameAttribute = names[i]? ∧ t.attr? level.scopeAttribute = some e.id ∧
    ∀ c ∈ t.children, Foreign c
  pane : ∀ (i : Nat) p, b.children[i]? = some p → Plays level.paneClass p ∧
    p.attr? level.nameAttribute = names[i]?

/-- Whether there is a button of a level at a path. -/
def isTab (root : Element) (level : Level) (q : Path) : Bool :=
  (root.at? q).any (·.hasClass level.tabClass)

/-- Whether a path leads to a button or into one. -/
def onTab (root : Element) (target : Path) : Bool :=
  (upward target).any fun q => [Level.platform, .language].any fun level => isTab root level q

/-- Every button belongs to a tab set. -/
def WellTabbed (root : Element) : Prop :=
  ∀ level q, isTab root level q = true → ∃ scope names e h b i,
    root.at? scope = some e ∧ HoldsTabs level names e h b ∧ q = scope ++ [0, i]

/-- Which button of a tab set with `n` buttons a path leads to or into. -/
def pressed? (scope : Path) (n : Nat) (target : Path) : Option Nat :=
  (List.range n).find? fun i => (scope ++ [0, i]).isPrefixOf target

theorem pressed?_eq_some {scope target : Path} {n i : Nat} :
    pressed? scope n target = some i ↔ i < n ∧ scope ++ [0, i] <+: target := by
  have hinj : ∀ {i j : Nat}, scope ++ [0, i] <+: target → scope ++ [0, j] <+: target → i = j := by
    intro i j hi hj
    have := (List.prefix_of_prefix_length_le hi hj (by simp)).eq_of_length (by simp)
    simpa using this
  unfold pressed?
  constructor
  · intro h
    have hi := List.mem_range.1 (List.mem_of_find?_eq_some h)
    have hp := List.find?_some h
    exact ⟨hi, List.isPrefixOf_iff_prefix.1 hp⟩
  · rintro ⟨hi, hp⟩
    cases h : (List.range n).find? fun i => (scope ++ [0, i]).isPrefixOf target with
    | none =>
      have := List.find?_eq_none.1 h i (List.mem_range.2 hi)
      exact absurd (List.isPrefixOf_iff_prefix.2 hp) this
    | some j =>
      have hj := List.find?_some h
      rw [hinj hp (List.isPrefixOf_iff_prefix.1 hj)]

theorem Plays.hasClass {cls : String} {e : Element} (h : Plays cls e) (hc : cls ∈ switcherClasses) :
    e.hasClass cls = true :=
  (h cls hc).2 rfl

theorem Plays.not_hasClass {cls c : String} {e : Element} (h : Plays cls e)
    (hc : c ∈ switcherClasses) (hne : c ≠ cls) : e.hasClass c = false := by
  cases hb : e.hasClass c with
  | false => rfl
  | true => exact absurd ((h c hc).1 hb) hne

/-- A free element without children is foreign. -/
theorem Free.foreign {as : List (String × String)} (h : Free (.node as [])) :
    Foreign (.node as []) := by
  rintro (_ | ⟨i, q⟩) x hx
  · obtain rfl := Option.some.inj hx
    exact h
  · cases hx

/-! ## The switch of a button -/

section Button

variable {root e h b : Element} {scope : Path} {level : Level} {names : List String}

theorem HoldsTabs.at?_header (ht : HoldsTabs level names e h b) (hs : root.at? scope = some e) :
    root.at? (scope ++ [0]) = some h := by
  rw [at?_child hs, ht.children]; rfl

theorem HoldsTabs.at?_body (ht : HoldsTabs level names e h b) (hs : root.at? scope = some e) :
    root.at? (scope ++ [1]) = some b := by
  rw [at?_child hs, ht.children]; rfl

theorem HoldsTabs.at?_tab (ht : HoldsTabs level names e h b) (hs : root.at? scope = some e)
    (i : Nat) : root.at? (scope ++ [0, i]) = h.children[i]? := by
  rw [← at?_child (ht.at?_header hs) i, List.append_assoc]; rfl

theorem HoldsTabs.at?_pane (ht : HoldsTabs level names e h b) (hs : root.at? scope = some e)
    (i : Nat) : root.at? (scope ++ [1, i]) = b.children[i]? := by
  rw [← at?_child (ht.at?_body hs) i, List.append_assoc]; rfl

theorem HoldsTabs.exists_tab (ht : HoldsTabs level names e h b) {i : Nat} (hi : i < names.length) :
    ∃ t, h.children[i]? = some t :=
  ⟨_, List.getElem?_eq_getElem (ht.tabs_length ▸ hi)⟩

theorem HoldsTabs.exists_pane (ht : HoldsTabs level names e h b) {i : Nat} (hi : i < names.length) :
    ∃ p, b.children[i]? = some p :=
  ⟨_, List.getElem?_eq_getElem (ht.panes_length ▸ hi)⟩

theorem HoldsTabs.isTab (ht : HoldsTabs level names e h b) (hs : root.at? scope = some e) {i : Nat}
    (hi : i < names.length) : isTab root level (scope ++ [0, i]) = true := by
  obtain ⟨t, hti⟩ := ht.exists_tab hi
  rw [Switcher.isTab, ht.at?_tab hs, hti]
  exact (ht.tab i t hti).1.hasClass (tabClass_mem level)

/-- There is no button inside a button. -/
theorem HoldsTabs.no_tab_below (ht : HoldsTabs level names e h b) (hs : root.at? scope = some e)
    {i : Nat} {r : Path} {level' : Level} (hr : Switcher.isTab root level' (scope ++ [0, i] ++ r) = true) :
    r = [] := by
  rcases r with _ | ⟨j, r⟩
  · rfl
  · rw [Switcher.isTab, at?_append, ht.at?_tab hs] at hr
    cases hti : h.children[i]? with
    | none => rw [hti] at hr; cases hr
    | some t =>
      rw [hti, Option.bind_eq_bind, Option.bind_some, at?_cons] at hr
      cases hc : t.children[j]? with
      | none => rw [hc] at hr; cases hr
      | some c =>
        rw [hc, Option.bind_eq_bind, Option.bind_some] at hr
        cases hx : c.at? r with
        | none => rw [hx] at hr; cases hr
        | some x =>
          have hfree := (ht.tab i t hti).2.2.2 c (List.mem_of_getElem? hc) r x hx
          rw [hx, Option.any_some, hfree _ (tabClass_mem level')] at hr
          cases hr

/-- A path leads to or into one button at most. -/
theorem WellTabbed.unique (hw : WellTabbed root) {q q' target : Path} {l l' : Level}
    (hq : q <+: target) (hq' : q' <+: target) (ht : Switcher.isTab root l q = true)
    (ht' : Switcher.isTab root l' q' = true) : q' = q := by
  rcases List.prefix_or_prefix_of_prefix hq hq' with ⟨r, rfl⟩ | ⟨r, rfl⟩
  · obtain ⟨scope, _, e, h, b, i, hs, hh, rfl⟩ := hw _ _ ht
    rw [hh.no_tab_below hs ht', List.append_nil]
  · obtain ⟨scope, _, e, h, b, i, hs, hh, rfl⟩ := hw _ _ ht'
    rw [hh.no_tab_below hs ht, List.append_nil]

theorem tabClass_inj {l l' : Level} (h : l'.tabClass = l.tabClass) : l' = l := by
  cases l <;> cases l' <;> simp [Level.tabClass] at h ⊢

/-- A button has one level only. -/
theorem WellTabbed.level_unique (hw : WellTabbed root) {q : Path} {l l' : Level}
    (ht : Switcher.isTab root l q = true) (ht' : Switcher.isTab root l' q = true) : l' = l := by
  obtain ⟨scope, _, e, h, b, i, hs, hh, rfl⟩ := hw _ _ ht
  rw [Switcher.isTab, hh.at?_tab hs] at ht'
  cases hti : h.children[i]? with
  | none => rw [hti] at ht'; cases ht'
  | some t =>
    rw [hti] at ht'
    exact tabClass_inj (((hh.tab i t hti).1 _ (tabClass_mem l')).1 ht')

/-- A click on or inside a button finds it where no other one is around the click. -/
theorem button?_of_unique {q target : Path} (hq : q <+: target)
    (ht : Switcher.isTab root level q = true)
    (hu : ∀ l q', q' <+: target → Switcher.isTab root l q' = true → l = level ∧ q' = q) :
    Switcher.button? root target = some (level, q) := by
  have hsome : root.closest (·.hasClass level.tabClass) target = some q :=
    closest_eq_some.2 ⟨hq, ht, fun q' hq' hlt => Bool.eq_false_iff.2 fun h => by
      rw [(hu _ _ hq' h).2] at hlt
      exact Nat.lt_irrefl _ hlt⟩
  unfold Switcher.button?
  cases level with
  | platform => rw [hsome]; rfl
  | language =>
    have hnone : root.closest (·.hasClass Level.platform.tabClass) target = none :=
      closest_eq_none.2 fun q' hq' => Bool.eq_false_iff.2 fun h => by
        cases (hu _ _ hq' h).1
    rw [hsome, hnone]; rfl

theorem WellTabbed.button? (hw : WellTabbed root) {q target : Path} (hq : q <+: target)
    (ht : Switcher.isTab root level q = true) : Switcher.button? root target = some (level, q) :=
  button?_of_unique hq ht fun l q' hq' ht' => by
    obtain rfl := hw.unique hq hq' ht ht'
    exact ⟨hw.level_unique ht ht', rfl⟩

/-- Headers and buttons are no scope roots. -/
theorem Plays.not_isScopeRoot {cls : String} {x : Element} (hx : Plays cls x)
    (hcls : cls = level.headerClass ∨ cls = level.tabClass) : isScopeRoot level x = false := by
  have hne : ∀ kind : Kind, kind.rootClass ≠ cls := by
    rintro kind rfl
    cases kind <;> cases level <;> rcases hcls with h | h <;> exact absurd h (by decide)
  have hne' : Level.platform.paneClass ≠ cls := by
    rintro rfl
    cases level <;> rcases hcls with h | h <;> exact absurd h (by decide)
  cases level with
  | platform =>
    rw [isScopeRoot, hx.not_hasClass (rootClass_mem _) (hne _),
      hx.not_hasClass (rootClass_mem _) (hne _)]
    rfl
  | language => exact hx.not_hasClass (paneClass_mem _) hne'

/-- The scope of a button in a header is the element of the header if this is a scope root with the
button's scope for an id. -/
theorem scope?_of_tab {t : Element} {a i : Nat} (hs : root.at? scope = some e)
    (hh : root.at? (scope ++ [a]) = some h) (ht : root.at? (scope ++ [a, i]) = some t)
    (hroot : isScopeRoot level e = true) (hheader : Plays level.headerClass h)
    (htab : Plays level.tabClass t) (hid : t.attr? level.scopeAttribute = some e.id) :
    Switcher.scope? root level (scope ++ [a, i]) = some scope := by
  unfold Switcher.scope?
  rw [ht, Option.bind_eq_bind, Option.bind_some, hid]
  refine closest_eq_some.2 ⟨List.prefix_append .., ?_, fun q hq hlt => ?_⟩
  · rw [hs, Option.any_some, hroot, Bool.true_and, accepts, beq_self_eq_true, Bool.or_true]
  · obtain ⟨r, rfl⟩ := List.prefix_of_prefix_length_le (List.prefix_append scope [a, i]) hq
      (Nat.le_of_lt hlt)
    rw [List.prefix_append_right_inj, List.prefix_cons_iff] at hq
    rcases hq with rfl | ⟨r, rfl, hr⟩
    · simp at hlt
    · rcases List.prefix_cons_iff.1 hr with rfl | ⟨_, rfl, hnil⟩
      · rw [hh, Option.any_some, hheader.not_isScopeRoot (.inl rfl), Bool.false_and]
      · obtain rfl := List.prefix_nil.1 hnil
        rw [ht, Option.any_some, htab.not_isScopeRoot (.inr rfl), Bool.false_and]

/-- The scope of a button is the element that holds its tab set. -/
theorem HoldsTabs.scope? (ht : HoldsTabs level names e h b) (hs : root.at? scope = some e) {i : Nat}
    (hi : i < names.length) : Switcher.scope? root level (scope ++ [0, i]) = some scope := by
  obtain ⟨t, hti⟩ := ht.exists_tab hi
  obtain ⟨hplays, -, hid, -⟩ := ht.tab i t hti
  exact scope?_of_tab hs (ht.at?_header hs) ((ht.at?_tab hs i).trans hti) ht.scopeRoot ht.header
    hplays hid

theorem positions_all {cls : String} {x : Element}
    (hx : ∀ (i : Nat) c, x.children[i]? = some c → c.hasClass cls = true) :
    positions cls x = List.range x.children.length := by
  refine List.filter_eq_self.2 fun i hi => ?_
  rw [List.getElem?_eq_getElem (List.mem_range.1 hi), Option.any_some]
  exact hx i _ (List.getElem?_eq_getElem (List.mem_range.1 hi))

theorem HoldsTabs.positions_header (ht : HoldsTabs level names e h b) :
    positions level.headerClass e = [0] := by
  have hne : level.headerClass ≠ level.bodyClass := by cases level <;> decide
  have hb := ht.body.not_hasClass (headerClass_mem level) hne
  have hh := ht.header.hasClass (headerClass_mem level)
  simp [positions, ht.children, List.range_succ, hb, hh]

theorem HoldsTabs.positions_body (ht : HoldsTabs level names e h b) :
    positions level.bodyClass e = [1] := by
  have hne : level.bodyClass ≠ level.headerClass := by cases level <;> decide
  have hb := ht.body.hasClass (bodyClass_mem level)
  have hh := ht.header.not_hasClass (bodyClass_mem level) hne
  simp [positions, ht.children, List.range_succ, hb, hh]

theorem HoldsTabs.positions_tabs (ht : HoldsTabs level names e h b) :
    positions level.tabClass h = List.range names.length := by
  rw [positions_all fun i t hi => (ht.tab i t hi).1.hasClass (tabClass_mem level), ht.tabs_length]

theorem HoldsTabs.positions_panes (ht : HoldsTabs level names e h b) :
    positions level.paneClass b = List.range names.length := by
  rw [positions_all fun i p hi => (ht.pane i p hi).1.hasClass (paneClass_mem level),
    ht.panes_length]

theorem findIdx?_path (scope : Path) {n i : Nat} (hi : i < n) :
    ((List.range n).map (scope ++ [0, ·])).findIdx? (· == scope ++ [0, i]) = some i := by
  rw [List.findIdx?_eq_some_iff_getElem]
  refine ⟨by simpa using hi, by simp, fun j hj => ?_⟩
  simp only [List.getElem_map, List.getElem_range, Bool.not_eq_true, beq_eq_false_iff_ne, ne_eq,
    List.append_cancel_left_eq, List.cons.injEq, true_and, and_true]
  omega

/-- The pane in the place of a button has the button's name and is the one it shows. -/
theorem HoldsTabs.pane? (ht : HoldsTabs level names e h b) {i : Nat} (hi : i < names.length) :
    Switcher.pane? level (some i) names[i]? b = some i := by
  obtain ⟨p, hp⟩ := ht.exists_pane hi
  have hname : (b.children[i]?).any (·.attr? level.nameAttribute == names[i]?) = true := by
    rw [hp, Option.any_some, (ht.pane i p hp).2, beq_self_eq_true]
  have hplace : (List.range names.length)[i]? = some i := by
    rw [List.getElem?_range hi]
  simp only [Switcher.pane?, ht.positions_panes, Option.bind_eq_bind, Option.bind_some, hplace,
    Option.filter_some, hname, if_true]
  rfl

/-- A click on or inside a button switches to the pane in the place of the button. -/
theorem WellTabbed.switch?_some (hw : WellTabbed root) (ht : HoldsTabs level names e h b)
    (hs : root.at? scope = some e) {target : Path} {i : Nat}
    (hi : pressed? scope names.length target = some i) :
    switch? root target = some ⟨level, scope, scope ++ [0, i], some 0, 1, i⟩ := by
  obtain ⟨hlt, hpre⟩ := pressed?_eq_some.1 hi
  obtain ⟨t, hti⟩ := ht.exists_tab hlt
  have hchildren : e.children[0]? = some h ∧ e.children[1]? = some b := by
    rw [ht.children]; exact ⟨rfl, rfl⟩
  unfold switch?
  simp only [hw.button? hpre (ht.isTab hs hlt), ht.scope? hs hlt, (ht.at?_tab hs i).trans hti, hs,
    Option.bind_eq_bind, Option.bind_some, ht.positions_header, ht.positions_body, List.head?_cons,
    hchildren, Option.map_some, Option.getD_some, ht.positions_tabs, findIdx?_path scope hlt,
    (ht.tab i t hti).2.1, ht.pane? hlt]
  rfl

/-- A path that leads to or into a button presses the button of a tab set. -/
theorem WellTabbed.exists_pressed (hw : WellTabbed root) {target : Path}
    (hn : onTab root target = true) : ∃ level scope names e h b i, root.at? scope = some e ∧
      HoldsTabs level names e h b ∧ pressed? scope names.length target = some i := by
  obtain ⟨q, hq, hl⟩ := List.any_eq_true.1 hn
  obtain ⟨level, -, ht⟩ := List.any_eq_true.1 hl
  obtain ⟨scope, names, e, h, b, i, hs, hh, rfl⟩ := hw level q ht
  refine ⟨level, scope, names, e, h, b, i, hs, hh, pressed?_eq_some.2 ⟨?_, mem_upward.1 hq⟩⟩
  rw [Switcher.isTab, hh.at?_tab hs] at ht
  rw [← hh.tabs_length]
  refine Nat.lt_of_not_le fun hle => ?_
  rw [List.getElem?_eq_none hle] at ht
  cases ht

/-- A click outside all buttons switches nothing. -/
theorem switch?_none {target : Path} (hn : onTab root target = false) : switch? root target = none := by
  have hnone : ∀ level : Level, root.closest (·.hasClass level.tabClass) target = none := by
    intro level
    refine closest_eq_none.2 fun q hq => Bool.eq_false_iff.2 fun h => ?_
    have := List.any_eq_false.1 hn q (mem_upward.2 hq)
    exact this (List.any_eq_true.2 ⟨level, by cases level <;> decide, h⟩)
  simp only [switch?, Switcher.button?, hnone]
  rfl

end Button

end DocTabs.Switcher
