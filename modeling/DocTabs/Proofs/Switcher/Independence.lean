/-
Clicks and their scopes. Where a click resolves to does not depend on what is active, so two clicks
of different scopes act on elements that have nothing in common and can be exchanged, and of two
clicks of one scope and level the second decides everything that the first one did.
-/
import DocTabs.Proofs.Switcher.Toggle

namespace DocTabs.Switcher

open Tabs Element

/-! ## Resolving a click -/

/-- The level and the scope of the button under a click. -/
def resolve? (root : Element) (target : Path) : Option (Level × Path) := do
  let (level, button) ← button? root target
  let scope ← scope? root level button
  return (level, scope)

theorem Wired.resolve? {r r' : Element} (h : Wired r r') (target : Path) :
    Switcher.resolve? r' target = Switcher.resolve? r target := by
  simp only [Switcher.resolve?, h.button?, h.scope?]

variable {root : Element} {target : Path} {s t : Switch}

/-- What the search for a switch has found when it ends. -/
theorem switch?_spec (h : switch? root target = some s) :
    button? root target = some (s.level, s.button) ∧
      scope? root s.level s.button = some s.scope ∧
      ∃ b e c place, root.at? s.button = some b ∧ root.at? s.scope = some e ∧
        s.header = (positions s.level.headerClass e).head? ∧
        (positions s.level.bodyClass e).head? = some s.body ∧
        e.children[s.body]? = some c ∧
        pane? s.level place (b.attr? s.level.nameAttribute) c = some s.pane := by
  simp only [switch?, Option.bind_eq_bind, Option.bind_eq_some_iff] at h
  obtain ⟨⟨level, button⟩, hbutton, scope, hscope, b, hb, e, he, body, hbody, c, hc, pane, hpane,
    h⟩ := h
  cases h
  exact ⟨hbutton, hscope, b, e, c, _, hb, he, rfl, hbody, hc, hpane⟩

theorem resolve?_of_switch? (h : switch? root target = some s) :
    resolve? root target = some (s.level, s.scope) := by
  obtain ⟨hbutton, hscope, -⟩ := switch?_spec h
  simp only [resolve?, hbutton, hscope, Option.bind_eq_bind, Option.bind_some, Option.pure_def]

/-- Switches of one scope and level have the same regions. -/
theorem regions_eq {target' : Path} (h : switch? root target = some s)
    (h' : switch? root target' = some t) (hl : t.level = s.level) (hs : t.scope = s.scope) :
    t.header = s.header ∧ t.body = s.body := by
  obtain ⟨-, -, -, e, -, -, -, he, hheader, hbody, -⟩ := switch?_spec h
  obtain ⟨-, -, -, e', -, -, -, he', hheader', hbody', -⟩ := switch?_spec h'
  rw [hs, he, Option.some.injEq] at he'
  subst he'
  rw [hl] at hheader' hbody'
  rw [hbody, Option.some.injEq] at hbody'
  exact ⟨hheader'.trans hheader.symm, hbody'.symm⟩

/-! ## Switches of different scopes -/

theorem child_ne {p q : Path} (h : p ≠ q) (i j : Nat) : p ++ [i] ≠ q ++ [j] :=
  fun he => h (List.append_inj_left' he rfl)

/-- A switch can be exchanged with an activation in another scope. -/
theorem apply_modify_comm {p : Path} (hp : s.scope ≠ p) (i : Nat) (cls : String)
    (chosen : Nat → Bool) (e : Element) :
    s.apply (e.modify (activate cls chosen) (p ++ [i])) =
      (s.apply e).modify (activate cls chosen) (p ++ [i]) := by
  unfold Switch.apply
  cases s.header with
  | none => exact modify_comm (child_ne (Ne.symm hp) i s.body) e
  | some h =>
    dsimp only
    rw [modify_comm (child_ne (Ne.symm hp) i h), modify_comm (child_ne (Ne.symm hp) i s.body)]

theorem apply_comm (h : s.scope ≠ t.scope) (e : Element) :
    t.apply (s.apply e) = s.apply (t.apply e) := by
  rw [Switch.apply.eq_def t e, Switch.apply.eq_def t (s.apply e)]
  cases t.header with
  | none => exact (apply_modify_comm h ..).symm
  | some i =>
    dsimp only
    rw [apply_modify_comm h, apply_modify_comm h]

/-! ## Switches of one scope -/

/-- Whether an element is a tab in the header or a pane in the body of a switch. -/
def Switch.Touches (s : Switch) (root : Element) (q : Path) : Prop :=
  (∃ h i, s.header = some h ∧ q = s.scope ++ [h] ++ [i] ∧
    (root.at? q).any (·.hasClass s.level.tabClass) = true) ∨
  ∃ i, q = s.scope ++ [s.body] ++ [i] ∧ (root.at? q).any (·.hasClass s.level.paneClass) = true

/-- An activation leaves the elements that are not children of its class as they are. -/
theorem sameNode_activate_of_not {cls : String} {p q : Path}
    (h : ∀ i, q = p ++ [i] → (root.at? q).any (·.hasClass cls) = false) (chosen : Nat → Bool) :
    Option.Rel SameNode (root.at? q) ((root.modify (activate cls chosen) p).at? q) := by
  refine rel_activate (fun _ _ hab => hab) fun i c hi hc hcls => ?_
  have hnot := h i hi
  rw [hc, Option.any_some, hcls] at hnot
  cases hnot

theorem isActive_activate_of_not {cls : String} {p q : Path}
    (h : ∀ i, q = p ++ [i] → (root.at? q).any (·.hasClass cls) = false) (chosen : Nat → Bool) :
    isActive (root.modify (activate cls chosen) p) q = isActive root q :=
  rel_any (fun _ _ hab => hab.hasClass_eq activeClass) (sameNode_activate_of_not h chosen)

/-- A switch leaves the elements that it does not touch as they are. -/
theorem sameNode_apply_of_not_touches {q : Path} (hq : ¬ s.Touches root q) :
    Option.Rel SameNode (root.at? q) ((s.apply root).at? q) := by
  have hpane : ∀ i, q = s.scope ++ [s.body] ++ [i] →
      (root.at? q).any (·.hasClass s.level.paneClass) = false := fun i hi =>
    Bool.eq_false_iff.2 fun hc => hq (.inr ⟨i, hi, hc⟩)
  unfold Switch.apply
  cases hh : s.header with
  | none => exact sameNode_activate_of_not hpane _
  | some h =>
    have htab : ∀ i, q = s.scope ++ [h] ++ [i] →
        (root.at? q).any (·.hasClass s.level.tabClass) = false := fun i hi =>
      Bool.eq_false_iff.2 fun hc => hq (.inl ⟨h, i, hh, hi, hc⟩)
    refine rel_trans (fun _ _ _ => SameNode.trans) (sameNode_activate_of_not htab _)
      (sameNode_activate_of_not (fun i hi => ?_) _)
    rw [(wired_activate _ _ root _).any_at? fun a b hab => hab.hasClass _ (paneClass_mem s.level)]
    exact hpane i hi

/-- A switch leaves what is active among the elements that it does not touch. -/
theorem isActive_apply_of_not_touches {q : Path} (hq : ¬ s.Touches root q) :
    isActive (s.apply root) q = isActive root q :=
  rel_any (fun _ _ hab => hab.hasClass_eq activeClass) (sameNode_apply_of_not_touches hq)

/-- A switch makes its button the only active one of the tabs that are not panes of its body. -/
theorem isActive_apply_tab_of_not_pane {h i : Nat} (hh : s.header = some h)
    (htab : (root.at? (s.scope ++ [h] ++ [i])).any (·.hasClass s.level.tabClass) = true)
    (hpane : h = s.body →
      (root.at? (s.scope ++ [h] ++ [i])).any (·.hasClass s.level.paneClass) = false) :
    isActive (s.apply root) (s.scope ++ [h] ++ [i]) = (s.scope ++ [h, i] == s.button) := by
  unfold Switch.apply
  rw [hh]
  dsimp only
  rw [isActive_activate_of_not fun j hj => ?_, isActive_activate_child _ _ _ _ _ htab]
  rw [(wired_activate _ _ root _).any_at? fun a b hab => hab.hasClass _ (paneClass_mem s.level)]
  have hscope := (List.append_inj' hj rfl).1
  exact hpane (List.cons.inj (List.append_cancel_left hscope)).1

/-- What a switch touches does not depend on what was active before. -/
theorem isActive_apply_congr {r r' : Element} (hr : Wired root r) (hr' : Wired root r') {q : Path}
    (hq : ¬ s.Touches root q → isActive r q = isActive r' q) :
    isActive (s.apply r) q = isActive (s.apply r') q := by
  have hany : ∀ {x cls}, Wired root x → cls ∈ switcherClasses →
      (x.at? q).any (·.hasClass cls) = (root.at? q).any (·.hasClass cls) := fun hx hc =>
    hx.any_at? (fun a b hab => hab.hasClass _ hc) q
  have hpaneClass := paneClass_mem s.level
  have htabClass := tabClass_mem s.level
  by_cases hpane : ∃ i, q = s.scope ++ [s.body] ++ [i] ∧
      (root.at? q).any (·.hasClass s.level.paneClass) = true
  · obtain ⟨i, rfl, hc⟩ := hpane
    have hpath : s.scope ++ [s.body] ++ [i] = s.scope ++ [s.body, i] := by simp
    have hc₁ := (hany hr hpaneClass).trans hc
    have hc₂ := (hany hr' hpaneClass).trans hc
    rw [hpath] at hc₁ hc₂ ⊢
    rw [isActive_apply_pane i hc₁, isActive_apply_pane i hc₂]
  by_cases htab : ∃ h i, s.header = some h ∧ q = s.scope ++ [h] ++ [i] ∧
      (root.at? q).any (·.hasClass s.level.tabClass) = true
  · obtain ⟨h, i, hh, rfl, hc⟩ := htab
    have hnot : ∀ {x}, Wired root x → h = s.body →
        (x.at? (s.scope ++ [h] ++ [i])).any (·.hasClass s.level.paneClass) = false := by
      intro x hx hb
      rw [hany hx hpaneClass]
      exact Bool.eq_false_iff.2 fun hp => hpane ⟨i, by rw [hb], hp⟩
    rw [isActive_apply_tab_of_not_pane hh ((hany hr htabClass).trans hc) (hnot hr),
      isActive_apply_tab_of_not_pane hh ((hany hr' htabClass).trans hc) (hnot hr')]
  · have untouched : ∀ {x}, Wired root x → ¬ s.Touches x q := by
      rintro x hx (⟨h, i, hh, hqi, hc⟩ | ⟨i, hqi, hc⟩)
      · exact htab ⟨h, i, hh, hqi, (hany hx htabClass).symm.trans hc⟩
      · exact hpane ⟨i, hqi, (hany hx hpaneClass).symm.trans hc⟩
    rw [isActive_apply_of_not_touches (untouched hr), isActive_apply_of_not_touches (untouched hr')]
    exact hq (untouched (.refl root))

/-- Of two switches of the same regions the second decides all that the first one did. -/
theorem isActive_apply_apply (hl : t.level = s.level) (hs : t.scope = s.scope)
    (hh : t.header = s.header) (hb : t.body = s.body) (q : Path) :
    isActive (t.apply (s.apply root)) q = isActive (t.apply root) q := by
  refine isActive_apply_congr (wired_apply s root) (.refl root) fun hq =>
    isActive_apply_of_not_touches fun ht => hq ?_
  unfold Switch.Touches at ht ⊢
  rwa [hl, hs, hh, hb]

theorem switcherClass_ne_active {cls : String} (h : cls ∈ switcherClasses) : cls ≠ activeClass := by
  rintro rfl
  exact absurd h (by decide)

/-- Activating the children of one class and then those of another once more gives the same. -/
theorem activate_activate {cls cls' : String} (h : cls ∈ switcherClasses)
    (h' : cls' ∈ switcherClasses) (f g : Nat → Bool) (e : Element) :
    activate cls' g (activate cls f (activate cls' g (activate cls f e))) =
      activate cls' g (activate cls f e) := by
  obtain ⟨as, cs⟩ := e
  have hmark := fun i =>
    mark_mark (switcherClass_ne_active h) (switcherClass_ne_active h') (f i) (g i)
  simp only [activate_node, List.mapIdx_mapIdx, Function.comp_def, hmark]

theorem activate_twice {cls : String} (h : cls ∈ switcherClasses) (f : Nat → Bool) (e : Element) :
    activate cls f (activate cls f e) = activate cls f e := by
  obtain ⟨as, cs⟩ := e
  have hmark := fun i => mark_twice (switcherClass_ne_active h) (f i)
  simp only [activate_node, List.mapIdx_mapIdx, Function.comp_def, hmark]

/-- The same switch once more changes nothing. -/
theorem apply_apply (s : Switch) (e : Element) : s.apply (s.apply e) = s.apply e := by
  have htab := tabClass_mem s.level
  have hpane := paneClass_mem s.level
  have once : ∀ {cls : String}, cls ∈ switcherClasses → ∀ (f : Nat → Bool) (p : Path) (x : Element),
      (x.modify (activate cls f) p).modify (activate cls f) p = x.modify (activate cls f) p := by
    intro cls hc f p x
    have htwice : activate cls f ∘ activate cls f = activate cls f :=
      funext fun y => activate_twice hc f y
    rw [modify_modify, htwice]
  unfold Switch.apply
  cases s.header with
  | none => exact once hpane _ _ e
  | some h =>
    dsimp only
    by_cases hb : s.scope ++ [h] = s.scope ++ [s.body]
    · -- one region is both header and body, and its children may be tabs and panes at once
      rw [hb]
      simp only [modify_modify]
      refine congrArg (fun f => modify f _ e) (funext fun x => ?_)
      exact activate_activate htab hpane ..
    · rw [modify_comm (Ne.symm hb), once hpane, once htab]

/-! ## Active elements -/

mutual

/-- Trees of one shape with the same answers at the same paths have the same paths to them. -/
theorem pathsWhere_congr {p : Element → Bool} : ∀ {a b : Element},
    (∀ q, Option.Rel (fun x y => p x = p y) (a.at? q) (b.at? q)) → a.pathsWhere p = b.pathsWhere p
  | .node as cs, .node bs ds, h => by
    have hroot : p (.node as cs) = p (.node bs ds) := by
      cases h [] with
      | some h => exact h
    have hchildren : pathsAmong p 0 cs = pathsAmong p 0 ds :=
      pathsAmong_congr 0 fun i q => h (i :: q)
    rw [pathsWhere, pathsWhere, hroot, hchildren]

theorem pathsAmong_congr {p : Element → Bool} : ∀ {cs ds : List Element} (i : Nat),
    (∀ (j : Nat) q,
      Option.Rel (fun x y => p x = p y) (cs[j]? >>= (at? · q)) (ds[j]? >>= (at? · q))) →
      pathsAmong p i cs = pathsAmong p i ds
  | [], [], _, _ => rfl
  | [], d :: ds, _, h => nomatch h 0 []
  | c :: cs, [], _, h => nomatch h 0 []
  | c :: cs, d :: ds, i, h => by
    rw [pathsAmong, pathsAmong, pathsWhere_congr fun q => h 0 q,
      pathsAmong_congr (i + 1) fun j q => h (j + 1) q]

end

/-! ## Clicks -/

theorem click_of_some {v : View} (h : switch? v.root target = some s) :
    v.click target = ⟨s.apply v.root, v.resizes + 1⟩ := by
  unfold View.click
  rw [h]

theorem click_of_none {v : View} (h : switch? v.root target = none) : v.click target = v := by
  unfold View.click
  rw [h]

/-- A click changes at most what is active. -/
theorem wired_click (v : View) (target : Path) : Wired v.root (v.click target).root := by
  cases h : switch? v.root target with
  | none => rw [click_of_none h]; exact .refl _
  | some s => rw [click_of_some h]; exact wired_apply s v.root

theorem resizes_click (v : View) (target : Path) :
    (v.click target).resizes = v.resizes + if (switch? v.root target).isSome then 1 else 0 := by
  cases h : switch? v.root target with
  | none => rw [click_of_none h]; rfl
  | some s => rw [click_of_some h]; rfl

/-- Clicks of different scopes can be exchanged. -/
theorem click_comm {v : View} {a b : Path} {la lb : Level} {sa sb : Path}
    (ha : resolve? v.root a = some (la, sa)) (hb : resolve? v.root b = some (lb, sb))
    (hne : sa ≠ sb) : (v.click a).click b = (v.click b).click a := by
  have hba : switch? (v.click a).root b = switch? v.root b := (wired_click v a).switch? b
  have hab : switch? (v.click b).root a = switch? v.root a := (wired_click v b).switch? a
  cases hs : switch? v.root a with
  | none =>
    rw [hs] at hab
    rw [click_of_none hs, click_of_none hab]
  | some s =>
    rw [hs] at hab
    cases ht : switch? v.root b with
    | none =>
      rw [ht] at hba
      rw [click_of_none ht, click_of_none hba]
    | some t =>
      rw [ht] at hba
      have hscopes : s.scope ≠ t.scope := by
        rw [resolve?_of_switch? hs] at ha
        rw [resolve?_of_switch? ht] at hb
        cases ha
        cases hb
        exact hne
      rw [click_of_some hba, click_of_some hab, click_of_some hs, click_of_some ht]
      exact congrArg (View.mk · _) (apply_comm hscopes v.root)

theorem active_eq {a b : View} (h : Wired a.root b.root)
    (hactive : ∀ q, isActive a.root q = isActive b.root q) : a.active = b.active := by
  refine pathsWhere_congr fun q => ?_
  have hq := hactive q
  have hrel := h q
  unfold isActive at hq
  revert hq hrel
  generalize a.root.at? q = x
  generalize b.root.at? q = y
  rintro hq (hab | _)
  · exact .some hq
  · exact .none

/-- Of two clicks that switch in one scope and level the second decides what is active. -/
theorem active_click_click {v : View} {a b : Path} {level : Level} {scope : Path}
    (ha : resolve? v.root a = some (level, scope)) (hb : resolve? v.root b = some (level, scope))
    (hs : (switch? v.root a).isSome = true) (ht : (switch? v.root b).isSome = true) :
    ((v.click a).click b).active = (v.click b).active := by
  obtain ⟨s, hs⟩ := Option.isSome_iff_exists.1 hs
  obtain ⟨t, ht⟩ := Option.isSome_iff_exists.1 ht
  have hst : t.level = s.level ∧ t.scope = s.scope := by
    rw [resolve?_of_switch? hs] at ha
    rw [resolve?_of_switch? ht, ← ha] at hb
    simpa using hb
  obtain ⟨hheader, hbody⟩ := regions_eq hs ht hst.1 hst.2
  have hba : switch? (v.click a).root b = some t := ((wired_click v a).switch? b).trans ht
  rw [click_of_some hba, click_of_some ht, click_of_some hs]
  refine active_eq ?_ fun q => isActive_apply_apply hst.1 hst.2 hheader hbody q
  exact ((wired_apply s _).trans (wired_apply t _)).symm.trans (wired_apply t _)

/-- What a click resolves to does not depend on earlier clicks. Two clicks of different scopes can be
exchanged. Of two clicks of one scope and level that both find a pane the second decides what is
active, and a click that is repeated changes nothing but the number of resizes. -/
theorem clicks_of_scopes (v : View) :
    (∀ a b, resolve? (v.click a).root b = resolve? v.root b) ∧
      (∀ a b la lb sa sb, resolve? v.root a = some (la, sa) → resolve? v.root b = some (lb, sb) →
        sa ≠ sb → (v.click a).click b = (v.click b).click a) ∧
      (∀ a b level scope, resolve? v.root a = some (level, scope) →
        resolve? v.root b = some (level, scope) → (switch? v.root a).isSome = true →
        (switch? v.root b).isSome = true →
        ((v.click a).click b).active = (v.click b).active ∧
          ((v.click a).click b).resizes = (v.click b).resizes + 1) ∧
      ∀ a, ((v.click a).click a).root = (v.click a).root ∧
        ((v.click a).click a).resizes = v.resizes + if (switch? v.root a).isSome then 2 else 0 := by
  refine ⟨fun a b => (wired_click v a).resolve? b, fun a b la lb sa sb => click_comm,
    fun a b level scope ha hb hs ht => ⟨active_click_click ha hb hs ht, ?_⟩, fun a => ?_⟩
  · rw [resizes_click, resizes_click v a, resizes_click v b, (wired_click v a).switch? b, hs, ht]
    rfl
  · have haa : switch? (v.click a).root a = switch? v.root a := (wired_click v a).switch? a
    cases hs : switch? v.root a with
    | none =>
      rw [click_of_none hs, click_of_none hs]
      exact ⟨rfl, rfl⟩
    | some s =>
      rw [hs] at haa
      rw [click_of_some haa, click_of_some hs]
      exact ⟨apply_apply s v.root, rfl⟩

/-- A container in a pane of another one. Both have the same id and the same names, and one region of
the inner one is header and body at once. -/
def nestedTwins : Element :=
  let tab (name : String) : Element :=
    .node [("class", "platform-tab"), ("data-platform", name), ("data-tabs-id", "a")] []
  let pane (cls name : String) (children : List Element) : Element :=
    .node [("class", cls), ("data-platform", name)] children
  .node [("class", "platform-tabs-container"), ("id", "a")] [
    .node [("class", "platform-tabs-header")] [tab "iOS", tab "Android"],
    .node [("class", "platform-tabs-content")] [
      pane "platform-content active" "iOS" [
        .node [("class", "code-sample-container"), ("id", "a")] [
          .node [("class", "platform-tabs-content platform-tabs-header")] [
            tab "iOS", tab "Android", pane "platform-content active" "Android" [],
            pane " platform-tab  platform-content" "iOS" []]]],
      pane "platform-content" "Android" []]]

theorem clicks_of_scopes_nestedTwins :
    let v : View := ⟨nestedTwins, 0⟩
    let outer := [0, 1]
    let inner := [1, 0, 0, 0, 1]
    let both := [1, 0, 0, 0, 3]
    resolve? v.root outer = some (.platform, []) ∧
      resolve? v.root inner = some (.platform, [1, 0, 0]) ∧
      resolve? v.root both = some (.platform, [1, 0, 0]) ∧
      (v.click outer).click inner = (v.click inner).click outer ∧
      ((v.click both).click inner).active = (v.click inner).active ∧
      ((v.click both).click inner).resizes = 2 ∧
      ((v.click both).click both).root = (v.click both).root := by
  intro v outer inner both
  have houter : resolve? v.root outer = some (.platform, []) := by decide
  have hinner : resolve? v.root inner = some (.platform, [1, 0, 0]) := by decide
  have hboth : resolve? v.root both = some (.platform, [1, 0, 0]) := by decide
  obtain ⟨-, hcomm, habsorb, hagain⟩ := clicks_of_scopes v
  obtain ⟨hactive, hcount⟩ := habsorb both inner _ _ hboth hinner (by decide) (by decide)
  exact ⟨houter, hinner, hboth, hcomm outer inner _ _ _ _ houter hinner (by decide), hactive,
    hcount.trans (by decide), (hagain both).1⟩

end DocTabs.Switcher
