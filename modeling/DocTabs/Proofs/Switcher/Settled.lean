/-
What a click that switches leaves behind. One pane of the body is active, and it has the button's name.
The tabs come from another list than the button: they are the children of the first header region, while
the button may be anywhere in the scope. A button that is not one of them is not made active.
-/
import DocTabs.Proofs.Switcher.Aim

namespace DocTabs.Switcher

open Tabs Element

/-- The button is the only active tab of the header, and the only active pane of the body has its
name. -/
structure Aim.Settled (a : Aim) (root : Element) : Prop where
  button : isActive root a.button = true
  tab : ∀ q, a.IsTab root q → isActive root q = true → q = a.button
  pane : ∃ i, a.Named root i ∧
    ∀ j, isOf root a.level.paneClass (a.pane j) = true → (isActive root (a.pane j) = true ↔ j = i)

/-! ## The aim after a click -/

section Wired

variable {r r' : Element} {a : Aim}

theorem Wired.isNth (h : Wired r r') {cls : String} (hc : cls ∈ switcherClasses) {q : Path} {k i : Nat} :
    IsNth r' cls q k i ↔ IsNth r cls q k i := by
  simp only [IsNth, h.isOf hc]

theorem Wired.isTab (h : Wired r r') {q : Path} : a.IsTab r' q ↔ a.IsTab r q := by
  simp only [Aim.IsTab, h.isNth (headerClass_mem _), h.isOf (tabClass_mem _)]

theorem Wired.named (h : Wired r r') {i : Nat} : a.Named r' i ↔ a.Named r i := by
  simp only [Aim.Named, h.isOf (paneClass_mem _), h.nameAt]

end Wired

/-! ## What is active after a switch -/

section Switch

variable {root : Element} {target : Path} {s : Switch}

theorem pane_aim (i : Nat) : s.aim.pane i = s.scope ++ [s.body, i] :=
  List.append_assoc ..

theorem isActive_apply_aim_pane {j : Nat} (hj : isOf root s.level.paneClass (s.aim.pane j) = true) :
    isActive (s.apply root) (s.aim.pane j) = true ↔ j = s.pane := by
  rw [pane_aim] at hj ⊢
  rw [isActive_apply_pane j hj, beq_iff_eq]

theorem isActive_apply_isPane {q : Path} (hq : s.aim.IsPane root q) :
    isActive (s.apply root) q = true ↔ q = s.aim.pane s.pane := by
  obtain ⟨j, rfl, hj⟩ := hq
  rw [isActive_apply_aim_pane hj]
  simp [Aim.pane]

theorem isActive_apply_isTab (hheader : ∀ i, s.header = some i ↔ IsNth root s.level.headerClass s.scope 0 i)
    {q : Path} (hq : s.aim.IsTab root q) (hpane : ¬ s.aim.IsPane root q) :
    isActive (s.apply root) q = true ↔ q = s.button := by
  obtain ⟨h, i, hnth, rfl, htab⟩ := hq
  have hnot : h = s.body →
      (root.at? (s.scope ++ [h] ++ [i])).any (·.hasClass s.level.paneClass) = false := by
    rintro rfl
    exact Bool.eq_false_iff.2 fun hp => hpane ⟨i, rfl, hp⟩
  have hset := isActive_apply_tab_of_not_pane ((hheader h).2 hnth) htab hnot
  rw [show s.aim.scope = s.scope from rfl, hset, beq_iff_eq, List.append_assoc]
  rfl

/-- After a switch header and body agree exactly where the button was reached by it or active already, and
where no element that is tab and pane at once is set as the one and not as the other. -/
theorem settled_apply_iff (hs : switch? root target = some s) : s.aim.Settled (s.apply root) ↔
    (s.aim.IsTab root s.button ∨ s.aim.IsPane root s.button ∨ isActive root s.button = true) ∧
      (s.aim.IsPane root s.button → s.button = s.aim.pane s.pane) ∧
      (s.aim.IsTab root (s.aim.pane s.pane) → s.aim.pane s.pane = s.button) := by
  obtain ⟨-, hshows, hheader⟩ := aim_of_switch? hs
  have hwired := wired_apply s root
  have hshown : s.aim.IsPane root (s.aim.pane s.pane) := ⟨s.pane, rfl, hshows.1.1⟩
  constructor
  · intro h
    refine ⟨?_, fun hp => (isActive_apply_isPane hp).1 h.button, fun ht => ?_⟩
    · by_contra hnot
      obtain ⟨htab, hpane, hactive⟩ := by simpa only [not_or] using hnot
      refine hactive ((isActive_apply_of_not_touches fun ht => ?_).symm.trans h.button)
      exact ((touches_aim hheader).1 ht).elim htab hpane
    · exact h.tab _ (hwired.isTab.2 ht) ((isActive_apply_isPane hshown).2 rfl)
  · rintro ⟨hreached, hpane, htab⟩
    refine ⟨?_, fun q hq hactive => ?_, s.pane, hwired.named.2 hshows.1, fun j hj => ?_⟩
    · show isActive (s.apply root) s.button = true
      by_cases hp : s.aim.IsPane root s.button
      · exact (isActive_apply_isPane hp).2 (hpane hp)
      by_cases ht : s.aim.IsTab root s.button
      · exact (isActive_apply_isTab hheader ht hp).2 rfl
      · rw [isActive_apply_of_not_touches fun h => ((touches_aim hheader).1 h).elim ht hp]
        exact (hreached.resolve_left ht).resolve_left hp
    · have hq := hwired.isTab.1 hq
      by_cases hp : s.aim.IsPane root q
      · obtain rfl := (isActive_apply_isPane hp).1 hactive
        exact htab hq
      · exact (isActive_apply_isTab hheader hq hp).1 hactive
    · rw [hwired.isOf (paneClass_mem _)] at hj
      exact isActive_apply_aim_pane hj

end Switch

/-- A click that measures the layout has switched. Of the panes that it aims at the one that the button
shows is active, which has the button's name, and of the tabs only the button. Header and body agree
exactly where the button is one of these tabs or panes or was active before, and where an element that is
both is set as both. -/
theorem click_settles {v : View} {target : Path} (h : (v.click target).resizes ≠ v.resizes) :
    ∃ (a : Aim) (i : Nat), a.Of v.root target ∧ a.Shows v.root i ∧
      a.Named (v.click target).root i ∧
      (∀ j, isOf v.root a.level.paneClass (a.pane j) = true →
        (isActive (v.click target).root (a.pane j) = true ↔ j = i)) ∧
      (∀ q, a.IsTab v.root q → ¬ a.IsPane v.root q →
        (isActive (v.click target).root q = true ↔ q = a.button)) ∧
      (a.Settled (v.click target).root ↔
        (a.IsTab v.root a.button ∨ a.IsPane v.root a.button ∨ isActive v.root a.button = true) ∧
          (a.IsPane v.root a.button → a.button = a.pane i) ∧
          (a.IsTab v.root (a.pane i) → a.pane i = a.button)) := by
  cases hs : switch? v.root target with
  | none => exact absurd (congrArg View.resizes (click_of_none hs)) h
  | some s =>
    obtain ⟨hof, hshows, hheader⟩ := aim_of_switch? hs
    rw [click_of_some hs]
    exact ⟨s.aim, s.pane, hof, hshows, (wired_apply s v.root).named.2 hshows.1,
      fun j hj => isActive_apply_aim_pane hj, fun q hq hp => isActive_apply_isTab hheader hq hp,
      settled_apply_iff hs⟩

/-- A tab set with the tab of its first pane inside another element. -/
def wrappedTab : View where
  root := .node [("class", "platform-tabs-container"), ("id", "a")] [
    .node [("class", "platform-tabs-header")] [
      .node [] [.node [("class", "platform-tab"), ("data-platform", "iOS"), ("data-tabs-id", "a")] []],
      .node [("class", "platform-tab active"), ("data-platform", "Android"), ("data-tabs-id", "a")] []],
    .node [("class", "platform-tabs-content")] [
      .node [("class", "platform-content"), ("data-platform", "iOS")] [],
      .node [("class", "platform-content active"), ("data-platform", "Android")] []]]

/-- The tab that is not wrapped takes the tab set back to where header and body agree. -/
theorem click_settles_wrappedTab :
    let v := wrappedTab.click [0, 0, 0]
    (v.click [0, 1]).resizes ≠ v.resizes ∧
      ∃ a : Aim, a.Of v.root [0, 1] ∧ a.Settled (v.click [0, 1]).root := by
  intro v
  have hs : switch? v.root [0, 1] = some ⟨.platform, [], [0, 1], some 0, 1, 1⟩ := by decide
  have hresizes : (v.click [0, 1]).resizes ≠ v.resizes := by decide
  obtain ⟨a, i, hof, -, -, -, -, hsettled⟩ := click_settles hresizes
  obtain rfl := hof.unique (aim_of_switch? hs).1
  have htab : Aim.IsTab (Switch.aim ⟨.platform, [], [0, 1], some 0, 1, 1⟩) v.root [0, 1] :=
    ⟨0, 1, by unfold IsNth; decide, rfl, by decide⟩
  refine ⟨hresizes, _, hof, hsettled.2 ⟨.inl htab, ?_, ?_⟩⟩
  · rintro ⟨j, hj, -⟩
    simp [Aim.pane, Switch.aim] at hj
  · rintro ⟨x, j, hx, hj, -⟩
    obtain rfl : 1 = x := by simpa [Aim.pane, Switch.aim] using congrArg List.head? hj
    exact absurd hx.1 (by decide)

/-- A click on the wrapped tab shows its pane and takes the active class from the other tab, but the
wrapped tab does not get it. -/
theorem wrappedTab_not_settled :
    (wrappedTab.click [0, 0, 0]).resizes = 1 ∧ wrappedTab.resizes = 0 ∧
      (wrappedTab.click [0, 0, 0]).active = [[1, 0]] ∧
      ∃ a : Aim, a.Of wrappedTab.root [0, 0, 0] ∧ a.button = [0, 0, 0] ∧
        ¬ a.Settled (wrappedTab.click [0, 0, 0]).root := by
  have hs : switch? wrappedTab.root [0, 0, 0] = some ⟨.platform, [], [0, 0, 0], some 0, 1, 0⟩ := by
    decide
  refine ⟨by decide, rfl, by decide, _, (aim_of_switch? hs).1, rfl, fun h => ?_⟩
  exact absurd h.button (by decide)

end DocTabs.Switcher
