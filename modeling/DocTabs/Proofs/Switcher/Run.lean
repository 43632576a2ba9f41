/-
Runs of clicks on a tree whose buttons all belong to tab sets. One click sets a tab set to the
button that it presses and leaves the tab sets whose buttons it does not press; so a run leaves each
tab set with the last button pressed in it.
-/
import DocTabs.Proofs.Switcher.TabSet

namespace DocTabs.Switcher

open Tabs Element

/-- Of the buttons and of the panes of a tab set the ones at index `k` are active and no others. -/
def Shows (root : Element) (scope : Path) (k : Nat) : Prop :=
  ∀ i, isActive root (scope ++ [0, i]) = (i == k) ∧ isActive root (scope ++ [1, i]) = (i == k)

/-- The index that a tab set shows after some clicks: the last of its buttons that was pressed, or
the one it started with. -/
def shown (scope : Path) (n initial : Nat) (clicks : List Path) : Nat :=
  ((clicks.filterMap (pressed? scope n)).getLast?).getD initial

theorem shown_cons (scope : Path) (n initial : Nat) (target : Path) (clicks : List Path) :
    shown scope n initial (target :: clicks) =
      shown scope n ((pressed? scope n target).getD initial) clicks := by
  unfold shown
  rw [List.filterMap_cons]
  cases pressed? scope n target with
  | none => rfl
  | some i => rw [List.getLast?_cons]; rfl

theorem path_inj {p p' : Path} {a b i j : Nat} (h : p ++ [a, i] = p' ++ [b, j]) :
    p = p' ∧ a = b ∧ i = j := by
  obtain ⟨hp, ht⟩ := List.append_inj' h rfl
  simpa [hp] using ht

variable {root e h b : Element} {scope : Path} {level : Level} {names : List String}

/-! ## One click -/

/-- A click keeps the wiring, and counts if it leads to or into a button. -/
theorem click_counts (hw : WellTabbed root) {v : View} (hv : Wired root v.root) (target : Path) :
    Wired root (v.click target).root ∧
      (v.click target).resizes = v.resizes + if onTab root target then 1 else 0 := by
  unfold View.click
  rw [hv.switch?]
  cases hn : onTab root target with
  | false => rw [switch?_none hn]; exact ⟨hv, rfl⟩
  | true =>
    obtain ⟨level, scope, names, e, h, b, i, hs, ht, hi⟩ := hw.exists_pressed hn
    rw [hw.switch?_some ht hs hi]
    exact ⟨hv.trans (wired_apply _ _), rfl⟩

/-- Behind the last button and the last pane of a tab set nothing is active. -/
theorem HoldsTabs.isActive_end (ht : HoldsTabs level names e h b) (hs : root.at? scope = some e)
    {r : Element} (hr : Wired root r) {i : Nat} (hi : names.length ≤ i) :
    isActive r (scope ++ [0, i]) = false ∧ isActive r (scope ++ [1, i]) = false := by
  have htab : root.at? (scope ++ [0, i]) = none := by
    rw [ht.at?_tab hs, List.getElem?_eq_none (ht.tabs_length ▸ hi)]
  have hpane : root.at? (scope ++ [1, i]) = none := by
    rw [ht.at?_pane hs, List.getElem?_eq_none (ht.panes_length ▸ hi)]
  exact ⟨by rw [isActive, hr.at?_none htab]; rfl, by rw [isActive, hr.at?_none hpane]; rfl⟩

/-- A switch to an index of a tab set makes exactly this index active. -/
theorem HoldsTabs.shows_apply (ht : HoldsTabs level names e h b) (hs : root.at? scope = some e)
    {r : Element} (hr : Wired root r) {i : Nat} (hi : i < names.length) :
    Shows ((⟨level, scope, scope ++ [0, i], some 0, 1, i⟩ : Switch).apply r) scope i := by
  intro j
  rcases Nat.lt_or_ge j names.length with hj | hj
  · have htab : (r.at? (scope ++ [0, j])).any (·.hasClass level.tabClass) = true := by
      rw [hr.any_at? fun x y hxy => hxy.hasClass _ (tabClass_mem level)]
      exact ht.isTab hs hj
    have hpane : (r.at? (scope ++ [1, j])).any (·.hasClass level.paneClass) = true := by
      obtain ⟨p, hp⟩ := ht.exists_pane hj
      rw [hr.any_at? fun x y hxy => hxy.hasClass _ (paneClass_mem level), ht.at?_pane hs, hp]
      exact (ht.pane j p hp).1.hasClass (paneClass_mem level)
    have hbutton : (scope ++ [0, j] == scope ++ [0, i]) = (j == i) := by
      rw [Bool.eq_iff_iff, beq_iff_eq, beq_iff_eq]
      exact ⟨fun he => (path_inj he).2.2, fun he => by rw [he]⟩
    exact ⟨(isActive_apply_tab rfl Nat.zero_ne_one j htab).trans hbutton,
      isActive_apply_pane (s := ⟨level, scope, scope ++ [0, i], some 0, 1, i⟩) j hpane⟩
  · have hji : (j == i) = false := beq_false_of_ne (Nat.ne_of_gt (Nat.lt_of_lt_of_le hi hj))
    rw [hji]
    exact ht.isActive_end hs (hr.trans (wired_apply _ _)) hj

/-- A switch leaves the tab sets of other scopes. -/
theorem Shows.apply_other {r : Element} {k : Nat} (hk : Shows r scope k) {s : Switch}
    (hh : s.header = some 0) (hne : scope ≠ s.scope) : Shows (s.apply r) scope k := by
  have hpath : ∀ a i b j, scope ++ [a, i] ≠ s.scope ++ [b, j] :=
    fun _ _ _ _ he => hne (path_inj he).1
  have hkeep : ∀ a i, isActive (s.apply r) (scope ++ [a, i]) = isActive r (scope ++ [a, i]) :=
    fun a i => isActive_apply hh (fun j => hpath a i 0 j) (fun j => hpath a i s.body j)
  intro i
  rw [hkeep, hkeep]
  exact hk i

/-- After a click a tab set shows the button that was pressed in it, if one was. -/
theorem Shows.click (hw : WellTabbed root) (ht : HoldsTabs level names e h b)
    (hs : root.at? scope = some e) {v : View} (hv : Wired root v.root) {k : Nat}
    (hk : Shows v.root scope k) (target : Path) :
    Shows (v.click target).root scope ((pressed? scope names.length target).getD k) := by
  unfold View.click
  rw [hv.switch?]
  cases hi : pressed? scope names.length target with
  | some i =>
    -- whatever was active before, the switch decides every index of this tab set
    rw [hw.switch?_some ht hs hi]
    exact ht.shows_apply hs hv (pressed?_eq_some.1 hi).1
  | none =>
    cases hn : onTab root target with
    | false => rw [switch?_none hn]; exact hk
    | true =>
      obtain ⟨level', scope', names', e', h', b', j, hs', ht', hj⟩ := hw.exists_pressed hn
      rw [hw.switch?_some ht' hs' hj]
      refine hk.apply_other rfl ?_
      rintro rfl
      -- one element holds one tab set, so the button would have been pressed in this one
      obtain rfl := Option.some.inj (hs.symm.trans hs')
      obtain ⟨rfl, -⟩ := List.cons.inj (ht.children.symm.trans ht'.children)
      rw [← ht'.tabs_length, ht.tabs_length, hi] at hj
      cases hj

/-! ## Many clicks -/

theorem clicks_count (hw : WellTabbed root) (clicks : List Path) {v : View}
    (hv : Wired root v.root) :
    (clicks.foldl View.click v).resizes = v.resizes + clicks.countP (onTab root) := by
  induction clicks generalizing v with
  | nil => rfl
  | cons target clicks ih =>
    obtain ⟨hwired, hcount⟩ := click_counts hw hv target
    rw [List.foldl_cons, ih hwired, hcount, List.countP_cons]
    omega

theorem Shows.clicks (hw : WellTabbed root) (ht : HoldsTabs level names e h b)
    (hs : root.at? scope = some e) (clicks : List Path) {v : View} (hv : Wired root v.root) {k : Nat}
    (hk : Shows v.root scope k) :
    Shows (clicks.foldl View.click v).root scope (shown scope names.length k clicks) := by
  induction clicks generalizing v k with
  | nil => exact hk
  | cons target clicks ih =>
    rw [List.foldl_cons, shown_cons]
    exact ih (click_counts hw hv target).1 (hk.click hw ht hs hv target)

end DocTabs.Switcher
