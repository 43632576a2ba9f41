/-
What a click aims at: the button under it, the button's scope, and the first body region there, each said
by its place in the tree. A click that finds a pane with the button's name in that region switches to it,
and any other click does nothing. A switch changes the active class and nothing else, and this only in the
scope's first header region and first body region.
-/
import DocTabs.Proofs.Switcher.Remaining

namespace DocTabs.Switcher

open Tabs Element

/-! ## Places in a tree -/

/-- The path leads to the innermost element with a property at or around another element. -/
def Innermost (root : Element) (P : Element → Prop) (path q : Path) : Prop :=
  q <+: path ∧ (∃ e, root.at? q = some e ∧ P e) ∧
    ∀ q' e, q' <+: path → q.length < q'.length → root.at? q' = some e → ¬ P e

/-- Of the children of a class in the element at `q`, the one at position `i` has `k` before it. -/
def IsNth (root : Element) (cls : String) (q : Path) (k i : Nat) : Prop :=
  isOf root cls (q ++ [i]) = true ∧ (List.range i).countP (fun j => isOf root cls (q ++ [j])) = k

/-- A scope root whose id is another one than the scope that a button names. -/
def Rejects (level : Level) (b e : Element) : Prop :=
  ∃ s, b.attr? level.scopeAttribute = some s ∧ s ≠ "" ∧ e.id ≠ "" ∧ e.id ≠ s

/-- A button, its scope, and a position of a body region in it. -/
structure Aim where
  level : Level
  button : Path
  scope : Path
  body : Nat

namespace Aim

/-- What a click on an element aims at. Platform buttons come before language buttons, and scope roots
that reject the button are skipped. -/
structure Of (a : Aim) (root : Element) (target : Path) : Prop where
  button : Innermost root (fun e => e.hasClass a.level.tabClass = true) target a.button
  first : a.level = .language → ∀ q, q <+: target → isOf root Level.platform.tabClass q = false
  scope : ∃ b, root.at? a.button = some b ∧
    Innermost root (fun e => isScopeRoot a.level e = true ∧ ¬ Rejects a.level b e) a.button a.scope
  body : IsNth root a.level.bodyClass a.scope 0 a.body

/-- The path of a child of the body region. -/
def pane (a : Aim) (i : Nat) : Path := a.scope ++ [a.body] ++ [i]

/-- A pane in the body region with the name of the button, or without a name if the button has none. -/
def Named (a : Aim) (root : Element) (i : Nat) : Prop :=
  isOf root a.level.paneClass (a.pane i) = true ∧
    nameAt root a.level (a.pane i) = nameAt root a.level a.button

/-- The button is in the first header region of the scope, at position `j` and with `k` tabs before it. -/
def IsTabAt (a : Aim) (root : Element) (h k j : Nat) : Prop :=
  IsNth root a.level.headerClass a.scope 0 h ∧ a.button = a.scope ++ [h] ++ [j] ∧
    IsNth root a.level.tabClass (a.scope ++ [h]) k j

/-- A pane with as many panes before it as the button has tabs before it. -/
def InPlace (a : Aim) (root : Element) (i : Nat) : Prop :=
  ∃ h k j, a.IsTabAt root h k j ∧ IsNth root a.level.paneClass (a.scope ++ [a.body]) k i

/-- The pane that the button shows: the one in its own place if it has the button's name, and otherwise
the first one of this name. -/
def Shows (a : Aim) (root : Element) (i : Nat) : Prop :=
  a.Named root i ∧ (a.InPlace root i ∨
    (∀ j, a.InPlace root j → ¬ a.Named root j) ∧ ∀ j < i, ¬ a.Named root j)

/-- A tab in the first header region of the scope. -/
def IsTab (a : Aim) (root : Element) (q : Path) : Prop :=
  ∃ h i, IsNth root a.level.headerClass a.scope 0 h ∧ q = a.scope ++ [h] ++ [i] ∧
    isOf root a.level.tabClass q = true

/-- A pane in the body region. -/
def IsPane (a : Aim) (root : Element) (q : Path) : Prop :=
  ∃ i, q = a.pane i ∧ isOf root a.level.paneClass q = true

end Aim

/-! ## Searches -/

section Search

variable {root : Element} {p : Element → Bool} {P : Element → Prop} {path q : Path}

theorem closest_iff_innermost (hP : ∀ e, p e = true ↔ P e) :
    root.closest p path = some q ↔ Innermost root P path q := by
  rw [closest_eq_some, Innermost, Option.any_eq_true]
  refine and_congr Iff.rfl (and_congr ?_ ?_)
  · simp only [hP]
  · refine forall_congr' fun q' => ?_
    constructor
    · intro h e hq' hlt he hPe
      have := h hq' hlt
      rw [he, Option.any_some, (hP e).2 hPe] at this
      cases this
    · intro h hq' hlt
      cases he : root.at? q' with
      | none => rfl
      | some e => exact Bool.eq_false_iff.2 fun hp => h e hq' hlt he ((hP e).1 hp)

theorem closest_eq_none_iff_isOf {cls : String} :
    root.closest (·.hasClass cls) path = none ↔ ∀ q, q <+: path → isOf root cls q = false :=
  closest_eq_none

theorem accepts_iff {level : Level} {b e : Element} :
    accepts (b.attr? level.scopeAttribute) e = true ↔ ¬ Rejects level b e := by
  unfold accepts Rejects
  cases b.attr? level.scopeAttribute with
  | none => simp
  | some s =>
    simp only [Bool.or_eq_true, String.isEmpty_iff, beq_iff_eq, Option.some.injEq, exists_eq_left']
    tauto

theorem filter_range_getElem? {f : Nat → Bool} {n i : Nat} (hi : i < n) (hf : f i = true) :
    ((List.range n).filter f)[(List.range i).countP f]? = some i := by
  obtain ⟨m, rfl⟩ := Nat.exists_eq_add_of_lt hi
  rw [Nat.add_assoc, List.range_add, List.filter_append, List.countP_eq_length_filter,
    List.getElem?_append_right (Nat.le_refl _), Nat.sub_self, Nat.add_comm m, List.range_add]
  simp [hf, List.range_succ]

theorem getElem?_filter_range {f : Nat → Bool} {n k i : Nat} :
    ((List.range n).filter f)[k]? = some i ↔ i < n ∧ f i = true ∧ (List.range i).countP f = k := by
  constructor
  · intro h
    obtain ⟨hmem, hf⟩ := List.mem_filter.1 (List.mem_of_getElem? h)
    have hi := List.mem_range.1 hmem
    have hlt := (List.getElem?_eq_some_iff.1 h).1
    have hsame := h.trans (filter_range_getElem? hi hf).symm
    exact ⟨hi, hf, ((List.getElem?_inj hlt (List.nodup_range.filter f)).1 hsame).symm⟩
  · rintro ⟨hi, hf, rfl⟩
    exact filter_range_getElem? hi hf

theorem positions_getElem? {e : Element} {cls : String} (he : root.at? q = some e) {k i : Nat} :
    (positions cls e)[k]? = some i ↔ IsNth root cls q k i := by
  have hchild : ∀ j : Nat, (e.children[j]?).any (·.hasClass cls) = isOf root cls (q ++ [j]) :=
    fun j => by rw [isOf, at?_child he]
  simp only [positions, getElem?_filter_range, hchild]
  rw [IsNth, and_iff_right_iff_imp]
  exact fun h => lt_of_isOf h.1 (by rw [he]; rfl)

theorem head?_positions {e : Element} {cls : String} (he : root.at? q = some e) {i : Nat} :
    (positions cls e).head? = some i ↔ IsNth root cls q 0 i := by
  rw [List.head?_eq_getElem?, positions_getElem? he]

theorem IsNth.unique {cls : String} {k i j : Nat} (hi : IsNth root cls q k i)
    (hj : IsNth root cls q k j) : i = j := by
  obtain ⟨x, hx, -⟩ := isOf_iff.1 hi.1
  obtain ⟨e, he⟩ := exists_above hx
  exact Option.some.inj (((positions_getElem? he).2 hi).symm.trans ((positions_getElem? he).2 hj))

end Search

/-! ## The aim of a click -/

section Click

variable {root : Element} {target : Path}

theorem button?_eq_some {level : Level} {q : Path} : button? root target = some (level, q) ↔
    Innermost root (fun e => e.hasClass level.tabClass = true) target q ∧
      (level = .language → ∀ p, p <+: target → isOf root Level.platform.tabClass p = false) := by
  have hfound : ∀ l : Level, root.closest (·.hasClass l.tabClass) target = some q ↔
      Innermost root (fun e => e.hasClass l.tabClass = true) target q := fun l =>
    closest_iff_innermost fun e => Iff.rfl
  rw [button?, Option.orElse_eq_orElse, Option.orElse_eq_or, Option.or_eq_some_iff, Option.map_eq_none_iff]
  simp only [Option.map_eq_some_iff, Prod.mk.injEq, exists_eq_right_right, hfound,
    closest_eq_none_iff_isOf]
  cases level with
  | platform => simp
  | language => simp [and_comm]

theorem scope?_eq_some {level : Level} {button q : Path} : scope? root level button = some q ↔
    ∃ b, root.at? button = some b ∧
      Innermost root (fun e => isScopeRoot level e = true ∧ ¬ Rejects level b e) button q := by
  rw [scope?, Option.bind_eq_bind, Option.bind_eq_some_iff]
  refine exists_congr fun b => and_congr_right fun _ => closest_iff_innermost fun e => ?_
  rw [Bool.and_eq_true, accepts_iff]

/-- The tabs of the first header region of an element, by their paths. -/
def tabsOf (level : Level) (scope : Path) (e : Element) : List Path :=
  match (positions level.headerClass e).head? with
  | some h => (((e.children[h]?).map (positions level.tabClass)).getD []).map (scope ++ [h, ·])
  | none => []

theorem tabsOf_getElem? {level : Level} {scope : Path} {e : Element} (he : root.at? scope = some e)
    {k : Nat} {q : Path} : (tabsOf level scope e)[k]? = some q ↔
      ∃ h j, IsNth root level.headerClass scope 0 h ∧ q = scope ++ [h] ++ [j] ∧
        IsNth root level.tabClass (scope ++ [h]) k j := by
  unfold tabsOf
  cases hh : (positions level.headerClass e).head? with
  | none =>
    rw [List.getElem?_nil]
    refine ⟨nofun, fun ⟨h, _, hnth, _⟩ => ?_⟩
    rw [(head?_positions he).2 hnth] at hh
    cases hh
  | some h =>
    have hnth := (head?_positions he).1 hh
    obtain ⟨x, hx, -⟩ := isOf_iff.1 hnth.1
    have hcons : ∀ j, scope ++ [h, j] = scope ++ [h] ++ [j] := fun j => by simp
    dsimp only
    rw [← at?_child he, hx, Option.map_some, Option.getD_some, List.getElem?_map]
    simp only [Option.map_eq_some_iff, positions_getElem? hx, hcons]
    constructor
    · rintro ⟨j, hj, rfl⟩
      exact ⟨h, j, hnth, rfl, hj⟩
    · rintro ⟨h', j, hnth', rfl, hj⟩
      obtain rfl := hnth.unique hnth'
      exact ⟨j, hj, rfl⟩

/-- The number of tabs before the button, if it is one of the tabs of the first header region. -/
theorem findIdx?_tabsOf {level : Level} {scope : Path} {e : Element} (he : root.at? scope = some e)
    {k : Nat} {q : Path} : (tabsOf level scope e).findIdx? (· == q) = some k ↔
      ∃ h j, IsNth root level.headerClass scope 0 h ∧ q = scope ++ [h] ++ [j] ∧
        IsNth root level.tabClass (scope ++ [h]) k j := by
  rw [← tabsOf_getElem? he, List.findIdx?_eq_some_iff_getElem]
  constructor
  · rintro ⟨hk, heq, -⟩
    rw [List.getElem?_eq_getElem hk, beq_iff_eq.1 heq]
  · intro h
    obtain ⟨hk, heq⟩ := List.getElem?_eq_some_iff.1 h
    refine ⟨hk, beq_iff_eq.2 heq, fun i hi hbeq => ?_⟩
    -- an equal path before would have fewer tabs before it
    have hsame : (tabsOf level scope e)[i]? = some q := by
      rw [List.getElem?_eq_getElem (Nat.lt_trans hi hk), beq_iff_eq.1 hbeq]
    obtain ⟨h₁, j₁, hn₁, rfl, ht₁⟩ := (tabsOf_getElem? he).1 hsame
    obtain ⟨h₂, j₂, hn₂, hq, ht₂⟩ := (tabsOf_getElem? he).1 h
    obtain rfl := hn₁.unique hn₂
    obtain rfl : j₁ = j₂ := by simpa using hq
    have := ht₁.2.symm.trans ht₂.2
    omega

/-- What a search for a switch goes through. -/
theorem switch?_eq (root : Element) (target : Path) : switch? root target = do
    let (level, button) ← button? root target
    let scope ← scope? root level button
    let b ← root.at? button
    let e ← root.at? scope
    let body ← (positions level.bodyClass e).head?
    let pane ← pane? level ((tabsOf level scope e).findIdx? (· == button))
      (b.attr? level.nameAttribute) (← e.children[body]?)
    return ⟨level, scope, button, (positions level.headerClass e).head?, body, pane⟩ := rfl

/-- The aim of a switch. -/
def Switch.aim (s : Switch) : Aim := ⟨s.level, s.button, s.scope, s.body⟩

/-- The pane that is found for a button is the one that it shows. -/
theorem shows_of_pane? {a : Aim} {b e c : Element} (hb : root.at? a.button = some b)
    (he : root.at? a.scope = some e) (hc : root.at? (a.scope ++ [a.body]) = some c) {i : Nat}
    (h : pane? a.level ((tabsOf a.level a.scope e).findIdx? (· == a.button))
      (b.attr? a.level.nameAttribute) c = some i) : a.Shows root i := by
  let named (j : Nat) := (c.children[j]?).any
    (·.attr? a.level.nameAttribute == b.attr? a.level.nameAttribute)
  have hnamed : ∀ j, a.Named root j ↔ isOf root a.level.paneClass (a.pane j) = true ∧ named j = true := by
    intro j
    refine and_congr_right fun hj => ?_
    obtain ⟨x, hx, -⟩ := isOf_iff.1 hj
    rw [nameAt_eq hx, nameAt_eq hb, ← beq_iff_eq]
    simp only [named]
    rw [← at?_child hc, ← Aim.pane, hx, Option.any_some]
  have hplace : ∀ j, a.InPlace root j ↔
      ((tabsOf a.level a.scope e).findIdx? (· == a.button) >>=
        ((positions a.level.paneClass c)[·]?)) = some j := by
    intro j
    simp only [Option.bind_eq_bind, Option.bind_eq_some_iff, findIdx?_tabsOf he, positions_getElem? hc]
    exact ⟨fun ⟨h, k, i, ht, hp⟩ => ⟨k, ⟨h, i, ht⟩, hp⟩, fun ⟨k, ⟨h, i, ht⟩, hp⟩ => ⟨h, k, i, ht, hp⟩⟩
  obtain ⟨hmem, hname⟩ := pane?_eq_some h
  refine ⟨(hnamed i).2 ⟨(mem_positions hc).1 hmem, hname⟩, ?_⟩
  dsimp only [pane?] at h
  rw [Option.orElse_eq_orElse, Option.orElse_eq_or, Option.or_eq_some_iff] at h
  rcases h with h | ⟨hnone, h⟩
  · exact .inl ((hplace i).2 (Option.filter_eq_some_iff.1 h).1)
  · refine .inr ⟨fun j hj hnj => ?_, fun j hj hnj => ?_⟩
    · exact Option.filter_eq_none_iff.1 hnone j ((hplace j).1 hj) ((hnamed j).1 hnj).2
    · -- the search goes through the positions in ascending order
      have hjmem := (List.mem_filter.1 ((mem_positions hc).2 ((hnamed j).1 hnj).1)).2
      rw [positions, List.find?_filter, List.find?_range_eq_some] at h
      have hskip := h.2.2 j hj
      rw [Bool.not_eq_true', decide_eq_false_iff_not] at hskip
      exact hskip ⟨hjmem, ((hnamed j).1 hnj).2⟩

/-- A switch has the aim of the click, and shows the pane that the button shows. -/
theorem aim_of_switch? {s : Switch} (h : switch? root target = some s) : s.aim.Of root target ∧
    s.aim.Shows root s.pane ∧ ∀ i, s.header = some i ↔ IsNth root s.level.headerClass s.scope 0 i := by
  rw [switch?_eq] at h
  simp only [Option.bind_eq_bind, Option.bind_eq_some_iff] at h
  obtain ⟨⟨level, button⟩, hbutton, scope, hscope, b, hb, e, he, body, hbody, c, hc, pane, hpane,
    h⟩ := h
  cases h
  obtain ⟨hinner, hfirst⟩ := button?_eq_some.1 hbutton
  refine ⟨⟨hinner, hfirst, scope?_eq_some.1 hscope, (head?_positions he).1 hbody⟩, ?_,
    fun i => head?_positions he⟩
  exact shows_of_pane? hb he ((at?_child he body).trans hc) hpane

/-- A click whose aim has a pane of the button's name finds a switch. -/
theorem Aim.Of.exists_switch {a : Aim} (ha : a.Of root target) {i : Nat} (hi : a.Named root i) :
    ∃ s, switch? root target = some s ∧ s.aim = a := by
  obtain ⟨b, hb, hscope⟩ := ha.scope
  obtain ⟨-, ⟨e, he, -⟩, -⟩ := hscope
  obtain ⟨c, hc, -⟩ := isOf_iff.1 ha.body.1
  obtain ⟨x, hx, -⟩ := isOf_iff.1 hi.1
  have hname : (c.children[i]?).any (·.attr? a.level.nameAttribute == b.attr? a.level.nameAttribute) =
      true := by
    rw [← at?_child hc, ← Aim.pane, hx, Option.any_some, beq_iff_eq, ← nameAt_eq hx, ← nameAt_eq hb]
    exact hi.2
  obtain ⟨k, hk⟩ := exists_pane? ((tabsOf a.level a.scope e).findIdx? (· == a.button))
    ((mem_positions hc).2 hi.1) hname
  refine ⟨⟨a.level, a.scope, a.button, (positions a.level.headerClass e).head?, a.body, k⟩, ?_, rfl⟩
  rw [switch?_eq, button?_eq_some.2 ⟨ha.button, ha.first⟩]
  simp only [Option.bind_eq_bind, Option.bind_some, scope?_eq_some.2 ha.scope, hb, he,
    (head?_positions he).2 ha.body, ← at?_child he, hc, hk]
  rfl

end Click

/-! ## What a switch changes -/

/-- Elements that differ in the active class and below their children at most. -/
structure Marked (a b : Element) : Prop where
  attr : ∀ n, n ≠ "class" → b.attr? n = a.attr? n
  classes : b.classes.filter (· ≠ activeClass) = a.classes.filter (· ≠ activeClass)
  length : b.children.length = a.children.length

theorem Marked.trans {a b c : Element} (h : Marked a b) (h' : Marked b c) : Marked a c where
  attr n hn := (h'.attr n hn).trans (h.attr n hn)
  classes := h'.classes.trans h.classes
  length := h'.length.trans h.length

theorem marked_of_sameNode {a b : Element} (h : SameNode a b) : Marked a b where
  attr n _ := h.attr?_eq n
  classes := by rw [classes, classes, h.attr?_eq]
  length := h.2.symm

theorem marked_toggle (on : Bool) (e : Element) : Marked e (e.toggle activeClass on) where
  attr n hn := attr?_toggle hn ..
  classes := by
    by_cases h : e.hasClass activeClass = on
    · rw [toggle_of_eq h]
    · rw [classes_toggle_of_ne className_active h, withClass]
      split <;> simp
  length := by rw [children_toggle]

/-- A switch changes at most the active class of an element. -/
theorem marked_apply (s : Switch) (root : Element) (q : Path) :
    Option.Rel Marked (root.at? q) ((s.apply root).at? q) :=
  rel_apply (fun _ _ => marked_of_sameNode) marked_toggle (fun _ _ _ => Marked.trans) s root q

theorem Aim.Of.unique {root : Element} {target : Path} {a b : Aim} (ha : a.Of root target)
    (hb : b.Of root target) : a = b := by
  obtain ⟨level, button, scope, body⟩ := a
  obtain ⟨level', button', scope', body'⟩ := b
  have hbutton := (button?_eq_some.2 ⟨ha.button, ha.first⟩).symm.trans
    (button?_eq_some.2 ⟨hb.button, hb.first⟩)
  obtain ⟨rfl, rfl⟩ := Prod.mk.inj (Option.some.inj hbutton)
  obtain rfl := Option.some.inj ((scope?_eq_some.2 ha.scope).symm.trans (scope?_eq_some.2 hb.scope))
  obtain rfl := ha.body.unique hb.body
  rfl

/-- What a switch touches are the tabs and the panes of its aim. -/
theorem touches_aim {root : Element} {s : Switch} {q : Path}
    (hheader : ∀ i, s.header = some i ↔ IsNth root s.level.headerClass s.scope 0 i) :
    s.Touches root q ↔ s.aim.IsTab root q ∨ s.aim.IsPane root q := by
  unfold Switch.Touches
  simp only [hheader]
  rfl

/-- What a click does is decided by its aim. Where the aim has no pane of the button's name, or where
there is none, the click does nothing. Else it measures the layout once, it changes at most the active
class, and this of the tabs and the panes that are aimed at only, and of the panes the one that the
button shows is active after it. -/
theorem click_effect (v : View) (target : Path) :
    (∀ a b : Aim, a.Of v.root target → b.Of v.root target → a = b) ∧
      ((∀ a : Aim, a.Of v.root target → ∀ i, ¬ a.Named v.root i) → v.click target = v) ∧
      ∀ a : Aim, a.Of v.root target → (∃ i, a.Named v.root i) →
        (v.click target).resizes = v.resizes + 1 ∧
        (∀ q, Option.Rel Marked (v.root.at? q) ((v.click target).root.at? q)) ∧
        (∀ q, ¬ a.IsTab v.root q → ¬ a.IsPane v.root q →
          Option.Rel SameNode (v.root.at? q) ((v.click target).root.at? q)) ∧
        ∃ i, a.Shows v.root i ∧ ∀ j, isOf v.root a.level.paneClass (a.pane j) = true →
          (isActive (v.click target).root (a.pane j) = true ↔ j = i) := by
  refine ⟨fun a b => Aim.Of.unique, fun hnone => ?_, fun a ha ⟨i, hi⟩ => ?_⟩
  · cases hs : switch? v.root target with
    | none => exact click_of_none hs
    | some s =>
      obtain ⟨hof, hshows, -⟩ := aim_of_switch? hs
      exact absurd hshows.1 (hnone _ hof _)
  · obtain ⟨s, hs, rfl⟩ := ha.exists_switch hi
    obtain ⟨-, hshows, hheader⟩ := aim_of_switch? hs
    rw [click_of_some hs]
    refine ⟨rfl, marked_apply s v.root, fun q htab hpane => ?_, s.pane, hshows, fun j hj => ?_⟩
    · refine sameNode_apply_of_not_touches fun ht => ?_
      exact ((touches_aim hheader).1 ht).elim htab hpane
    · have hpath : s.aim.pane j = s.scope ++ [s.body, j] := by simp [Aim.pane, Switch.aim]
      rw [hpath] at hj ⊢
      rw [isActive_apply_pane j hj, beq_iff_eq]

end DocTabs.Switcher
