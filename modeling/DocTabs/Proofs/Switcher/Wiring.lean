/-
What a click depends on and what it changes. A click finds its switch without looking at which
elements are active, and a switch changes nothing else: so every click of a run finds the switch
that it would have found on the page as it was loaded.
-/
import DocTabs.Proofs.Switcher.Element
import DocTabs.Switcher.Click

namespace DocTabs.Switcher

open Tabs Element

/-! ## The classes of the switcher -/

/-- The classes by which a click finds its way. -/
def switcherClasses : List String :=
  [Kind.plain, .sample].map Kind.rootClass ++
    [Level.platform, .language].flatMap fun l => [l.headerClass, l.tabClass, l.bodyClass, l.paneClass]

theorem rootClass_mem (kind : Kind) : kind.rootClass ∈ switcherClasses := by
  cases kind <;> decide

theorem headerClass_mem (level : Level) : level.headerClass ∈ switcherClasses := by
  cases level <;> decide

theorem tabClass_mem (level : Level) : level.tabClass ∈ switcherClasses := by
  cases level <;> decide

theorem bodyClass_mem (level : Level) : level.bodyClass ∈ switcherClasses := by
  cases level <;> decide

theorem paneClass_mem (level : Level) : level.paneClass ∈ switcherClasses := by
  cases level <;> decide

/-! ## Trees that differ in what is active -/

/-- Elements that differ in the active class and in what is in them, but in nothing else. -/
structure Resembles (a b : Element) : Prop where
  attr : ∀ n, n ≠ "class" → b.attr? n = a.attr? n
  hasClass : ∀ c ∈ switcherClasses, b.hasClass c = a.hasClass c

/-- Elements that look the same to the search for a switch. -/
structure Alike (a b : Element) : Prop extends Resembles a b where
  length : b.children.length = a.children.length

/-- Trees with alike elements at the same paths. -/
def Wired (r r' : Element) : Prop := ∀ q, Option.Rel Alike (r.at? q) (r'.at? q)

theorem Alike.refl (a : Element) : Alike a a := ⟨⟨fun _ _ => rfl, fun _ _ => rfl⟩, rfl⟩

theorem Alike.trans {a b c : Element} (h : Alike a b) (h' : Alike b c) : Alike a c where
  attr n hn := (h'.attr n hn).trans (h.attr n hn)
  hasClass n hn := (h'.hasClass n hn).trans (h.hasClass n hn)
  length := h'.length.trans h.length

theorem Alike.symm {a b : Element} (h : Alike a b) : Alike b a where
  attr n hn := (h.attr n hn).symm
  hasClass n hn := (h.hasClass n hn).symm
  length := h.length.symm

theorem Wired.refl (r : Element) : Wired r r := fun q => by
  cases r.at? q with
  | none => exact .none
  | some a => exact .some (.refl a)

theorem Wired.trans {a b c : Element} (h : Wired a b) (h' : Wired b c) : Wired a c := fun q =>
  rel_trans (fun _ _ _ => Alike.trans) (h q) (h' q)

theorem Wired.symm {a b : Element} (h : Wired a b) : Wired b a := fun q => by
  have hq := h q
  revert hq
  generalize a.at? q = x
  generalize b.at? q = y
  rintro (hxy | _)
  · exact .some hxy.symm
  · exact .none

theorem alike_of_sameNode {a b : Element} (h : SameNode a b) : Alike a b :=
  ⟨⟨fun n _ => h.attr?_eq n, fun c _ => h.hasClass_eq c⟩, h.2.symm⟩

theorem alike_toggle (on : Bool) (e : Element) : Alike e (e.toggle activeClass on) where
  length := by rw [children_toggle]
  attr n hn := attr?_toggle hn ..
  hasClass c hc := by
    rw [hasClass_toggle className_active, if_neg]
    rintro rfl
    exact absurd hc (by decide)

theorem wired_activate (cls : String) (chosen : Nat → Bool) (root : Element) (p : Path) :
    Wired root (root.modify (activate cls chosen) p) := fun _ =>
  rel_activate (fun _ _ => alike_of_sameNode) fun i c _ _ _ => alike_toggle (chosen i) c

/-- A relation between the elements before and after a switch need only be shown for a toggle of the
active class. -/
theorem rel_apply {R : Element → Element → Prop} (hsame : ∀ a b, SameNode a b → R a b)
    (htoggle : ∀ on e, R e (e.toggle activeClass on)) (htrans : ∀ a b c, R a b → R b c → R a c)
    (s : Switch) (root : Element) (q : Path) :
    Option.Rel R (root.at? q) ((s.apply root).at? q) := by
  unfold Switch.apply
  cases s.header with
  | none => exact rel_activate hsame fun _ c _ _ _ => htoggle _ c
  | some h =>
    exact rel_trans htrans (rel_activate hsame fun _ c _ _ _ => htoggle _ c)
      (rel_activate hsame fun _ c _ _ _ => htoggle _ c)

/-- A switch changes at most what is active. -/
theorem wired_apply (s : Switch) (root : Element) : Wired root (s.apply root) :=
  rel_apply (fun _ _ => alike_of_sameNode) alike_toggle (fun _ _ _ => Alike.trans) s root

/-! ## Finding the switch -/

section Wired

variable {r r' : Element}

theorem Wired.at?_none (h : Wired r r') {p : Path} (hp : r.at? p = none) : r'.at? p = none := by
  have hq := h p
  rw [hp] at hq
  generalize r'.at? p = y at hq ⊢
  cases hq
  rfl

theorem Wired.at?_some (h : Wired r r') {p : Path} {e : Element} (hp : r.at? p = some e) :
    ∃ e', r'.at? p = some e' ∧ Alike e e' := by
  have hq := h p
  rw [hp] at hq
  generalize r'.at? p = y at hq ⊢
  cases hq with
  | some ha => exact ⟨_, rfl, ha⟩

theorem Wired.any_at? (h : Wired r r') {p : Element → Bool} (hp : ∀ a b, Alike a b → p b = p a)
    (q : Path) : (r'.at? q).any p = (r.at? q).any p :=
  rel_any hp (h q)

theorem Wired.closest (h : Wired r r') {p : Element → Bool} (hp : ∀ a b, Alike a b → p b = p a)
    (path : Path) : r'.closest p path = r.closest p path := by
  unfold Element.closest
  congr 1
  funext q
  exact h.any_at? hp q

theorem Wired.button? (h : Wired r r') (target : Path) :
    Switcher.button? r' target = Switcher.button? r target := by
  unfold Switcher.button?
  rw [h.closest fun a b hab => hab.hasClass _ (tabClass_mem .platform),
    h.closest fun a b hab => hab.hasClass _ (tabClass_mem .language)]

theorem Resembles.isScopeRoot {a b : Element} (h : Resembles a b) (level : Level) :
    Switcher.isScopeRoot level b = Switcher.isScopeRoot level a := by
  cases level with
  | platform =>
    rw [Switcher.isScopeRoot, Switcher.isScopeRoot, h.hasClass _ (rootClass_mem .plain),
      h.hasClass _ (rootClass_mem .sample)]
  | language => exact h.hasClass _ (paneClass_mem .platform)

theorem Resembles.id {a b : Element} (h : Resembles a b) : b.id = a.id := by
  rw [Element.id, Element.id, h.attr "id" (by decide)]

theorem Resembles.accepts {a b : Element} (h : Resembles a b) (scope : Option String) :
    Switcher.accepts scope b = Switcher.accepts scope a := by
  unfold Switcher.accepts
  rw [h.id]

theorem scopeAttribute_ne (level : Level) : level.scopeAttribute ≠ "class" := by
  cases level <;> decide

theorem nameAttribute_ne (level : Level) : level.nameAttribute ≠ "class" := by
  cases level <;> decide

theorem Wired.scope? (h : Wired r r') (level : Level) (button : Path) :
    Switcher.scope? r' level button = Switcher.scope? r level button := by
  unfold Switcher.scope?
  cases hx : r.at? button with
  | none => rw [h.at?_none hx]; rfl
  | some b =>
    obtain ⟨b', hb', ha⟩ := h.at?_some hx
    simp only [hb', Option.bind_eq_bind, Option.bind_some, ha.attr _ (scopeAttribute_ne level)]
    exact h.closest (fun a b hab => by rw [hab.isScopeRoot, hab.accepts]) button

theorem Wired.positions (h : Wired r r') {p : Path} {e e' : Element} (he : r.at? p = some e)
    (he' : r'.at? p = some e') {cls : String} (hc : cls ∈ switcherClasses) :
    Switcher.positions cls e' = Switcher.positions cls e := by
  have hlen : e'.children.length = e.children.length := by
    obtain ⟨_, hs, ha⟩ := h.at?_some he
    rw [he', Option.some.injEq] at hs
    rw [hs, ha.length]
  unfold Switcher.positions
  rw [hlen]
  congr 1
  funext i
  rw [← at?_child he, ← at?_child he']
  exact h.any_at? (fun a b hab => hab.hasClass cls hc) _

theorem Wired.positions_child (h : Wired r r') {p : Path} {e e' : Element}
    (he : r.at? p = some e) (he' : r'.at? p = some e') {cls : String} (hc : cls ∈ switcherClasses)
    (i : Nat) : (e'.children[i]?).map (Switcher.positions cls) =
      (e.children[i]?).map (Switcher.positions cls) := by
  rw [← at?_child he, ← at?_child he']
  cases hx : r.at? (p ++ [i]) with
  | none => rw [h.at?_none hx]
  | some x =>
    obtain ⟨x', hx', -⟩ := h.at?_some hx
    rw [hx', Option.map_some, Option.map_some, h.positions hx hx' hc]

theorem Wired.pane? (h : Wired r r') {p : Path} {e e' : Element} (he : r.at? p = some e)
    (he' : r'.at? p = some e') (level : Level) (place : Option Nat) (name : Option String) :
    Switcher.pane? level place name e' = Switcher.pane? level place name e := by
  have hnamed : ∀ i : Nat,
      (e'.children[i]?).any (fun c => c.attr? level.nameAttribute == name) =
        (e.children[i]?).any (fun c => c.attr? level.nameAttribute == name) := fun i => by
    rw [← at?_child he, ← at?_child he']
    exact h.any_at? (fun a b hab => by rw [hab.attr _ (nameAttribute_ne level)]) _
  simp only [Switcher.pane?, h.positions he he' (paneClass_mem level), hnamed]

/-- A click finds the same switch whatever is active. -/
theorem Wired.switch? (h : Wired r r') (target : Path) :
    Switcher.switch? r' target = Switcher.switch? r target := by
  -- every step of the search asks alike elements about what they have in common
  unfold Switcher.switch?
  rw [h.button?]
  rcases Switcher.button? r target with _ | ⟨level, button⟩
  · rfl
  simp only [Option.bind_eq_bind, Option.bind_some, h.scope?]
  rcases Switcher.scope? r level button with _ | scope
  · rfl
  simp only [Option.bind_some]
  rcases hb : r.at? button with _ | b
  · rw [h.at?_none hb]; rfl
  rcases he : r.at? scope with _ | e
  · rw [h.at?_none he]; cases r'.at? button <;> rfl
  obtain ⟨b', hb', hab⟩ := h.at?_some hb
  obtain ⟨e', he', -⟩ := h.at?_some he
  simp only [hb', he', Option.bind_some, h.positions he he' (headerClass_mem level),
    h.positions he he' (bodyClass_mem level), h.positions_child he he' (tabClass_mem level),
    hab.attr _ (nameAttribute_ne level)]
  rcases (Switcher.positions level.bodyClass e).head? with _ | body
  · rfl
  rw [Option.bind_some, Option.bind_some, ← at?_child he, ← at?_child he']
  rcases hc : r.at? (scope ++ [body]) with _ | c
  · rw [h.at?_none hc]
  obtain ⟨c', hc', -⟩ := h.at?_some hc
  simp only [hc', Option.bind_some, h.pane? hc hc']

end Wired

/-! ## What a switch makes active -/

/-- Whether the element at a path is active. -/
def isActive (root : Element) (q : Path) : Bool :=
  (root.at? q).any (·.hasClass activeClass)

theorem isActive_activate_child (cls : String) (chosen : Nat → Bool) (root : Element) (p : Path)
    (i : Nat) (h : (root.at? (p ++ [i])).any (·.hasClass cls) = true) :
    isActive (root.modify (activate cls chosen) p) (p ++ [i]) = chosen i := by
  rw [isActive, at?_activate_child]
  cases hx : root.at? (p ++ [i]) with
  | none => rw [hx] at h; cases h
  | some c =>
    rw [hx] at h
    have hc : c.hasClass cls = true := h
    rw [Option.map_some, if_pos hc, Option.any_some, hasClass_toggle className_active, if_pos rfl]

theorem isActive_activate (cls : String) (chosen : Nat → Bool) (root : Element) (p q : Path)
    (hq : ∀ i, q ≠ p ++ [i]) :
    isActive (root.modify (activate cls chosen) p) q = isActive root q :=
  rel_any (fun _ _ h => h.hasClass_eq activeClass) (at?_activate cls chosen root p q hq)

variable {s : Switch} {root : Element} {h : Nat}

/-- After a switch, the clicked button is the active tab of its header. -/
theorem isActive_apply_tab (hh : s.header = some h) (hb : h ≠ s.body) (i : Nat)
    (hc : (root.at? (s.scope ++ [h, i])).any (·.hasClass s.level.tabClass) = true) :
    isActive (s.apply root) (s.scope ++ [h, i]) = (s.scope ++ [h, i] == s.button) := by
  have hne : ∀ j, s.scope ++ [h, i] ≠ s.scope ++ [s.body] ++ [j] := fun j he => by
    rw [List.append_assoc] at he
    exact hb (List.cons.inj (List.append_cancel_left he)).1
  simp only [Switch.apply, hh]
  rw [isActive_activate _ _ _ _ _ hne]
  have hpath : s.scope ++ [h, i] = s.scope ++ [h] ++ [i] := by simp
  rw [hpath] at hc ⊢
  rw [isActive_activate_child _ _ _ _ _ hc, ← hpath]

/-- After a switch, its pane is the active one of the body. -/
theorem isActive_apply_pane (i : Nat)
    (hc : (root.at? (s.scope ++ [s.body, i])).any (·.hasClass s.level.paneClass) = true) :
    isActive (s.apply root) (s.scope ++ [s.body, i]) = (i == s.pane) := by
  have hpath : s.scope ++ [s.body, i] = s.scope ++ [s.body] ++ [i] := by simp
  have hpane : ∀ a b, Alike a b → b.hasClass s.level.paneClass = a.hasClass s.level.paneClass :=
    fun a b hab => hab.hasClass _ (paneClass_mem s.level)
  rw [hpath] at hc ⊢
  unfold Switch.apply
  cases s.header with
  | none => exact isActive_activate_child _ _ _ _ _ hc
  | some h =>
    refine isActive_activate_child _ _ _ _ _ ?_
    rw [(wired_activate _ _ root _).any_at? hpane]
    exact hc

/-- A switch leaves what is active outside its header and its body. -/
theorem isActive_apply (hh : s.header = some h) {q : Path} (ht : ∀ i, q ≠ s.scope ++ [h, i])
    (hp : ∀ i, q ≠ s.scope ++ [s.body, i]) : isActive (s.apply root) q = isActive root q := by
  simp only [Switch.apply, hh]
  rw [isActive_activate _ _ _ _ _ fun i hi => hp i (by simpa using hi),
    isActive_activate _ _ _ _ _ fun i hi => ht i (by simpa using hi)]

end DocTabs.Switcher
