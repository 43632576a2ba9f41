/-
What an element is to the switcher: it is free, or the root of a container, or a part of a tab set
that shows one of its indices, namely its header, its body, one of its buttons or one of its panes.
-/
import DocTabs.Proofs.Switcher.Run

namespace DocTabs.Switcher

open Tabs Element

/-! ## Parts -/

/-- A part of a tab set. -/
inductive Part where
  | header
  | body
  | tab
  | pane

/-- The class of a part at a level. -/
def Part.cls (level : Level) : Part → String
  | header => level.headerClass
  | body => level.bodyClass
  | tab => level.tabClass
  | pane => level.paneClass

/-- The path leads to a part of the tab set with this scope. -/
def Part.At (scope q : Path) : Part → Prop
  | header => q = scope ++ [0]
  | body => q = scope ++ [1]
  | tab => ∃ i, q = scope ++ [0] ++ [i]
  | pane => ∃ i, q = scope ++ [1] ++ [i]

theorem Part.cls_mem (part : Part) (level : Level) : part.cls level ∈ switcherClasses := by
  cases part with
  | header => exact headerClass_mem level
  | body => exact bodyClass_mem level
  | tab => exact tabClass_mem level
  | pane => exact paneClass_mem level

theorem Part.cls_inj {part part' : Part} {level level' : Level}
    (h : part.cls level = part'.cls level') : part = part' ∧ level = level' := by
  cases part <;> cases part' <;> cases level <;> cases level' <;>
    simp [Part.cls, Level.headerClass, Level.bodyClass, Level.tabClass, Level.paneClass] at h ⊢

theorem Part.cls_ne_rootClass (part : Part) (level : Level) (kind : Kind) :
    part.cls level ≠ kind.rootClass := by
  cases part <;> cases level <;> cases kind <;> decide

/-- A tab set of the level has this scope and shows one of its indices. -/
def HasSet (root : Element) (level : Level) (scope : Path) : Prop :=
  ∃ names e h b k, root.at? scope = some e ∧ HoldsTabs level names e h b ∧ Shows root scope k

/-- Every element is free, the root of a container, or a part of a tab set. -/
def Assigned (root : Element) : Prop :=
  ∀ q x, root.at? q = some x → Free x ∨ (∃ kind : Kind, Plays kind.rootClass x) ∨
    ∃ (part : Part) (level : Level) (scope : Path),
      part.At scope q ∧ Plays (part.cls level) x ∧ HasSet root level scope

/-- The class of a part tells where the part stands. -/
theorem Assigned.part {root : Element} (ha : Assigned root) {q : Path} {x : Element}
    (hx : root.at? q = some x) {part : Part} {level : Level}
    (hc : x.hasClass (part.cls level) = true) :
    ∃ scope, part.At scope q ∧ Plays (part.cls level) x ∧ HasSet root level scope := by
  rcases ha q x hx with hfree | ⟨kind, hplays⟩ | ⟨part', level', scope, hat, hplays, hset⟩
  · rw [hfree _ (part.cls_mem level)] at hc
    cases hc
  · exact absurd ((hplays _ (part.cls_mem level)).1 hc) (part.cls_ne_rootClass level kind)
  · obtain ⟨rfl, rfl⟩ := Part.cls_inj ((hplays _ (part.cls_mem level)).1 hc)
    exact ⟨scope, hat, hplays, hset⟩

/-- Every button of a tree of assigned elements belongs to a tab set. -/
theorem Assigned.wellTabbed {root : Element} (ha : Assigned root) : WellTabbed root := by
  intro level q hq
  obtain ⟨x, hx, hc⟩ := (Option.any_eq_true ..).1 hq
  have htab : x.hasClass (Part.tab.cls level) = true := hc
  obtain ⟨scope, ⟨i, rfl⟩, -, names, e, h, b, k, hs, ht, -⟩ := ha.part hx htab
  exact ⟨scope, names, e, h, b, i, hs, ht, List.append_assoc ..⟩

/-! ## The elements in a tab set -/

/-- The elements in an element with a tab set are its parts, free elements in its buttons, and
whatever its panes hold. -/
theorem HoldsTabs.at?_cases {level : Level} {names : List String} {e h b : Element}
    (ht : HoldsTabs level names e h b) {r : Path} {x : Element} (hx : e.at? r = some x) :
    (r = [] ∧ x = e) ∨ Free x ∨ (∃ part : Part, part.At [] r ∧ Plays (part.cls level) x) ∨
      ∃ i p j q, b.children[i]? = some p ∧ r = [1, i] ++ j :: q ∧ p.at? (j :: q) = some x := by
  have child : ∀ {y : Element} {i : Nat} {q : Path}, y.at? (i :: q) = some x →
      ∃ z, y.children[i]? = some z ∧ z.at? q = some x := fun hy => by
    rw [at?_cons] at hy
    exact Option.bind_eq_some_iff.1 hy
  rcases r with _ | ⟨i, r⟩
  · exact .inl ⟨rfl, (Option.some.inj hx).symm⟩
  obtain ⟨y, hy, hx⟩ := child hx
  rw [ht.children] at hy
  refine .inr ?_
  -- the way leads into the header or into the body
  match i, hy with
  | 0, hy =>
    obtain rfl := Option.some.inj hy
    rcases r with _ | ⟨i, r⟩
    · obtain rfl := Option.some.inj hx
      exact .inr (.inl ⟨.header, rfl, ht.header⟩)
    obtain ⟨t, hi, hx⟩ := child hx
    obtain ⟨hplays, -, -, hlabel⟩ := ht.tab i t hi
    rcases r with _ | ⟨j, r⟩
    · obtain rfl := Option.some.inj hx
      exact .inr (.inl ⟨.tab, ⟨i, rfl⟩, hplays⟩)
    · obtain ⟨c, hj, hx⟩ := child hx
      exact .inl (hlabel c (List.mem_of_getElem? hj) r x hx)
  | 1, hy =>
    obtain rfl := Option.some.inj hy
    rcases r with _ | ⟨i, r⟩
    · obtain rfl := Option.some.inj hx
      exact .inr (.inl ⟨.body, rfl, ht.body⟩)
    obtain ⟨p, hi, hx⟩ := child hx
    rcases r with _ | ⟨j, r⟩
    · obtain rfl := Option.some.inj hx
      exact .inr (.inl ⟨.pane, ⟨i, rfl⟩, (ht.pane i p hi).1⟩)
    · exact .inr (.inr ⟨i, p, j, r, hi, rfl, hx⟩)

theorem Part.At.append {part : Part} {r : Path} (h : part.At [] r) (scope : Path) :
    part.At scope (scope ++ r) := by
  cases part with
  | header => rw [show r = [0] from h]; rfl
  | body => rw [show r = [1] from h]; rfl
  | tab =>
    obtain ⟨i, rfl⟩ := h
    exact ⟨i, (List.append_assoc ..).symm⟩
  | pane =>
    obtain ⟨i, rfl⟩ := h
    exact ⟨i, (List.append_assoc ..).symm⟩

end DocTabs.Switcher
