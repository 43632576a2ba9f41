/-
Elements that are left when others are removed. A removal moves elements to other paths and changes
none of them, so of every element that is left it can be told where it stood before, and it is the
child of the same element as before.
-/
import DocTabs.Proofs.Switcher.Wiring
import Mathlib.Data.List.Induction

namespace DocTabs.Switcher

open Tabs

namespace Element

/-! ## One removal -/

/-- Where an element stood before the element at a path was removed. -/
def before : Path → Path → Path
  | [], q => q
  | _ :: _, [] => []
  | [i], j :: q => (if j < i then j else j + 1) :: q
  | i :: k :: p, j :: q => if j = i then j :: before (k :: p) q else j :: q

theorem before_nil (p : Path) : before p [] = [] := by
  cases p <;> rfl

theorem before_last (i j : Nat) (q : Path) :
    before [i] (j :: q) = (if j < i then j else j + 1) :: q := rfl

theorem before_inner (i k j : Nat) (p q : Path) :
    before (i :: k :: p) (j :: q) = if j = i then j :: before (k :: p) q else j :: q := rfl

theorem remove_singleton (i : Nat) (as : List (String × String)) (cs : List Element) :
    (node as cs).remove [i] = node as (cs.eraseIdx i) := rfl

theorem remove_cons (i k : Nat) (p : Path) (as : List (String × String)) (cs : List Element) :
    (node as cs).remove (i :: k :: p) = node as (cs.modify i (remove (k :: p))) := by
  have hlast : (i :: k :: p).getLast? = (k :: p).getLast? := List.getLast?_cons_cons ..
  unfold remove
  rw [hlast]
  cases h : (k :: p).getLast? with
  | none => simp at h
  | some j => rfl

/-- What stands in a tree after a removal stood in it before, with the same attributes. -/
theorem at?_remove {p q : Path} {e x : Element} (hx : (e.remove p).at? q = some x) :
    ∃ y, e.at? (before p q) = some y ∧ y.attributes = x.attributes := by
  induction p generalizing e q with
  | nil => exact ⟨x, hx, rfl⟩
  | cons i p ih =>
    obtain ⟨as, cs⟩ := e
    cases q with
    | nil =>
      refine ⟨node as cs, rfl, ?_⟩
      cases p with
      | nil => rw [← Option.some.inj hx]; rfl
      | cons k p =>
        rw [remove_cons] at hx
        rw [← Option.some.inj hx]; rfl
    | cons j q =>
      cases p with
      | nil =>
        rw [remove_singleton, at?_cons, children, List.getElem?_eraseIdx] at hx
        refine ⟨x, ?_, rfl⟩
        rw [before_last, at?_cons, children, ← hx]
        split <;> rfl
      | cons k p =>
        rw [remove_cons, at?_cons, children, List.getElem?_modify] at hx
        rw [before_inner]
        by_cases hj : j = i
        · -- the way leads into the child in which the element was removed
          rw [if_pos hj, at?_cons, children]
          cases hc : cs[j]? with
          | none => rw [hc] at hx; cases hx
          | some c =>
            rw [hc] at hx
            simp only [hj, if_true, Option.map_eq_map, Option.map_some] at hx
            exact ih hx
        · rw [if_neg hj, at?_cons, children]
          cases hc : cs[j]? with
          | none => rw [hc] at hx; cases hx
          | some c =>
            rw [hc] at hx
            simp only [Ne.symm hj, if_false, Option.map_eq_map, Option.map_some] at hx
            exact ⟨x, hx, rfl⟩

/-- A child that is left was a child of the same element. -/
theorem before_child (p q : Path) (i : Nat) : ∃ j, before p (q ++ [i]) = before p q ++ [j] := by
  induction p generalizing q with
  | nil => exact ⟨i, rfl⟩
  | cons k p ih =>
    cases q with
    | nil =>
      rw [List.nil_append, before_nil]
      cases p with
      | nil => exact ⟨_, before_last ..⟩
      | cons l p =>
        rw [before_inner, before_nil]
        exact ⟨i, ite_self _⟩
    | cons j q =>
      rw [List.cons_append]
      cases p with
      | nil => exact ⟨i, rfl⟩
      | cons l p =>
        obtain ⟨m, hm⟩ := ih q
        rw [before_inner, before_inner]
        split
        · exact ⟨m, by rw [hm]; rfl⟩
        · exact ⟨i, rfl⟩

/-- Different elements that are left stood at different paths. -/
theorem before_injective (p : Path) : Function.Injective (before p) := by
  induction p with
  | nil => exact fun q r h => h
  | cons i p ih =>
    have hcons : ∀ k r, before (i :: p) (k :: r) ≠ [] := fun k r => by
      cases p with
      | nil => exact List.cons_ne_nil _ _
      | cons l p =>
        rw [before_inner]
        split <;> exact List.cons_ne_nil _ _
    intro q r h
    cases q with
    | nil =>
      cases r with
      | nil => rfl
      | cons k r => exact absurd h.symm (by rw [before_nil]; exact hcons k r)
    | cons j q =>
      cases r with
      | nil => exact absurd h (by rw [before_nil]; exact hcons j q)
      | cons k r =>
        cases p with
        | nil =>
          rw [before_last, before_last, List.cons.injEq] at h
          obtain ⟨hjk, rfl⟩ := h
          rw [show j = k by split at hjk <;> split at hjk <;> omega]
        | cons l p =>
          rw [before_inner, before_inner] at h
          -- the first steps of the two paths agree, so both lead into the same child
          split at h <;> split at h <;> obtain ⟨rfl, htail⟩ := List.cons.inj h
          · rw [ih htail]
          · contradiction
          · contradiction
          · rw [htail]

end Element

open Element

/-! ## What is left of a tree -/

theorem attr?_congr {a b : Element} (h : a.attributes = b.attributes) (n : String) :
    b.attr? n = a.attr? n := by
  rw [attr?, attr?, h]

theorem resembles_of_attributes {a b : Element} (h : a.attributes = b.attributes) : Resembles a b :=
  ⟨fun n _ => attr?_congr h n, fun c _ => hasClass_congr (attr?_congr h "class") c⟩

/-- The elements of `t'` are left of those of `t`, where they stood at the paths that `origin`
tells. -/
structure Remains (t t' : Element) (origin : Path → Path) : Prop where
  found : ∀ q x, t'.at? q = some x → ∃ y, t.at? (origin q) = some y ∧ Resembles y x
  nil : origin [] = []
  child : ∀ q i, ∃ j, origin (q ++ [i]) = origin q ++ [j]
  injective : Function.Injective origin

theorem remains_remove (t : Element) (p : Path) : Remains t (t.remove p) (before p) where
  found q x hx := by
    obtain ⟨y, hy, he⟩ := at?_remove hx
    exact ⟨y, hy, resembles_of_attributes he⟩
  nil := before_nil p
  child := before_child p
  injective := before_injective p

theorem Wired.remains {t t' : Element} (h : Wired t t') : Remains t t' fun q => q where
  found q x hx := by
    obtain ⟨y, hy, hxy⟩ := h.symm.at?_some hx
    exact ⟨y, hy, hxy.symm.toResembles⟩
  nil := rfl
  child _ i := ⟨i, rfl⟩
  injective _ _ h := h

section Remains

variable {t t' : Element} {origin : Path → Path}

/-- What is left of an element's child is a child of what is left of the element. -/
theorem Remains.parent (h : Remains t t' origin) {q p : Path} {j : Nat}
    (hq : origin q = p ++ [j]) : ∃ r i, q = r ++ [i] ∧ origin r = p := by
  rcases List.eq_nil_or_concat q with rfl | ⟨r, i, rfl⟩
  · rw [h.nil] at hq
    simp at hq
  · rw [List.concat_eq_append] at hq ⊢
    obtain ⟨k, hk⟩ := h.child r i
    exact ⟨r, i, rfl, (List.append_inj' (hk.symm.trans hq) rfl).1⟩

/-- What is left of an element is in what is left of the elements around it. -/
theorem Remains.around (h : Remains t t' origin) {q r : Path} (hp : q <+: r) :
    origin q <+: origin r := by
  obtain ⟨s, rfl⟩ := hp
  induction s using List.reverseRecOn with
  | nil => exact (List.append_nil q).symm ▸ List.prefix_refl _
  | append_singleton s i ih =>
    obtain ⟨j, hj⟩ := h.child (q ++ s) i
    rw [← List.append_assoc, hj]
    exact ih.trans (List.prefix_append ..)

end Remains

end DocTabs.Switcher
