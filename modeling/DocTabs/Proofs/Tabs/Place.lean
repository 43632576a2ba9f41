/-
The places of leaves. The place of a leaf is the position of a pane at each level, from the outermost level
down to the leaf. Every leaf has a place, and what stands at a place is a leaf.
-/
import DocTabs.Proofs.Tabs.Elements

namespace DocTabs.Tabs

/-- The content of the leaf at a place among panes. -/
def leafIn? : List Nat → List Pane → Option String
  | [], _ => none
  | i :: place, ps =>
    match ps[i]? with
    | some (.leaf _ content) => if place = [] then some content else none
    | some (.nested _ _ _ panes) => leafIn? place panes
    | none => none

/-- The panes with another content in the leaf at a place. -/
def setLeafIn (content : String) : List Nat → List Pane → List Pane
  | [], ps => ps
  | i :: place, ps => ps.modify i fun
    | .leaf h _ => .leaf h content
    | .nested h level tabs panes => .nested h level tabs (setLeafIn content place panes)

/-- The content of the leaf at a place in a container. -/
def Container.leafAt? (c : Container) (place : List Nat) : Option String := leafIn? place c.tabs.panes

/-- The container with another content in the leaf at a place. -/
def Container.setLeaf (c : Container) (place : List Nat) (content : String) : Container :=
  { c with tabs := { c.tabs with panes := setLeafIn content place c.tabs.panes } }

theorem leafIn?_cons {i : Nat} {place : List Nat} {ps : List Pane} {content : String}
    (h : leafIn? (i :: place) ps = some content) : ∃ p, ps[i]? = some p ∧
      ((∃ head, p = .leaf head content ∧ place = []) ∨ ∃ head level tabs panes,
        p = .nested head level tabs panes ∧ leafIn? place panes = some content) := by
  rw [leafIn?] at h
  cases hp : ps[i]? with
  | none => rw [hp] at h; cases h
  | some p =>
    rw [hp] at h
    refine ⟨p, rfl, ?_⟩
    cases p with
    | leaf head c =>
      obtain ⟨hplace, hc⟩ := Option.ite_none_right_eq_some.1 h
      cases hc
      exact .inl ⟨head, rfl, hplace⟩
    | nested head level tabs panes => exact .inr ⟨head, level, tabs, panes, rfl, h⟩

/-- A list around one of its members. -/
theorem modify_of_getElem? {α : Type} {l : List α} {i : Nat} {a : α} (h : l[i]? = some a) :
    ∃ xs ys, l = xs ++ a :: ys ∧ ∀ f : α → α, l.modify i f = xs ++ f a :: ys := by
  obtain ⟨hi, rfl⟩ := List.getElem?_eq_some_iff.1 h
  refine ⟨l.take i, l.drop (i + 1), ?_, fun f => List.modify_eq_take_cons_drop hi⟩
  rw [List.getElem_cons_drop, List.take_append_drop]

/-- A leaf that gets its own content stays as it is. -/
theorem setLeafIn_self {place : List Nat} {ps : List Pane} {content : String}
    (h : leafIn? place ps = some content) : setLeafIn content place ps = ps := by
  induction place generalizing ps with
  | nil => cases h
  | cons i place ih =>
    obtain ⟨p, hp, hleaf⟩ := leafIn?_cons h
    obtain ⟨xs, ys, rfl, hmodify⟩ := modify_of_getElem? hp
    rw [setLeafIn, hmodify]
    rcases hleaf with ⟨head, rfl, -⟩ | ⟨head, inner, tabs, panes, rfl, hin⟩
    · rfl
    · simp only [ih hin]

mutual

theorem Pane.exists_place {p : Pane} {head : PaneHead} {content : String}
    (h : .leaf head content ∈ p.within) : ∃ place, leafIn? (0 :: place) [p] = some content := by
  cases p with
  | leaf head' content' =>
    rw [Pane.within, List.mem_singleton, Pane.leaf.injEq] at h
    exact ⟨[], by rw [h.2]; rfl⟩
  | nested head' inner tabs panes =>
    rw [Pane.within, List.mem_cons] at h
    obtain ⟨place, hplace⟩ := exists_place (h.resolve_left nofun)
    exact ⟨place, hplace⟩

theorem exists_place {ps : List Pane} {head : PaneHead} {content : String}
    (h : .leaf head content ∈ panesWithin ps) : ∃ place, leafIn? place ps = some content := by
  cases ps with
  | nil => cases h
  | cons p ps =>
    rw [panesWithin, List.mem_append] at h
    rcases h with h | h
    · obtain ⟨place, hplace⟩ := Pane.exists_place h
      exact ⟨0 :: place, hplace⟩
    · obtain ⟨place, hplace⟩ := exists_place h
      cases place with
      | nil => cases hplace
      | cons i place => exact ⟨(i + 1) :: place, hplace⟩

end

theorem mem_of_leafIn? {place : List Nat} {ps : List Pane} {content : String}
    (h : leafIn? place ps = some content) : ∃ head, .leaf head content ∈ panesWithin ps := by
  induction place generalizing ps with
  | nil => cases h
  | cons i place ih =>
    obtain ⟨p, hp, hleaf⟩ := leafIn?_cons h
    rw [panesWithin_eq]
    rcases hleaf with ⟨head, rfl, -⟩ | ⟨head, inner, tabs, panes, rfl, hin⟩
    · exact ⟨head, List.mem_flatMap.2 ⟨_, List.mem_of_getElem? hp, List.mem_singleton_self _⟩⟩
    · obtain ⟨head', hmem⟩ := ih hin
      exact ⟨head', List.mem_flatMap.2 ⟨_, List.mem_of_getElem? hp, List.mem_cons_of_mem _ hmem⟩⟩

end DocTabs.Tabs
