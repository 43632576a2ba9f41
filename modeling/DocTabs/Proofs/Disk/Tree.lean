/-
Disks that are trees: every entry has a name, lies in a directory and is the only one at its
location. Such a disk stays one when a directory is added in a directory, and when a file is put
where no directory lies.
-/
import DocTabs.Disk.Basic
import DocTabs.Proofs.Disk.FilePath

namespace DocTabs.Disk

/-- A disk whose entries form a tree below the root, with the working directory in it. -/
structure IsTree (d : Disk) : Prop where
  nodup : (d.nodes.map (·.1)).Nodup
  named : ∀ e ∈ d.nodes, e.1 ≠ [] ∧ ∀ name ∈ e.1, IsName name
  inDirectory : ∀ e ∈ d.nodes, d.get? e.1.dropLast = some .directory
  here : d.get? d.here = some .directory

instance (d : Disk) : Decidable d.IsTree :=
  decidable_of_iff ((d.nodes.map (·.1)).Nodup ∧ (∀ e ∈ d.nodes, e.1 ≠ [] ∧ ∀ name ∈ e.1, IsName name) ∧
      (∀ e ∈ d.nodes, d.get? e.1.dropLast = some .directory) ∧ d.get? d.here = some .directory)
    ⟨fun ⟨a, b, c, e⟩ => ⟨a, b, c, e⟩, fun ⟨a, b, c, e⟩ => ⟨a, b, c, e⟩⟩

/-! ## Looking up -/

@[simp] theorem get?_nil (d : Disk) : d.get? [] = some .directory := if_pos rfl

theorem get?_of_ne_nil (d : Disk) {l : Location} (h : l ≠ []) : d.get? l = d.nodes.lookup l :=
  if_neg h

theorem lookup_eq_some {nodes : List (Location × Node)} {l : Location} {n : Node}
    (hnodup : (nodes.map (·.1)).Nodup) : nodes.lookup l = some n ↔ (l, n) ∈ nodes := by
  induction nodes with
  | nil => simp
  | cons e rest ih =>
    obtain ⟨k, m⟩ := e
    rw [List.map_cons, List.nodup_cons] at hnodup
    by_cases hk : l = k
    · subst hk
      have hrest : (l, n) ∉ rest := fun h => hnodup.1 (List.mem_map.2 ⟨_, h, rfl⟩)
      simp [hrest, eq_comm]
    · rw [List.lookup_cons, show (l == k) = false by simpa using hk]
      simp [ih hnodup.2, hk]

section

variable {d : Disk} {l m : Location} {n : Node} {name : String}

theorem IsTree.get?_eq_some (h : d.IsTree) (hl : l ≠ []) : d.get? l = some n ↔ (l, n) ∈ d.nodes := by
  rw [d.get?_of_ne_nil hl, lookup_eq_some h.nodup]

/-- Whatever lies somewhere lies in a directory. -/
theorem IsTree.get?_dropLast (h : d.IsTree) (hl : d.get? l = some n) :
    d.get? l.dropLast = some .directory := by
  by_cases hne : l = []
  · rw [hne]; rfl
  · exact h.inDirectory _ ((h.get?_eq_some hne).1 hl)

theorem IsTree.isName (h : d.IsTree) (hl : d.get? l = some n) : ∀ s ∈ l, IsName s := by
  intro s hs
  have hne : l ≠ [] := List.ne_nil_of_mem hs
  exact (h.named _ ((h.get?_eq_some hne).1 hl)).2 s hs

/-- What lies above something is a directory. -/
theorem IsTree.get?_above (h : d.IsTree) (hl : d.get? (l ++ m) = some n) (hm : m ≠ []) :
    d.get? l = some .directory := by
  -- the induction is on `m` from its end, so that each step goes to the parent
  induction m using List.reverseRecOn generalizing n with
  | nil => exact absurd rfl hm
  | append_singleton m s ih =>
    have hparent := h.get?_dropLast hl
    rw [← List.append_assoc, List.dropLast_concat] at hparent
    by_cases hm' : m = []
    · rwa [hm', List.append_nil] at hparent
    · exact ih hparent hm'

/-! ## Putting -/

theorem get?_put (d : Disk) (hl : l ≠ []) (n : Node) (k : Location) :
    (d.put l n).get? k = if k = l then some n else d.get? k := by
  by_cases hk : k = l
  · rw [if_pos hk, hk, get?_put_self d n hl]
  · rw [if_neg hk, get?_put_of_ne d n hk]

/-- A tree stays one when a directory or a file is put into a directory, unless a file takes the
place of a directory. -/
theorem IsTree.put (h : d.IsTree) (hl : d.get? l = some .directory) (hname : IsName name)
    (hn : n = .directory ∨ d.get? (l ++ [name]) ≠ some .directory) : (d.put (l ++ [name]) n).IsTree := by
  have hne : l ++ [name] ≠ [] := by simp
  have hdir : ∀ k, d.get? k = some .directory → (d.put (l ++ [name]) n).get? k = some .directory := by
    intro k hk
    rw [get?_put d hne]
    split
    · rename_i he
      rw [he] at hk
      rw [hn.resolve_right fun h => h hk]
    · exact hk
  refine ⟨?_, ?_, ?_, hdir _ h.here⟩
  · show (((l ++ [name], n) :: d.nodes.filter (·.1 != l ++ [name])).map (·.1)).Nodup
    rw [List.map_cons, List.nodup_cons]
    refine ⟨fun hm => ?_, (h.nodup.sublist (List.filter_sublist.map _))⟩
    obtain ⟨e, he, hel⟩ := List.mem_map.1 hm
    have := (List.mem_filter.1 he).2
    simp [hel] at this
  · intro e he
    rcases List.mem_cons.1 he with rfl | he
    · refine ⟨hne, fun s hs => ?_⟩
      rcases List.mem_append.1 hs with hs | hs
      · exact h.isName hl s hs
      · exact List.mem_singleton.1 hs ▸ hname
    · exact h.named e (List.mem_filter.1 he).1
  · intro e he
    rcases List.mem_cons.1 he with rfl | he
    · rw [List.dropLast_concat]
      exact hdir _ hl
    · exact hdir _ (h.inDirectory e (List.mem_filter.1 he).1)

end

end DocTabs.Disk
