/-
What a directory lists. The names of a directory are those under which something lies in it, in
strictly increasing order, so that they depend on the view of the disk alone.
-/
import DocTabs.Proofs.Disk.Tree
import Mathlib.Data.List.Nodup

namespace DocTabs.Disk

variable {d e : Disk} {dir l : Location} {name : String}

theorem nameIn?_eq_some : nameIn? dir l = some name ↔ l = dir ++ [name] := by
  unfold nameIn?
  rcases List.eq_nil_or_concat l with rfl | ⟨init, last, rfl⟩
  · simp
  · simp [List.concat_eq_append]

theorem mem_names (hd : d.IsTree) : name ∈ d.names dir ↔ d.get? (dir ++ [name]) ≠ none := by
  have hne : dir ++ [name] ≠ [] := by simp
  rw [names, List.mem_mergeSort, List.mem_filterMap, Option.ne_none_iff_exists']
  constructor
  · rintro ⟨⟨l, n⟩, he, hn⟩
    obtain rfl := nameIn?_eq_some.1 hn
    exact ⟨n, (hd.get?_eq_some hne).2 he⟩
  · rintro ⟨n, hn⟩
    exact ⟨_, (hd.get?_eq_some hne).1 hn, nameIn?_eq_some.2 rfl⟩

theorem IsTree.isName_of_mem_names (hd : d.IsTree) (h : name ∈ d.names dir) : IsName name := by
  obtain ⟨n, hn⟩ := Option.ne_none_iff_exists'.1 ((mem_names hd).1 h)
  exact hd.isName hn name (by simp)

theorem IsTree.isName_of_entry (hd : d.IsTree) (h : ∀ s ∈ l, IsName s) (hname : name ∈ d.names dir) :
    ∀ s ∈ l ++ [name], IsName s := by
  intro s hs
  rcases List.mem_append.1 hs with hs | hs
  · exact h s hs
  · exact List.mem_singleton.1 hs ▸ hd.isName_of_mem_names hname

/-- The names of a directory are strictly increasing. -/
theorem pairwise_names (hd : d.IsTree) (dir : Location) : (d.names dir).Pairwise (· < ·) := by
  have hle : (d.names dir).Pairwise (fun a b => decide (a ≤ b) = true) :=
    List.pairwise_mergeSort (fun a b c => by simpa using String.le_trans)
      (fun a b => by simpa using String.le_total a b) _
  have hnodup : (d.names dir).Nodup := by
    have hlocations : d.nodes.filterMap (fun e => nameIn? dir e.1) =
        (d.nodes.map (·.1)).filterMap (nameIn? dir) := by
      rw [List.filterMap_map]; rfl
    rw [names, (List.mergeSort_perm _ _).nodup_iff, hlocations]
    refine hd.nodup.filterMap fun k k' name hk hk' => ?_
    rw [nameIn?_eq_some.1 hk, nameIn?_eq_some.1 hk']
  refine (hle.and hnodup).imp fun {a b} ⟨h, hne⟩ => ?_
  exact String.not_le.1 fun hba => hne (String.le_antisymm (by simpa using h) hba)

/-- Directories in which something lies under the same names list the same. -/
theorem names_congr (hd : d.IsTree) (he : e.IsTree)
    (h : ∀ name, d.get? (dir ++ [name]) = none ↔ e.get? (dir ++ [name]) = none) :
    d.names dir = e.names dir := by
  have hd' := pairwise_names hd dir
  have he' := pairwise_names he dir
  refine List.Perm.eq_of_pairwise (fun a b _ _ h1 h2 => absurd h2 (String.lt_asymm h1)) hd' he' ?_
  rw [List.perm_ext_iff_of_nodup (hd'.imp fun h => String.ne_of_lt h)
    (he'.imp fun h => String.ne_of_lt h)]
  intro name
  rw [mem_names hd, mem_names he, ne_eq, ne_eq, h]

/-- Where the entries of a directory stand in order, they are its names. -/
theorem names_of_ordered {names : List String}
    (h : d.nodes.filterMap (fun e => nameIn? dir e.1) = names) (ho : names.Pairwise (· ≤ ·)) :
    d.names dir = names := by
  rw [Disk.names, h]
  exact List.mergeSort_of_pairwise (ho.imp fun h => decide_eq_true h)

theorem length_lt_height (hd : d.IsTree) {n : Node} (h : d.get? l = some n) :
    l.length < d.height := by
  by_cases hl : l = []
  · rw [hl]
    exact Nat.succ_pos _
  · have hmem := (hd.get?_eq_some hl).1 h
    have hle : ∀ nodes : List (Location × Node), (l, n) ∈ nodes →
        l.length ≤ (nodes.map (·.1.length)).foldr max 0 := by
      intro nodes hm
      induction nodes with
      | nil => cases hm
      | cons e rest ih =>
        rw [List.map_cons, List.foldr_cons]
        rcases List.mem_cons.1 hm with rfl | hm
        · exact Nat.le_max_left ..
        · exact (ih hm).trans (Nat.le_max_right ..)
    exact Nat.lt_succ_of_le (hle _ hmem)

end DocTabs.Disk
