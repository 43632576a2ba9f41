/-
What names stand for in an environment. A plain name stands for the value of its variable. One with an
`=` may stand for the end of a value, so it depends on the variable whose name stands before the `=`.
-/
import DocTabs.Proofs.Text.Search
import DocTabs.Settings.Reference

namespace DocTabs.Settings

namespace Environment

open Text

variable {env env' : Environment}

theorem get?_of_name (env : Environment) {name : String} (hne : name ≠ "") (hequals : '=' ∉ name.toList) :
    env.get? name = env.bindings.lookup name := by
  obtain ⟨c, r, hname⟩ := List.exists_cons_of_ne_nil (mt String.toList_eq_nil_iff.1 hne)
  have hcut : cut? "=" r = none :=
    cut?_eq_none rfl fun hmem => hequals (hname ▸ List.mem_cons_of_mem c hmem)
  rw [get?, hname]
  simp only [hcut]

/-- What a name stands for is the value of a variable or ends one. -/
theorem exists_of_get? {name v : String} (h : env.get? name = some v) :
    ∃ b ∈ env.bindings, b = (name, v) ∨ ∃ inside, b.2.toList = inside ++ '=' :: v.toList := by
  unfold get? at h
  split at h
  · cases h
  · split at h
    · obtain ⟨before, after, hbindings, -⟩ := List.lookup_eq_some_iff.1 h
      exact ⟨(name, v), by rw [hbindings]; simp, .inl rfl⟩
    · rename_i start inside _
      obtain ⟨⟨n, w⟩, hb, hv⟩ := List.exists_of_findSome?_eq_some h
      dsimp only at hv
      split at hv
      · obtain ⟨u, hu, rfl⟩ := Option.map_eq_some_iff.1 hv
        exact ⟨(n, w), hb, .inr ⟨inside, by simpa using after?_eq_some.1 hu⟩⟩
      · cases hv

/-- Nothing is set in the empty environment. -/
theorem get?_empty (name : String) : get? {} name = none := by
  refine Option.eq_none_iff_forall_ne_some.2 fun v h => ?_
  obtain ⟨b, hb, -⟩ := exists_of_get? h
  cases hb

/-! ## Environments that differ in one variable -/

/-- What a name stands for may depend on the variable: it is the variable's name, or goes on behind that
with `=`. -/
def DependsOn (name changed : String) : Prop :=
  name = changed ∨ (changed ++ "=").toList <+: name.toList

instance (name changed : String) : Decidable (DependsOn name changed) :=
  inferInstanceAs (Decidable (_ ∨ _))

/-- The variables other than the given one. -/
def others (env : Environment) (changed : String) : List (String × String) :=
  env.bindings.filter (·.1 != changed)

/-- Bindings that a search passes over make no difference to it. -/
theorem findSome?_filter {bindings : List (String × String)} {f : String × String → Option String}
    {changed : String} (h : ∀ v, f (changed, v) = none) :
    (bindings.filter (·.1 != changed)).findSome? f = bindings.findSome? f := by
  induction bindings with
  | nil => rfl
  | cons b bindings ih =>
    obtain ⟨n, v⟩ := b
    by_cases hn : n = changed
    · subst hn
      simp [h, ih]
    · simp [hn, List.findSome?_cons, ih]

/-- A name stands for the same where the variables that it does not depend on are the same. -/
theorem get?_congr {name changed : String} (h : env'.others changed = env.others changed)
    (hname : ¬ DependsOn name changed) : env'.get? name = env.get? name := by
  obtain ⟨hne, hnot⟩ := not_or.1 hname
  unfold others at h
  unfold get?
  split
  · rfl
  · rename_i c r htext
    split
    · have hpass : ∀ v : String, (if name == changed then some v else none) = none := by simp [hne]
      rw [List.lookup_eq_findSome?, List.lookup_eq_findSome?, ← findSome?_filter hpass, h,
        findSome?_filter hpass]
    · rename_i start inside hcut
      have hstart : changed.toList ≠ c :: start := by
        intro he
        obtain ⟨t, ht, hafter⟩ := first_some hcut
        refine hnot ⟨inside, ?_⟩
        rw [htext, ht, after?_eq_some.1 hafter, String.toList_append, he]
        simp
      rw [← findSome?_filter (fun v => if_neg hstart), h, findSome?_filter fun v => if_neg hstart]

end Environment

end DocTabs.Settings
