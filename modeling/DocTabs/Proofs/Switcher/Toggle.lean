/-
Marking twice. Setting a mark that is set leaves an element as it is, going back and forth between
two marks comes back to the same attributes, and activations at different places of a tree can be
exchanged.
-/
import DocTabs.Proofs.Switcher.Wiring

namespace DocTabs.Switcher

open Tabs

namespace Element

/-! ## Class texts -/

theorem nodup_eraseDups (names : List String) : names.eraseDups.Nodup := by
  cases names with
  | nil => exact List.nodup_nil
  | cons n names =>
    rw [List.eraseDups_cons]
    refine List.nodup_cons.2 ⟨fun hm => ?_, nodup_eraseDups (names.filter fun m => !m == n)⟩
    simpa using (List.mem_filter.1 (List.mem_eraseDups.1 hm)).2
termination_by names.length
decreasing_by exact Nat.lt_succ_of_le (List.length_filter_le ..)

theorem eraseDups_of_nodup {names : List String} (h : names.Nodup) : names.eraseDups = names := by
  induction names with
  | nil => rfl
  | cons n names ih =>
    obtain ⟨hn, hnames⟩ := List.nodup_cons.1 h
    have hfilter : (names.filter fun m => !m == n) = names :=
      List.filter_eq_self.2 fun m hm => by
        simpa using fun he : m = n => hn (he ▸ hm)
    rw [List.eraseDups_cons, hfilter, ih hnames]

/-- Class names without repetition are read back from their text. -/
theorem classNames_intercalate {names : List String} (h : ∀ n ∈ names, ClassName n)
    (hd : names.Nodup) : classNames (" ".intercalate names) = names := by
  show (((pieces _).filter (!·.isEmpty)).map String.ofList).eraseDups = names
  cases names with
  | nil => rfl
  | cons n names =>
    have hnames : ((n :: names).map String.toList).filter (!·.isEmpty) =
        (n :: names).map String.toList := by
      refine List.filter_eq_self.2 fun m hm => ?_
      obtain ⟨k, hk, rfl⟩ := List.mem_map.1 hm
      simpa [String.toList_eq_nil_iff] using (h k hk).1
    have hback : ((n :: names).map String.toList).map String.ofList = n :: names := by
      rw [List.map_map]
      exact (List.map_congr_left fun m _ => String.ofList_toList).trans (List.map_id _)
    rw [pieces_intercalate (by simp) h, hnames, hback, eraseDups_of_nodup hd]

theorem setAttr_setAttr (e : Element) (name v w : String) :
    (e.setAttr name (some v)).setAttr name (some w) = e.setAttr name (some w) := by
  obtain ⟨as, cs⟩ := e
  have hset := attr?_setAttr (node as cs) name v name
  rw [if_pos rfl] at hset
  simp only [setAttr] at hset ⊢
  simp only [attr?, attributes] at hset
  rw [hset, if_pos Option.isSome_some]
  cases h : as.lookup name with
  | some u =>
    rw [if_pos Option.isSome_some, if_pos Option.isSome_some, List.map_map]
    congr 1
    refine List.map_congr_left fun a _ => ?_
    by_cases ha : a.1 = name <;> simp [ha]
  | none =>
    have hne : ∀ a ∈ as, a.1 ≠ name := fun a ha he => by
      have := List.lookup_eq_none_iff.1 h a ha
      simp [he] at this
    have hmap : (as.map fun a => if a.1 = name then (name, w) else a) = as :=
      (List.map_congr_left fun a ha => if_neg (hne a ha)).trans (List.map_id _)
    simp [hmap]

/-! ## Toggling again -/

variable {c : String}

/-- The class names after a class was added or removed. -/
def withClass (c : String) (on : Bool) (names : List String) : List String :=
  if on then names ++ [c] else names.filter (· ≠ c)

theorem toggle_of_ne {e : Element} {on : Bool} (h : e.hasClass c ≠ on) :
    e.toggle c on = e.setAttr "class" (some (" ".intercalate (withClass c on e.classes))) := by
  unfold toggle withClass
  rw [if_neg h]
  split <;> rfl

theorem toggle_of_eq {e : Element} {on : Bool} (h : e.hasClass c = on) : e.toggle c on = e :=
  if_pos h

theorem hasClass_toggle_self (hc : ClassName c) (on : Bool) (e : Element) :
    (e.toggle c on).hasClass c = on := by
  rw [hasClass_toggle hc, if_pos rfl]

theorem classes_toggle_of_ne (hc : ClassName c) {e : Element} {on : Bool} (h : e.hasClass c ≠ on) :
    (e.toggle c on).classes = withClass c on e.classes := by
  have hnames : ∀ n ∈ withClass c on e.classes, ClassName n := by
    intro n hn
    unfold withClass at hn
    split at hn
    · rcases List.mem_append.1 hn with hn | hn
      · exact className_of_mem hn
      · rw [List.mem_singleton.1 hn]; exact hc
    · exact className_of_mem (List.mem_filter.1 hn).1
  have hnodup : (withClass c on e.classes).Nodup := by
    have hclasses : e.classes.Nodup := nodup_eraseDups _
    unfold withClass
    split
    · rename_i hon
      have hmem : c ∉ e.classes := fun hm => h (by rw [hon]; simpa [hasClass] using hm)
      exact List.nodup_append.2 ⟨hclasses, List.pairwise_singleton .., fun a ha b hb he => by
        rw [List.mem_singleton.1 hb] at he; exact hmem (he ▸ ha)⟩
    · exact hclasses.filter _
  rw [toggle_of_ne h, classes, attr?_setAttr, if_pos rfl, Option.getD_some,
    classNames_intercalate hnames hnodup]

/-- A class that goes and comes at the end of the names comes back to the same place. -/
theorem withClass_withClass {x y : Bool} (hxy : x ≠ y) {names : List String}
    (hc : c ∈ names ↔ x = true) :
    withClass c y (withClass c x (withClass c y names)) = withClass c y names := by
  unfold withClass
  cases x with
  | true =>
    obtain rfl : y = false := by simpa using Ne.symm hxy
    simp
  | false =>
    obtain rfl : y = true := by simpa using Ne.symm hxy
    have hfilter : names.filter (· ≠ c) = names :=
      List.filter_eq_self.2 fun n hn => by
        simpa using fun he : n = c => Bool.false_ne_true (hc.1 (he ▸ hn))
    simp only [Bool.false_eq_true, if_true, if_false, List.filter_append, hfilter]
    simp

/-- Setting a class to `x` and then to `y` once more gives back the same element. -/
theorem toggle_toggle (hc : ClassName c) (x y : Bool) (e : Element) :
    (((e.toggle c x).toggle c y).toggle c x).toggle c y = (e.toggle c x).toggle c y := by
  have hx := hasClass_toggle_self hc x e
  generalize e.toggle c x = a at hx ⊢
  by_cases hxy : x = y
  · subst hxy
    rw [toggle_of_eq hx, toggle_of_eq hx, toggle_of_eq hx]
  have hay : a.hasClass c ≠ y := by
    rw [hx]
    exact hxy
  have hclasses : (a.toggle c y).classes = withClass c y a.classes := classes_toggle_of_ne hc hay
  have hb : (a.toggle c y).hasClass c ≠ x := by
    rw [hasClass_toggle_self hc]
    exact Ne.symm hxy
  have hd : ((a.toggle c y).toggle c x).hasClass c ≠ y := by
    rw [hasClass_toggle_self hc]
    exact hxy
  have hmem : c ∈ a.classes ↔ x = true := by rw [← hx]; simp [hasClass]
  rw [toggle_of_ne hd, classes_toggle_of_ne hc hb, hclasses, withClass_withClass hxy hmem,
    toggle_of_ne hb, toggle_of_ne hay, setAttr_setAttr, setAttr_setAttr]

/-- A toggle looks at the attributes of an element and changes nothing else. -/
theorem toggle_node (c : String) (on : Bool) (as : List (String × String)) (cs : List Element) :
    (node as cs).toggle c on = node ((node as []).toggle c on).attributes cs := by
  have hclass : (node as []).hasClass c = (node as cs).hasClass c := rfl
  have hclasses : (node as []).classes = (node as cs).classes := rfl
  unfold toggle
  rw [hclass, hclasses]
  split
  · rfl
  · split <;> rfl

/-! ## Marks -/

/-- An element with the active class set or removed, if it is of a class. -/
def mark (cls : String) (on : Bool) (e : Element) : Element :=
  if e.hasClass cls then e.toggle activeClass on else e

theorem activate_node (cls : String) (chosen : Nat → Bool) (as : List (String × String))
    (cs : List Element) :
    activate cls chosen (node as cs) = node as (cs.mapIdx fun i => mark cls (chosen i)) := rfl

theorem mark_node (cls : String) (on : Bool) (as : List (String × String)) (cs : List Element) :
    mark cls on (node as cs) = node (mark cls on (node as [])).attributes cs := by
  have hclass : (node as []).hasClass cls = (node as cs).hasClass cls := rfl
  unfold mark
  rw [hclass]
  split
  · exact toggle_node ..
  · rfl

theorem hasClass_mark {cls' : String} (h : cls' ≠ activeClass) (cls : String) (on : Bool)
    (e : Element) : (mark cls on e).hasClass cls' = e.hasClass cls' := by
  unfold mark
  split
  · rw [hasClass_toggle className_active, if_neg h]
  · rfl

theorem mark_twice {cls : String} (h : cls ≠ activeClass) (on : Bool) (e : Element) :
    mark cls on (mark cls on e) = mark cls on e := by
  have hmark := hasClass_mark h cls on e
  cases hc : e.hasClass cls with
  | false => simp only [mark, hc, Bool.false_eq_true, if_false]
  | true =>
    rw [hc] at hmark
    unfold mark at hmark ⊢
    rw [if_pos hmark, if_pos hc, toggle_of_eq (hasClass_toggle_self className_active on e)]

/-- Marking by one class and then by another once more gives back the same element. -/
theorem mark_mark {cls cls' : String} (h : cls ≠ activeClass) (h' : cls' ≠ activeClass)
    (x y : Bool) (e : Element) :
    mark cls' y (mark cls x (mark cls' y (mark cls x e))) = mark cls' y (mark cls x e) := by
  have hon : ∀ z a,
      (a : Element).toggle activeClass z = (a.toggle activeClass z).toggle activeClass z :=
    fun z a => (toggle_of_eq (hasClass_toggle_self className_active z a)).symm
  have hback := toggle_toggle className_active x y e
  cases hc : e.hasClass cls <;> cases hc' : e.hasClass cls' <;>
    simp only [mark, hc, hc', hasClass_toggle className_active, if_neg h, if_neg h', if_true,
      Bool.false_eq_true, if_false, hback, ← hon]

/-! ## Changes at places of a tree -/

theorem modify_modify (f g : Element → Element) (p : Path) (e : Element) :
    (e.modify f p).modify g p = e.modify (g ∘ f) p := by
  induction p generalizing e with
  | nil => rfl
  | cons i p ih =>
    obtain ⟨as, cs⟩ := e
    have hchild : modify g p ∘ modify f p = modify (g ∘ f) p := funext fun c => ih c
    rw [modify, modify, modify, List.modify_modify_eq, hchild]

/-- An activation at a path does not look at the attributes of the element where it starts. -/
theorem modify_activate_node (cls : String) (chosen : Nat → Bool) (p : Path) :
    ∃ f : List Element → List Element, ∀ as cs,
      (node as cs).modify (activate cls chosen) p = node as (f cs) := by
  cases p with
  | nil => exact ⟨fun cs => cs.mapIdx fun i => mark cls (chosen i), fun as cs => rfl⟩
  | cons i p => exact ⟨fun cs => cs.modify i (modify (activate cls chosen) p), fun as cs => rfl⟩

theorem mark_modify (cls cls' : String) (on : Bool) (chosen : Nat → Bool) (p : Path) (e : Element) :
    mark cls on (e.modify (activate cls' chosen) p) =
      (mark cls on e).modify (activate cls' chosen) p := by
  obtain ⟨as, cs⟩ := e
  obtain ⟨f, hf⟩ := modify_activate_node cls' chosen p
  rw [hf, mark_node, mark_node cls on as cs, hf]

/-- Activations of an element's children and of something further inside can be exchanged. -/
theorem activate_modify (cls cls' : String) (chosen chosen' : Nat → Bool) (i : Nat) (p : Path)
    (e : Element) :
    activate cls chosen (e.modify (activate cls' chosen') (i :: p)) =
      (activate cls chosen e).modify (activate cls' chosen') (i :: p) := by
  obtain ⟨as, cs⟩ := e
  rw [modify, activate_node, activate_node, modify]
  refine congrArg (node as) (List.ext_getElem? fun j => ?_)
  rw [List.getElem?_mapIdx, List.getElem?_modify, List.getElem?_modify, List.getElem?_mapIdx]
  cases cs[j]? with
  | none => rfl
  | some c =>
    by_cases hij : i = j
    · simp only [hij, if_pos, Option.map_some, Option.map_eq_map, mark_modify]
    · simp only [hij, if_false, Option.map_some, Option.map_eq_map]

/-- Activations at different paths can be exchanged. -/
theorem modify_comm {cls cls' : String} {chosen chosen' : Nat → Bool} {p q : Path} (h : p ≠ q)
    (e : Element) :
    (e.modify (activate cls chosen) p).modify (activate cls' chosen') q =
      (e.modify (activate cls' chosen') q).modify (activate cls chosen) p := by
  induction p generalizing e q with
  | nil =>
    cases q with
    | nil => exact absurd rfl h
    | cons i q => exact (activate_modify ..).symm
  | cons j p ih =>
    cases q with
    | nil => exact activate_modify ..
    | cons i q =>
      obtain ⟨as, cs⟩ := e
      simp only [modify]
      refine congrArg (node as) ?_
      by_cases hij : j = i
      · subst hij
        rw [List.modify_modify_eq, List.modify_modify_eq]
        exact congrArg (cs.modify j) (funext fun c => ih (fun he => h (by rw [he])) c)
      · exact List.modify_modify_ne _ _ _ hij

end Element

end DocTabs.Switcher
