/-
Laws of element trees: what toggling a class changes and what it leaves, where a path leads after
the children at another path were made active, and which element around a path is the closest.
-/
import DocTabs.Switcher.Click

namespace DocTabs.Switcher

open Tabs

namespace Element

/-! ## Class names -/

/-- A text that is one class name. -/
def ClassName (n : String) : Prop := n ≠ "" ∧ ∀ c ∈ n.toList, isClassBlank c = false

instance (n : String) : Decidable (ClassName n) :=
  decidable_of_iff (n ≠ "" ∧ n.toList.all (!isClassBlank ·) = true) (by simp [ClassName])

theorem className_active : ClassName activeClass := by decide

/-- The texts between the blanks of a text, empty ones included. -/
def pieces (s : List Char) : List (List Char) :=
  s.foldr (fun c names =>
    match isClassBlank c, names with
    | true, _ => [] :: names
    | false, [] => [[c]]
    | false, n :: ns => (c :: n) :: ns) [[]]

theorem pieces_blank {c : Char} (hc : isClassBlank c = true) (s : List Char) :
    pieces (c :: s) = [] :: pieces s := by
  simp only [pieces, List.foldr_cons, hc]

theorem pieces_cons {c : Char} (hc : isClassBlank c = false) {s n : List Char}
    {ns : List (List Char)} (h : pieces s = n :: ns) : pieces (c :: s) = (c :: n) :: ns := by
  simp only [pieces] at h ⊢
  simp only [List.foldr_cons, hc, h]

theorem exists_pieces (s : List Char) : ∃ n ns, pieces s = n :: ns := by
  induction s with
  | nil => exact ⟨[], [], rfl⟩
  | cons c s ih =>
    obtain ⟨n, ns, h⟩ := ih
    cases hc : isClassBlank c with
    | true => exact ⟨[], pieces s, pieces_blank hc s⟩
    | false => exact ⟨_, _, pieces_cons hc h⟩

/-- A text without blanks goes in front of the first piece of what follows it. -/
theorem pieces_append {x s n : List Char} {ns : List (List Char)}
    (hx : ∀ c ∈ x, isClassBlank c = false) (h : pieces s = n :: ns) :
    pieces (x ++ s) = (x ++ n) :: ns := by
  induction x with
  | nil => exact h
  | cons c x ih =>
    exact pieces_cons (hx c (List.mem_cons_self ..)) (ih fun d hd => hx d (List.mem_cons_of_mem _ hd))

theorem not_blank_of_mem_pieces {s n : List Char} (hn : n ∈ pieces s) :
    ∀ c ∈ n, isClassBlank c = false := by
  induction s generalizing n with
  | nil =>
    obtain rfl := List.mem_singleton.1 hn
    exact fun c hc => by cases hc
  | cons c s ih =>
    cases hc : isClassBlank c with
    | true =>
      rw [pieces_blank hc] at hn
      rcases List.mem_cons.1 hn with rfl | hn
      · exact fun c hc => by cases hc
      · exact ih hn
    | false =>
      obtain ⟨m, ms, h⟩ := exists_pieces s
      rw [pieces_cons hc h] at hn
      rw [h] at ih
      rcases List.mem_cons.1 hn with rfl | hn
      · intro d hd
        rcases List.mem_cons.1 hd with rfl | hd
        · exact hc
        · exact ih (List.mem_cons_self ..) d hd
      · exact ih (List.mem_cons_of_mem _ hn)

theorem mem_classNames {s n : String} : n ∈ classNames s ↔ n ≠ "" ∧ n.toList ∈ pieces s.toList := by
  show n ∈ (((pieces s.toList).filter (!·.isEmpty)).map String.ofList).eraseDups ↔ _
  rw [List.mem_eraseDups, List.mem_map]
  constructor
  · rintro ⟨m, hm, rfl⟩
    obtain ⟨hm, hne⟩ := List.mem_filter.1 hm
    refine ⟨fun he => ?_, by rwa [String.toList_ofList]⟩
    have := congrArg String.toList he
    rw [String.toList_ofList] at this
    rw [this] at hne; simp at hne
  · rintro ⟨hne, hm⟩
    refine ⟨n.toList, List.mem_filter.2 ⟨hm, ?_⟩, String.ofList_toList ..⟩
    simpa [String.toList_eq_nil_iff] using hne

theorem className_of_mem {s n : String} (h : n ∈ classNames s) : ClassName n :=
  ⟨(mem_classNames.1 h).1, not_blank_of_mem_pieces (mem_classNames.1 h).2⟩

/-- The pieces of class names that are joined by blanks are these names. -/
theorem pieces_intercalate {names : List String} (hne : names ≠ [])
    (h : ∀ n ∈ names, ClassName n) :
    pieces (" ".intercalate names).toList = names.map String.toList := by
  rw [String.toList_intercalate]
  induction names with
  | nil => exact absurd rfl hne
  | cons n names ih =>
    have hn := (h n (List.mem_cons_self ..)).2
    rcases names with _ | ⟨m, names⟩
    · simpa using pieces_append hn (s := []) rfl
    · have hrest := ih (by simp) fun k hk => h k (List.mem_cons_of_mem _ hk)
      simp only [List.map_cons] at hrest ⊢
      have hblank := pieces_blank (show isClassBlank ' ' = true by decide)
        (" ".toList.intercalate (m.toList :: names.map String.toList))
      rw [List.intercalate_cons_cons, List.append_assoc]
      exact (pieces_append hn hblank).trans (by rw [List.append_nil, hrest])

theorem mem_classNames_intercalate {names : List String} (h : ∀ n ∈ names, ClassName n)
    {c : String} : c ∈ classNames (" ".intercalate names) ↔ c ∈ names := by
  rcases names with _ | ⟨n, names⟩
  · simp [mem_classNames, pieces, String.toList_eq_nil_iff]
  · rw [mem_classNames, pieces_intercalate (by simp) h]
    constructor
    · rintro ⟨-, hc⟩
      obtain ⟨k, hk, he⟩ := List.mem_map.1 hc
      rwa [← String.toList_inj.1 he]
    · intro hc
      exact ⟨(h c hc).1, List.mem_map.2 ⟨c, hc, rfl⟩⟩

/-! ## Attributes and classes -/

theorem lookup_cons {as : List (String × String)} (k w n : String) :
    ((k, w) :: as).lookup n = if n = k then some w else as.lookup n := by
  rw [List.lookup_cons]
  by_cases h : n = k
  · subst h; simp
  · rw [if_neg h, beq_false_of_ne h]

theorem lookup_replace (as : List (String × String)) (name v n : String) :
    (as.map fun a => if a.1 = name then (name, v) else a).lookup n =
      if n = name then (as.lookup name).map fun _ => v else as.lookup n := by
  induction as with
  | nil => simp
  | cons a as ih =>
    obtain ⟨k, w⟩ := a
    rw [List.map_cons, lookup_cons k w n, lookup_cons k w name]
    by_cases hk : k = name
    · subst hk
      rw [if_pos rfl, lookup_cons, ih, if_pos rfl]
      split <;> rfl
    · rw [if_neg hk, lookup_cons, ih, if_neg (Ne.symm hk)]
      by_cases hn : n = k
      · rw [if_pos hn, if_neg fun he => hk (hn.symm.trans he), if_pos hn]
      · rw [if_neg hn, if_neg hn]

/-- Setting an attribute decides that attribute and no other. -/
theorem attr?_setAttr (e : Element) (name v n : String) :
    (e.setAttr name (some v)).attr? n = if n = name then some v else e.attr? n := by
  obtain ⟨as, cs⟩ := e
  show List.lookup n (if (as.lookup name).isSome = true then _ else _) = _
  cases h : as.lookup name with
  | some w =>
    rw [if_pos (by rfl), lookup_replace, h]; rfl
  | none =>
    rw [if_neg (by simp), List.lookup_append]
    by_cases hn : n = name
    · subst hn; simp [h]
    · rw [if_neg hn, lookup_cons, if_neg hn]
      exact Option.or_none ..

@[simp] theorem children_setAttr (e : Element) (name : String) (v : Option String) :
    (e.setAttr name v).children = e.children := by
  obtain ⟨as, cs⟩ := e
  cases v <;> rfl

theorem hasClass_iff {e : Element} {c : String} :
    e.hasClass c = true ↔ c ∈ classNames ((e.attr? "class").getD "") := by
  rw [hasClass, decide_eq_true_iff, classes]

/-- Elements with the same class attribute have the same classes. -/
theorem hasClass_congr {a b : Element} (h : a.attr? "class" = b.attr? "class") (c : String) :
    a.hasClass c = b.hasClass c := by
  rw [Bool.eq_iff_iff, hasClass_iff, hasClass_iff, h]

theorem hasClass_setAttr {e : Element} {names : List String} (h : ∀ n ∈ names, ClassName n)
    {c : String} : (e.setAttr "class" (some (" ".intercalate names))).hasClass c = true ↔ c ∈ names := by
  rw [hasClass_iff, attr?_setAttr, if_pos rfl, Option.getD_some, mem_classNames_intercalate h]

/-- Toggling a class decides that class and no other. -/
theorem hasClass_toggle {c : String} (hc : ClassName c) (on : Bool) (e : Element) (c' : String) :
    (e.toggle c on).hasClass c' = if c' = c then on else e.hasClass c' := by
  have hnames : ∀ n ∈ e.classes, ClassName n := fun n hn => className_of_mem hn
  have hmem : e.hasClass c' = true ↔ c' ∈ e.classes := by simp [hasClass]
  unfold toggle
  split
  · rename_i he
    split
    · rename_i hcc; rw [hcc, he]
    · rfl
  · rw [Bool.eq_iff_iff]
    split
    · rename_i hon
      have hnames' : ∀ n ∈ e.classes ++ [c], ClassName n := fun n hn => by
        rcases List.mem_append.1 hn with hn | hn
        · exact hnames n hn
        · rw [List.mem_singleton.1 hn]; exact hc
      rw [hasClass_setAttr hnames', List.mem_append, List.mem_singleton]
      split
      · rename_i hcc; simp [hcc, hon]
      · rename_i hcc; simp [hcc, hmem]
    · rename_i hon
      rw [hasClass_setAttr fun n hn => hnames n (List.mem_filter.1 hn).1, List.mem_filter]
      split
      · rename_i hcc; simp [hcc, hon]
      · rename_i hcc; simp [hcc, hmem]

theorem attr?_toggle {n : String} (hn : n ≠ "class") (c : String) (on : Bool) (e : Element) :
    (e.toggle c on).attr? n = e.attr? n := by
  unfold toggle
  split
  · rfl
  · split <;> rw [attr?_setAttr, if_neg hn]

@[simp] theorem children_toggle (c : String) (on : Bool) (e : Element) :
    (e.toggle c on).children = e.children := by
  unfold toggle
  split
  · rfl
  · split <;> exact children_setAttr ..

/-! ## Paths -/

theorem at?_cons (e : Element) (i : Nat) (p : Path) :
    e.at? (i :: p) = e.children[i]? >>= (at? · p) := rfl

theorem at?_append (e : Element) (p q : Path) : e.at? (p ++ q) = e.at? p >>= (at? · q) := by
  induction p generalizing e with
  | nil => rfl
  | cons i p ih =>
    rw [List.cons_append, at?_cons, at?_cons]
    cases e.children[i]? with
    | none => rfl
    | some c => exact ih c

theorem at?_child {e x : Element} {p : Path} (h : e.at? p = some x) (i : Nat) :
    e.at? (p ++ [i]) = x.children[i]? := by
  rw [at?_append, h]
  show x.children[i]? >>= (at? · []) = _
  cases x.children[i]? <;> rfl

@[simp] theorem mem_upward {path q : Path} : q ∈ upward path ↔ q <+: path := by
  induction path generalizing q with
  | nil => rw [upward, List.mem_singleton, List.prefix_nil]
  | cons i path ih =>
    rw [upward, List.mem_append, List.mem_map, List.mem_singleton, List.prefix_cons_iff, or_comm]
    exact or_congr_right (exists_congr fun t => by rw [ih, eq_comm, and_comm])

/-- The way outwards meets longer paths first. -/
theorem upward_pairwise (path : Path) : (upward path).Pairwise fun a b => b.length < a.length := by
  induction path with
  | nil => exact List.pairwise_singleton ..
  | cons i path ih =>
    refine List.pairwise_append.2 ⟨?_, List.pairwise_singleton .., fun a ha b hb => ?_⟩
    · exact List.pairwise_map.2 (ih.imp fun h => by simpa using h)
    · obtain ⟨t, -, rfl⟩ := List.mem_map.1 ha
      rw [List.mem_singleton.1 hb]
      exact Nat.zero_lt_succ _

theorem closest_eq_none {root : Element} {p : Element → Bool} {path : Path} :
    root.closest p path = none ↔ ∀ q, q <+: path → (root.at? q).any p = false := by
  rw [closest, List.find?_eq_none]
  simp only [mem_upward, Bool.not_eq_true]

/-- The closest element is the innermost one at or around a path. -/
theorem closest_spec {root : Element} {p : Element → Bool} {path q : Path}
    (h : root.closest p path = some q) : q <+: path ∧ (root.at? q).any p = true ∧
      ∀ q', q' <+: path → q.length < q'.length → (root.at? q').any p = false := by
  obtain ⟨hp, as, bs, hsplit, has⟩ := List.find?_eq_some_iff_append.1 h
  have hq : q ∈ upward path := by rw [hsplit]; simp
  refine ⟨mem_upward.1 hq, hp, fun q' hq' hlt => ?_⟩
  have hpair := upward_pairwise path
  have hmem := mem_upward.2 hq'
  rw [hsplit] at hpair hmem
  rcases List.mem_append.1 hmem with hm | hm
  · simpa using has q' hm
  · rcases List.mem_cons.1 hm with rfl | hm
    · exact absurd hlt (Nat.lt_irrefl _)
    · have := (List.pairwise_cons.1 (List.pairwise_append.1 hpair).2.1).1 q' hm
      omega

theorem closest_eq_some {root : Element} {p : Element → Bool} {path q : Path} :
    root.closest p path = some q ↔ q <+: path ∧ (root.at? q).any p = true ∧
      ∀ q', q' <+: path → q.length < q'.length → (root.at? q').any p = false := by
  refine ⟨closest_spec, fun ⟨hq, hp, hl⟩ => ?_⟩
  cases h : root.closest p path with
  | none =>
    rw [closest_eq_none.1 h q hq] at hp; cases hp
  | some r =>
    obtain ⟨hr, hpr, hlr⟩ := closest_spec h
    have h1 : ¬ q.length < r.length := fun hlt => by rw [hl r hr hlt] at hpr; cases hpr
    have h2 : ¬ r.length < q.length := fun hlt => by rw [hlr q hq hlt] at hp; cases hp
    have hpre := List.prefix_of_prefix_length_le hr hq (Nat.le_of_not_lt h1)
    rw [hpre.eq_of_length (by omega)]

/-! ## Activation -/

/-- Elements that differ below their children at most. -/
def SameNode (a b : Element) : Prop :=
  a.attributes = b.attributes ∧ a.children.length = b.children.length

theorem SameNode.refl (a : Element) : SameNode a a := ⟨rfl, rfl⟩

theorem SameNode.trans {a b c : Element} (h : SameNode a b) (h' : SameNode b c) : SameNode a c :=
  ⟨h.1.trans h'.1, h.2.trans h'.2⟩

theorem SameNode.attr?_eq {a b : Element} (h : SameNode a b) (n : String) : b.attr? n = a.attr? n := by
  rw [attr?, attr?, h.1]

theorem SameNode.hasClass_eq {a b : Element} (h : SameNode a b) (c : String) :
    b.hasClass c = a.hasClass c :=
  hasClass_congr (h.attr?_eq "class") c

section Related

variable {R S : Element → Element → Prop} {x y z : Option Element}

theorem rel_mono (h : ∀ a b, R a b → S a b) : Option.Rel R x y → Option.Rel S x y
  | .some hab => .some (h _ _ hab)
  | .none => .none

theorem rel_trans (h : ∀ a b c, R a b → R b c → R a c) :
    Option.Rel R x y → Option.Rel R y z → Option.Rel R x z
  | .some hab, .some hbc => .some (h _ _ _ hab hbc)
  | .none, .none => .none

theorem rel_any {p : Element → Bool} (h : ∀ a b, R a b → p b = p a) :
    Option.Rel R x y → y.any p = x.any p
  | .some hab => h _ _ hab
  | .none => rfl

end Related

theorem children_activate (cls : String) (chosen : Nat → Bool) (e : Element) (i : Nat) :
    (activate cls chosen e).children[i]? = e.children[i]?.map fun c =>
      if c.hasClass cls then c.toggle activeClass (chosen i) else c := by
  obtain ⟨as, cs⟩ := e
  exact List.getElem?_mapIdx ..

theorem sameNode_activate (cls : String) (chosen : Nat → Bool) (e : Element) :
    SameNode e (activate cls chosen e) := by
  obtain ⟨as, cs⟩ := e
  exact ⟨rfl, List.length_mapIdx.symm⟩

theorem children_modify (f : Element → Element) (i : Nat) (p : Path) (e : Element) (j : Nat) :
    (e.modify f (i :: p)).children[j]? =
      if i = j then e.children[j]?.map (modify f p) else e.children[j]? := by
  obtain ⟨as, cs⟩ := e
  rw [modify, children, children, List.getElem?_modify]
  split
  · rfl
  · exact congrFun Option.map_id_fun' _

theorem sameNode_modify (f : Element → Element) (i : Nat) (p : Path) (e : Element) :
    SameNode e (e.modify f (i :: p)) := by
  obtain ⟨as, cs⟩ := e
  exact ⟨rfl, (List.length_modify ..).symm⟩

/-- Activation at a path decides the children of the class there. -/
theorem at?_activate_child (cls : String) (chosen : Nat → Bool) (e : Element) (p : Path) (i : Nat) :
    (e.modify (activate cls chosen) p).at? (p ++ [i]) = (e.at? (p ++ [i])).map fun c =>
      if c.hasClass cls then c.toggle activeClass (chosen i) else c := by
  induction p generalizing e with
  | nil =>
    rw [List.nil_append, at?_cons, at?_cons, modify, children_activate]
    cases e.children[i]? <;> rfl
  | cons j p ih =>
    rw [List.cons_append, at?_cons, at?_cons, children_modify, if_pos rfl]
    cases e.children[j]? with
    | none => rfl
    | some c => exact ih c

/-- Activation at a path leaves all elements but the children there as they are. -/
theorem at?_activate (cls : String) (chosen : Nat → Bool) (e : Element) (p q : Path)
    (hq : ∀ i, q ≠ p ++ [i]) :
    Option.Rel SameNode (e.at? q) ((e.modify (activate cls chosen) p).at? q) := by
  have same : ∀ o : Option Element, Option.Rel SameNode o o := fun o => by
    cases o with
    | none => exact .none
    | some a => exact .some (.refl a)
  -- `q` ends above the children at `p`, leaves the way to `p`, or goes on below one of them
  induction p generalizing e q with
  | nil =>
    rcases q with _ | ⟨i, _ | ⟨j, q⟩⟩
    · exact .some (sameNode_activate ..)
    · exact absurd rfl (hq i)
    · rw [modify, at?_cons, at?_cons, children_activate]
      cases e.children[i]? with
      | none => exact .none
      | some c =>
        show Option.Rel SameNode (c.at? (j :: q)) (Element.at? (if _ then _ else c) (j :: q))
        split
        · rw [at?_cons, at?_cons, children_toggle]
          exact same _
        · exact same _
  | cons j p ih =>
    rcases q with _ | ⟨i, q⟩
    · exact .some (sameNode_modify ..)
    · rw [at?_cons, at?_cons, children_modify]
      split
      · rename_i hji
        cases e.children[i]? with
        | none => exact .none
        | some c => exact ih c q fun k hk => hq k (by rw [hk, hji]; rfl)
      · exact same _

/-- A relation between the elements before and after an activation need only be shown for the children
of the class. -/
theorem rel_activate {R : Element → Element → Prop} (hsame : ∀ a b, SameNode a b → R a b)
    {cls : String} {chosen : Nat → Bool} {e : Element} {p q : Path}
    (htoggle : ∀ i c, q = p ++ [i] → e.at? q = some c → c.hasClass cls = true →
      R c (c.toggle activeClass (chosen i))) :
    Option.Rel R (e.at? q) ((e.modify (activate cls chosen) p).at? q) := by
  by_cases hq : ∃ i, q = p ++ [i]
  · obtain ⟨i, rfl⟩ := hq
    rw [at?_activate_child]
    cases hc : e.at? (p ++ [i]) with
    | none => exact .none
    | some c =>
      rw [Option.map_some]
      refine .some ?_
      split
      · next hcls => exact htoggle i c rfl hc hcls
      · exact hsame c c (.refl c)
  · exact rel_mono hsame (at?_activate cls chosen e p q fun i hi => hq ⟨i, hi⟩)

end Element

end DocTabs.Switcher
