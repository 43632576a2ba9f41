/-
How often a word occurs in a text. The occurrences in two texts add up where none lies across their
border, so a text has as many as a part at its start or more, and blanks around a text add none of a word
without blanks. A trimmed text is what is left between blanks.
-/
import Mathlib.Data.List.Infix
import Mathlib.Tactic.SplitIfs
import DocTabs.Proofs.Text.Search

namespace DocTabs.Text

variable {w : String} {x y s r a b : List Char} {c : Char}

/-! ## Between blanks -/

theorem blanks_nil : Blanks [] := nofun

theorem Blanks.append (ha : Blanks a) (hb : Blanks b) : Blanks (a ++ b) := fun c hc =>
  (List.mem_append.1 hc).elim (ha c) (hb c)

/-- A text is what is left when it is trimmed, between two runs of blanks. -/
theorem exists_trim (s : List Char) : ∃ a b, Blanks a ∧ Blanks b ∧ s = a ++ trim s ++ b := by
  obtain ⟨a, ha, hs⟩ := exists_trimStart s
  obtain ⟨b, hb, ht⟩ := exists_trimEnd (trimStart s)
  refine ⟨a, b, ha, hb, ?_⟩
  rw [List.append_assoc]
  exact hs.trans (congrArg (a ++ ·) ht)

/-- Trimming takes away the blanks around a text that neither starts nor ends with one. -/
theorem trim_of_flush (hr : Flush r) (hend : Flush r.reverse) (ha : Blanks a) (hb : Blanks b) :
    trim (a ++ r ++ b) = r := by
  rw [trim, List.append_assoc, trimStart_append ha]
  by_cases hne : r = []
  · rw [hne, List.nil_append, ← List.append_nil b, trimStart_append hb]
    rfl
  · rw [trimStart_of_flush (hr.append hne b), trimEnd_append hb, trimEnd_of_flush hend]

theorem flush_trim (s : List Char) : Flush (trim s) := (flush_trimStart s).trimEnd

theorem flush_reverse_trim (s : List Char) : Flush (trim s).reverse := by
  rw [trim, trimEnd_eq_reverse, List.reverse_reverse]
  exact flush_trimStart _

/-- Blanks around a text do not matter when it is trimmed. -/
theorem trim_between (ha : Blanks a) (hb : Blanks b) (s : List Char) : trim (a ++ s ++ b) = trim s := by
  obtain ⟨a', b', ha', hb', hs⟩ := exists_trim s
  calc trim (a ++ s ++ b) = trim (a ++ a' ++ trim s ++ (b' ++ b)) := by
        conv_lhs => rw [hs]
        simp only [List.append_assoc]
    _ = trim s := trim_of_flush (flush_trim s) (flush_reverse_trim s) (ha.append ha') (hb'.append hb)

theorem toList_trimmed (s : String) : (trimmed s).toList = trim s.toList := String.toList_ofList

theorem before?_eq_some : before? w s = some r ↔ s = r ++ w.toList := by
  have hstart : ∀ t : List Char, w.toList.reverse.isPrefixOf? s.reverse = some t ↔
      s = t.reverse ++ w.toList := fun t => by
    rw [List.isPrefixOf?_eq_some_iff_append_eq, eq_comm, List.reverse_eq_iff, List.reverse_append,
      List.reverse_reverse]
  rw [before?, Option.map_eq_some_iff]
  constructor
  · rintro ⟨t, ht, rfl⟩
    exact (hstart t).1 ht
  · intro h
    exact ⟨r.reverse, (hstart _).2 (by rwa [List.reverse_reverse]), List.reverse_reverse r⟩

/-! ## Occurrences -/

/-- The number of positions at which a word starts in a text. -/
def occurrences (w : String) (s : List Char) : Nat :=
  s.tails.countP (w.toList.isPrefixOf ·)

/-- No occurrence of the word lies across the border of the two texts. -/
def Apart (w : String) (x y : List Char) : Prop :=
  ∀ u v, w.toList = u ++ v → u ≠ [] → v ≠ [] → u <:+ x → ¬ v <+: y

theorem occurrences_nil (hw : w.toList ≠ []) : occurrences w [] = 0 := by
  simp [occurrences, hw]

theorem occurrences_cons (w : String) (c : Char) (s : List Char) :
    occurrences w (c :: s) = occurrences w s + if w.toList <+: c :: s then 1 else 0 := by
  simp [occurrences, List.countP_cons, List.isPrefixOf_iff_prefix]

/-- A word without occurrences is nowhere in the text. -/
theorem occurrences_eq_zero : occurrences w s = 0 ↔ ¬ w.toList <:+: s := by
  rw [occurrences, List.countP_eq_zero, List.infix_iff_prefix_suffix]
  simp [List.isPrefixOf_iff_prefix]
  tauto

/-- What stands at the start of two texts stands in the first one, or goes on in the second. -/
theorem prefix_append_cases (h : r <+: x ++ y) : r <+: x ∨ ∃ q, r = x ++ q ∧ q <+: y := by
  rcases List.prefix_or_prefix_of_prefix h (List.prefix_append x y) with hr | ⟨q, rfl⟩
  · exact .inl hr
  · exact .inr ⟨q, rfl, (List.prefix_append_right_inj x).1 h⟩

theorem occurrences_append (hw : w.toList ≠ []) (h : Apart w x y) :
    occurrences w (x ++ y) = occurrences w x + occurrences w y := by
  induction x with
  | nil => rw [occurrences_nil hw, List.nil_append, Nat.zero_add]
  | cons c x ih =>
    have hx : Apart w x y := fun u v huv hu hv hux => h u v huv hu hv (hux.trans (List.suffix_cons c x))
    -- a word that starts here ends here, too
    have hhead : w.toList <+: c :: (x ++ y) ↔ w.toList <+: c :: x := by
      constructor
      · intro hp
        rcases prefix_append_cases (show w.toList <+: (c :: x) ++ y from hp) with hp | ⟨v, hv, hvy⟩
        · exact hp
        · by_cases hnil : v = []
          · rw [hv, hnil, List.append_nil]
          · exact absurd hvy (h (c :: x) v hv (List.cons_ne_nil c x) hnil List.suffix_rfl)
      · exact fun hp => hp.trans (List.prefix_append (c :: x) y)
    rw [List.cons_append, occurrences_cons, occurrences_cons, ih hx]
    simp only [hhead]
    omega

/-- A part of a text that is left at its end has no more occurrences. -/
theorem occurrences_mono (h : x <+: s) : occurrences w x ≤ occurrences w s := by
  obtain ⟨r, rfl⟩ := h
  induction x with
  | nil =>
    rw [List.nil_append]
    induction r with
    | nil => exact Nat.le_refl _
    | cons c r ih => rw [occurrences_cons]; omega
  | cons c x ih =>
    have hhead : w.toList <+: c :: x → w.toList <+: c :: (x ++ r) :=
      fun hp => hp.trans (List.prefix_append (c :: x) r)
    rw [List.cons_append, occurrences_cons, occurrences_cons]
    split_ifs with h₁ h₂
    · omega
    · exact absurd (hhead h₁) h₂
    · omega
    · omega

theorem Apart.mono (h : Apart w x y) (hr : r <+: y) : Apart w x r :=
  fun u v huv hu hv hux hvr => h u v huv hu hv hux (hvr.trans hr)

/-- No word goes on in a text that starts with a character it does not go on with. -/
theorem apart_of_head (h : ∀ c ∈ y.head?, c ∉ w.toList.tail) : Apart w x y := by
  rintro u v huv hu hv - ⟨y', rfl⟩
  obtain ⟨c, u, rfl⟩ := List.exists_cons_of_ne_nil hu
  obtain ⟨d, v, rfl⟩ := List.exists_cons_of_ne_nil hv
  exact h d rfl (by rw [huv]; simp)

/-- No word has started in a text that ends with a character it ends with only. -/
theorem apart_of_last (h : ∀ c ∈ x.getLast?, c ∉ w.toList.dropLast) : Apart w x y := by
  rintro u v huv hu hv ⟨x', rfl⟩ -
  obtain ⟨u, c, rfl⟩ := (List.eq_nil_or_concat u).resolve_left hu
  have hlast : (x' ++ u.concat c).getLast? = some c := by
    rw [List.concat_eq_append, ← List.append_assoc, List.getLast?_concat]
  refine h c hlast ?_
  rw [huv, List.dropLast_append_of_ne_nil hv]
  simp

/-! ## Words without blanks -/

/-- A word, without blanks. -/
structure Solid (w : String) : Prop where
  ne_nil : w.toList ≠ []
  shown : ∀ c ∈ w.toList, isBlank c = false

theorem solid_of_all (hne : w.toList ≠ []) (h : w.toList.all (!isBlank ·) = true) : Solid w :=
  ⟨hne, fun c hc => by simpa using List.all_eq_true.1 h c hc⟩

theorem Solid.occurrences_blanks (hw : Solid w) (ha : Blanks a) : occurrences w a = 0 := by
  rw [occurrences_eq_zero]
  intro hin
  obtain ⟨c, t, ht⟩ := List.exists_cons_of_ne_nil hw.ne_nil
  have hc : c ∈ w.toList := ht ▸ List.mem_cons_self ..
  have hblank := ha c (hin.subset hc)
  rw [hw.shown c hc] at hblank
  cases hblank

/-- Blanks around a text hold no occurrence of the word, and none reaches into them. -/
theorem Solid.occurrences_between (hw : Solid w) (ha : Blanks a) (hb : Blanks b) (s : List Char) :
    occurrences w (a ++ s ++ b) = occurrences w s := by
  have hleft : Apart w a s := apart_of_last fun c hc hmem => by
    have hblank := ha c (List.mem_of_getLast? hc)
    rw [hw.shown c (List.mem_of_mem_dropLast hmem)] at hblank
    cases hblank
  have hright : Apart w (a ++ s) b := apart_of_head fun c hc hmem => by
    have hblank := hb c (List.mem_of_head? hc)
    rw [hw.shown c (List.mem_of_mem_tail hmem)] at hblank
    cases hblank
  rw [occurrences_append hw.ne_nil hright, occurrences_append hw.ne_nil hleft,
    hw.occurrences_blanks ha, hw.occurrences_blanks hb, Nat.zero_add, Nat.add_zero]

theorem Solid.occurrences_trim (hw : Solid w) (s : List Char) :
    occurrences w (trim s) = occurrences w s := by
  obtain ⟨a, b, ha, hb, hs⟩ := exists_trim s
  conv_rhs => rw [hs]
  exact (hw.occurrences_between ha hb (trim s)).symm

end DocTabs.Text
