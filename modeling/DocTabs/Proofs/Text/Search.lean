/-
Laws of leftmost search and of trimming: what a search finds is the least position at which the
recogniser succeeds, a search passes over a text inside which the recogniser fails, and blanks
around a text are trimmed whatever they are. Letters and digits are not blank.
-/
import DocTabs.Text.Blank
import DocTabs.Text.Seek

namespace DocTabs.Text

variable {α : Type} {f : List Char → Option α}

/-! ## The least position -/

/-- A search fails exactly when the recogniser fails at every position. -/
theorem first_eq_none {s : List Char} : first f s = none ↔ ∀ u v, s = u ++ v → f v = none := by
  induction s with
  | nil =>
    rw [first_nil, Option.map_eq_none_iff]
    constructor
    · intro h u v huv
      obtain ⟨-, rfl⟩ := List.append_eq_nil_iff.1 huv.symm
      exact h
    · intro h; exact h [] [] rfl
  | cons c r ih =>
    rw [first_cons]
    constructor
    · intro h u v huv
      cases hf : f (c :: r) with
      | some a => rw [hf] at h; cases h
      | none =>
        simp only [hf, Option.map_eq_none_iff] at h
        rcases u with _ | ⟨d, u⟩
        · rw [List.nil_append] at huv; rw [← huv]; exact hf
        · rw [List.cons_append, List.cons.injEq] at huv
          exact ih.1 h u v huv.2
    · intro h
      rw [h [] (c :: r) rfl]
      simp only [Option.map_eq_none_iff]
      exact ih.2 fun u v huv => h (c :: u) v (by rw [huv]; rfl)

/-- A search finds the least position at which the recogniser succeeds. -/
theorem first_eq_some {s p : List Char} {a : α} :
    first f s = some (p, a) ↔ ∃ t, s = p ++ t ∧ f t = some a ∧
      ∀ u v, s = u ++ v → u.length < p.length → f v = none := by
  induction s generalizing p with
  | nil =>
    rw [first_nil]
    constructor
    · intro h
      obtain ⟨b, hb, h⟩ := Option.map_eq_some_iff.1 h
      obtain ⟨rfl, rfl⟩ := Prod.mk.inj h
      exact ⟨[], rfl, hb, fun u v _ hu => absurd hu (Nat.not_lt_zero _)⟩
    · rintro ⟨t, ht, hf, -⟩
      obtain ⟨rfl, rfl⟩ := List.append_eq_nil_iff.1 ht.symm
      rw [hf]; rfl
  | cons c r ih =>
    rw [first_cons]
    cases hf : f (c :: r) with
    | some b =>
      -- the head is the least position of all, so nothing else can be found
      simp only [Option.some.injEq, Prod.mk.injEq]
      constructor
      · rintro ⟨rfl, rfl⟩
        exact ⟨c :: r, rfl, hf, fun u v _ hu => absurd hu (Nat.not_lt_zero _)⟩
      · rintro ⟨t, ht, ha, hl⟩
        rcases p with _ | ⟨d, p⟩
        · rw [List.nil_append] at ht
          rw [← ht, hf, Option.some.injEq] at ha
          exact ⟨rfl, ha⟩
        · have := hl [] (c :: r) rfl (Nat.zero_lt_succ _)
          rw [hf] at this; cases this
    | none =>
      constructor
      · intro h
        obtain ⟨⟨q, b⟩, hq, he⟩ := Option.map_eq_some_iff.1 h
        obtain ⟨rfl, rfl⟩ := Prod.mk.inj he
        obtain ⟨t, rfl, ht, hl⟩ := ih.1 hq
        refine ⟨t, rfl, ht, fun u v huv hu => ?_⟩
        rcases u with _ | ⟨d, u⟩
        · rw [List.nil_append] at huv; rw [← huv]; exact hf
        · rw [List.cons_append, List.cons.injEq] at huv
          exact hl u v huv.2 (by simpa using hu)
      · rintro ⟨t, ht, ha, hl⟩
        rcases p with _ | ⟨d, p⟩
        · rw [List.nil_append] at ht
          rw [← ht, hf] at ha; cases ha
        · rw [List.cons_append, List.cons.injEq] at ht
          obtain ⟨rfl, ht⟩ := ht
          have := ih.2 ⟨t, ht, ha, fun u v huv hu =>
            hl (c :: u) v (by rw [huv]; rfl) (by simpa using hu)⟩
          rw [Option.map_eq_some_iff]
          exact ⟨(p, a), this, rfl⟩

/-! ## Passing over a text -/

/-- The recogniser fails at every position of `x` when `y` follows. -/
def Passes (f : List Char → Option α) (x y : List Char) : Prop :=
  ∀ u v, x = u ++ v → v ≠ [] → f (v ++ y) = none

theorem Passes.append {x₁ x₂ y : List Char} (h₁ : Passes f x₁ (x₂ ++ y)) (h₂ : Passes f x₂ y) :
    Passes f (x₁ ++ x₂) y := by
  intro u v h hv
  -- the position lies in `x₂`, or it lies in `x₁` and `x₂` goes on behind it
  rcases List.append_eq_append_iff.1 h with ⟨w, rfl, hw⟩ | ⟨w, hw, rfl⟩
  · exact h₂ w v hw hv
  · rcases w with _ | ⟨c, w⟩
    · exact h₂ [] x₂ rfl hv
    · rw [List.append_assoc]
      exact h₁ u (c :: w) hw (by simp)

/-- A search goes on behind a text that it passes over. -/
theorem Passes.first {x y : List Char} (h : Passes f x y) :
    first f (x ++ y) = (first f y).map fun p => (x ++ p.1, p.2) := by
  induction x with
  | nil => simp
  | cons c x ih =>
    have hc : f (c :: (x ++ y)) = none := h [] (c :: x) rfl (by simp)
    have hx : Passes f x y := fun u v huv hv => h (c :: u) v (by rw [huv]; rfl) hv
    rw [List.cons_append, first_cons, hc]
    simp only [ih hx, Option.map_map]
    congr 1

theorem first_of_some {s : List Char} {a : α} (h : f s = some a) : first f s = some ([], a) :=
  first_eq_some.2 ⟨s, rfl, h, fun _ _ _ hu => absurd hu (Nat.not_lt_zero _)⟩

/-! ## Cutting at a word -/

section Cutting

variable {w : String} {c : Char} {t p r s : List Char}

theorem contains_iff : contains w s = true ↔ w.toList <:+: s := by
  rw [contains, Option.isSome_iff_exists]
  constructor
  · rintro ⟨⟨u, r⟩, h⟩
    obtain ⟨v, rfl, hv⟩ := first_some h
    exact ⟨u, r, by rw [after?_eq_some.1 hv, List.append_assoc]⟩
  · rintro ⟨u, v, huv⟩
    cases h : cut? w s with
    | some p => exact ⟨p, rfl⟩
    | none =>
      have := first_eq_none.1 h u (w.toList ++ v) (by rw [← huv, List.append_assoc])
      rw [after?_eq_some.2 rfl] at this; cases this

/-- The search for a word passes over a text without the word's first character. -/
theorem passes_of_not_mem (hw : w.toList = c :: t) (hp : c ∉ p) (y : List Char) :
    Passes (after? w) p y := by
  rintro u v rfl hv
  cases h : after? w (v ++ y) with
  | none => rfl
  | some r =>
    obtain ⟨d, v, rfl⟩ := List.exists_cons_of_ne_nil hv
    have hr := after?_eq_some.1 h
    rw [hw, List.cons_append, List.cons_append] at hr
    obtain ⟨rfl, -⟩ := List.cons.inj hr
    exact absurd (List.mem_append_right u (List.mem_cons_self ..)) hp

theorem cut?_append (hw : w.toList = c :: t) (hp : c ∉ p) (r : List Char) :
    cut? w (p ++ (w.toList ++ r)) = some (p, r) := by
  rw [cut?, (passes_of_not_mem hw hp _).first, first_of_some (after?_eq_some.2 rfl)]
  simp

theorem cut?_eq_none (hw : w.toList = c :: t) (hs : c ∉ s) : cut? w s = none := by
  refine first_eq_none.2 fun u v huv => ?_
  cases h : after? w v with
  | none => rfl
  | some r =>
    rw [huv, after?_eq_some.1 h, hw] at hs
    exact absurd (List.mem_append_right u (List.mem_cons_self ..)) hs

/-- A text is cut at the first occurrence of a character. -/
theorem cut?_char (hw : w.toList = [c]) : cut? w s = some (p, r) ↔ c ∉ p ∧ s = p ++ c :: r := by
  constructor
  · intro h
    obtain ⟨v, hs, hv, hleast⟩ := first_eq_some.1 h
    rw [after?_eq_some.1 hv, hw] at hs
    refine ⟨fun hmem => ?_, hs⟩
    obtain ⟨a, b, rfl⟩ := List.append_of_mem hmem
    have hfound : after? w (c :: (b ++ c :: r)) = some (b ++ c :: r) := after?_eq_some.2 (by rw [hw]; rfl)
    have hnone := hleast a (c :: (b ++ c :: r)) (by rw [hs]; simp) (by simp)
    rw [hfound] at hnone
    cases hnone
  · rintro ⟨hp, rfl⟩
    have hcut := cut?_append hw hp r
    rwa [hw] at hcut

end Cutting

/-! ## Letters and digits -/

theorem isAlpha_iff {c : Char} :
    c.isAlpha = true ↔ 65 ≤ c.toNat ∧ c.toNat ≤ 90 ∨ 97 ≤ c.toNat ∧ c.toNat ≤ 122 := by
  unfold Char.isAlpha Char.isUpper Char.isLower
  simp only [Bool.or_eq_true, Bool.and_eq_true, decide_eq_true_eq, ge_iff_le, UInt32.le_iff_toNat_le]
  exact Iff.rfl

theorem isDigit_iff {c : Char} : c.isDigit = true ↔ 48 ≤ c.toNat ∧ c.toNat ≤ 57 :=
  Char.isDigit_iff_toNat

theorem isDigit_of_isAlpha {c : Char} (h : c.isAlpha = true) : c.isDigit = false := by
  rw [isAlpha_iff] at h
  rw [Bool.eq_false_iff, Ne, isDigit_iff]
  omega

theorem isBlank_of_isAlphanum {c : Char} (h : c.isAlphanum = true) : isBlank c = false := by
  have hn : 48 ≤ c.toNat ∧ c.toNat ≤ 122 := by
    rw [Char.isAlphanum, Bool.or_eq_true, isAlpha_iff, isDigit_iff] at h
    omega
  simp only [isBlank, Bool.or_eq_false_iff, Bool.and_eq_false_iff, decide_eq_false_iff_not,
    beq_eq_false_iff_ne]
  omega

theorem isBlank_of_isAlpha {c : Char} (h : c.isAlpha = true) : isBlank c = false :=
  isBlank_of_isAlphanum (Bool.or_eq_true_iff.2 (.inl h))

/-! ## Blanks -/

/-- A run of blanks, possibly empty. -/
def Blanks (w : List Char) : Prop := ∀ c ∈ w, isBlank c = true

/-- The text does not start with a blank. -/
def Flush (s : List Char) : Prop := ∀ c ∈ s.head?, isBlank c = false

theorem Flush.append {x : List Char} (h : Flush x) (hx : x ≠ []) (y : List Char) :
    Flush (x ++ y) := by
  obtain ⟨c, x, rfl⟩ := List.exists_cons_of_ne_nil hx
  exact h

theorem flush_trimStart (s : List Char) : Flush (trimStart s) := by
  intro c hc
  have h := List.head?_dropWhile_not isBlank s
  unfold trimStart at hc
  rw [Option.mem_def] at hc
  rw [hc] at h
  simpa using h

theorem trimStart_of_flush {s : List Char} (h : Flush s) : trimStart s = s := by
  cases s with
  | nil => rfl
  | cons c s =>
    have hc : isBlank c = false := h c rfl
    simp [trimStart, hc]

theorem trimStart_append {w : List Char} (hw : Blanks w) (s : List Char) :
    trimStart (w ++ s) = trimStart s := by
  induction w with
  | nil => rfl
  | cons c w ih =>
    have hc : isBlank c = true := hw c (List.mem_cons_self ..)
    rw [List.cons_append, trimStart, List.dropWhile_cons_of_pos hc]
    exact ih fun d hd => hw d (List.mem_cons_of_mem _ hd)

/-- A text is a run of blanks and what is left when it is trimmed at its start. -/
theorem exists_trimStart (s : List Char) : ∃ w, Blanks w ∧ s = w ++ trimStart s := by
  refine ⟨s.takeWhile isBlank, fun c hc => ?_, (List.takeWhile_append_dropWhile ..).symm⟩
  exact List.all_eq_true.1 List.all_takeWhile c hc

theorem trimStart_eq {s r : List Char} :
    trimStart s = r ↔ Flush r ∧ ∃ w, Blanks w ∧ s = w ++ r := by
  constructor
  · rintro rfl
    exact ⟨flush_trimStart s, exists_trimStart s⟩
  · rintro ⟨hr, w, hw, rfl⟩
    rw [trimStart_append hw, trimStart_of_flush hr]

/-- Trimming a start reaches no further than a text that does not start with a blank. -/
theorem trimStart_append_flush {z : List Char} (hz : Flush z) (s : List Char) :
    trimStart (s ++ z) = trimStart s ++ z := by
  induction s with
  | nil => exact trimStart_of_flush hz
  | cons c s ih =>
    cases hc : isBlank c with
    | true =>
      rw [List.cons_append, trimStart, trimStart, List.dropWhile_cons_of_pos hc,
        List.dropWhile_cons_of_pos hc]
      exact ih
    | false =>
      rw [List.cons_append, trimStart, trimStart, List.dropWhile_cons_of_neg (by simp [hc]),
        List.dropWhile_cons_of_neg (by simp [hc])]
      rfl

theorem trimEnd_eq_reverse (s : List Char) : trimEnd s = (trimStart s.reverse).reverse := rfl

theorem trimEnd_of_flush {s : List Char} (h : Flush s.reverse) : trimEnd s = s := by
  rw [trimEnd_eq_reverse, trimStart_of_flush h, List.reverse_reverse]

theorem Blanks.reverse {w : List Char} (h : Blanks w) : Blanks w.reverse :=
  fun c hc => h c (List.mem_reverse.1 hc)

theorem trimEnd_append {w : List Char} (hw : Blanks w) (s : List Char) :
    trimEnd (s ++ w) = trimEnd s := by
  rw [trimEnd_eq_reverse, List.reverse_append, trimStart_append hw.reverse, ← trimEnd_eq_reverse]

theorem trimEnd_append_flush {z : List Char} (hz : Flush z.reverse) (s : List Char) :
    trimEnd (z ++ s) = z ++ trimEnd s := by
  rw [trimEnd_eq_reverse, List.reverse_append, trimStart_append_flush hz, List.reverse_append,
    List.reverse_reverse, ← trimEnd_eq_reverse]

/-- A text is what is left when it is trimmed at its end, and a run of blanks. -/
theorem exists_trimEnd (s : List Char) : ∃ w, Blanks w ∧ s = trimEnd s ++ w := by
  obtain ⟨w, hw, h⟩ := exists_trimStart s.reverse
  refine ⟨w.reverse, hw.reverse, ?_⟩
  rw [trimEnd_eq_reverse, ← List.reverse_append, ← h, List.reverse_reverse]

theorem trimStart_suffix (s : List Char) : trimStart s <:+ s := List.dropWhile_suffix isBlank

theorem trimEnd_prefix_self (s : List Char) : trimEnd s <+: s := by
  obtain ⟨w, -, h⟩ := exists_trimEnd s
  exact ⟨w, h.symm⟩

/-- What is left of a text without blanks at its start has none there when its end is trimmed. -/
theorem Flush.trimEnd {s : List Char} (h : Flush s) : Flush (trimEnd s) := by
  obtain ⟨w, hw⟩ := trimEnd_prefix_self s
  cases ht : Text.trimEnd s with
  | nil => intro c hc; cases hc
  | cons c r => rw [← hw, ht] at h; exact h

@[simp] theorem trim_trim (s : List Char) : trim (trim s) = trim s := by
  have hf : Flush (trim s) := (flush_trimStart s).trimEnd
  show trimEnd (trimStart (trim s)) = trim s
  rw [trimStart_of_flush hf, trim, trimEnd_eq_reverse, trimEnd_eq_reverse, List.reverse_reverse,
    trimStart_of_flush (flush_trimStart _)]

end DocTabs.Text
