/-
Leftmost search. `first f s` finds the earliest position of `s` at which the recogniser `f` succeeds
on the text from there on; every search for a marker, a tag or a separator is an instance of it.
-/
namespace DocTabs.Text

/-- The earliest position at which `f` succeeds: the text before it and the answer of `f` there. -/
def first {α : Type} (f : List Char → Option α) (s : List Char) : Option (List Char × α) :=
  go [] s
where
  /-- The search with the characters already passed, latest first. -/
  go (passed : List Char) : List Char → Option (List Char × α)
    | [] => (f []).map (passed.reverse, ·)
    | c :: r =>
      match f (c :: r) with
      | some a => some (passed.reverse, a)
      | none => go (c :: passed) r

/-- The text after the word `w`, where `s` starts with `w`. -/
def after? (w : String) (s : List Char) : Option (List Char) :=
  w.toList.isPrefixOf? s

/-- The texts before and after the earliest occurrence of `w`. -/
def cut? (w : String) (s : List Char) : Option (List Char × List Char) :=
  first (after? w) s

/-- Whether `w` occurs in the text. -/
def contains (w : String) (s : List Char) : Bool :=
  (cut? w s).isSome

/-- The text before the word `w`, where `s` ends with `w`. -/
def before? (w : String) (s : List Char) : Option (List Char) :=
  (w.toList.reverse.isPrefixOf? s.reverse).map List.reverse

/-! ## Laws of the search -/

theorem after?_eq_some {w : String} {s r : List Char} :
    after? w s = some r ↔ s = w.toList ++ r := by
  unfold after?
  induction w.toList generalizing s with
  | nil =>
    show some s = some r ↔ _
    simp
  | cons c w ih =>
    cases s with
    | nil =>
      show none = some r ↔ _
      simp
    | cons d s =>
      show (if c == d then w.isPrefixOf? s else none) = some r ↔ _
      by_cases h : c = d
      · simp [h, ih]
      · simp [h, Ne.symm h]

theorem after?_length {w : String} {s r : List Char} (h : after? w s = some r) :
    s.length = w.toList.length + r.length := by
  rw [after?_eq_some.1 h, List.length_append]

theorem first_go {α : Type} (f : List Char → Option α) (passed s : List Char) :
    first.go f passed s = (first f s).map fun p => (passed.reverse ++ p.1, p.2) := by
  unfold first
  induction s generalizing passed with
  | nil => cases h : f [] <;> simp [first.go, h]
  | cons c r ih =>
    simp only [first.go]
    cases f (c :: r) with
    | some a => simp
    | none =>
      simp only
      rw [ih (c :: passed), ih [c], Option.map_map]
      congr 1
      funext p
      simp

theorem first_nil {α : Type} (f : List Char → Option α) : first f [] = (f []).map ([], ·) := rfl

/-- The search answers at once or goes on behind the first character. -/
theorem first_cons {α : Type} (f : List Char → Option α) (c : Char) (r : List Char) :
    first f (c :: r) = match f (c :: r) with
      | some a => some ([], a)
      | none => (first f r).map fun p => (c :: p.1, p.2) := by
  show first.go f [] (c :: r) = _
  simp only [first.go]
  cases f (c :: r) with
  | some a => rfl
  | none => simpa using first_go f [c] r

/-- What the search finds stands in the text behind the part that was passed. -/
theorem first_some {α : Type} {f : List Char → Option α} {s p : List Char} {a : α}
    (h : first f s = some (p, a)) : ∃ t, s = p ++ t ∧ f t = some a := by
  induction s generalizing p with
  | nil =>
    rw [first_nil] at h
    cases hf : f [] with
    | none => simp [hf] at h
    | some b =>
      simp only [hf, Option.map_some, Option.some.injEq, Prod.mk.injEq] at h
      exact ⟨[], by simp [← h.1], by rw [hf, h.2]⟩
  | cons c r ih =>
    rw [first_cons] at h
    cases hf : f (c :: r) with
    | some b =>
      simp only [hf, Option.some.injEq, Prod.mk.injEq] at h
      exact ⟨c :: r, by simp [← h.1], by rw [hf, h.2]⟩
    | none =>
      simp only [hf] at h
      obtain ⟨⟨q, b⟩, hq, he⟩ := Option.map_eq_some_iff.1 h
      obtain ⟨rfl, rfl⟩ := Prod.mk.inj he
      obtain ⟨t, ht, hb⟩ := ih hq
      exact ⟨t, by rw [ht]; rfl, hb⟩

end DocTabs.Text
