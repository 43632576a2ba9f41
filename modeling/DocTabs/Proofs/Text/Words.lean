/-
Words of a text: they hold all of it that is not blank, and trimming keeps them. Where the breaks of a
text are dropped, two words become one exactly where nothing but breaks stands between them.
-/
import Mathlib.Data.List.ReduceOption
import DocTabs.Proofs.Text.Search

namespace DocTabs.Text

variable {c : Char} {s : List Char}

/-! ## Along a text -/

/-- Whether a text starts with a word. -/
def startsWord (s : List Char) : Bool := s.head?.any (!isBlank ·)

theorem startsWord_cons (c : Char) (s : List Char) : startsWord (c :: s) = !isBlank c := rfl

theorem startsWord_append {w : List Char} (hw : Blanks w) (s : List Char) :
    startsWord (s ++ w) = startsWord s := by
  cases s with
  | cons c s => rfl
  | nil =>
    cases w with
    | nil => rfl
    | cons c w => rw [List.nil_append, startsWord_cons, hw c List.mem_cons_self]; rfl

theorem splitOn_cons_blank (hc : isBlank c = true) (s : List Char) :
    splitOn isBlank (c :: s) = [] :: splitOn isBlank s := by
  simp only [splitOn, List.foldr_cons, hc, if_true]

theorem splitOn_cons (hc : isBlank c = false) {piece : List Char} {rest : List (List Char)}
    (h : splitOn isBlank s = piece :: rest) : splitOn isBlank (c :: s) = (c :: piece) :: rest := by
  rw [splitOn, List.foldr_cons, ← splitOn, h]
  simp [hc]

/-- The first piece is empty where no word starts. -/
theorem exists_splitOn (s : List Char) : ∃ piece rest, splitOn isBlank s = piece :: rest ∧
    piece.isEmpty = !startsWord s := by
  induction s with
  | nil => exact ⟨[], [], rfl, rfl⟩
  | cons c s ih =>
    obtain ⟨piece, rest, h, -⟩ := ih
    rw [startsWord_cons, Bool.not_not]
    cases hc : isBlank c with
    | true => exact ⟨[], _, splitOn_cons_blank hc s, rfl⟩
    | false => exact ⟨c :: piece, rest, splitOn_cons hc h, rfl⟩

theorem words_nil : words [] = [] := rfl

theorem words_cons_blank (hc : isBlank c = true) (s : List Char) : words (c :: s) = words s := by
  rw [words, splitOn_cons_blank hc]
  rfl

/-- A character that is not blank goes in front of the word that starts behind it, or is one by itself. -/
theorem words_cons (hc : isBlank c = false) (s : List Char) : words (c :: s) =
    if startsWord s then (words s).modifyHead (c :: ·) else [c] :: words s := by
  obtain ⟨piece, rest, h, hpiece⟩ := exists_splitOn s
  rw [words, words, splitOn_cons hc h, h, List.filter_cons_of_pos rfl]
  cases hs : startsWord s with
  | true => rw [if_pos rfl, List.filter_cons_of_pos (by simp [hpiece, hs]), List.modifyHead_cons]
  | false =>
    rw [hs, Bool.not_false, List.isEmpty_iff] at hpiece
    rw [hpiece]
    rfl

theorem words_ne_nil : ∀ {s : List Char}, startsWord s = true → words s ≠ []
  | c :: s, h => by
    have hc : isBlank c = false := by simpa [startsWord_cons] using h
    rw [words_cons hc]
    split
    · next hs => simpa using words_ne_nil hs
    · exact List.cons_ne_nil _ _

theorem length_words_cons (hc : isBlank c = false) (s : List Char) :
    (words (c :: s)).length = (words s).length + if startsWord s then 0 else 1 := by
  rw [words_cons hc]
  split <;> simp

/-- The words are what a text holds beside blanks. -/
theorem flatten_words (s : List Char) : (words s).flatten = s.filter (!isBlank ·) := by
  induction s with
  | nil => rfl
  | cons c s ih =>
    cases hc : isBlank c with
    | true => rw [words_cons_blank hc, ih, List.filter_cons_of_neg (by simp [hc])]
    | false =>
      rw [words_cons hc, List.filter_cons_of_pos (by simp [hc]), ← ih]
      split
      · next hs =>
        obtain ⟨w, ws, hws⟩ := List.exists_cons_of_ne_nil (words_ne_nil hs)
        rw [hws]
        rfl
      · rfl

theorem words_eq_nil_iff : words s = [] ↔ s.filter (!isBlank ·) = [] := by
  constructor
  · intro h
    rw [← flatten_words, h, List.flatten_nil]
  · intro h
    induction s with
    | nil => rfl
    | cons c s ih =>
      cases hc : isBlank c with
      | true =>
        rw [List.filter_cons_of_neg (by simp [hc])] at h
        rw [words_cons_blank hc, ih h]
      | false =>
        rw [List.filter_cons_of_pos (by simp [hc])] at h
        cases h

/-! ## Trimming -/

theorem words_trimStart (s : List Char) : words (trimStart s) = words s := by
  induction s with
  | nil => rfl
  | cons c s ih =>
    cases hc : isBlank c with
    | true => rw [trimStart, List.dropWhile_cons_of_pos hc, words_cons_blank hc]; exact ih
    | false => rw [trimStart, List.dropWhile_cons_of_neg (by simp [hc])]

theorem words_append_blanks {w : List Char} (hw : Blanks w) (s : List Char) :
    words (s ++ w) = words s := by
  induction s with
  | nil => exact words_eq_nil_iff.2 (List.filter_eq_nil_iff.2 fun c hc => by simp [hw c hc])
  | cons c s ih =>
    cases hc : isBlank c with
    | true => rw [List.cons_append, words_cons_blank hc, words_cons_blank hc, ih]
    | false => rw [List.cons_append, words_cons hc, words_cons hc, startsWord_append hw, ih]

@[simp] theorem words_trim (s : List Char) : words (trim s) = words s := by
  obtain ⟨w, hw, h⟩ := exists_trimEnd (trimStart s)
  rw [← words_trimStart s, h, words_append_blanks hw, trim]

theorem trim_eq_nil_iff : trim s = [] ↔ words s = [] := by
  rw [← words_trim s]
  constructor
  · intro h
    rw [h, words_nil]
  · intro h
    cases ht : trim s with
    | nil => rfl
    | cons c r =>
      -- a trimmed text starts with a word
      have hc : isBlank c = false := (flush_trimStart s).trimEnd c (by rw [← trim, ht]; rfl)
      exact absurd h (words_ne_nil (by rw [ht, startsWord_cons, hc]; rfl))

/-! ## Breaks

`none` stands for a break between lines. -/

/-- Between two characters that are not blank there are breaks and nothing else. -/
def Glued (signs : List (Option Char)) : Prop :=
  ∃ before c n d after, signs = before ++ some c :: (List.replicate (n + 1) none ++ some d :: after) ∧
    isBlank c = false ∧ isBlank d = false

variable {signs : List (Option Char)}

theorem startsWord_reduceOption : startsWord signs.reduceOption = true ↔
    ∃ n d after, signs = List.replicate n none ++ some d :: after ∧ isBlank d = false := by
  induction signs with
  | nil => simp [startsWord]
  | cons x signs ih =>
    cases x with
    | none =>
      rw [List.reduceOption_cons_of_none, ih]
      constructor
      · rintro ⟨n, d, after, rfl, hd⟩
        exact ⟨n + 1, d, after, rfl, hd⟩
      · rintro ⟨n, d, after, h, hd⟩
        cases n with
        | zero => cases h
        | succ n => exact ⟨n, d, after, (List.cons.inj h).2, hd⟩
    | some c =>
      rw [List.reduceOption_cons_of_some, startsWord_cons, Bool.not_eq_true']
      constructor
      · exact fun hc => ⟨0, c, signs, rfl, hc⟩
      · rintro ⟨n, d, after, h, hd⟩
        cases n with
        | zero => cases h; exact hd
        | succ n => cases h

theorem not_glued_nil : ¬ Glued [] := by
  rintro ⟨before, c, n, d, after, h, -⟩
  exact absurd h.symm (List.append_ne_nil_of_right_ne_nil _ (List.cons_ne_nil _ _))

/-- A text without breaks has nothing to glue. -/
theorem not_glued_of_not_mem (h : none ∉ signs) : ¬ Glued signs := by
  rintro ⟨before, c, n, d, after, rfl, -⟩
  exact h (by simp)

theorem glued_cons_none : Glued (none :: signs) ↔ Glued signs := by
  constructor
  · rintro ⟨before, c, n, d, after, h, hc, hd⟩
    cases before with
    | nil => cases h
    | cons x before => exact ⟨before, c, n, d, after, (List.cons.inj h).2, hc, hd⟩
  · rintro ⟨before, c, n, d, after, rfl, hc, hd⟩
    exact ⟨none :: before, c, n, d, after, rfl, hc, hd⟩

theorem glued_cons_some : Glued (some c :: signs) ↔
    (isBlank c = false ∧ signs.head? = some none ∧ startsWord signs.reduceOption = true) ∨
      Glued signs := by
  constructor
  · rintro ⟨before, c', n, d, after, h, hc, hd⟩
    cases before with
    | nil =>
      cases h
      exact .inl ⟨hc, rfl, startsWord_reduceOption.2 ⟨n + 1, d, after, rfl, hd⟩⟩
    | cons x before => exact .inr ⟨before, c', n, d, after, (List.cons.inj h).2, hc, hd⟩
  · rintro (⟨hc, hhead, hstart⟩ | ⟨before, c', n, d, after, rfl, hc, hd⟩)
    · obtain ⟨n, d, after, rfl, hd⟩ := startsWord_reduceOption.1 hstart
      cases n with
      | zero => cases hhead
      | succ n => exact ⟨[], c, n, d, after, rfl, hc, hd⟩
    · exact ⟨some c :: before, c', n, d, after, rfl, hc, hd⟩

/-- What is next in a text with breaks starts a word with and without them, unless a break comes first. -/
theorem startsWord_breaks (h : signs.head? ≠ some none) :
    startsWord signs.reduceOption = startsWord (signs.map (·.getD '\n')) := by
  cases signs with
  | nil => rfl
  | cons x signs =>
    cases x with
    | none => exact absurd rfl h
    | some d => rw [List.reduceOption_cons_of_some]; rfl

/-- Dropping the breaks keeps the words, or words are glued and there are fewer of them. -/
theorem words_breaks (signs : List (Option Char)) :
    (¬ Glued signs ∧ words signs.reduceOption = words (signs.map (·.getD '\n'))) ∨
      (Glued signs ∧
        (words signs.reduceOption).length < (words (signs.map (·.getD '\n'))).length) := by
  induction signs with
  | nil => exact .inl ⟨not_glued_nil, rfl⟩
  | cons x signs ih =>
    cases x with
    | none =>
      rw [List.reduceOption_cons_of_none, List.map_cons, Option.getD_none,
        words_cons_blank (by decide), glued_cons_none]
      exact ih
    | some c =>
      rw [List.reduceOption_cons_of_some, List.map_cons, Option.getD_some, glued_cons_some]
      cases hc : isBlank c with
      | true =>
        rw [words_cons_blank hc, words_cons_blank hc]
        simpa using ih
      | false =>
        by_cases hhead : signs.head? = some none
        · have hbreak : startsWord (signs.map (·.getD '\n')) = false := by
            obtain ⟨rest, rfl⟩ := List.head?_eq_some_iff.1 hhead
            rfl
          cases hstart : startsWord signs.reduceOption with
          | true =>
            -- the word goes on where it has ended at the break
            refine .inr ⟨.inl ⟨rfl, hhead, rfl⟩, ?_⟩
            rw [length_words_cons hc, length_words_cons hc, hstart, hbreak]
            rcases ih with ⟨-, ih⟩ | ⟨-, ih⟩
            · simp [ih]
            · simp; omega
          | false =>
            simp only [hhead, Bool.false_eq_true, and_false, false_or]
            rw [length_words_cons hc, length_words_cons hc, words_cons hc, words_cons hc, hstart, hbreak]
            simpa using ih
        · have hsame := startsWord_breaks hhead
          simp only [hhead, false_and, and_false, false_or]
          rw [length_words_cons hc, length_words_cons hc, words_cons hc, words_cons hc, hsame]
          rcases ih with ⟨hnot, ih⟩ | ⟨hglued, ih⟩
          · exact .inl ⟨hnot, by rw [ih]⟩
          · exact .inr ⟨hglued, Nat.add_lt_add_right ih _⟩

/-- Dropping the breaks keeps the words exactly if no two are glued. -/
theorem words_reduceOption_iff :
    words signs.reduceOption = words (signs.map (·.getD '\n')) ↔ ¬ Glued signs := by
  rcases words_breaks signs with ⟨hnot, h⟩ | ⟨hglued, h⟩
  · exact iff_of_true h hnot
  · exact iff_of_false (fun he => by rw [he] at h; exact absurd h (Nat.lt_irrefl _)) (not_not_intro hglued)

/-- Dropping the breaks drops blanks only. -/
theorem filter_reduceOption (signs : List (Option Char)) :
    signs.reduceOption.filter (!isBlank ·) = (signs.map (·.getD '\n')).filter (!isBlank ·) := by
  induction signs with
  | nil => rfl
  | cons x signs ih =>
    cases x with
    | none =>
      rw [List.reduceOption_cons_of_none, ih, List.map_cons, Option.getD_none,
        List.filter_cons_of_neg (by decide)]
    | some c =>
      rw [List.reduceOption_cons_of_some, List.map_cons, Option.getD_some, List.filter_cons,
        List.filter_cons, ih]

end DocTabs.Text
