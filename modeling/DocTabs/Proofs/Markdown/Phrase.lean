/-
Phrases, words of letters on one line. Nothing in them is markup: inline content reads a phrase as one
text, and its HTML is the phrase itself.
-/
import DocTabs.Markdown.Document
import DocTabs.Proofs.Html.Escape
import DocTabs.Proofs.Text.Search

namespace DocTabs.Markdown

open Html Line Text

/-! ## Letters -/

theorem not_mem_of_isAlpha {l : List Char} (hl : l.any Char.isAlpha = false) {c : Char}
    (hc : c.isAlpha = true) : c ∉ l := fun hm => List.any_eq_false.1 hl c hm hc

theorem isGap_of_isAlpha {c : Char} (h : c.isAlpha = true) : isGap c = false := by
  have hc : c ∉ [' ', '\t', '\x0b', '\x0c', '\n', '\x0d'] := not_mem_of_isAlpha (by decide) h
  simpa [isGap, isSpace, isEnd, and_assoc] using hc

theorem isSpace_of_isAlpha {c : Char} (h : c.isAlpha = true) : isSpace c = false :=
  (Bool.or_eq_false_iff.1 (isGap_of_isAlpha h)).1

/-! ## Phrases -/

/-- Words of characters of a kind, on one line with spaces between them. -/
structure Phrase (kind : Char → Bool) where
  text : String
  chars : (text.toList.all fun c => kind c || c == ' ') = true := by decide
  first : text.toList.head?.any kind = true := by decide
  last : text.toList.getLast?.any kind = true := by decide

namespace Phrase

variable {kind : Char → Bool}

theorem exists_cons (p : Phrase kind) : ∃ c t, p.text.toList = c :: t ∧ kind c = true := by
  obtain ⟨c, hc, hkind⟩ := (Option.any_eq_true ..).1 p.first
  obtain ⟨t, ht⟩ := List.head?_eq_some_iff.1 hc
  exact ⟨c, t, ht, hkind⟩

theorem exists_concat (p : Phrase kind) : ∃ t c, p.text.toList = t ++ [c] ∧ kind c = true := by
  obtain ⟨c, hc, hkind⟩ := (Option.any_eq_true ..).1 p.last
  obtain ⟨t, ht⟩ := List.getLast?_eq_some_iff.1 hc
  exact ⟨t, c, ht, hkind⟩

theorem kind_or_space (p : Phrase kind) : ∀ c ∈ p.text.toList, kind c = true ∨ c = ' ' := by
  simpa using p.chars

/-- A phrase holds no characters but those of its kind and spaces. -/
theorem not_mem (p : Phrase kind) {c : Char} (hkind : kind c = false) (hspace : c ≠ ' ') :
    c ∉ p.text.toList := fun hc => by
  rcases p.kind_or_space c hc with h | h
  · rw [hkind] at h; cases h
  · exact hspace h

theorem oneLine (hfeed : kind '\n' = false) (hreturn : kind '\x0d' = false) (p : Phrase kind) :
    p.text.toList.any isEnd = false := by
  refine List.any_eq_false.2 fun c hc => ?_
  have hn : c ≠ '\n' := fun e => p.not_mem hfeed (by decide) (e ▸ hc)
  have hr : c ≠ '\x0d' := fun e => p.not_mem hreturn (by decide) (e ▸ hc)
  simp [isEnd, hn, hr]

theorem stripEnd_eq (p : Phrase Char.isAlpha) : stripEnd p.text.toList = p.text.toList := by
  obtain ⟨t, c, ht, hc⟩ := p.exists_concat
  have hspace : ¬ isSpace c = true := by rw [isSpace_of_isAlpha hc]; decide
  rw [ht, stripEnd, List.reverse_concat, List.dropWhile_cons_of_neg hspace, List.reverse_cons,
    List.reverse_reverse]

theorem trim_eq (hkind : ∀ c, kind c = true → isBlank c = false) (p : Phrase kind) :
    trim p.text.toList = p.text.toList := by
  have hstart : Flush p.text.toList := by
    obtain ⟨c, t, ht, hc⟩ := p.exists_cons
    rw [ht]
    exact fun d hd => by cases hd; exact hkind c hc
  have hend : Flush p.text.toList.reverse := by
    obtain ⟨t, c, ht, hc⟩ := p.exists_concat
    rw [ht, List.reverse_concat]
    exact fun d hd => by cases hd; exact hkind c hc
  rw [trim, trimStart_of_flush hstart, trimEnd_of_flush hend]

theorem escapeText_eq (p : Phrase Char.isAlpha) : escapeText p.text = p.text :=
  escapeText_of_not_mem fun c hc => by
    simp only [List.mem_cons, List.not_mem_nil, or_false] at hc
    rcases hc with rfl | rfl | rfl <;> exact p.not_mem (by decide) (by decide)

end Phrase

/-! ## Reading -/

section Glyphs

variable (p : Char → Bool) (s : List Char)

theorem flatMap_raw_takeWhile :
    ((Source.ofChars s).takeWhile (·.has p)).flatMap Glyph.raw = s.takeWhile p := by
  rw [Source.ofChars, List.takeWhile_map, List.flatMap_map]
  exact List.flatMap_singleton' _

theorem dropWhile_has : (Source.ofChars s).dropWhile (·.has p) = Source.ofChars (s.dropWhile p) :=
  List.dropWhile_map ..

end Glyphs

namespace Piece

theorem pushText_pushText (s t : List Char) (stack : List Piece) :
    pushText t (pushText s stack) = pushText (s ++ t) stack := by
  rcases stack with _ | ⟨p, below⟩
  · simp [pushText]
  · cases p <;> simp [pushText, String.append_assoc]

variable (refs : References) (fuel : Nat) (before : Option Char) (s : List Char) (stack : List Piece)

/-- A letter and the characters behind it that can only be text are read at once. -/
theorem read_letter {c : Char} (hc : c.isAlpha = true) :
    read refs (fuel + 1) before (Source.ofChars (c :: s)) stack =
      read refs fuel (c :: s.takeWhile isOrdinary).getLast? (Source.ofChars (s.dropWhile isOrdinary))
        (pushText (c :: s.takeWhile isOrdinary) stack) := by
  have hmark : ¬ (c = '*' ∨ c = '_' ∨ c = '~') := by
    rintro (rfl | rfl | rfl) <;> cases hc
  rw [← flatMap_raw_takeWhile, ← dropWhile_has, Source.ofChars, List.map_cons, read, if_neg hmark,
    isSpace_of_isAlpha hc]
  · rfl
  all_goals rintro rfl; cases hc

/-- Spaces inside a line are read at once. -/
theorem read_space :
    read refs (fuel + 1) before (Source.ofChars (' ' :: s)) stack =
      read refs fuel (some ' ') (Source.ofChars (s.dropWhile isSpace))
        (pushText (' ' :: s.takeWhile isSpace) stack) := by
  have hmark : ¬ (' ' = '*' ∨ ' ' = '_' ∨ ' ' = '~') := by decide
  have hspace : isSpace ' ' = true := by decide
  rw [← flatMap_raw_takeWhile, ← dropWhile_has, Source.ofChars, List.map_cons, read, if_neg hmark,
    if_pos hspace]
  · split
    · -- a line has no turns
      rename_i heq
      have hturn := List.dropWhile_subset _ (heq ▸ List.mem_cons_self ..)
      simp at hturn
    · rfl
  all_goals decide

theorem read_words {refs : References} {fuel : Nat} {before : Option Char} {s : List Char}
    (h : ∀ c ∈ s, c.isAlpha = true ∨ c = ' ') (hfuel : s.length ≤ fuel) (t : List Char)
    (stack : List Piece) :
    read refs fuel before (Source.ofChars s) (pushText t stack) = pushText (t ++ s) stack := by
  induction fuel generalizing before s t with
  | zero =>
    obtain rfl := List.eq_nil_of_length_eq_zero (Nat.le_zero.1 hfuel)
    rw [read, List.append_nil]
  | succ fuel ih =>
    cases s with
    | nil => rw [List.append_nil]; rfl
    | cons c s =>
      -- a run of text is followed by what is left of the line, which is shorter
      have hrest (p : Char → Bool) (before : Option Char) :
          read refs fuel before (Source.ofChars (s.dropWhile p))
            (pushText (c :: s.takeWhile p) (pushText t stack)) = pushText (t ++ c :: s) stack := by
        have hsub := List.dropWhile_sublist p (l := s)
        have hlen : (s.dropWhile p).length ≤ fuel :=
          Nat.le_trans hsub.length_le (Nat.le_of_succ_le_succ hfuel)
        rw [pushText_pushText, ih (fun d hd => h d (List.mem_cons_of_mem _ (hsub.subset hd))) hlen,
          List.append_assoc, List.cons_append, List.takeWhile_append_dropWhile]
      rcases h c (List.mem_cons_self ..) with hc | rfl
      · rw [read_letter _ _ _ _ _ hc, hrest]
      · rw [read_space, hrest]

end Piece

/-- A phrase is read as one text. -/
theorem ofSource_phrase (refs : References) (p : Phrase Char.isAlpha) :
    Inline.ofSource refs (Source.ofChars p.text.toList) = [.text p.text] := by
  obtain ⟨c, t, ht, hc⟩ := p.exists_cons
  have hsub := List.dropWhile_sublist Piece.isOrdinary (l := t)
  have hchars : ∀ d ∈ t.dropWhile Piece.isOrdinary, d.isAlpha = true ∨ d = ' ' := fun d hd =>
    p.kind_or_space d (ht ▸ List.mem_cons_of_mem _ (hsub.subset hd))
  have hlen : (Source.ofChars p.text.toList).length = t.length + 1 := by simp [ht, Source.ofChars]
  rw [Inline.ofSource, hlen, ht, Piece.read_letter _ _ _ _ _ hc, Piece.read_words hchars hsub.length_le,
    List.cons_append, List.takeWhile_append_dropWhile, ← ht]
  simp [Piece.pushText, Piece.resolve, Piece.add, Piece.settle]

end DocTabs.Markdown
