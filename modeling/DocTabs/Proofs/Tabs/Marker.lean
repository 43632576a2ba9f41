/-
The grammar of branch markers, and that the readers of `Tabs.Branch` read exactly the texts of the
grammar: a reader answers with a rest just when the text is a marker followed by that rest.
-/
import DocTabs.Proofs.Text.Search
import DocTabs.Tabs.Branch

namespace DocTabs.Tabs

open Text

/-! ## Grammar -/

/-- A closing marker `<!-- /KEYWORD -->`. -/
def ClosingMarker (keyword : String) (m : List Char) : Prop :=
  ∃ v w, Blanks v ∧ Blanks w ∧
    m = "<!--".toList ++ v ++ "/".toList ++ keyword.toList ++ w ++ "-->".toList

/-- A name as it can stand in a marker: it is not empty, no blanks surround it, and it does not end
the comment. -/
structure MarkerName (name : List Char) : Prop where
  ne_nil : name ≠ []
  flush : Flush name
  trimmed : trimEnd name = name
  noEnd : '>' ∉ name

/-- An opening marker `<!-- KEYWORD: NAME -->`. -/
def OpeningMarker (keyword : String) (name m : List Char) : Prop :=
  MarkerName name ∧ ∃ v w x, Blanks v ∧ Blanks w ∧ Blanks x ∧
    m = "<!--".toList ++ v ++ keyword.toList ++ ":".toList ++ w ++ name ++ x ++ "-->".toList

/-- The usual form of a closing marker. -/
def printClosing (keyword : String) : List Char :=
  "<!--".toList ++ [' '] ++ "/".toList ++ keyword.toList ++ [' '] ++ "-->".toList

/-- The usual form of an opening marker. -/
def printOpening (keyword : String) (name : List Char) : List Char :=
  "<!--".toList ++ [' '] ++ keyword.toList ++ ":".toList ++ [' '] ++ name ++ [' '] ++ "-->".toList

theorem printClosing_eq (keyword : String) : printClosing keyword =
    "<!--".toList ++ [' '] ++ "/".toList ++ keyword.toList ++ [' '] ++ "-->".toList := rfl

theorem printOpening_eq (keyword : String) (name : List Char) : printOpening keyword name =
    "<!--".toList ++ [' '] ++ keyword.toList ++ ":".toList ++ [' '] ++ name ++ [' '] ++ "-->".toList := rfl

theorem blanks_space : Blanks [' '] := fun c hc => by
  obtain rfl := List.mem_singleton.1 hc
  decide

theorem printClosing_marker (keyword : String) : ClosingMarker keyword (printClosing keyword) :=
  ⟨_, _, blanks_space, blanks_space, rfl⟩

theorem printOpening_marker (keyword : String) {name : List Char} (h : MarkerName name) :
    OpeningMarker keyword name (printOpening keyword name) :=
  ⟨h, _, _, _, blanks_space, blanks_space, blanks_space, rfl⟩

/-- A keyword as it can follow the blanks of a marker's start. -/
structure MarkerWord (word : String) : Prop where
  ne_nil : word.toList ≠ []
  flush : Flush word.toList

/-- A keyword of a marker: letters only, so a marker of one keyword is none of a longer one. -/
structure Keyword (word : String) : Prop where
  ne_nil : word.toList ≠ []
  alpha : ∀ c ∈ word.toList, c.isAlpha = true

theorem Keyword.markerWord {word : String} (h : Keyword word) : MarkerWord word :=
  ⟨h.ne_nil, fun c hc => isBlank_of_isAlpha (h.alpha c (List.mem_of_head? hc))⟩

theorem Level.isKeyword (level : Level) : Keyword level.keyword := by
  cases level <;> exact ⟨by decide, List.all_eq_true.1 (by decide)⟩

theorem Kind.isKeyword (kind : Kind) : Keyword kind.keyword := by
  cases kind <;> exact ⟨by decide, List.all_eq_true.1 (by decide)⟩

theorem markerWord_slash : MarkerWord "/" := ⟨by decide, fun c hc => by cases hc; decide⟩

/-! ## Start and end of a marker -/

theorem markerStart?_word {word : String} (hw : MarkerWord word) {s r : List Char} :
    (markerStart? s >>= after? word) = some r ↔
      ∃ v, Blanks v ∧ s = "<!--".toList ++ v ++ word.toList ++ r := by
  simp only [markerStart?, Option.bind_eq_bind, Option.bind_eq_some_iff, Option.map_eq_some_iff,
    after?_eq_some]
  constructor
  · rintro ⟨_, ⟨t, rfl, rfl⟩, ht⟩
    obtain ⟨v, hv, h⟩ := exists_trimStart t
    exact ⟨v, hv, by rw [ht] at h; rw [h]; simp⟩
  · rintro ⟨v, hv, rfl⟩
    refine ⟨word.toList ++ r, ⟨v ++ (word.toList ++ r), by simp, ?_⟩, rfl⟩
    rw [trimStart_append hv, trimStart_of_flush (hw.flush.append hw.ne_nil r)]

theorem markerEnd?_eq_some {s r : List Char} :
    markerEnd? s = some r ↔ ∃ w, Blanks w ∧ s = w ++ "-->".toList ++ r := by
  have hf : Flush ("-->".toList ++ r) := fun c hc => by cases hc; decide
  simp only [markerEnd?, after?_eq_some, trimStart_eq, List.append_assoc]
  exact ⟨fun h => h.2, fun h => ⟨hf, h⟩⟩

/-- The closing reader reads exactly the closing markers. -/
theorem closing?_eq_some {keyword : String} {s r : List Char} :
    closing? keyword s = some r ↔ ∃ m, ClosingMarker keyword m ∧ s = m ++ r := by
  constructor
  · intro h
    obtain ⟨b, h, hr⟩ := Option.bind_eq_some_iff.1 h
    obtain ⟨a, ha, hb⟩ := Option.bind_eq_some_iff.1 h
    obtain ⟨v, hv, rfl⟩ := (markerStart?_word markerWord_slash).1 ha
    obtain ⟨w, hw, rfl⟩ := markerEnd?_eq_some.1 hr
    rw [after?_eq_some.1 hb]
    exact ⟨_, ⟨v, w, hv, hw, rfl⟩, by simp⟩
  · rintro ⟨_, ⟨v, w, hv, hw, rfl⟩, rfl⟩
    have ha := (markerStart?_word markerWord_slash
      (r := keyword.toList ++ (w ++ "-->".toList ++ r))).2 ⟨v, hv, rfl⟩
    refine Option.bind_eq_some_iff.2 ⟨_, Option.bind_eq_some_iff.2 ⟨_, ?_, after?_eq_some.2 rfl⟩,
      markerEnd?_eq_some.2 ⟨w, hw, rfl⟩⟩
    simpa using ha

/-- A closing marker ends at one place only, so a search finds the earliest one. -/
theorem first_closing? {keyword : String} {s b r : List Char} :
    first (closing? keyword) s = some (b, r) ↔ ∃ c, ClosingMarker keyword c ∧ s = b ++ c ++ r ∧
      ∀ b' c' r', s = b' ++ c' ++ r' → ClosingMarker keyword c' → b.length ≤ b'.length := by
  rw [first_eq_some]
  constructor
  · rintro ⟨t, rfl, ht, hl⟩
    obtain ⟨c, hc, rfl⟩ := closing?_eq_some.1 ht
    refine ⟨c, hc, by simp, fun b' c' r' h hc' => Nat.le_of_not_lt fun hlt => ?_⟩
    have := hl b' (c' ++ r') (by rw [h, List.append_assoc]) hlt
    rw [closing?_eq_some.2 ⟨c', hc', rfl⟩] at this; cases this
  · rintro ⟨c, hc, rfl, hl⟩
    refine ⟨c ++ r, by simp, closing?_eq_some.2 ⟨c, hc, rfl⟩, fun u v huv hu => ?_⟩
    cases h : closing? keyword v with
    | none => rfl
    | some q =>
      obtain ⟨c', hc', rfl⟩ := closing?_eq_some.1 h
      have := hl u c' q (by rw [huv, List.append_assoc]) hc'
      omega

/-! ## Arguments -/

theorem takeWhile_noEnd {a b : List Char} (h : '>' ∉ a) :
    (a ++ '>' :: b).takeWhile (· ≠ '>') = a ∧ (a ++ '>' :: b).dropWhile (· ≠ '>') = '>' :: b := by
  induction a with
  | nil => simp
  | cons c a ih =>
    rw [List.mem_cons, not_or] at h
    have hc : c ≠ '>' := fun e => h.1 e.symm
    obtain ⟨ht, hd⟩ := ih h.2
    rw [List.cons_append, List.takeWhile_cons_of_pos (by simpa using hc),
      List.dropWhile_cons_of_pos (by simpa using hc), ht, hd]
    exact ⟨rfl, rfl⟩

/-- The argument reader reads exactly a text that is not blank at its end, some blanks, and the
end of the comment. -/
theorem argument?_eq_some {s name r : List Char} :
    argument? s = some (name, r) ↔ name ≠ [] ∧ trimEnd name = name ∧ '>' ∉ name ∧
      ∃ x, Blanks x ∧ s = name ++ x ++ "-->".toList ++ r := by
  unfold argument?
  constructor
  · intro h
    split at h
    · rename_i p rest ht hd
      dsimp only at h
      split at h
      · cases h
      · rename_i hne
        obtain ⟨rfl, rfl⟩ := Prod.mk.inj (Option.some.inj h)
        have hs := List.takeWhile_append_dropWhile (p := (· ≠ '>')) (l := s)
        rw [hd, ← List.reverse_reverse (s.takeWhile _), ht] at hs
        have hend : '>' ∉ ('-' :: '-' :: p).reverse := by
          rw [← ht, List.reverse_reverse]
          intro hm
          have := List.all_eq_true.1 (List.all_takeWhile (p := (· ≠ '>')) (l := s)) _ hm
          simp at this
        obtain ⟨w, hw, hp⟩ := exists_trimStart p
        have hname : ∀ c ∈ trimStart p, c ∈ p := fun c hc => by
          rw [hp]; exact List.mem_append_right _ hc
        refine ⟨?_, ?_, ?_, w.reverse, hw.reverse, ?_⟩
        · intro hnil; exact hne (by rw [hnil]; rfl)
        · rw [trimEnd_eq_reverse, List.reverse_reverse]
          exact congrArg _ (trimStart_of_flush (flush_trimStart p))
        · intro hm
          refine hend (List.mem_reverse.2 (List.mem_cons_of_mem _ (List.mem_cons_of_mem _ ?_)))
          exact hname _ (List.mem_reverse.1 hm)
        · rw [← hs, ← List.reverse_append]
          change _ = (w ++ trimStart p).reverse ++ _ ++ _
          rw [← hp]
          simp
    · cases h
  · rintro ⟨hne, htrim, hend, x, hx, rfl⟩
    have hno : '>' ∉ name ++ x ++ ['-', '-'] := by
      simp only [List.mem_append, not_or]
      refine ⟨⟨hend, fun hm => ?_⟩, by decide⟩
      have := hx _ hm
      revert this; decide
    have hs : name ++ x ++ "-->".toList ++ r = name ++ x ++ ['-', '-'] ++ '>' :: r := by simp
    obtain ⟨ht, hd⟩ := takeWhile_noEnd (b := r) hno
    rw [hs, ht, hd]
    simp only [List.reverse_append, List.reverse_cons, List.reverse_nil, List.nil_append,
      List.cons_append]
    have hname : ((x.reverse ++ name.reverse).dropWhile isBlank).reverse = name := by
      rw [← List.reverse_append]
      exact (trimEnd_append hx name).trans htrim
    rw [hname]
    cases name with
    | nil => exact absurd rfl hne
    | cons c name => rfl

/-- The opening reader reads exactly the opening markers of its keyword. -/
theorem opening?_eq_some {keyword : String} (hk : MarkerWord keyword) {s name r : List Char} :
    opening? keyword s = some (name, r) ↔ ∃ m, OpeningMarker keyword name m ∧ s = m ++ r := by
  constructor
  · intro h
    obtain ⟨c, h, hr⟩ := Option.bind_eq_some_iff.1 h
    obtain ⟨b, hb, hc⟩ := Option.bind_eq_some_iff.1 h
    obtain ⟨v, hv, rfl⟩ := (markerStart?_word hk).1 hb
    obtain ⟨hne, htrim, hend, x, hx, hs⟩ := argument?_eq_some.1 hr
    obtain ⟨w, hw, hcw⟩ := exists_trimStart c
    have hflush : Flush name := by
      have := flush_trimStart c
      rw [hs] at this
      obtain ⟨d, n, rfl⟩ := List.exists_cons_of_ne_nil hne
      exact this
    refine ⟨_, ⟨⟨hne, hflush, htrim, hend⟩, v, w, x, hv, hw, hx, rfl⟩, ?_⟩
    rw [after?_eq_some.1 hc, hcw, hs]
    simp
  · rintro ⟨_, ⟨hn, v, w, x, hv, hw, hx, rfl⟩, rfl⟩
    have hb := (markerStart?_word hk
      (r := ":".toList ++ (w ++ (name ++ (x ++ "-->".toList ++ r))))).2 ⟨v, hv, rfl⟩
    have ha : argument? (trimStart (w ++ (name ++ (x ++ "-->".toList ++ r)))) = some (name, r) := by
      rw [trimStart_append hw, trimStart_of_flush (hn.flush.append hn.ne_nil _)]
      exact argument?_eq_some.2 ⟨hn.ne_nil, hn.trimmed, hn.noEnd, x, hx, by simp⟩
    refine Option.bind_eq_some_iff.2 ⟨_, Option.bind_eq_some_iff.2 ⟨_, ?_, after?_eq_some.2 rfl⟩, ha⟩
    simpa using hb

end DocTabs.Tabs
