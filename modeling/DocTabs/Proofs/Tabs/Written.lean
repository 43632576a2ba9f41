/-
Branches written as markers between prose, and that a scan reads them back: it stops at their own
markers whatever their names, contents, blanks and number are, and passes over the markers of other
keywords.
-/
import DocTabs.Proofs.Tabs.Marker
import Mathlib.Data.List.Forall2

namespace DocTabs.Tabs

open Text

/-! ## Prose -/

theorem comment_eq : "<!--".toList = ['<', '!', '-', '-'] := rfl

/-- A text in which no comment starts. -/
def Prose (s : List Char) : Prop := ¬ "<!--".toList <:+: s

theorem prose_iff {s : List Char} : first (after? "<!--") s = none ↔ Prose s := by
  rw [Prose, ← contains_iff, contains, cut?]
  simp

instance (s : List Char) : Decidable (Prose s) := decidable_of_iff _ prose_iff

theorem Prose.mono {s t : List Char} (h : Prose t) (hs : s <:+: t) : Prose s :=
  fun hc => h (hc.trans hs)

theorem Prose.trimStart {s : List Char} (h : Prose s) : Prose (trimStart s) :=
  h.mono (trimStart_suffix s).isInfix

theorem Prose.trimEnd {s : List Char} (h : Prose s) : Prose (trimEnd s) :=
  h.mono (trimEnd_prefix_self s).isInfix

/-- A text that is empty or starts with a tag, so that it completes no comment start before it. -/
def Tagged (s : List Char) : Prop := ∀ c ∈ s.head?, c = '<'

theorem tagged_comment (s : List Char) : Tagged ("<!--".toList ++ s) := fun c hc => by cases hc; rfl

/-- A recogniser that succeeds only where a comment starts. -/
def Commented {α : Type} (f : List Char → Option α) : Prop :=
  ∀ s a, f s = some a → "<!--".toList <+: s

section Passing

variable {α : Type} {f : List Char → Option α}

/-- A search for a comment passes over prose. -/
theorem Prose.passes {g y : List Char} (hg : Prose g) (hf : Commented f) (hy : Tagged y) :
    Passes f g y := by
  intro u v huv hv
  cases h : f (v ++ y) with
  | none => rfl
  | some a =>
    obtain ⟨t, ht⟩ := hf _ _ h
    obtain ⟨d, v, rfl⟩ := List.exists_cons_of_ne_nil hv
    rcases List.append_eq_append_iff.1 ht with ⟨w, hw, -⟩ | ⟨w, hw, rfl⟩
    · exact absurd ⟨u, w, by rw [huv, hw, List.append_assoc]⟩ hg
    · rcases w with _ | ⟨c, w⟩
      · exact absurd ⟨u, [], by rw [huv, hw]; simp⟩ hg
      · -- the comment would go on in `y`, which starts with a tag
        rw [comment_eq, List.cons_append] at hw
        have hc : c ∈ ['!', '-', '-'] := by
          rw [(List.cons.inj hw).2]; exact List.mem_append_right v (List.mem_cons_self ..)
        rw [hy c rfl] at hc
        exact absurd hc (by decide)

/-- A search for a comment finds nothing in prose. -/
theorem Prose.first_eq_none {s : List Char} (h : Prose s) (hf : Commented f) : first f s = none := by
  have hp := (h.passes hf (y := []) fun c hc => by cases hc).first
  rw [List.append_nil] at hp
  rw [hp, first_nil]
  cases hr : f [] with
  | none => rfl
  | some a => exact absurd (hf _ _ hr) (by decide)

/-- A search passes over a marker at whose start it fails and which holds no other tag. -/
theorem passes_marker {m y : List Char} (hf : Commented f) (hm : '<' ∉ m)
    (h0 : f ('<' :: m ++ y) = none) : Passes f ('<' :: m) y := by
  intro u v huv hv
  rcases u with _ | ⟨d, u⟩
  · rw [List.nil_append] at huv; rw [← huv]; exact h0
  · obtain ⟨-, rfl⟩ := List.cons.inj huv
    obtain ⟨c, v, rfl⟩ := List.exists_cons_of_ne_nil hv
    cases h : f (c :: v ++ y) with
    | none => rfl
    | some a =>
      obtain ⟨t, ht⟩ := hf _ _ h
      rw [comment_eq] at ht
      exact absurd (List.mem_append_right u (List.mem_cons_self ..)) ((List.cons.inj ht).1 ▸ hm)

end Passing

theorem commented_closing? (keyword : String) : Commented (closing? keyword) := by
  intro s r h
  obtain ⟨m, ⟨v, w, -, -, rfl⟩, rfl⟩ := closing?_eq_some.1 h
  simp only [List.append_assoc]
  exact List.prefix_append ..

theorem commented_read? (level : Level) : Commented (Branch.read? level) := by
  intro s p h
  obtain ⟨⟨name, r⟩, ho, -⟩ := Option.bind_eq_some_iff.1 h
  obtain ⟨m, ⟨-, v, w, x, -, -, -, rfl⟩, rfl⟩ := (opening?_eq_some level.isKeyword.markerWord).1 ho
  simp only [List.append_assoc]
  exact List.prefix_append ..

/-! ## Markers of other keywords -/

theorem noTag_of_blanks {w : List Char} (h : Blanks w) : '<' ∉ w :=
  fun hm => absurd (h _ hm) (by decide)

theorem Keyword.noTag {word : String} (h : Keyword word) : '<' ∉ word.toList :=
  fun hm => absurd (h.alpha _ hm) (by decide)

/-- A marker is a tag and a text without further tags. -/
theorem ClosingMarker.tag {word : String} {m : List Char} (hk : Keyword word)
    (h : ClosingMarker word m) : ∃ n, m = '<' :: n ∧ '<' ∉ n := by
  obtain ⟨v, w, hv, hw, rfl⟩ := h
  refine ⟨['!', '-', '-'] ++ v ++ ['/'] ++ word.toList ++ w ++ ['-', '-', '>'], rfl, ?_⟩
  simp [noTag_of_blanks hv, noTag_of_blanks hw, hk.noTag]

theorem OpeningMarker.tag {word : String} {name m : List Char} (hk : Keyword word)
    (hn : '<' ∉ name) (h : OpeningMarker word name m) : ∃ n, m = '<' :: n ∧ '<' ∉ n := by
  obtain ⟨-, v, w, x, hv, hw, hx, rfl⟩ := h
  refine ⟨['!', '-', '-'] ++ v ++ word.toList ++ [':'] ++ w ++ name ++ x ++ ['-', '-', '>'], rfl, ?_⟩
  simp [noTag_of_blanks hv, noTag_of_blanks hw, noTag_of_blanks hx, hk.noTag, hn]

/-- What follows the blanks of a comment start is determined by the text. -/
theorem comment_inj {v v' a b : List Char} (hv : Blanks v) (hv' : Blanks v') (ha : Flush a)
    (hb : Flush b) (h : "<!--".toList ++ v ++ a = "<!--".toList ++ v' ++ b) : a = b := by
  rw [List.append_assoc, List.append_assoc] at h
  have := congrArg trimStart (List.append_cancel_left h)
  rwa [trimStart_append hv, trimStart_append hv', trimStart_of_flush ha, trimStart_of_flush hb]
    at this

/-- Two keywords in front of texts that do not go on with a letter are equal if the texts are. -/
theorem Keyword.eq_of_append {word word' : String} (h : Keyword word) (h' : Keyword word')
    {x y : List Char} (hx : ∀ c ∈ x.head?, c.isAlpha = false) (hy : ∀ c ∈ y.head?, c.isAlpha = false)
    (he : word.toList ++ x = word'.toList ++ y) : word = word' := by
  have take : ∀ {w : String} {z : List Char}, Keyword w → (∀ c ∈ z.head?, c.isAlpha = false) →
      (w.toList ++ z).takeWhile Char.isAlpha = w.toList := by
    intro w z hw hz
    rw [List.takeWhile_append_of_pos hw.alpha]
    cases z with
    | nil => simp
    | cons c z => rw [List.takeWhile_cons_of_neg (by simp [hz c rfl]), List.append_nil]
  have := congrArg (List.takeWhile Char.isAlpha) he
  rw [take h hx, take h' hy] at this
  exact String.toList_inj.1 this

theorem noLetter_markerEnd {w : List Char} (hw : Blanks w) (r : List Char) :
    ∀ c ∈ (w ++ ("-->".toList ++ r)).head?, c.isAlpha = false := by
  intro c hc
  cases w with
  | nil => cases hc; decide
  | cons d w =>
    cases hc
    cases hd : c.isAlpha with
    | false => rfl
    | true =>
      have := hw c (List.mem_cons_self ..)
      rw [isBlank_of_isAlpha hd] at this; cases this

/-- A closing marker is none of another keyword. -/
theorem ClosingMarker.other {word word' : String} {m : List Char} (hk : Keyword word)
    (hk' : Keyword word') (h : ClosingMarker word m) (hne : word' ≠ word) (y : List Char) :
    closing? word' (m ++ y) = none := by
  cases hc : closing? word' (m ++ y) with
  | none => rfl
  | some r =>
    obtain ⟨m', ⟨v', w', hv', hw', rfl⟩, he⟩ := closing?_eq_some.1 hc
    obtain ⟨v, w, hv, hw, rfl⟩ := h
    simp only [List.append_assoc] at he
    have hs : ∀ z, Flush ("/".toList ++ z) := fun z => markerWord_slash.flush.append (by decide) z
    have := comment_inj hv hv' (hs _) (hs _) (by simpa using he)
    have := List.append_cancel_left this
    exact absurd (Keyword.eq_of_append hk hk' (noLetter_markerEnd hw _) (noLetter_markerEnd hw' _)
      this).symm hne

/-- An opening marker is no closing marker. -/
theorem OpeningMarker.not_closing {word word' : String} {name m : List Char} (hk : Keyword word)
    (h : OpeningMarker word name m) (y : List Char) : closing? word' (m ++ y) = none := by
  cases hc : closing? word' (m ++ y) with
  | none => rfl
  | some r =>
    obtain ⟨m', ⟨v', w', hv', -, rfl⟩, he⟩ := closing?_eq_some.1 hc
    obtain ⟨-, v, w, x, hv, -, -, rfl⟩ := h
    simp only [List.append_assoc] at he
    have hs : ∀ z, Flush ("/".toList ++ z) := fun z => markerWord_slash.flush.append (by decide) z
    have := comment_inj hv hv' (hk.markerWord.flush.append hk.ne_nil _) (hs _) (by simpa using he)
    obtain ⟨c, t, hct⟩ := List.exists_cons_of_ne_nil hk.ne_nil
    have hc := hk.alpha c (hct ▸ List.mem_cons_self ..)
    rw [hct, List.cons_append] at this
    rw [(List.cons.inj this).1] at hc
    exact absurd hc (by decide)

/-! ## Branches in a text -/

theorem scan_eq_nil {level : Level} {s : List Char} (h : first (Branch.read? level) s = none) :
    Branch.scan level s = [] := by
  rw [Branch.scan]
  split
  · rfl
  · rename_i heq; rw [h] at heq; cases heq

theorem scan_eq_cons {level : Level} {s g r : List Char} {b : Branch}
    (h : first (Branch.read? level) s = some (g, b, r)) :
    Branch.scan level s = b :: Branch.scan level r := by
  rw [Branch.scan]
  split
  · rename_i heq; rw [h] at heq; cases heq
  · rename_i heq
    rw [h] at heq
    simp only [Option.some.injEq, Prod.mk.injEq] at heq
    obtain ⟨-, rfl, rfl⟩ := heq
    rfl

/-- Prose holds no branch. -/
theorem Prose.scan {s : List Char} (h : Prose s) (level : Level) : Branch.scan level s = [] :=
  scan_eq_nil (h.first_eq_none (commented_read? level))

variable {β : Type}

/-- A text in which items stand as branches of a level, one after another, with prose before,
between and after them; `text` says what can stand between the markers of an item. -/
inductive Written (level : Level) (name : β → List Char) (text : β → List Char → Prop) :
    List β → List Char → Prop
  | done {gap : List Char} : Prose gap → Written level name text [] gap
  | branch {b : β} {bs : List β} {gap o raw c rest : List Char} :
      Prose gap → OpeningMarker level.keyword (name b) o → text b raw →
      ClosingMarker level.keyword c → Written level name text bs rest →
      Written level name text (b :: bs) (gap ++ (o ++ (raw ++ (c ++ rest))))

/-- The branches of some items, each with its usual markers and nothing between them. -/
def printAll (level : Level) (name : β → List Char) (text : β → List Char) : List β → List Char
  | [] => []
  | b :: bs => printOpening level.keyword (name b) ++
      (text b ++ (printClosing level.keyword ++ printAll level name text bs))

theorem printAll_written (level : Level) {name : β → List Char} {text : β → List Char → Prop}
    {print : β → List Char} (hname : ∀ b, MarkerName (name b)) (htext : ∀ b, text b (print b))
    (bs : List β) : Written level name text bs (printAll level name print bs) := by
  have hnil : Prose [] := by decide
  induction bs with
  | nil => exact .done hnil
  | cons b bs ih =>
    exact .branch hnil (printOpening_marker _ (hname b)) (htext b) (printClosing_marker _) ih

variable {level : Level} {name : β → List Char} {text : β → List Char → Prop}

theorem tagged_opening {word : String} {n o : List Char} (h : OpeningMarker word n o)
    (y : List Char) : Tagged (o ++ y) := by
  obtain ⟨-, v, w, x, -, -, -, rfl⟩ := h
  simp only [List.append_assoc]
  exact tagged_comment _

theorem tagged_closing {word : String} {m : List Char} (h : ClosingMarker word m)
    (y : List Char) : Tagged (m ++ y) := by
  obtain ⟨v, w, -, -, rfl⟩ := h
  simp only [List.append_assoc]
  exact tagged_comment _

/-- What a scan reads for an item: its name, and the trimmed text between its markers. -/
def ReadAs (name : β → List Char) (text : β → List Char → Prop) (b : β) (br : Branch) : Prop :=
  br.name = String.ofList (name b) ∧ ∃ raw, text b raw ∧ br.content = String.ofList (trim raw)

/-- A scan reads written branches back in order, if it does not find their closing marker inside
their own texts. -/
theorem Written.scan {bs : List β} {s : List Char} (h : Written level name text bs s)
    (htext : ∀ b raw, text b raw → ∀ y, Tagged y → Passes (closing? level.keyword) raw y) :
    List.Forall₂ (ReadAs name text) bs (Branch.scan level s) := by
  -- along the writing: the scan passes the gap, reads one branch and goes on behind its marker
  induction h with
  | done hg => rw [hg.scan level]; exact .nil
  | @branch b bs gap o raw c rest hg ho hr hc _ ih =>
    have hopen := (opening?_eq_some level.isKeyword.markerWord (r := raw ++ (c ++ rest))).2 ⟨o, ho, rfl⟩
    have hclose : first (closing? level.keyword) (raw ++ (c ++ rest)) = some (raw, rest) := by
      rw [(htext b raw hr _ (tagged_closing hc rest)).first,
        first_of_some (closing?_eq_some.2 ⟨c, hc, rfl⟩)]
      simp
    have hread : Branch.read? level (o ++ (raw ++ (c ++ rest))) =
        some (⟨String.ofList (name b), String.ofList (trim raw)⟩, rest) := by
      simp only [Branch.read?, hopen, hclose, Option.bind_eq_bind, Option.bind_some, Option.pure_def]
    have hfirst := (hg.passes (commented_read? level) (tagged_opening ho (raw ++ (c ++ rest)))).first
    rw [first_of_some hread, Option.map_some] at hfirst
    rw [scan_eq_cons hfirst]
    exact .cons ⟨rfl, raw, hr, rfl⟩ ih

/-- A search for the closing marker of another keyword passes over written branches. -/
theorem Written.passes {bs : List β} {s : List Char} (h : Written level name text bs s)
    {word : String} (hw : Keyword word) (hne : word ≠ level.keyword) (hname : ∀ b, '<' ∉ name b)
    (htext : ∀ b raw, text b raw → ∀ y, Tagged y → Passes (closing? word) raw y) {y : List Char}
    (hy : Tagged y) : Passes (closing? word) s y := by
  have hf := commented_closing? word
  induction h with
  | done hg => exact hg.passes hf hy
  | @branch b bs gap o raw c rest hg ho hr hc _ ih =>
    obtain ⟨n, rfl, hn⟩ := ho.tag level.isKeyword (hname b)
    obtain ⟨m, rfl, hm⟩ := hc.tag level.isKeyword
    have tag : ∀ t z : List Char, Tagged (('<' :: t) ++ z) := fun t z d hd => by cases hd; rfl
    have hrest : Passes (closing? word) (('<' :: m) ++ rest) y :=
      .append (passes_marker hf hm (hc.other level.isKeyword hw hne _)) ih
    have hraw : Passes (closing? word) (raw ++ (('<' :: m) ++ rest)) y :=
      .append (htext b raw hr _ (tag _ y)) hrest
    have hopen : Passes (closing? word) (('<' :: n) ++ (raw ++ (('<' :: m) ++ rest))) y :=
      .append (passes_marker hf hn (ho.not_closing level.isKeyword _)) hraw
    exact .append (hg.passes hf (tag _ y)) hopen

/-- Trimming a text with written branches trims only the prose around them. -/
theorem Written.trimStart {bs : List β} {s : List Char} (h : Written level name text bs s) :
    Written level name text bs (trimStart s) := by
  cases h with
  | done hg => exact .done hg.trimStart
  | @branch b bs gap o raw c rest hg ho hr hc hs =>
    have hf : Flush (o ++ (raw ++ (c ++ rest))) := fun d hd => by
      rw [tagged_opening ho _ d hd]; decide
    rw [trimStart_append_flush hf]
    exact .branch hg.trimStart ho hr hc hs

theorem Written.trimEnd {bs : List β} {s : List Char} (h : Written level name text bs s) :
    Written level name text bs (trimEnd s) := by
  -- only the gap behind the last branch loses blanks, for a closing marker ends with none
  induction h with
  | done hg => exact .done hg.trimEnd
  | @branch b bs gap o raw c rest hg ho hr hc _ ih =>
    have hf : Flush (gap ++ (o ++ (raw ++ c))).reverse := by
      obtain ⟨v, w, -, -, rfl⟩ := hc
      simp only [List.reverse_append, List.append_assoc]
      exact Flush.append (fun d hd => by cases hd; decide) (by decide) _
    have he := trimEnd_append_flush hf rest
    simp only [List.append_assoc] at he
    rw [he]
    exact .branch hg ho hr hc ih

theorem Written.trim {bs : List β} {s : List Char} (h : Written level name text bs s) :
    Written level name text bs (trim s) :=
  h.trimStart.trimEnd

end DocTabs.Tabs
