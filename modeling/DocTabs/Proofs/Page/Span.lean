/-
The grammar of container spans, and that a page is cut into text and spans as the grammar says: the
next span starts at the least position where an opening marker of either kind is followed by a
closing marker of the same kind, and its body ends at the earliest such closing marker.
-/
import DocTabs.Page.Segment
import DocTabs.Proofs.Tabs.Marker

namespace DocTabs.Page

open Tabs Text

/-! ## Grammar -/

/-- An opening marker of a container, `<!-- KEYWORD -->` or `<!-- KEYWORD id="ID" -->`. -/
inductive ContainerOpening (kind : Kind) : Option String → List Char → Prop
  | anonymous {v w : List Char} : Blanks v → Blanks w →
      ContainerOpening kind none ("<!--".toList ++ v ++ kind.keyword.toList ++ w ++ "-->".toList)
  | named {v u w id : List Char} : Blanks v → Blanks u → u ≠ [] → Blanks w → id ≠ [] → '"' ∉ id →
      ContainerOpening kind (some (String.ofList id)) ("<!--".toList ++ v ++ kind.keyword.toList ++ u ++
        "id=\"".toList ++ id ++ "\"".toList ++ w ++ "-->".toList)

/-- A span of a page: a container without its markers. -/
structure Span where
  kind : Kind
  id : Option String
  body : List Char

/-- At the head of the text an opening marker is followed, at or after its end, by a closing marker
of the same kind. -/
def Opens (s : List Char) : Prop :=
  ∃ kind id o b c r, ContainerOpening kind id o ∧ ClosingMarker kind.keyword c ∧ s = o ++ b ++ c ++ r

/-- A span at the head of the text and the text after its closing marker; the body ends at the
earliest closing marker of the span's kind. -/
def SpanAt (span : Span) (rest s : List Char) : Prop :=
  ∃ o c, ContainerOpening span.kind span.id o ∧ ClosingMarker span.kind.keyword c ∧
    s = o ++ span.body ++ c ++ rest ∧
    ∀ b' c' r', span.body ++ c ++ rest = b' ++ c' ++ r' → ClosingMarker span.kind.keyword c' →
      span.body.length ≤ b'.length

/-- A page cut into spans, each with the text before it, and the text after the last span. -/
inductive Cut : List Char → List (List Char × Span) → List Char → Prop
  | done {s : List Char} : (∀ u v, s = u ++ v → ¬ Opens v) → Cut s [] s
  | span {s gap t rest last : List Char} {span : Span} {parts : List (List Char × Span)} :
      s = gap ++ t → SpanAt span rest t → (∀ u v, s = u ++ v → u.length < gap.length → ¬ Opens v) →
      Cut rest parts last → Cut s ((gap, span) :: parts) last

/-! ## Opening markers -/

theorem idAttribute?_eq_some {s id r : List Char} :
    idAttribute? s = some (id, r) ↔ id ≠ [] ∧ '"' ∉ id ∧
      ∃ u, Blanks u ∧ u ≠ [] ∧ s = u ++ "id=\"".toList ++ id ++ "\"".toList ++ r := by
  unfold idAttribute?
  constructor
  · intro h
    split at h
    · rename_i hblank
      obtain ⟨t, ht, h⟩ := Option.bind_eq_some_iff.1 h
      obtain ⟨⟨i, q⟩, hq, h⟩ := Option.bind_eq_some_iff.1 h
      dsimp only at h
      split at h
      · cases h
      · rename_i hne
        obtain ⟨rfl, rfl⟩ := Prod.mk.inj (Option.some.inj h)
        obtain ⟨hquote, rfl⟩ := (cut?_char (c := '"') rfl).1 hq
        obtain ⟨u, hu, hs⟩ := exists_trimStart s
        rw [after?_eq_some.1 ht] at hs
        refine ⟨fun e => hne (by rw [e]; rfl), hquote, u, hu, ?_, by rw [hs]; simp⟩
        rintro rfl
        rw [hs] at hblank
        simp [isBlank] at hblank
    · cases h
  · rintro ⟨hne, hquote, u, hu, hu', rfl⟩
    obtain ⟨c, u, rfl⟩ := List.exists_cons_of_ne_nil hu'
    have hc : isBlank c = true := hu c (List.mem_cons_self ..)
    have hf : Flush ("id=\"".toList ++ (id ++ "\"".toList ++ r)) := fun d hd => by cases hd; decide
    rw [if_pos (by simpa using hc)]
    have ht : trimStart (c :: u ++ "id=\"".toList ++ id ++ "\"".toList ++ r) =
        "id=\"".toList ++ (id ++ "\"".toList ++ r) := by
      simp only [List.append_assoc] at hf ⊢
      rw [trimStart_append hu, trimStart_of_flush hf]
    have hq : cut? "\"" (id ++ "\"".toList ++ r) = some (id, r) := (cut?_char rfl).2 ⟨hquote, by simp⟩
    rw [ht, after?_eq_some.2 rfl]
    simp only [Option.bind_eq_bind, Option.bind_some, hq]
    rw [if_neg (by simpa using hne)]

/-- The reader of opening markers reads exactly the markers of the grammar. -/
theorem containerOpening?_eq_some {kind : Kind} {s r : List Char} {id : Option String} :
    containerOpening? kind s = some (id, r) ↔ ∃ o, ContainerOpening kind id o ∧ s = o ++ r := by
  unfold containerOpening?
  constructor
  · intro h
    obtain ⟨t, ht, hid⟩ := Option.bind_eq_some_iff.1 h
    obtain ⟨v, hv, rfl⟩ := (markerStart?_word kind.isKeyword.markerWord).1 ht
    split at hid
    · rename_i i q hi
      obtain ⟨q', hq, he⟩ := Option.map_eq_some_iff.1 hid
      obtain ⟨rfl, rfl⟩ := Prod.mk.inj he
      obtain ⟨hne, hquote, u, hu, hu', rfl⟩ := idAttribute?_eq_some.1 hi
      obtain ⟨w, hw, rfl⟩ := markerEnd?_eq_some.1 hq
      exact ⟨_, .named hv hu hu' hw hne hquote, by simp⟩
    · obtain ⟨q', hq, he⟩ := Option.map_eq_some_iff.1 hid
      obtain ⟨rfl, rfl⟩ := Prod.mk.inj he
      obtain ⟨w, hw, rfl⟩ := markerEnd?_eq_some.1 hq
      exact ⟨_, .anonymous hv hw, by simp⟩
  · rintro ⟨_, ho, rfl⟩
    cases ho with
    | @anonymous v w hv hw =>
      have ht := (markerStart?_word kind.isKeyword.markerWord
        (r := w ++ "-->".toList ++ r)).2 ⟨v, hv, rfl⟩
      have hi : idAttribute? (w ++ "-->".toList ++ r) = none := by
        cases h : idAttribute? (w ++ "-->".toList ++ r) with
        | none => rfl
        | some p =>
          obtain ⟨-, -, u, hu, -, he⟩ := idAttribute?_eq_some.1 h
          have := congrArg trimStart he
          simp only [List.append_assoc] at this
          rw [trimStart_append hw, trimStart_append hu] at this
          simp [trimStart, isBlank] at this
      refine Option.bind_eq_some_iff.2 ⟨w ++ "-->".toList ++ r, by simpa using ht, ?_⟩
      rw [hi]
      exact Option.map_eq_some_iff.2 ⟨r, markerEnd?_eq_some.2 ⟨w, hw, rfl⟩, rfl⟩
    | @named v u w i hv hu hu' hw hne hquote =>
      have ht := (markerStart?_word kind.isKeyword.markerWord
        (r := u ++ "id=\"".toList ++ i ++ "\"".toList ++ (w ++ "-->".toList ++ r))).2 ⟨v, hv, rfl⟩
      have hi := (idAttribute?_eq_some (r := w ++ "-->".toList ++ r)).2
        ⟨hne, hquote, u, hu, hu', rfl⟩
      refine Option.bind_eq_some_iff.2 ⟨u ++ "id=\"".toList ++ i ++ "\"".toList ++
        (w ++ "-->".toList ++ r), by simpa using ht, ?_⟩
      rw [hi]
      exact Option.map_eq_some_iff.2 ⟨r, markerEnd?_eq_some.2 ⟨w, hw, rfl⟩, rfl⟩

/-! ## Spans -/

/-- The span as a piece of a page. -/
def Span.segment (span : Span) : Segment := .span span.kind span.id span.body

theorem Span.segment_inj {a b : Span} (h : a.segment = b.segment) : a = b := by
  cases a; cases b
  simpa [Span.segment] using h

/-- One text holds opening markers of one kind only. -/
theorem containerOpening?_kind {k k' : Kind} {s : List Char} {p p' : Option String × List Char}
    (h : containerOpening? k s = some p) (h' : containerOpening? k' s = some p') : k = k' := by
  obtain ⟨t, ht, -⟩ := Option.bind_eq_some_iff.1 h
  obtain ⟨t', ht', -⟩ := Option.bind_eq_some_iff.1 h'
  obtain ⟨a, ha, hk⟩ := Option.bind_eq_some_iff.1 ht
  obtain ⟨a', ha', hk'⟩ := Option.bind_eq_some_iff.1 ht'
  rw [ha, Option.some.injEq] at ha'
  subst ha'
  rw [after?_eq_some] at hk hk'
  rw [hk] at hk'
  cases k <;> cases k' <;> simp [Kind.keyword] at hk' ⊢

theorem spanOf?_eq_some {kind : Kind} {s r : List Char} {g : Segment} :
    spanOf? kind s = some (g, r) ↔
      ∃ span : Span, span.kind = kind ∧ g = span.segment ∧ SpanAt span r s := by
  constructor
  · intro h
    obtain ⟨⟨id, inside⟩, ho, h⟩ := Option.bind_eq_some_iff.1 h
    obtain ⟨⟨body, rest⟩, hc, h⟩ := Option.bind_eq_some_iff.1 h
    obtain ⟨rfl, rfl⟩ := Prod.mk.inj (Option.some.inj h)
    obtain ⟨o, hm, rfl⟩ := containerOpening?_eq_some.1 ho
    obtain ⟨c, hc, he, hl⟩ := first_closing?.1 hc
    exact ⟨⟨kind, id, body⟩, rfl, rfl, o, c, hm, hc, by simp [he], by rw [← he]; exact hl⟩
  · rintro ⟨⟨_, id, body⟩, rfl, rfl, o, c, ho, hc, rfl, hl⟩
    have hin := (containerOpening?_eq_some (r := body ++ c ++ r)).2 ⟨o, ho, rfl⟩
    refine Option.bind_eq_some_iff.2 ⟨(id, body ++ c ++ r), by simpa using hin, ?_⟩
    exact Option.bind_eq_some_iff.2 ⟨(body, r), first_closing?.2 ⟨c, hc, rfl, hl⟩, rfl⟩

/-- The reader of spans finds exactly the spans of the grammar. -/
theorem span?_eq_some {s r : List Char} {g : Segment} :
    span? s = some (g, r) ↔ ∃ span : Span, g = span.segment ∧ SpanAt span r s := by
  unfold span?
  rw [Option.orElse_eq_orElse, Option.orElse_eq_or, Option.or_eq_some_iff]
  constructor
  · rintro (h | ⟨-, h⟩)
    · obtain ⟨span, -, hg, hs⟩ := spanOf?_eq_some.1 h
      exact ⟨span, hg, hs⟩
    · obtain ⟨span, -, hg, hs⟩ := spanOf?_eq_some.1 h
      exact ⟨span, hg, hs⟩
  · rintro ⟨span, hg, hs⟩
    have h : spanOf? span.kind s = some (g, r) := spanOf?_eq_some.2 ⟨span, rfl, hg, hs⟩
    cases hk : span.kind with
    | plain => rw [hk] at h; exact .inl h
    | sample =>
      -- the plain kind is tried first, but its opening marker cannot stand in the same place
      rw [hk] at h
      refine .inr ⟨?_, h⟩
      cases hp : spanOf? .plain s with
      | none => rfl
      | some q =>
        obtain ⟨_, ho, -⟩ := Option.bind_eq_some_iff.1 h
        obtain ⟨_, ho', -⟩ := Option.bind_eq_some_iff.1 hp
        cases containerOpening?_kind ho ho'

theorem span?_eq_none {s : List Char} : span? s = none ↔ ¬ Opens s := by
  constructor
  · rintro h ⟨kind, id, o, b, c, r, ho, hc, rfl⟩
    have hin := (containerOpening?_eq_some (r := b ++ c ++ r)).2 ⟨o, ho, rfl⟩
    cases hf : first (closing? kind.keyword) (b ++ c ++ r) with
    | none =>
      have := first_eq_none.1 hf b (c ++ r) (List.append_assoc ..)
      rw [closing?_eq_some.2 ⟨c, hc, rfl⟩] at this; cases this
    | some p =>
      obtain ⟨b', r'⟩ := p
      obtain ⟨c', hc', he, hl⟩ := first_closing?.1 hf
      have hs : span? (o ++ b ++ c ++ r) = some (Span.segment ⟨kind, id, b'⟩, r') :=
        span?_eq_some.2 ⟨⟨kind, id, b'⟩, rfl, o, c', ho, hc', by simp [he],
          fun x y z hxyz => hl x y z (he.trans hxyz)⟩
      rw [hs] at h; cases h
  · intro h
    cases hs : span? s with
    | none => rfl
    | some p =>
      obtain ⟨g, r⟩ := p
      obtain ⟨span, -, o, c, ho, hc, rfl, -⟩ := span?_eq_some.1 hs
      exact absurd ⟨span.kind, span.id, o, span.body, c, r, ho, hc, rfl⟩ h

/-! ## Cuts -/

theorem Cut.first_done {s last : List Char} (h : Cut s [] last) : first span? s = none ∧ last = s := by
  cases h with
  | done h => exact ⟨first_eq_none.2 fun u v huv => span?_eq_none.2 (h u v huv), rfl⟩

theorem Cut.first_span {s last gap : List Char} {span : Span} {parts : List (List Char × Span)}
    (h : Cut s ((gap, span) :: parts) last) :
    ∃ rest, first span? s = some (gap, span.segment, rest) ∧ Cut rest parts last := by
  cases h with
  | @span _ _ t rest _ _ _ hs ha hl hr =>
    exact ⟨rest, first_eq_some.2 ⟨t, hs, span?_eq_some.2 ⟨span, rfl, ha⟩,
      fun u v huv hu => span?_eq_none.2 (hl u v huv hu)⟩, hr⟩

theorem cut_done {s : List Char} (h : first span? s = none) : Cut s [] s :=
  .done fun u v huv => span?_eq_none.1 (first_eq_none.1 h u v huv)

theorem cut_span {s gap rest last : List Char} {span : Span} {parts : List (List Char × Span)}
    (h : first span? s = some (gap, span.segment, rest)) (hr : Cut rest parts last) :
    Cut s ((gap, span) :: parts) last := by
  obtain ⟨t, hs, ht, hl⟩ := first_eq_some.1 h
  obtain ⟨span', he, ha⟩ := span?_eq_some.1 ht
  obtain rfl := Span.segment_inj he
  exact .span hs ha (fun u v huv hu => span?_eq_none.1 (hl u v huv hu)) hr

/-- Every page has a cut. -/
theorem exists_cut (s : List Char) : ∃ parts last, Cut s parts last := by
  cases h : first span? s with
  | none => exact ⟨[], s, cut_done h⟩
  | some p =>
    obtain ⟨gap, g, rest⟩ := p
    obtain ⟨t, hs, ht, -⟩ := first_eq_some.1 h
    have hlen : rest.length < s.length := by
      have := span?_length ht
      rw [hs, List.length_append]; omega
    obtain ⟨span, rfl, -⟩ := span?_eq_some.1 ht
    -- what follows the span is shorter than the page
    obtain ⟨parts, last, hr⟩ := exists_cut rest
    exact ⟨_, last, cut_span h hr⟩
termination_by s.length

/-- A page has one cut only. -/
theorem Cut.unique {s last last' : List Char} {parts parts' : List (List Char × Span)}
    (h : Cut s parts last) (h' : Cut s parts' last') : parts' = parts ∧ last' = last := by
  induction parts generalizing s parts' with
  | nil =>
    obtain ⟨hf, rfl⟩ := h.first_done
    rcases parts' with _ | ⟨⟨gap, span⟩, parts'⟩
    · exact ⟨rfl, h'.first_done.2⟩
    · obtain ⟨rest, hf', -⟩ := h'.first_span
      rw [hf] at hf'; cases hf'
  | cons p parts ih =>
    obtain ⟨rest, hf, hr⟩ := h.first_span
    rcases parts' with _ | ⟨⟨gap', span'⟩, parts'⟩
    · rw [h'.first_done.1] at hf; cases hf
    · obtain ⟨rest', hf', hr'⟩ := h'.first_span
      rw [hf] at hf'
      simp only [Option.some.injEq, Prod.mk.injEq] at hf'
      obtain ⟨rfl, hspan, rfl⟩ := hf'
      obtain ⟨rfl, rfl⟩ := ih hr hr'
      exact ⟨by rw [← Span.segment_inj hspan], rfl⟩

/-- The segments of a page are the texts and spans of its cut. -/
theorem Cut.segments {s last : List Char} {parts : List (List Char × Span)} (h : Cut s parts last) :
    Page.segments s = (parts.flatMap fun p => [.text p.1, p.2.segment]) ++ [.text last] := by
  induction parts generalizing s with
  | nil =>
    obtain ⟨hf, rfl⟩ := h.first_done
    rw [Page.segments]
    split
    · rfl
    · rename_i heq; rw [hf] at heq; cases heq
  | cons p parts ih =>
    obtain ⟨rest, hf, hr⟩ := h.first_span
    rw [Page.segments]
    split
    · rename_i heq; rw [hf] at heq; cases heq
    · rename_i heq
      rw [hf] at heq
      simp only [Option.some.injEq, Prod.mk.injEq] at heq
      obtain ⟨rfl, rfl, rfl⟩ := heq
      rw [ih hr]; rfl

end DocTabs.Page
