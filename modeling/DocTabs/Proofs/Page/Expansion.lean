/-
Expansion of a page in terms of its cut: the texts between the spans stay, every span is replaced by
the HTML of its body under its own id or the next drawn one, and each span without platform branches
gives one warning.
-/
import DocTabs.Page.Expand
import DocTabs.Proofs.Page.Span
import DocTabs.Proofs.Tabs.Tree

namespace DocTabs.Page

open Tabs Text

/-! ## Ids -/

/-- Whether a span has no id of its own and draws one. -/
def Span.isAnonymous (span : Span) : Bool := span.id.isNone

/-- The id that a span is rendered under when `drawn` ids have been drawn before: its own, or the
next number behind the prefix of its kind. -/
def Span.idAfter (drawn : Nat) (span : Span) : String :=
  span.id.getD (span.kind.idStem ++ "-" ++ toString (drawn + 1))

/-- The ids of the spans of a page, the first of which finds `drawn` ids drawn. -/
def spanIds (drawn : Nat) (spans : List Span) : List String :=
  spans.mapIdx fun i span => span.idAfter (drawn + (spans.take i).countP (·.isAnonymous))

theorem spanIds_cons (drawn : Nat) (span : Span) (spans : List Span) :
    spanIds drawn (span :: spans) = span.idAfter drawn ::
      spanIds (drawn + if span.isAnonymous then 1 else 0) spans := by
  simp only [spanIds, List.mapIdx_cons, List.take_zero, List.countP_nil, Nat.add_zero,
    List.take_succ_cons, List.countP_cons]
  congr 2
  funext i span'
  congr 1
  omega

theorem spanIds_append (drawn : Nat) (spans more : List Span) :
    spanIds drawn (spans ++ more) =
      spanIds drawn spans ++ spanIds (drawn + spans.countP (·.isAnonymous)) more := by
  induction spans generalizing drawn with
  | nil => simp [spanIds]
  | cons span spans ih =>
    rw [List.cons_append, spanIds_cons, spanIds_cons, ih, List.countP_cons, List.cons_append]
    congr 3
    omega

/-- The ids that are drawn are numbered without gap or repeat. -/
theorem drawn_spanIds (drawn : Nat) (spans : List Span) :
    ((spans.zip (spanIds drawn spans)).filter (·.1.isAnonymous)).map (·.2) =
      (spans.filter (·.isAnonymous)).mapIdx fun i span =>
        span.kind.idStem ++ "-" ++ toString (drawn + i + 1) := by
  induction spans generalizing drawn with
  | nil => rfl
  | cons span spans ih =>
    rw [spanIds_cons, List.zip_cons_cons]
    cases h : span.isAnonymous with
    | false =>
      rw [List.filter_cons_of_neg (by simp [h]), List.filter_cons_of_neg (by simp [h])]
      simpa using ih drawn
    | true =>
      rw [List.filter_cons_of_pos (by simpa using h), List.filter_cons_of_pos (by simpa using h),
        List.map_cons, List.mapIdx_cons, if_pos rfl, ih]
      congr 1
      · have hid : span.id = none := by simpa [Span.isAnonymous] using h
        simp [Span.idAfter, hid]
      · congr 1
        funext i span
        congr 2
        omega

/-! ## Replacements -/

/-- A body without platform branches renders as the fragment for an empty container. -/
theorem renderBody_empty {body : List Char} (h : Branch.scan .platform body = []) (kind : Kind)
    (id preferred : String) : renderBody kind id body preferred = emptyContainerHtml := by
  rw [renderBody, ofBody?_eq_none.2 h]; rfl

/-- The warning for a span under an id, if its body has no platform branch. -/
def spanWarning? (span : Span) (id : String) : Option String :=
  if Branch.scan .platform span.body = [] then
    some (span.kind.keyword ++ " container '" ++ id ++ "' contains no platform blocks")
  else none

/-- A span is replaced by its rendered body, counts once, and warns if it is empty. -/
theorem expandSpan_eq (span : Span) (id preferred : String) :
    expandSpan span.kind id span.body preferred =
      ⟨renderBody span.kind id span.body preferred, 1, (spanWarning? span id).toList⟩ := by
  unfold expandSpan renderBody spanWarning?
  cases h : Container.ofBody? span.kind id span.body preferred with
  | none => rw [if_pos (ofBody?_eq_none.1 h)]; rfl
  | some c =>
    rw [if_neg fun he => by rw [ofBody?_eq_none.2 he] at h; cases h]; rfl

theorem expand_segment (s : Session) (span : Span) :
    span.segment.expand s =
      (expandSpan span.kind (span.idAfter s.drawn) span.body s.preferred,
        { s with drawn := s.drawn + if span.isAnonymous then 1 else 0 }) := by
  obtain ⟨kind, id, body⟩ := span
  cases id <;> rfl

/-! ## Pages -/

/-- The HTML of a cut page: every span replaced, each text kept. -/
def cutHtml (preferred : String) (parts : List (List Char × Span)) (ids : List String)
    (last : List Char) : String :=
  String.join (parts.zipWith (fun p id =>
    String.ofList p.1 ++ renderBody p.2.kind id p.2.body preferred) ids) ++ String.ofList last

/-- The expansion of a text, of a span and of what follows them. -/
theorem expandAll_part (s : Session) (gap : List Char) (span : Span) (gs : List Segment) :
    let id := span.idAfter s.drawn
    let rest := expandAll { s with drawn := s.drawn + if span.isAnonymous then 1 else 0 } gs
    expandAll s (.text gap :: span.segment :: gs) =
      (⟨String.ofList gap ++ renderBody span.kind id span.body s.preferred ++ rest.1.html,
        rest.1.containers + 1, (spanWarning? span id).toList ++ rest.1.warnings⟩, rest.2) := by
  intro id rest
  show (Expansion.append _ (Expansion.append (span.segment.expand s).1
    (expandAll (span.segment.expand s).2 gs).1), (expandAll (span.segment.expand s).2 gs).2) = _
  rw [expand_segment, expandSpan_eq]
  simp only [Expansion.append, List.nil_append, String.append_assoc, Nat.zero_add, Nat.add_comm 1]
  rfl

theorem expandAll_parts (s : Session) (parts : List (List Char × Span)) (last : List Char) :
    let ids := spanIds s.drawn (parts.map (·.2))
    expandAll s ((parts.flatMap fun p => [.text p.1, p.2.segment]) ++ [.text last]) =
      (⟨cutHtml s.preferred parts ids last, parts.length,
        (parts.zip ids).filterMap fun p => spanWarning? p.1.2 p.2⟩,
        { s with drawn := s.drawn + parts.countP (·.2.isAnonymous) }) := by
  -- the session is general because the spans passed so far may have drawn ids
  induction parts generalizing s with
  | nil => simp [expandAll, Segment.expand, Expansion.append, cutHtml]
  | cons p parts ih =>
    obtain ⟨gap, span⟩ := p
    intro ids
    have hids : ids = span.idAfter s.drawn ::
      spanIds (s.drawn + if span.isAnonymous then 1 else 0) (parts.map (·.2)) :=
      spanIds_cons ..
    rw [List.flatMap_cons, List.append_assoc, List.cons_append, List.cons_append, List.nil_append,
      expandAll_part, ih, hids]
    simp only [cutHtml, List.zipWith_cons_cons, String.join_cons, String.append_assoc,
      List.length_cons, List.zip_cons_cons, List.filterMap_cons, List.countP_cons, Nat.add_assoc,
      Nat.add_comm (List.countP _ parts)]
    cases spanWarning? span (span.idAfter s.drawn) <;> rfl

/-- Every page has exactly one cut into texts and spans, and its expansion is that cut with each
span replaced by its rendered body: nothing else changes, each span counts, each empty one warns
in page order, and only the spans without an id draw from the session. -/
theorem expand_eq_cut (page : String) (s : Session) :
    ∃ parts last, Cut page.toList parts last ∧
      (∀ parts' last', Cut page.toList parts' last' → parts' = parts ∧ last' = last) ∧
      (∀ p ∈ parts, Branch.scan .platform p.2.body = [] → ∀ id,
        renderBody p.2.kind id p.2.body s.preferred = emptyContainerHtml) ∧
      let ids := spanIds s.drawn (parts.map (·.2))
      expand page s = (⟨cutHtml s.preferred parts ids last, parts.length,
        (parts.zip ids).filterMap fun p => spanWarning? p.1.2 p.2⟩,
        { s with drawn := s.drawn + parts.countP (·.2.isAnonymous) }) := by
  obtain ⟨parts, last, h⟩ := exists_cut page.toList
  refine ⟨parts, last, h, fun _ _ h' => h.unique h', fun p _ he id => renderBody_empty he .., ?_⟩
  intro ids
  rw [expand, h.segments]
  exact expandAll_parts s parts last

end DocTabs.Page
