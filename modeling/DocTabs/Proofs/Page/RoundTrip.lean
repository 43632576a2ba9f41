/-
Round trip of a container through a page: a page in which a draft is written between two passages
expands to the passages around the HTML of the draft's container.
-/
import DocTabs.Proofs.Page.Expansion
import DocTabs.Proofs.Tabs.Draft

namespace DocTabs.Page

open Tabs Text

/-- The text is a container with its markers, written from a draft. -/
def DraftWritten (d : Draft) (s : List Char) : Prop :=
  ∃ o body c, ContainerOpening d.kind (some d.id) o ∧ BodyWritten d.platforms body ∧
    ClosingMarker d.kind.keyword c ∧ s = o ++ (body ++ c)

/-- The usual form of a container's opening marker. -/
def printContainerOpening (kind : Kind) (id : List Char) : List Char :=
  "<!--".toList ++ [' '] ++ kind.keyword.toList ++ [' '] ++ "id=\"".toList ++ id ++ "\"".toList ++
    [' '] ++ "-->".toList

/-- The usual way to write a draft. -/
def printDraft (d : Draft) : List Char :=
  printContainerOpening d.kind d.id.toList ++ (d.printBody ++ printClosing d.kind.keyword)

/-- Every draft can be written. -/
theorem printDraft_written (d : Draft) : DraftWritten d (printDraft d) := by
  have hid : d.id.toList ≠ [] := fun he => d.id_ne (String.toList_eq_nil_iff.1 he)
  have ho : ContainerOpening d.kind (some (String.ofList d.id.toList))
      (printContainerOpening d.kind d.id.toList) :=
    .named blanks_space blanks_space (by simp) blanks_space hid d.noQuote
  rw [String.ofList_toList] at ho
  exact ⟨_, _, _, ho, d.printBody_written, printClosing_marker _, rfl⟩

/-! ## Spans between prose -/

theorem ContainerOpening.comment {kind : Kind} {id : Option String} {o : List Char}
    (h : ContainerOpening kind id o) : ∃ t, o = "<!--".toList ++ t := by
  cases h with
  | anonymous hv hw => exact ⟨_, by simp only [List.append_assoc]; rfl⟩
  | named hv hu hu' hw hne hq => exact ⟨_, by simp only [List.append_assoc]; rfl⟩

theorem commented_span? : Commented span? := by
  intro s p h
  obtain ⟨g, r⟩ := p
  obtain ⟨span, -, o, c, ho, -, rfl, -⟩ := span?_eq_some.1 h
  obtain ⟨t, rfl⟩ := ho.comment
  simp only [List.append_assoc]
  exact List.prefix_append ..

section Written

variable {kind : Kind} {platforms : List (PlatformDraft kind)} {id : Option String} {o body c : List Char}

/-- A written span ends at its own closing marker, not at one inside its body. -/
theorem spanAt_written (ho : ContainerOpening kind id o) (hb : BodyWritten platforms body)
    (hc : ClosingMarker kind.keyword c) (rest : List Char) :
    SpanAt ⟨kind, id, body⟩ rest (o ++ (body ++ (c ++ rest))) := by
  have hclose : first (closing? kind.keyword) (body ++ (c ++ rest)) = some (body, rest) := by
    rw [(hb.passes kind.isKeyword kind.keyword_ne (tagged_closing hc rest)).first,
      first_of_some (closing?_eq_some.2 ⟨c, hc, rfl⟩)]
    simp
  obtain ⟨-, -, -, hleast⟩ := first_closing?.1 hclose
  exact ⟨o, c, ho, hc, by simp only [List.append_assoc], by simpa only [List.append_assoc] using hleast⟩

/-- A page with a written span between two passages is cut into the passages and the span. -/
theorem cut_written (before after : Passage) (ho : ContainerOpening kind id o)
    (hb : BodyWritten platforms body) (hc : ClosingMarker kind.keyword c) :
    Cut (before.text.toList ++ (o ++ (body ++ (c ++ after.text.toList))))
      [(before.text.toList, ⟨kind, id, body⟩)] after.text.toList := by
  have hspan := span?_eq_some.2 ⟨_, rfl, spanAt_written ho hb hc after.text.toList⟩
  have htag : Tagged (o ++ (body ++ (c ++ after.text.toList))) := by
    obtain ⟨t, rfl⟩ := ho.comment
    rw [List.append_assoc]
    exact tagged_comment _
  -- the search passes `before`, finds the span, and finds nothing in `after`
  have hfirst := (before.prose.passes commented_span? htag).first
  rw [first_of_some hspan, Option.map_some, List.append_nil] at hfirst
  exact cut_span hfirst (cut_done (after.prose.first_eq_none commented_span?))

/-- A written span expands to the container that its body is built into, under its own id or the one
that it draws. -/
theorem expand_span (before after : Passage) (ho : ContainerOpening kind id o)
    (hb : BodyWritten platforms body) (hc : ClosingMarker kind.keyword c) {s : Session}
    {container : Container}
    (hbuild : Container.ofBody? kind (id.getD (s.draw kind).1) body s.preferred = some container) :
    expand (before.text ++ String.ofList (o ++ (body ++ c)) ++ after.text) s =
      (⟨before.text ++ container.toHtml ++ after.text, 1, []⟩,
        if id.isNone then (s.draw kind).2 else s) := by
  have hcut := cut_written before after ho hb hc
  have hpage : (before.text ++ String.ofList (o ++ (body ++ c)) ++ after.text).toList =
      before.text.toList ++ (o ++ (body ++ (c ++ after.text.toList))) := by
    simp only [String.toList_append, String.toList_ofList, List.append_assoc]
  have hbranches : Branch.scan .platform body ≠ [] := fun he => by
    rw [ofBody?_eq_none.2 he] at hbuild; cases hbuild
  have hrender : renderBody kind (id.getD (s.draw kind).1) body s.preferred = container.toHtml := by
    rw [renderBody, hbuild]; rfl
  have hid : spanIds s.drawn [⟨kind, id, body⟩] = [id.getD (s.draw kind).1] := rfl
  rw [expand, hpage, hcut.segments, expandAll_parts, List.map_singleton, hid]
  simp only [cutHtml, List.zipWith_cons_cons, hrender, spanWarning?]
  cases id <;> simp [Span.isAnonymous, Session.draw, hbranches]

end Written

/-! ## Pages -/

/-- However a draft is written, and whatever passages stand around it, the page expands to the
passages around the HTML of the draft's container: one container, no warning, and no id drawn. -/
theorem expand_written (d : Draft) (before after : Passage) (markup : List Char)
    (h : DraftWritten d markup) (s : Session) :
    expand (before.text ++ String.ofList markup ++ after.text) s =
      (⟨before.text ++ (d.container s.preferred).toHtml ++ after.text, 1, []⟩, s) := by
  obtain ⟨o, body, c, ho, hb, hc, rfl⟩ := h
  exact expand_span before after ho hb hc (ofBody?_written d hb s.preferred)

theorem expand_written_twoLevel :
    DraftWritten twoLevel (printDraft twoLevel) ∧
      expand ("<p>Setup -->" ++ String.ofList (printDraft twoLevel) ++ "<") {} =
        (⟨"<p>Setup -->" ++ (twoLevel.container "Android").toHtml ++ "<", 1, []⟩, {}) :=
  ⟨printDraft_written twoLevel,
    expand_written twoLevel { text := "<p>Setup -->" } { text := "<" } _ (printDraft_written twoLevel) {}⟩

end DocTabs.Page
