/-
Manuscripts through markdown: a page on which a manuscript is laid out renders to its container and
nothing else. The markers pass the markdown renderer as raw HTML, the span between them is found, and the
paragraph tags around each line are taken off again.
-/
import DocTabs.Page.Markdown
import DocTabs.Proofs.Page.RoundTrip
import DocTabs.Proofs.Tabs.Manuscript

namespace DocTabs.Page

open Html Markdown Tabs Text

/-- A page of nothing but the manuscript: the markers of its container, with an id or without one, and
between them those of its platforms. -/
def ManuscriptLaidOut (m : Manuscript) (id : Option String) (cs : List Chunk) : Prop :=
  ∃ before after o body c, ContainerOpening m.kind id (Comment.text o) ∧ PlatformsLaidOut m.platforms body ∧
    ClosingMarker m.kind.keyword (Comment.text c) ∧
    cs = blanks before ++ .comment o :: (body ++ .comment c :: blanks after)

/-- The usual form of an opening marker without an id. -/
def anonymousComment (kind : Kind) : Comment where
  text := "<!--".toList ++ [' '] ++ kind.keyword.toList ++ [' '] ++ "-->".toList
  start := by simp only [List.append_assoc]; exact List.prefix_append ..
  stop := (List.suffix_append ..).isInfix
  oneLine := by
    simp only [List.any_append, Bool.or_eq_false_iff]
    exact ⟨⟨⟨⟨by decide, by decide⟩, kind.isKeyword.oneLine⟩, by decide⟩, by decide⟩

/-- Every manuscript can be laid out. -/
theorem lay_laidOut (m : Manuscript) {id : Option String} {o : Comment}
    (ho : ContainerOpening m.kind id o.text) : ManuscriptLaidOut m id (m.lay o) :=
  ⟨0, 0, o, _, closingComment m.kind.isKeyword, ho, layAll_platforms m.platforms, printClosing_marker _, rfl⟩

/-- The HTML of the page is the container's span and a line end. -/
theorem toHtml_laidOut (before after : Nat) (o c : Comment) (body : List Chunk) :
    (Document.ofText (Chunk.page
        (blanks before ++ .comment o :: (body ++ .comment c :: blanks after)))).toHtml =
      "" ++ String.ofList (o.text ++ (('\n' :: Chunk.markup body) ++ c.text)) ++ "\n" := by
  rw [Document.toHtml_page, ← String.toList_inj]
  simp [Chunk.markup_append, Chunk.markup_comment, markup_blanks]

/-! ## Ids -/

theorem ContainerOpening.id_valid {kind : Kind} {id : Option String} {o : List Char}
    (h : ContainerOpening kind id o) : ∀ i ∈ id, i ≠ "" ∧ '"' ∉ i.toList := by
  intro i hi
  cases h with
  | anonymous => cases hi
  | named _ _ _ _ hne hquote =>
    cases hi
    rw [String.toList_ofList]
    exact ⟨fun he => hne (String.ofList_eq_empty_iff.1 he), hquote⟩

theorem draw_valid (kind : Kind) (s : Session) : (s.draw kind).1 ≠ "" ∧ '"' ∉ (s.draw kind).1.toList := by
  have hid : (s.draw kind).1.toList =
      kind.idStem.toList ++ ("-".toList ++ (toString (s.drawn + 1)).toList) := by
    simp [Session.draw]
  have hstem : '"' ∉ kind.idStem.toList := by cases kind <;> decide
  constructor
  · intro he
    rw [he] at hid
    simp at hid
  · simp only [hid, List.mem_append, not_or]
    exact ⟨hstem, by decide, not_mem_number rfl _⟩

/-! ## Pages -/

/-- However a manuscript is laid out, the page renders to its container and a line end: one container, no
warning, no title, and an id drawn only where the container has none. -/
theorem expandMarkdown_laidOut (m : Manuscript) (id : Option String) (cs : List Chunk)
    (h : ManuscriptLaidOut m id cs) (s : Session) :
    expandMarkdown (Chunk.page cs) s =
      ((none, ⟨(m.container (id.getD (s.draw m.kind).1) s.preferred).toHtml ++ "\n", 1, []⟩),
        if id.isNone then (s.draw m.kind).2 else s) := by
  obtain ⟨before, after, o, body, c, ho, hb, hc, rfl⟩ := h
  obtain ⟨hne, hquote⟩ : id.getD (s.draw m.kind).1 ≠ "" ∧ '"' ∉ (id.getD (s.draw m.kind).1).toList := by
    cases id with
    | none => exact draw_valid m.kind s
    | some i => exact ho.id_valid i rfl
  have hbuild := ofBody?_written (m.draft _ hne hquote) hb.written s.preferred
  rw [m.container_draft] at hbuild
  have hpage := toHtml_laidOut before after o c body
  have hexpand := expand_span { text := "" } { text := "\n" } ho hb.written hc hbuild
  simp only [expandMarkdown, Document.title?_page]
  rw [hpage, hexpand, String.empty_append]

/-- A sample with two languages under its first platform. -/
def greeting : Manuscript where
  kind := .sample
  platforms :=
    [⟨{ text := "iOS 17" }, .languages
        [⟨{ text := "Swift" }, { text := "Call print" }⟩,
          ⟨{ text := "Objective C" }, { text := "Call the logger" }⟩]
        (by simp)⟩,
      ⟨{ text := "Android" }, .line { text := "Show a toast" }⟩]
  ne_nil := by simp

theorem expandMarkdown_laidOut_greeting :
    ManuscriptLaidOut greeting none (greeting.lay (anonymousComment .sample)) ∧
      expandMarkdown (Chunk.page (greeting.lay (anonymousComment .sample))) {} =
        ((none, ⟨(greeting.container "code-sample-1" "Android").toHtml ++ "\n", 1, []⟩), { drawn := 1 }) := by
  have ho : ContainerOpening Kind.sample none (anonymousComment .sample).text :=
    .anonymous blanks_space blanks_space
  have hlaid := lay_laidOut greeting ho
  exact ⟨hlaid, expandMarkdown_laidOut greeting none _ hlaid {}⟩

example : (greeting.lay (anonymousComment .sample)).flatMap Chunk.source = List.flatMap String.toList
    ["<!-- codesample -->\n", "<!-- platform: iOS 17 -->\n",
      "<!-- lang: Swift -->\n", "\nCall print\n\n", "<!-- /lang -->\n",
      "<!-- lang: Objective C -->\n", "\nCall the logger\n\n", "<!-- /lang -->\n",
      "<!-- /platform -->\n", "<!-- platform: Android -->\n", "\nShow a toast\n\n",
      "<!-- /platform -->\n", "<!-- /codesample -->\n"] :=
  rfl

end DocTabs.Page
