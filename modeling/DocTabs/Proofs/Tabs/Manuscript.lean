/-
Containers in markdown. A manuscript names its platforms and languages and has a line of text under each;
it is laid out with every marker on a line of its own. The HTML of such a layout is a writing of a draft,
the draft's passages are the lines as paragraphs, and the draft's leaves are the lines themselves.
-/
import DocTabs.Proofs.Markdown.Chunk
import DocTabs.Proofs.Tabs.Draft

namespace DocTabs.Tabs

open Markdown Text

/-! ## Manuscripts -/

/-- A language and the line under it. -/
structure LanguageEntry where
  name : Phrase Char.isAlphanum
  line : Phrase Char.isAlpha

/-- What stands under a platform: a line or, in a sample, languages. -/
inductive Entry : Kind → Type
  | line {kind : Kind} (p : Phrase Char.isAlpha) : Entry kind
  | languages (ls : List LanguageEntry) (ne_nil : ls ≠ []) : Entry .sample

/-- A platform and what stands under it. -/
structure PlatformEntry (kind : Kind) where
  name : Phrase Char.isAlphanum
  entry : Entry kind

/-- A container to be laid out in markdown. -/
structure Manuscript where
  kind : Kind
  platforms : List (PlatformEntry kind)
  ne_nil : platforms ≠ []

/-! ## The container of a manuscript -/

/-- The tab of a language, and its leaf, which is its line; the pane they belong to has the id `pane`. -/
def LanguageEntry.tab (pane : String) (i : Nat) (l : LanguageEntry) : Tab :=
  ⟨l.name.text, none, pane, i == 0⟩

def LanguageEntry.leaf (i : Nat) (l : LanguageEntry) : Pane :=
  .leaf ⟨l.name.text, none, i == 0⟩ l.line.text

/-- The pane of a platform in the container `id`. -/
def Entry.pane {kind : Kind} (id name : String) (active : Bool) : Entry kind → Pane
  | line p => .leaf ⟨name, none, active⟩ p.text
  | languages ls _ =>
    let pane := paneId id name
    .nested ⟨name, some pane, active⟩ .language (ls.mapIdx (LanguageEntry.tab pane))
      (ls.mapIdx LanguageEntry.leaf)

/-- The container under an id that lists the platforms and languages of a manuscript, with the lines
as leaves. -/
def Manuscript.container (m : Manuscript) (id preferred : String) : Container :=
  let chosen := ((m.platforms.map (·.name.text)).findIdx? (· == preferred)).getD 0
  ⟨id, m.kind, .platform,
    m.platforms.mapIdx fun i p => ⟨p.name.text, some (icon p.name.text), id, i == chosen⟩,
    m.platforms.mapIdx fun i p => p.entry.pane id p.name.text (i == chosen)⟩

/-! ## Layouts -/

/-- So many blank lines. -/
def blanks (n : Nat) : List Chunk := List.replicate n .blank

/-- The line stands alone between blank lines. -/
def LaidLine (p : Phrase Char.isAlpha) (cs : List Chunk) : Prop :=
  ∃ m n, cs = blanks m ++ .line p :: blanks n

variable {β γ : Type}

/-- Items laid out as branches of a level, one after another: their markers stand on lines of their own,
with any number of blank lines between, and `inside` says what can stand between the markers of an item. -/
inductive Laid (level : Level) (name : β → List Char) (inside : β → List Chunk → Prop) :
    List β → List Chunk → Prop
  | done (n : Nat) : Laid level name inside [] (blanks n)
  | branch {b : β} {bs : List β} {o c : Comment} {inner rest : List Chunk} (n : Nat) :
      OpeningMarker level.keyword (name b) o.text → inside b inner →
      ClosingMarker level.keyword c.text → Laid level name inside bs rest →
      Laid level name inside (b :: bs) (blanks n ++ .comment o :: (inner ++ .comment c :: rest))

/-- What can stand between the markers of a platform. -/
def Entry.LaidOut {kind : Kind} : Entry kind → List Chunk → Prop
  | line p => LaidLine p
  | languages ls _ => Laid .language (·.name.text.toList) (fun l => LaidLine l.line) ls

/-- What can stand between the markers of a container with these platforms. -/
def PlatformsLaidOut {kind : Kind} : List (PlatformEntry kind) → List Chunk → Prop :=
  Laid .platform (·.name.text.toList) fun p => p.entry.LaidOut

/-! ## The usual layout -/

/-- A phrase as the name in a marker. -/
def Name.ofPhrase (p : Phrase Char.isAlphanum) : Name where
  text := p.text
  ne_empty he := by
    obtain ⟨c, t, ht, -⟩ := p.exists_cons
    rw [he] at ht
    cases ht
  trimmed := p.trim_eq fun _ => isBlank_of_isAlphanum
  noTag := p.not_mem (by decide) (by decide)
  noEnd := p.not_mem (by decide) (by decide)

theorem Keyword.oneLine {word : String} (h : Keyword word) : word.toList.any Line.isEnd = false :=
  List.any_eq_false.2 fun c hc => by simp [(Bool.or_eq_false_iff.1 (isGap_of_isAlpha (h.alpha c hc))).2]

/-- The usual form of an opening marker. -/
def openingComment (level : Level) (name : Phrase Char.isAlphanum) : Comment where
  text := printOpening level.keyword name.text.toList
  start := by simp only [printOpening_eq, List.append_assoc]; exact List.prefix_append ..
  stop := by rw [printOpening_eq]; exact (List.suffix_append ..).isInfix
  oneLine := by
    simp only [printOpening_eq, List.any_append, Bool.or_eq_false_iff]
    exact ⟨⟨⟨⟨⟨⟨⟨by decide, by decide⟩, level.isKeyword.oneLine⟩, by decide⟩, by decide⟩,
      name.oneLine rfl rfl⟩, by decide⟩, by decide⟩

/-- The usual form of a closing marker. -/
def closingComment {word : String} (h : Keyword word) : Comment where
  text := printClosing word
  start := by simp only [printClosing_eq, List.append_assoc]; exact List.prefix_append ..
  stop := by rw [printClosing_eq]; exact (List.suffix_append ..).isInfix
  oneLine := by
    simp only [printClosing_eq, List.any_append, Bool.or_eq_false_iff]
    exact ⟨⟨⟨⟨⟨by decide, by decide⟩, by decide⟩, h.oneLine⟩, by decide⟩, by decide⟩

/-- Items laid out with their usual markers and no blank lines between. -/
def layAll (level : Level) (name : β → Phrase Char.isAlphanum) (inside : β → List Chunk) :
    List β → List Chunk
  | [] => []
  | b :: bs => .comment (openingComment level (name b)) ::
      (inside b ++ .comment (closingComment level.isKeyword) :: layAll level name inside bs)

/-- The usual layout of what stands under a platform: a blank line comes before and behind each line. -/
def Entry.lay {kind : Kind} : Entry kind → List Chunk
  | line p => [.blank, .line p]
  | languages ls _ => layAll .language (·.name) (fun l => [.blank, .line l.line]) ls

/-- The usual layout of a manuscript behind the opening marker of its container. -/
def Manuscript.lay (m : Manuscript) (o : Comment) : List Chunk :=
  .comment o :: (layAll .platform (·.name) (·.entry.lay) m.platforms ++
    [.comment (closingComment m.kind.isKeyword)])

theorem layAll_laid (level : Level) {name : β → Phrase Char.isAlphanum} {inside : β → List Chunk → Prop}
    {lay : β → List Chunk} (hlay : ∀ b, inside b (lay b)) (bs : List β) :
    Laid level (fun b => (name b).text.toList) inside bs (layAll level name lay bs) := by
  induction bs with
  | nil => exact .done 0
  | cons b bs ih =>
    exact .branch 0 (printOpening_marker _ (Name.ofPhrase (name b)).markerName) (hlay b)
      (printClosing_marker _) ih

theorem lay_laidLine (p : Phrase Char.isAlpha) : LaidLine p [.blank, .line p] := ⟨1, 0, rfl⟩

theorem Entry.lay_laidOut {kind : Kind} (e : Entry kind) : e.LaidOut e.lay := by
  cases e with
  | line p => exact lay_laidLine p
  | languages ls _ => exact layAll_laid .language (fun l => lay_laidLine l.line) ls

theorem layAll_platforms {kind : Kind} (ps : List (PlatformEntry kind)) :
    PlatformsLaidOut ps (layAll .platform (·.name) (·.entry.lay) ps) :=
  layAll_laid .platform (fun p => p.entry.lay_laidOut) ps

/-! ## Phrases in HTML -/

theorem prose_of_not_mem {s : List Char} (h : '!' ∉ s) : Prose s := fun hc =>
  h (hc.subset (by decide))

/-- A phrase as it stands between markers in the HTML: as a paragraph on a line of its own. -/
def Passage.ofPhrase (p : Phrase Char.isAlpha) : Passage where
  text := String.ofList ('\n' :: (Chunk.line p).html)
  prose := prose_of_not_mem (by
    have hline : '!' ∉ p.text.toList := p.not_mem (by decide) (by decide)
    simp [Chunk.html, hline])

/-- Without the blanks around it, the passage of a phrase is the paragraph. -/
theorem trim_ofPhrase (p : Phrase Char.isAlpha) :
    trim (Passage.ofPhrase p).text.toList = "<p>".toList ++ (p.text.toList ++ "</p>".toList) := by
  have htext : (Passage.ofPhrase p).text.toList =
      ['\n'] ++ ("<p>".toList ++ (p.text.toList ++ "</p>".toList) ++ ['\n']) := by
    simp [Passage.ofPhrase, Chunk.html]
  have hend : Blanks ['\n'] := fun c hc => by obtain rfl := List.mem_singleton.1 hc; decide
  have hopen : Flush ("<p>".toList ++ (p.text.toList ++ "</p>".toList)) := fun c hc => by cases hc; decide
  have hclose : Flush ("<p>".toList ++ (p.text.toList ++ "</p>".toList)).reverse := by
    rw [List.reverse_append, List.reverse_append]
    exact fun c hc => by cases hc; decide
  rw [htext, trim, trimStart_append hend, trimStart_of_flush (hopen.append (by simp) _),
    trimEnd_append hend, trimEnd_of_flush hclose]

/-- The leaf of a paragraph is its text. -/
theorem normalize_ofPhrase (p : Phrase Char.isAlpha) : Leaf.normalize (Passage.ofPhrase p).text = p.text := by
  have htag : '<' ∉ p.text.toList := p.not_mem (by decide) (by decide)
  have htrim : trim p.text.toList = p.text.toList := p.trim_eq fun _ => isBlank_of_isAlpha
  have hbefore : before? "</p>" (p.text.toList ++ "</p>".toList) = some p.text.toList := by
    rw [before?, List.reverse_append, List.isPrefixOf?_eq_some_iff_append_eq.2 rfl, Option.map_some,
      List.reverse_reverse]
  have hcontains : contains "</p>" p.text.toList = false := by
    rw [contains, cut?_eq_none rfl htag]; rfl
  have hcontent : Leaf.ofContent (Passage.ofPhrase p).text.toList = p.text.toList := by
    simp only [Leaf.ofContent, trim_ofPhrase, after?_eq_some.2 rfl, Leaf.unwrapped, hbefore, hcontains, htrim]
    rfl
  rw [Leaf.normalize, hcontent, String.ofList_toList]

/-! ## The draft of a manuscript -/

def LanguageEntry.draft (l : LanguageEntry) : LanguageDraft :=
  ⟨.ofPhrase l.name, .ofPhrase l.line⟩

def Entry.draft {kind : Kind} : Entry kind → Content kind
  | line p => .passage (.ofPhrase p)
  | languages ls ne_nil => .languages (ls.map LanguageEntry.draft) (by simpa using ne_nil)

def PlatformEntry.draft {kind : Kind} (p : PlatformEntry kind) : PlatformDraft kind :=
  ⟨.ofPhrase p.name, p.entry.draft⟩

/-- The draft under an id that the HTML of a manuscript is a writing of. -/
def Manuscript.draft (m : Manuscript) (id : String) (id_ne : id ≠ "") (noQuote : '"' ∉ id.toList) :
    Draft where
  kind := m.kind
  id := id
  id_ne := id_ne
  noQuote := noQuote
  platforms := m.platforms.map PlatformEntry.draft
  ne_nil := by simpa using m.ne_nil

theorem mapIdx_map_congr {α : Type} {f : α → β} {g : Nat → β → γ} {g' : Nat → α → γ}
    (h : ∀ i a, g i (f a) = g' i a) (xs : List α) : (xs.map f).mapIdx g = xs.mapIdx g' := by
  induction xs generalizing g g' with
  | nil => rfl
  | cons x xs ih => rw [List.map_cons, List.mapIdx_cons, List.mapIdx_cons, h, ih fun i => h (i + 1)]

theorem Entry.pane_draft {kind : Kind} (e : Entry kind) (id name : String) (active : Bool) :
    e.draft.pane id name active = e.pane id name active := by
  cases e with
  | line p => rw [Entry.draft, Content.pane, normalize_ofPhrase, Entry.pane]
  | languages ls _ =>
    have hleaf (i : Nat) (l : LanguageEntry) : l.draft.leaf i = l.leaf i := by
      rw [LanguageDraft.leaf, LanguageEntry.draft, normalize_ofPhrase]
      rfl
    simp only [Entry.draft, Content.pane, Entry.pane, mapIdx_map_congr hleaf]
    rw [mapIdx_map_congr fun _ _ => rfl]
    rfl

theorem Manuscript.container_draft (m : Manuscript) {id : String} (id_ne : id ≠ "")
    (noQuote : '"' ∉ id.toList) (preferred : String) :
    (m.draft id id_ne noQuote).container preferred = m.container id preferred := by
  have hnames : (m.draft id id_ne noQuote).platforms.map (·.name.text) = m.platforms.map (·.name.text) := by
    rw [Manuscript.draft, List.map_map]
    rfl
  simp only [Draft.container, hnames, Manuscript.container]
  simp only [Manuscript.draft]
  rw [mapIdx_map_congr fun _ _ => rfl, mapIdx_map_congr fun _ p => p.entry.pane_draft ..]
  rfl

/-! ## The HTML of a layout -/

theorem markup_blanks (n : Nat) : Chunk.markup (blanks n) = [] := by
  induction n with
  | zero => rfl
  | succ n ih => exact ih

theorem LaidLine.markup_eq {p : Phrase Char.isAlpha} {cs : List Chunk} (h : LaidLine p cs) :
    '\n' :: Chunk.markup cs = (Passage.ofPhrase p).text.toList := by
  obtain ⟨m, n, rfl⟩ := h
  have hline : Chunk.markup [.line p] = (Chunk.line p).html := by simp [Chunk.markup]
  rw [List.append_cons, Chunk.markup_append, Chunk.markup_append, markup_blanks, markup_blanks, hline]
  simp [Passage.ofPhrase]

/-- The HTML of a layout is a writing: a line end goes before each marker and behind the last one. -/
theorem Laid.written {level : Level} {name : β → List Char} {inside : β → List Chunk → Prop}
    {bs : List β} {cs : List Chunk} (h : Laid level name inside bs cs) {f : β → γ}
    {name' : γ → List Char} {text : γ → List Char → Prop} (hname : ∀ b, name' (f b) = name b)
    (htext : ∀ b inner, inside b inner → text (f b) ('\n' :: Chunk.markup inner)) :
    Written level name' text (bs.map f) ('\n' :: Chunk.markup cs) := by
  have hgap : Prose ['\n'] := by decide
  induction h with
  | done n => rw [markup_blanks]; exact .done hgap
  | @branch b bs o c inner rest n ho hi hc _ ih =>
    have hsplit : '\n' :: Chunk.markup (blanks n ++ .comment o :: (inner ++ .comment c :: rest)) =
        ['\n'] ++ (o.text ++ (('\n' :: Chunk.markup inner) ++ (c.text ++ '\n' :: Chunk.markup rest))) := by
      simp [Chunk.markup_append, Chunk.markup_comment, markup_blanks]
    rw [hsplit]
    exact .branch hgap (by rwa [hname]) (htext b inner hi) hc ih

theorem Entry.LaidOut.written {kind : Kind} {e : Entry kind} {cs : List Chunk} (h : e.LaidOut cs) :
    e.draft.WrittenAs ('\n' :: Chunk.markup cs) := by
  cases e with
  | line p => exact LaidLine.markup_eq h
  | languages ls _ => exact Laid.written h (fun _ => rfl) fun l inner hl => hl.markup_eq

theorem PlatformsLaidOut.written {kind : Kind} {ps : List (PlatformEntry kind)} {cs : List Chunk}
    (h : PlatformsLaidOut ps cs) : BodyWritten (ps.map PlatformEntry.draft) ('\n' :: Chunk.markup cs) :=
  Laid.written h (fun _ => rfl) fun _ _ hp => hp.written

end DocTabs.Tabs
