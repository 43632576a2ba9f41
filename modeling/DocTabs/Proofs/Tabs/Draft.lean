/-
Containers before they are written: an id and platforms with texts or languages. However a draft is
written as markers, its body is built into the container that lists the same platforms and languages
in the same order.
-/
import DocTabs.Proofs.Tabs.Tree
import DocTabs.Proofs.Tabs.Written

namespace DocTabs.Tabs

open Text

/-! ## Drafts -/

/-- A branch name that can be written in a marker. -/
structure Name where
  text : String
  ne_empty : text ≠ "" := by decide
  trimmed : trim text.toList = text.toList := by decide
  noTag : '<' ∉ text.toList := by decide
  noEnd : '>' ∉ text.toList := by decide

/-- A text that can be written around markers. -/
structure Passage where
  text : String
  prose : Prose text.toList := by decide

/-- A language and its text. -/
structure LanguageDraft where
  name : Name
  passage : Passage

/-- What a platform holds: a text or, in a sample, languages. -/
inductive Content : Kind → Type
  | passage {kind : Kind} (p : Passage) : Content kind
  | languages (ls : List LanguageDraft) (ne_nil : ls ≠ []) : Content .sample

/-- A platform and what it holds. -/
structure PlatformDraft (kind : Kind) where
  name : Name
  content : Content kind

/-- A container with its own id. -/
structure Draft where
  kind : Kind
  id : String
  id_ne : id ≠ "" := by decide
  noQuote : '"' ∉ id.toList := by decide
  platforms : List (PlatformDraft kind)
  ne_nil : platforms ≠ []

/-- A sample whose first platform has two languages, in part with the names and texts that other
markers could be confused by. -/
def twoLevel : Draft where
  kind := .sample
  id := "a -->"
  platforms :=
    [⟨{ text := "iOS" }, .languages
        [⟨{ text := "Swift" }, { text := "<p>let a</p>" }⟩, ⟨{ text := "lang: --" }, { text := "" }⟩]
        (by simp)⟩,
      ⟨{ text := "iOS" }, .passage { text := "/platform -->" }⟩]
  ne_nil := by simp

/-! ## Writing -/

/-- The text is what stands between the markers of the language. -/
def LanguageDraft.WrittenAs (l : LanguageDraft) (s : List Char) : Prop :=
  s = l.passage.text.toList

/-- The text is what stands between the markers of a platform of this content. -/
def Content.WrittenAs {kind : Kind} : Content kind → List Char → Prop
  | passage p, s => s = p.text.toList
  | languages ls _, s =>
    Written .language (fun l : LanguageDraft => l.name.text.toList) LanguageDraft.WrittenAs ls s

/-- The text is what stands between the markers of a container with these platforms. -/
def BodyWritten {kind : Kind} : List (PlatformDraft kind) → List Char → Prop :=
  Written .platform (fun p : PlatformDraft kind => p.name.text.toList) fun p => p.content.WrittenAs

/-- The usual way to write what a platform holds. -/
def Content.print {kind : Kind} : Content kind → List Char
  | passage p => p.text.toList
  | languages ls _ => printAll .language (·.name.text.toList) (·.passage.text.toList) ls

/-- The usual way to write the body of a draft. -/
def Draft.printBody (d : Draft) : List Char :=
  printAll .platform (·.name.text.toList) (·.content.print) d.platforms

/-! ## The container of a draft -/

/-- The tab and the leaf of a language; the pane they belong to has the id `pane`. -/
def LanguageDraft.tab (pane : String) (i : Nat) (l : LanguageDraft) : Tab :=
  ⟨l.name.text, none, pane, i == 0⟩

def LanguageDraft.leaf (i : Nat) (l : LanguageDraft) : Pane :=
  .leaf ⟨l.name.text, none, i == 0⟩ (Leaf.normalize l.passage.text)

/-- The pane of a platform in the container `id`. -/
def Content.pane {kind : Kind} (id name : String) (active : Bool) : Content kind → Pane
  | passage p => .leaf ⟨name, none, active⟩ (Leaf.normalize p.text)
  | languages ls _ =>
    let pane := paneId id name
    .nested ⟨name, some pane, active⟩ .language (ls.mapIdx (LanguageDraft.tab pane))
      (ls.mapIdx LanguageDraft.leaf)

/-- The container that lists the platforms and languages of a draft. -/
def Draft.container (d : Draft) (preferred : String) : Container :=
  let chosen := ((d.platforms.map (·.name.text)).findIdx? (· == preferred)).getD 0
  ⟨d.id, d.kind, .platform,
    d.platforms.mapIdx fun i p => ⟨p.name.text, some (icon p.name.text), d.id, i == chosen⟩,
    d.platforms.mapIdx fun i p => p.content.pane d.id p.name.text (i == chosen)⟩

/-! ## Names and texts -/

theorem Name.markerName (n : Name) : MarkerName n.text.toList := by
  have hl : (trimEnd (trimStart n.text.toList)).length = n.text.toList.length :=
    congrArg List.length n.trimmed
  have hstart := (trimStart_suffix n.text.toList).length_le
  have hend := (trimEnd_prefix_self (trimStart n.text.toList)).length_le
  have hs : trimStart n.text.toList = n.text.toList :=
    (trimStart_suffix _).eq_of_length (by omega)
  refine ⟨fun he => n.ne_empty (String.toList_eq_nil_iff.1 he), ?_, ?_, n.noEnd⟩
  · rw [← hs]; exact flush_trimStart _
  · have := n.trimmed
    rwa [trim, hs] at this

theorem Content.print_written {kind : Kind} (c : Content kind) : c.WrittenAs c.print := by
  cases c with
  | passage p => rfl
  | languages ls _ =>
    have htext : ∀ l : LanguageDraft, l.WrittenAs l.passage.text.toList := fun _ => rfl
    exact printAll_written .language (fun l => l.name.markerName) htext ls

theorem Draft.printBody_written (d : Draft) : BodyWritten d.platforms d.printBody :=
  printAll_written .platform (fun p => p.name.markerName) (fun p => p.content.print_written) d.platforms

/-- Blanks around a content do not show in its leaf. -/
theorem normalize_trim (s : String) :
    Leaf.normalize (String.ofList (trim s.toList)) = Leaf.normalize s := by
  simp only [Leaf.normalize, Leaf.ofContent, String.toList_ofList, trim_trim]

theorem Kind.keyword_ne (kind : Kind) (level : Level) : kind.keyword ≠ level.keyword := by
  cases kind <;> cases level <;> decide

theorem LanguageDraft.WrittenAs.passes {l : LanguageDraft} {s : List Char} (h : l.WrittenAs s)
    (word : String) {y : List Char} (hy : Tagged y) : Passes (closing? word) s y := by
  rw [h]
  exact l.passage.prose.passes (commented_closing? word) hy

/-- What a platform holds has no closing marker of a keyword other than that of languages. -/
theorem Content.WrittenAs.passes {kind : Kind} {c : Content kind} {s : List Char}
    (h : c.WrittenAs s) {word : String} (hw : Keyword word) (hne : word ≠ Level.language.keyword)
    {y : List Char} (hy : Tagged y) : Passes (closing? word) s y := by
  cases c with
  | passage p =>
    rw [show s = p.text.toList from h]
    exact p.prose.passes (commented_closing? word) hy
  | languages ls _ =>
    exact Written.passes h hw hne (fun l => l.name.noTag) (fun l raw hl y => hl.passes word) hy

theorem BodyWritten.passes {kind : Kind} {ps : List (PlatformDraft kind)} {s : List Char}
    (h : BodyWritten ps s) {word : String} (hw : Keyword word)
    (hne : ∀ level : Level, word ≠ level.keyword) {y : List Char} (hy : Tagged y) :
    Passes (closing? word) s y :=
  Written.passes h hw (hne .platform) (fun p => p.name.noTag)
    (fun _ _ hp _ => hp.passes hw (hne .language)) hy

/-! ## Reading back -/

section Forall₂

variable {α β γ : Type} {R : α → β → Prop} {xs : List α} {ys : List β}

theorem map_eq_of_forall₂ (h : List.Forall₂ R xs ys) {f : α → γ} {g : β → γ}
    (hfg : ∀ x y, R x y → g y = f x) : ys.map g = xs.map f := by
  induction h with
  | nil => rfl
  | cons hr _ ih => rw [List.map_cons, List.map_cons, hfg _ _ hr, ih]

theorem mapIdx_eq_of_forall₂ (h : List.Forall₂ R xs ys) {f : Nat → α → γ} {g : Nat → β → γ}
    (hfg : ∀ i x y, R x y → g i y = f i x) : ys.mapIdx g = xs.mapIdx f := by
  induction h generalizing f g with
  | nil => rfl
  | cons hr _ ih =>
    rw [List.mapIdx_cons, List.mapIdx_cons, hfg _ _ _ hr, ih fun i => hfg (i + 1)]

end Forall₂

/-- A branch read for a passage has the leaf of that passage. -/
theorem leafPane_passage {b : Branch} {name : String} {p : Passage} (hname : b.name = name)
    (hcontent : b.content = String.ofList (trim p.text.toList)) (active : Bool) :
    leafPane b active = .leaf ⟨name, none, active⟩ (Leaf.normalize p.text) := by
  rw [leafPane, hname, hcontent, normalize_trim]

theorem scan_languages {ls : List LanguageDraft} {s : List Char}
    (h : Written .language (fun l : LanguageDraft => l.name.text.toList) LanguageDraft.WrittenAs ls
      s) :
    List.Forall₂ (ReadAs (fun l : LanguageDraft => l.name.text.toList) LanguageDraft.WrittenAs) ls
      (Branch.scan .language s) :=
  h.scan fun _ _ hl _ => hl.passes _

/-- The branch read for a platform has the pane of its draft. -/
theorem platformPane_written {kind : Kind} {p : PlatformDraft kind} {b : Branch}
    (h : ReadAs (fun p : PlatformDraft kind => p.name.text.toList) (fun p => p.content.WrittenAs) p b)
    (id : String) (active : Bool) :
    platformPane kind id b active = p.content.pane id p.name.text active := by
  obtain ⟨hname, raw, hraw, hcontent⟩ := h
  rw [String.ofList_toList] at hname
  obtain ⟨name, content⟩ := p
  cases content with
  | passage t =>
    rw [show raw = t.text.toList from hraw] at hcontent
    have hl : b.withLanguages.languages = [] := by
      rw [withLanguages_languages, hcontent, String.toList_ofList]
      exact Prose.scan t.prose.trimStart.trimEnd .language
    have hp : platformPane kind id b active = leafPane b active := by
      cases kind <;> simp only [platformPane, hl]
    rw [hp]
    exact leafPane_passage hname hcontent active
  | languages ls hne =>
    -- the content is trimmed before it is scanned for languages, which trims only prose
    have hscan := scan_languages (Written.trim hraw)
    have hl : b.withLanguages.languages = Branch.scan .language (trim raw) := by
      rw [withLanguages_languages, hcontent, String.toList_ofList]
    obtain ⟨l, ls, rfl⟩ := List.exists_cons_of_ne_nil hne
    generalize Branch.scan .language (trim raw) = bs at hscan hl
    obtain ⟨br, brs, rfl⟩ : ∃ br brs, bs = br :: brs := by
      cases hscan with
      | cons _ _ => exact ⟨_, _, rfl⟩
    simp only [platformPane, hl, languagePane, Preference.choose, List.map_cons, Option.getD_some]
    rw [Content.pane, hname,
      mapIdx_eq_of_forall₂ hscan (f := LanguageDraft.tab (paneId id name.text)) fun i l b h => ?_,
      mapIdx_eq_of_forall₂ hscan (f := LanguageDraft.leaf) fun i l b h => ?_]
    · obtain ⟨hn, _, hr, hc⟩ := h
      rw [hr] at hc
      exact leafPane_passage (hn.trans (String.ofList_toList ..)) hc _
    · rw [h.1, String.ofList_toList, LanguageDraft.tab]

/-- The body of a draft, however it is written, is built into the container of the draft. -/
theorem ofBody?_written (d : Draft) {body : List Char} (h : BodyWritten d.platforms body)
    (preferred : String) :
    Container.ofBody? d.kind d.id body preferred = some (d.container preferred) := by
  -- the closing markers of languages do not end a platform
  have hscan := Written.scan h fun _ _ hp _ =>
    hp.passes Level.platform.isKeyword (by decide)
  have hnames : (Branch.scan .platform body).map (·.name) = d.platforms.map (·.name.text) :=
    map_eq_of_forall₂ hscan fun p b hb => hb.1.trans (String.ofList_toList ..)
  have hchoose : (Preference.named preferred).choose (d.platforms.map (·.name.text)) =
      some (((d.platforms.map (·.name.text)).findIdx? (· == preferred)).getD 0) := by
    obtain ⟨p, ps, hps⟩ := List.exists_cons_of_ne_nil d.ne_nil
    rw [hps]; rfl
  simp only [Container.ofBody?, hnames, hchoose, Option.bind_eq_bind, Option.bind_some,
    Option.pure_def, Draft.container]
  rw [mapIdx_eq_of_forall₂ hscan fun i p b hb => ?_, mapIdx_eq_of_forall₂ hscan fun i p b hb => ?_]
  · exact platformPane_written hb d.id _
  · rw [hb.1, String.ofList_toList]

end DocTabs.Tabs
