/-
Where loaded settings come from. Settings that load can be used: the platform is not blank, and
source and output differ. Each value is the one that the overrides give, or else the one that the
settings file sets, or else the default, and relative directories of a file are taken from the
directory that the file lies in.
-/
import DocTabs.Proofs.Disk.Locate
import DocTabs.Proofs.Text.Search
import DocTabs.Settings.Load

namespace DocTabs.Settings

open Disk FilePath Text

variable {d : Disk} {env : Environment} {path : Option FilePath} {file dir : FilePath}
  {overrides : Option Overrides} {f : File} {s c : Settings} {e : LoadError} {preferred : String}

/-! ## Settings that can be used -/

/-- Settings that a build may use. -/
structure Usable (s : Settings) : Prop where
  shown : ¬ Blanks s.preferred.toList
  apart : s.source.parts ≠ s.output.parts

theorem trim_eq_nil {t : List Char} : trim t = [] ↔ Blanks t := by
  constructor
  · intro h
    obtain ⟨v, hv, ht⟩ := exists_trimStart t
    obtain ⟨w, hw, hs⟩ := exists_trimEnd (trimStart t)
    rw [show trimEnd (trimStart t) = [] from h, List.nil_append] at hs
    rw [ht, hs]
    intro c hc
    rcases List.mem_append.1 hc with hc | hc
    · exact hv c hc
    · exact hw c hc
  · intro h
    have ht := trimStart_append h []
    rw [List.append_nil] at ht
    rw [trim, ht]
    rfl

instance (s : Settings) : Decidable (Usable s) :=
  decidable_of_iff (trim s.preferred.toList ≠ [] ∧ s.source.parts ≠ s.output.parts)
    ⟨fun h => ⟨mt trim_eq_nil.2 h.1, h.2⟩, fun h => ⟨mt trim_eq_nil.1 h.shown, h.apart⟩⟩

/-- The check passes settings that can be used as they are, and tells what is wrong with others;
the platform comes first. -/
theorem check_cases (s : Settings) :
    (Usable s ∧ check s = .ok s) ∨
      (Blanks s.preferred.toList ∧ check s = .error .blankPlatform) ∨
      (¬ Blanks s.preferred.toList ∧ s.source.parts = s.output.parts ∧
        check s = .error .sameDirectory) := by
  unfold check
  by_cases hblank : Blanks s.preferred.toList
  · rw [if_pos (List.isEmpty_iff.2 (trim_eq_nil.2 hblank))]
    exact .inr (.inl ⟨hblank, rfl⟩)
  · rw [if_neg fun h => hblank (trim_eq_nil.1 (List.isEmpty_iff.1 h))]
    have hparts : s.source.same s.output = true ↔ s.source.parts = s.output.parts := beq_iff_eq
    by_cases hsame : s.source.parts = s.output.parts
    · rw [if_pos (hparts.2 hsame)]
      exact .inr (.inr ⟨hblank, hsame, rfl⟩)
    · rw [if_neg fun h => hsame (hparts.1 h)]
      exact .inl ⟨⟨hblank, hsame⟩, rfl⟩

theorem Usable.check (h : Usable s) : check s = .ok s := by
  rcases check_cases s with ⟨-, hs⟩ | ⟨hblank, -⟩ | ⟨-, hsame, -⟩
  · exact hs
  · exact absurd hblank h.shown
  · exact absurd hsame h.apart

theorem check_eq_ok : check s = .ok c ↔ Usable s ∧ c = s := by
  constructor
  · intro h
    rcases check_cases s with ⟨hu, hs⟩ | ⟨-, hs⟩ | ⟨-, -, hs⟩
    · exact ⟨hu, Except.ok.inj (h.symm.trans hs)⟩
    · rw [hs] at h; cases h
    · rw [hs] at h; cases h
  · rintro ⟨h, rfl⟩
    exact h.check

/-- Two names in one directory are different paths, wherever the directory lies. -/
theorem parts_join_ne (directory : FilePath) {a b : String} (ha : IsName a) (hb : IsName b)
    (hab : a ≠ b) : (directory.join ⟨a⟩).parts ≠ (directory.join ⟨b⟩).parts := by
  intro h
  have hjoin : ∀ {name}, IsName name →
      (directory.join ⟨name⟩).parts = (directory.parts.1, directory.parts.2 ++ [name]) := by
    intro name hname
    show (directory.join (ofNames [name])).parts = _
    exact parts_join directory (List.cons_ne_nil name []) (by simpa using hname)
  rw [hjoin ha, hjoin hb] at h
  exact hab (by simpa using h)

theorem usable_ofDirectory (directory : FilePath) : Usable (ofDirectory directory) where
  shown := fun h => absurd (h 'A' (show 'A' ∈ Tabs.defaultPlatform.toList by decide)) (by decide)
  apart := parts_join_ne directory (a := defaultSource) (b := defaultOutput) (by decide) (by decide)
    (by decide)

/-! ## Settings files -/

/-- A settings document lies at the path, and sets `f`. -/
def HoldsFile (d : Disk) (path : FilePath) (f : File) : Prop :=
  ∃ document, d.text path = .ok document ∧ File.ofText? document = some f

theorem holdsFile_of_toUTF8 {l : Location} {document : String} {mode : Mode}
    (hl : d.locate file = .ok l) (hn : d.get? l = some (.file ⟨document.toUTF8, mode⟩)) (hf : File.ofText? document = some f) :
    HoldsFile d file f :=
  ⟨document, text_eq_ok.2 ⟨l, hl, textAt_of_toUTF8 hn⟩, hf⟩

/-- A settings file that can be read makes settings of what it sets, with the platform expanded
first and the check last. -/
theorem read_of_holds (h : HoldsFile d file f) :
    read d env file = match expandReferences env (f.preferred.getD Tabs.defaultPlatform) with
      | .error name => .error (.unset name)
      | .ok preferred => check (ofFile file f preferred) := by
  obtain ⟨document, htext, hf⟩ := h
  unfold read
  rw [htext]
  simp only [Except.mapError, bind, Except.bind, hf, Option.elim, pure, Except.pure]
  cases expandReferences env (f.preferred.getD Tabs.defaultPlatform) <;> rfl

theorem read_ok (h : read d env file = .ok s) :
    ∃ f preferred, HoldsFile d file f ∧
      expandReferences env (f.preferred.getD Tabs.defaultPlatform) = .ok preferred ∧
      Usable (ofFile file f preferred) ∧ s = ofFile file f preferred := by
  have hheld : ∃ f, HoldsFile d file f := by
    unfold read at h
    cases htext : d.text file with
    | error fault => rw [htext] at h; cases h
    | ok document =>
      cases hf : File.ofText? document with
      | none =>
        rw [htext] at h
        simp only [Except.mapError, bind, Except.bind, hf, Option.elim] at h
        cases h
      | some f => exact ⟨f, document, htext, hf⟩
  obtain ⟨f, hf⟩ := hheld
  rw [read_of_holds hf] at h
  cases hp : expandReferences env (f.preferred.getD Tabs.defaultPlatform) with
  | error name => rw [hp] at h; cases h
  | ok preferred =>
    rw [hp] at h
    obtain ⟨hu, rfl⟩ := check_eq_ok.1 h
    exact ⟨f, preferred, hf, hp, hu, rfl⟩

/-- A path that a document is read from leads to a file. -/
theorem HoldsFile.located (h : HoldsFile d file f) :
    ∃ l x, d.locate file = .ok l ∧ d.get? l = some (.file x) := by
  obtain ⟨document, htext, -⟩ := h
  obtain ⟨l, hl, htextAt⟩ := text_eq_ok.1 htext
  obtain ⟨x, hx, -⟩ := textAt_eq_ok.1 htextAt
  exact ⟨l, x, hl, hx⟩

theorem HoldsFile.has (h : HoldsFile d file f) : d.has file = true := by
  obtain ⟨l, x, hl, hx⟩ := h.located
  rw [Disk.has, find?, hl]
  simp [hx]

/-- The path of a file that can be read goes on by one name from the path of a directory. -/
theorem exists_parent (hd : d.IsTree) (h : HoldsFile d file f) :
    ∃ dir name, file.parent? = some dir ∧ file.parts = (dir.parts.1, dir.parts.2 ++ [name]) := by
  obtain ⟨l, x, hl, hx⟩ := h.located
  rcases List.eq_nil_or_concat file.parts.2 with hnil | ⟨pre, name, hparts⟩
  · -- without a name the path leads to the root or to the working directory
    exfalso
    have htarget := locate_eq_target hl
    rw [target, hnil] at htarget
    have hdirectory : d.get? l = some .directory := by
      rw [htarget]
      cases file.parts.1
      · exact get?_nil d
      · exact hd.here
      · exact hd.here
    rw [hdirectory] at hx
    cases hx
  · rw [List.concat_eq_append] at hparts
    obtain ⟨dir, hparent, hdir, -⟩ := parent?_eq hparts
    exact ⟨dir, name, hparent, by rw [hdir, ← hparts]⟩

/-! ## The values of loaded settings -/

/-- What the settings come from: the file that is read, the directory that relative directories are
taken from, and what the file sets. -/
inductive Origin (d : Disk) (path : Option FilePath) : Option FilePath → FilePath → File → Prop
  | file {file dir : FilePath} {f : File} {name : String} :
      path.or (nearest? d) = some file → HoldsFile d file f → file.parent? = some dir →
      file.parts = (dir.parts.1, dir.parts.2 ++ [name]) → Origin d path (some file) dir f
  | directory : path = none → nearest? d = none → Origin d path none d.here.toPath {}

theorem base_of_file (hfile : path.or (nearest? d) = some file) (hf : HoldsFile d file f) :
    base d env path = read d env file := by
  cases path with
  | some p =>
    obtain rfl : p = file := by simpa using hfile
    rw [base, if_pos hf.has]
  | none =>
    rw [Option.none_or] at hfile
    rw [base, hfile]

theorem base_ok (h : base d env path = .ok s) :
    Usable s ∧ ((∃ file, path.or (nearest? d) = some file ∧ read d env file = .ok s) ∨
      (path = none ∧ nearest? d = none ∧ s = ofDirectory d.here.toPath)) := by
  have hread : ∀ {file}, read d env file = .ok s → Usable s := by
    intro file h
    obtain ⟨f, preferred, -, -, hu, rfl⟩ := read_ok h
    exact hu
  unfold base at h
  cases path with
  | some p =>
    dsimp only at h
    split at h
    · exact ⟨hread h, .inl ⟨p, rfl, h⟩⟩
    · cases h
  | none =>
    dsimp only at h
    cases hn : nearest? d with
    | some p =>
      rw [hn] at h
      exact ⟨hread h, .inl ⟨p, by rw [Option.none_or], h⟩⟩
    | none =>
      rw [hn] at h
      obtain rfl := Except.ok.inj h
      exact ⟨usable_ofDirectory _, .inr ⟨rfl, rfl, rfl⟩⟩

/-- Settings are checked once more when overrides are given; without them they have been checked or
are the defaults. -/
theorem load_ok_iff : load d env path overrides = .ok c ↔
    ∃ s, base d env path = .ok s ∧ Usable (s.replace (overrides.getD {})) ∧
      c = s.replace (overrides.getD {}) := by
  unfold load
  cases hbase : base d env path with
  | error e =>
    constructor
    · intro h; cases h
    · rintro ⟨s, h, -⟩; cases h
  | ok s =>
    cases overrides with
    | none =>
      have hself : s.replace (Option.getD none {}) = s := rfl
      constructor
      · intro h
        obtain rfl : s = c := Except.ok.inj h
        exact ⟨s, rfl, hself.symm ▸ (base_ok hbase).1, hself.symm⟩
      · rintro ⟨t, ht, -, rfl⟩
        obtain rfl := Except.ok.inj ht
        rfl
    | some o =>
      show check (s.replace o) = .ok c ↔ _
      rw [check_eq_ok]
      constructor
      · rintro ⟨hu, rfl⟩
        exact ⟨s, rfl, hu, rfl⟩
      · rintro ⟨t, ht, hu, rfl⟩
        obtain rfl := Except.ok.inj ht
        exact ⟨hu, rfl⟩

/-- Settings that load pass the check, and each of their values is the override, or else what the
settings file sets, or else the default. Directories of the file are taken from the directory that
the file lies in, default directories without a file from the working directory, and the platform
of the file has its references expanded. -/
theorem load_values (hd : d.IsTree) (h : load d env path overrides = .ok c) :
    check c = .ok c ∧ Usable c ∧ ∃ dir f expanded, Origin d path c.file dir f ∧
      f.preferred.map (expandReferences env) = expanded.map Except.ok ∧
      let o := overrides.getD {}
      c.source = (o.source.or (f.source.map (dir.join ⟨·⟩))).getD (dir.join ⟨defaultSource⟩) ∧
      c.output = (o.output.or (f.output.map (dir.join ⟨·⟩))).getD (dir.join ⟨defaultOutput⟩) ∧
      c.preferred = (o.preferred.or expanded).getD Tabs.defaultPlatform := by
  obtain ⟨s, hbase, hu, rfl⟩ := load_ok_iff.1 h
  refine ⟨hu.check, hu, ?_⟩
  generalize overrides.getD {} = o
  rcases (base_ok hbase).2 with ⟨file, hfile, hread⟩ | ⟨hpath, hnone, rfl⟩
  · obtain ⟨f, preferred, hf, hp, -, rfl⟩ := read_ok hread
    obtain ⟨dir, name, hparent, hparts⟩ := exists_parent hd hf
    have hdir : file.parent?.getD ⟨"."⟩ = dir := by rw [hparent]; rfl
    -- the default platform holds no reference, so expanding it changes nothing
    obtain ⟨expanded, hexpanded, hpreferred⟩ : ∃ expanded : Option String,
        f.preferred.map (expandReferences env) = expanded.map Except.ok ∧
          preferred = expanded.getD Tabs.defaultPlatform := by
      cases hset : f.preferred with
      | none =>
        rw [hset] at hp
        exact ⟨none, rfl, (Except.ok.inj hp).symm⟩
      | some v =>
        rw [hset] at hp
        exact ⟨some preferred, congrArg some hp, rfl⟩
    refine ⟨dir, f, expanded, .file hfile hf hparent hparts, hexpanded, ?_, ?_, ?_⟩
    · simp only [replace, ofFile, hdir]
      cases o.source <;> cases f.source <;> rfl
    · simp only [replace, ofFile, hdir]
      cases o.output <;> cases f.output <;> rfl
    · simp only [replace, ofFile, hpreferred]
      cases o.preferred <;> rfl
  · refine ⟨d.here.toPath, {}, none, .directory hpath hnone, rfl, ?_, ?_, ?_⟩
    · simp only [replace, ofDirectory]
      cases o.source <;> rfl
    · simp only [replace, ofDirectory]
      cases o.output <;> rfl
    · simp only [replace, ofDirectory]
      cases o.preferred <;> rfl

/-! ## A small project -/

/-- A working directory with a settings file in a directory below. -/
def project : Disk where
  nodes := [
    (["project"], .directory),
    (["project", "conf"], .directory),
    (["project", "conf", "ptabs.toml"],
      .file { content := "[docs]\nsource_dir = \"pages\"\n[tabs]\ndefault_platform = \"iOS\"\n".toUTF8 })]
  here := ["project"]

/-- What loads from there with another output directory. -/
def projectSettings : Settings :=
  ⟨"iOS", ⟨"conf/pages"⟩, ⟨"out"⟩, some ⟨"conf/ptabs.toml"⟩⟩

theorem project_holds :
    HoldsFile project ⟨"conf/ptabs.toml"⟩ { source := some "pages", preferred := some "iOS" } := by
  have hl : project.locate ⟨"conf/ptabs.toml"⟩ = .ok ["project", "conf", "ptabs.toml"] := by
    rw [locate_eq, if_neg (by decide), if_neg (by decide)]
    rfl
  exact holdsFile_of_toUTF8 hl rfl (by decide +kernel)

theorem join_conf {name : String} (h : (FilePath.mk name).isAbsolute = false) :
    (FilePath.mk "conf").join ⟨name⟩ = ⟨"conf/" ++ name⟩ := by
  have hend : "conf".endsWith "/" = false :=
    EndsInName.not_endsWith_slash (p := ⟨"conf"⟩) ⟨"conf", by decide, by decide⟩
  rw [join, h, if_neg (by decide), hend, if_neg (by decide)]
  rfl

theorem project_base : base project {} (some ⟨"conf/ptabs.toml"⟩) =
    .ok ⟨"iOS", ⟨"conf/pages"⟩, ⟨"conf/_site"⟩, some ⟨"conf/ptabs.toml"⟩⟩ := by
  have hdir : (FilePath.mk "conf/ptabs.toml").parent?.getD ⟨"."⟩ = ⟨"conf"⟩ := by decide
  rw [base_of_file rfl project_holds, read_of_holds project_holds]
  show check (ofFile _ _ "iOS") = _
  simp only [ofFile, hdir]
  rw [join_conf (by decide), join_conf (by decide)]
  exact Usable.check (by decide)

theorem project_loads : load project {} (some ⟨"conf/ptabs.toml"⟩) (some { output := some ⟨"out"⟩ }) =
    .ok projectSettings :=
  load_ok_iff.2 ⟨_, project_base, by decide, rfl⟩

theorem load_values_project : project.IsTree ∧
    load project {} (some ⟨"conf/ptabs.toml"⟩) (some { output := some ⟨"out"⟩ }) =
      .ok projectSettings ∧
    Usable projectSettings ∧ ∃ dir f,
      Origin project (some ⟨"conf/ptabs.toml"⟩) (some ⟨"conf/ptabs.toml"⟩) dir f := by
  have htree : project.IsTree := by decide
  obtain ⟨-, hu, dir, f, -, horigin, -⟩ := load_values htree project_loads
  exact ⟨htree, project_loads, hu, dir, f, horigin⟩

end DocTabs.Settings
