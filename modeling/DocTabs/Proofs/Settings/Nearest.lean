/-
Settings files that are found. Without a path the settings file is that of the nearest directory, from
the working directory upward, in which something has the name of settings files; loading is then
loading from its path. What lies there decides alone: if it cannot be used the load fails, and entries
farther up are never looked at. Without any such entry the defaults are loaded.
-/
import Mathlib.Data.Nat.Find
import DocTabs.Proofs.Disk.Frame
import DocTabs.Proofs.Settings.Override

namespace DocTabs.Disk

open FilePath

variable {d : Disk} {dir l : Location} {name : String} {p : FilePath}

/-! ## Absolute paths -/

/-- The absolute path of a location goes on by its names from the root. -/
theorem toPath_extends (h : ∀ s ∈ dir, IsName s) : Extends ⟨"/"⟩ dir dir.toPath := by
  by_cases hne : dir = []
  · rw [hne]
    exact ⟨by decide, nofun, fun h => absurd rfl h⟩
  · have hjoin : (FilePath.mk "/").join (ofNames dir) = dir.toPath := by
      have habs : (ofNames dir).isAbsolute = false := by
        rw [Bool.eq_false_iff, Ne, isAbsolute_iff]
        intro hroot
        have hparts := (FilePath.mk "").parts_join hne h
        have hempty : (FilePath.mk "").join (ofNames dir) = ofNames dir := by
          unfold join
          split
          · rfl
          · rw [if_pos (by decide)]
            simp
        rw [hempty] at hparts
        rw [hparts] at hroot
        exact absurd (show (FilePath.mk "").parts.1 = .root from hroot) (by decide)
      have hend : "/".endsWith "/" = true := endsWith_slash.2 ⟨"", rfl⟩
      rw [join, habs, if_neg (by decide), if_pos (by simp [hend])]
      rfl
    exact hjoin ▸ extends_join ⟨"/"⟩ hne h

/-- The absolute path of a directory leads there. -/
theorem leads_toPath (hd : d.IsTree) (hdir : d.get? dir = some .directory) : d.Leads dir.toPath dir := by
  have hroot : d.Leads ⟨"/"⟩ [] := by
    have hparts : (FilePath.mk "/").parts = (.root, []) := by decide
    rw [leads_iff, hparts]
    exact ⟨nofun, nofun, by simp [enter, origin]⟩
  exact hroot.extends hd (toPath_extends (hd.isName hdir)) hdir

theorem text_of_locate (h : d.locate p = .ok l) : d.text p = d.textAt l := by
  rw [Disk.text, Disk.content, h]
  rfl

end DocTabs.Disk

namespace DocTabs.Settings

open Disk FilePath Text

variable {d e : Disk} {env : Environment} {dir : Location} {file : FilePath} {s : Settings}
  {x : LoadError}

/-! ## Settings files by directory -/

/-- The path of the settings file of a directory. -/
def settingsPath (dir : Location) : FilePath :=
  dir.toPath.join ⟨fileName⟩

theorem get?_of_above (hd : d.IsTree) (h : dir <+: d.here) : d.get? dir = some .directory := by
  obtain ⟨rest, hrest⟩ := h
  by_cases hne : rest = []
  · rw [hne, List.append_nil] at hrest
    rw [hrest]
    exact hd.here
  · exact hd.get?_above (by rw [hrest]; exact hd.here) hne

theorem locate_settingsPath (hd : d.IsTree) (h : dir <+: d.here) :
    d.locate (settingsPath dir) = .ok (dir ++ [fileName]) := by
  have hdir := get?_of_above hd h
  have hname : ∀ s ∈ [fileName], IsName s := by decide
  have hpath : Extends dir.toPath ([] ++ [fileName]) (settingsPath dir) :=
    extends_join dir.toPath (List.cons_ne_nil fileName []) hname
  rw [(leads_toPath hd hdir).locate_eq_ok hd hpath, List.append_nil]
  exact ⟨hdir, rfl⟩

theorem has_settingsPath (hd : d.IsTree) (h : dir <+: d.here) :
    d.has (settingsPath dir) = true ↔ d.get? (dir ++ [fileName]) ≠ none := by
  rw [Disk.has, find?, locate_settingsPath hd h]
  exact Option.isSome_iff_ne_none

theorem not_has_settingsPath (hd : d.IsTree) (h : dir <+: d.here)
    (hnone : d.get? (dir ++ [fileName]) = none) : d.has (settingsPath dir) = false :=
  Bool.eq_false_iff.2 fun hhas => (has_settingsPath hd h).1 hhas hnone

theorem text_settingsPath (hd : d.IsTree) (h : dir <+: d.here) :
    d.text (settingsPath dir) = d.textAt (dir ++ [fileName]) :=
  text_of_locate (locate_settingsPath hd h)

/-! ## The nearest one -/

/-- Nothing above the working directory has the name of settings files. -/
def NoneAbove (d : Disk) : Prop :=
  ∀ dir, dir <+: d.here → d.get? (dir ++ [fileName]) = none

/-- The directory is the nearest, from the working directory upward, in which something has the
name of settings files. -/
structure Nearest (d : Disk) (dir : Location) : Prop where
  above : dir <+: d.here
  entry : d.get? (dir ++ [fileName]) ≠ none
  first : ∀ nearer, nearer <+: d.here → dir.length < nearer.length →
    d.get? (nearer ++ [fileName]) = none

theorem exists_nearest (d : Disk) : (∃ dir, Nearest d dir) ∨ NoneAbove d := by
  classical
  by_cases h : ∃ n, d.get? (d.here.take (d.here.length - n) ++ [fileName]) ≠ none
  · -- the nearest is the one that the fewest steps up lead to
    refine .inl ⟨_, List.take_prefix _ _, Nat.find_spec h, fun nearer hnearer hlen => ?_⟩
    have hle := hnearer.length_le
    rw [List.length_take] at hlen
    have hlt : d.here.length - nearer.length < Nat.find h := by omega
    have hnone := Nat.find_min h hlt
    rwa [not_not, Nat.sub_sub_self hle, ← List.prefix_iff_eq_take.1 hnearer] at hnone
  · refine .inr fun dir hdir => ?_
    by_contra hentry
    refine h ⟨d.here.length - dir.length, ?_⟩
    rwa [Nat.sub_sub_self hdir.length_le, ← List.prefix_iff_eq_take.1 hdir]

/-- The search goes up from the working directory, one directory at a time. -/
theorem nearest?_eq (d : Disk) : nearest? d =
    ((List.range (d.here.length + 1)).find? fun n =>
        d.has (settingsPath (d.here.take (d.here.length - n)))).map
      fun n => settingsPath (d.here.take (d.here.length - n)) := by
  rw [nearest?, above, List.map_map, List.find?_map]
  rfl

theorem Nearest.nearest?_eq_some (h : Nearest d dir) (hd : d.IsTree) :
    nearest? d = some (settingsPath dir) := by
  have hle := h.above.length_le
  have hdir : d.here.take (d.here.length - (d.here.length - dir.length)) = dir := by
    rw [Nat.sub_sub_self hle, ← List.prefix_iff_eq_take.1 h.above]
  have hfind : ((List.range (d.here.length + 1)).find? fun n =>
      d.has (settingsPath (d.here.take (d.here.length - n)))) = some (d.here.length - dir.length) := by
    rw [List.find?_range_eq_some, hdir]
    refine ⟨(has_settingsPath hd h.above).2 h.entry, List.mem_range.2 (by omega), fun n hn => ?_⟩
    have hnone := h.first (d.here.take (d.here.length - n)) (List.take_prefix _ _)
      (by rw [List.length_take]; omega)
    rw [not_has_settingsPath hd (List.take_prefix _ _) hnone, Bool.not_false]
  rw [nearest?_eq, hfind, Option.map_some, hdir]

theorem NoneAbove.nearest?_eq_none (h : NoneAbove d) (hd : d.IsTree) : nearest? d = none := by
  rw [nearest?_eq, Option.map_eq_none_iff, List.find?_range_eq_none]
  intro n _
  rw [not_has_settingsPath hd (List.take_prefix _ _) (h _ (List.take_prefix _ _)), Bool.not_false]

/-- Which one is the nearest is told by the entries up to it. -/
theorem Nearest.congr (h : Nearest d dir) (hhere : e.here = d.here)
    (hsame : ∀ nearer, dir <+: nearer → nearer <+: d.here →
      e.get? (nearer ++ [fileName]) = d.get? (nearer ++ [fileName])) : Nearest e dir where
  above := hhere ▸ h.above
  entry := hsame dir List.prefix_rfl h.above ▸ h.entry
  first nearer hnearer hlen := by
    rw [hhere] at hnearer
    rw [hsame nearer (List.prefix_of_prefix_length_le h.above hnearer hlen.le) hnearer]
    exact h.first nearer hnearer hlen

/-! ## Loading it -/

/-- A settings file that loads without overrides: it is a settings document, its variables are set,
and what it makes can be used. -/
def Valid (d : Disk) (env : Environment) (file : FilePath) : Prop :=
  ∃ f preferred, HoldsFile d file f ∧
    expandReferences env (f.preferred.getD Tabs.defaultPlatform) = .ok preferred ∧
    Usable (ofFile file f preferred)

theorem valid_iff : Valid d env file ↔ ∃ s, read d env file = .ok s := by
  constructor
  · rintro ⟨f, preferred, hf, hp, hu⟩
    refine ⟨ofFile file f preferred, ?_⟩
    rw [read_of_holds hf, hp]
    exact hu.check
  · rintro ⟨s, h⟩
    obtain ⟨f, preferred, hf, hp, hu, -⟩ := read_ok h
    exact ⟨f, preferred, hf, hp, hu⟩

/-- What is read depends on the text at the path alone. -/
theorem read_of_text (h : e.text file = d.text file) : read e env file = read d env file := by
  rw [read, read, h]

theorem load_of_base_error {path : Option FilePath} (h : base d env path = .error x)
    (overrides : Option Overrides) : load d env path overrides = .error x := by
  rw [load, h]
  rfl

theorem load_of_base {path path' : Option FilePath} (h : base e env path' = base d env path)
    (overrides : Option Overrides) : load e env path' overrides = load d env path overrides := by
  rw [load, load, h]

theorem Nearest.base_eq (h : Nearest d dir) (hd : d.IsTree) :
    base d env none = read d env (settingsPath dir) := by
  rw [base, h.nearest?_eq_some hd]

theorem Nearest.base_path (h : Nearest d dir) (hd : d.IsTree) :
    base d env (some (settingsPath dir)) = read d env (settingsPath dir) := by
  rw [base, if_pos ((has_settingsPath hd h.above).2 h.entry)]

theorem Nearest.load_file (h : Nearest d dir) (hd : d.IsTree) {overrides : Option Overrides}
    (hl : load d env none overrides = .ok s) : s.file = some (settingsPath dir) := by
  obtain ⟨t, ht, -, rfl⟩ := load_ok_iff.1 hl
  rw [h.base_eq hd] at ht
  obtain ⟨f, preferred, -, -, -, rfl⟩ := read_ok ht
  rfl

/-- A directory cannot be read. -/
theorem Nearest.load_directory (h : Nearest d dir) (hd : d.IsTree)
    (hentry : d.get? (dir ++ [fileName]) = some .directory) (overrides : Option Overrides) :
    load d env none overrides = .error (.access .isDirectory) := by
  refine load_of_base_error ?_ overrides
  have htext : d.text (settingsPath dir) = .error .isDirectory := by
    rw [text_settingsPath hd h.above, textAt, contentAt, fileAt, hentry]
    rfl
  rw [h.base_eq hd, read, htext]
  rfl

theorem Nearest.load_invalid (h : Nearest d dir) (hd : d.IsTree) :
    ¬ Valid d env (settingsPath dir) ↔ ∃ x, ∀ overrides, load d env none overrides = .error x := by
  rw [valid_iff, ← h.base_eq hd]
  cases hb : base d env none with
  | error x =>
    refine iff_of_true (by simp) ⟨x, load_of_base_error hb⟩
  | ok s =>
    refine iff_of_false (by simp) ?_
    rintro ⟨x, hx⟩
    have hnone := hx none
    rw [load, hb] at hnone
    cases hnone

/-- Entries farther up are never looked at. -/
theorem Nearest.load_frame (h : Nearest d dir) (hd : d.IsTree) (he : e.IsTree)
    (hhere : e.here = d.here)
    (hsame : ∀ nearer, dir <+: nearer → nearer <+: d.here →
      e.get? (nearer ++ [fileName]) = d.get? (nearer ++ [fileName])) (overrides : Option Overrides) :
    load e env none overrides = load d env none overrides := by
  have hnearest := h.congr hhere hsame
  refine load_of_base ?_ overrides
  rw [h.base_eq hd, hnearest.base_eq he]
  apply read_of_text
  rw [text_settingsPath hd h.above, text_settingsPath he hnearest.above]
  exact textAt_congr (hsame dir List.prefix_rfl h.above)

theorem NoneAbove.load_cases (h : NoneAbove d) (hd : d.IsTree) (overrides : Option Overrides) :
    let s := (ofDirectory d.here.toPath).replace (overrides.getD {})
    (Usable s ∧ load d env none overrides = .ok s) ∨
      (Blanks s.preferred.toList ∧ load d env none overrides = .error .blankPlatform) ∨
      (¬ Blanks s.preferred.toList ∧ s.source.parts = s.output.parts ∧
        load d env none overrides = .error .sameDirectory) := by
  have hnone := h.nearest?_eq_none hd
  cases overrides with
  | none =>
    refine .inl ⟨usable_ofDirectory _, ?_⟩
    rw [load, base, hnone]
    rfl
  | some o =>
    rw [load_of_directory hnone o]
    exact check_cases _

/-- Loading without a path. Either some directory is the nearest one, from the working directory
upward, in which something has the name of settings files, or there is none. In the first case
loading is loading from the path of that entry, whatever the overrides; an entry that is a
directory, or that is not valid by itself, fails every load; and on all disks that have the same
entries up to there, the same is loaded. In the second case what the overrides make of the defaults
of the working directory is loaded where it can be used, and else the load tells why it cannot. -/
theorem load_discovers (hd : d.IsTree) (env : Environment) :
    ((∃ dir, Nearest d dir) ∨ NoneAbove d) ∧
    (∀ dir, Nearest d dir →
      d.locate (settingsPath dir) = .ok (dir ++ [fileName]) ∧
      (∀ overrides, load d env none overrides = load d env (some (settingsPath dir)) overrides) ∧
      (∀ overrides s, load d env none overrides = .ok s → s.file = some (settingsPath dir)) ∧
      (d.get? (dir ++ [fileName]) = some .directory →
        ∀ overrides, load d env none overrides = .error (.access .isDirectory)) ∧
      (¬ Valid d env (settingsPath dir) ↔ ∃ x, ∀ overrides, load d env none overrides = .error x) ∧
      ∀ e : Disk, e.IsTree → e.here = d.here →
        (∀ nearer, dir <+: nearer → nearer <+: d.here →
          e.get? (nearer ++ [fileName]) = d.get? (nearer ++ [fileName])) →
        ∀ overrides, load e env none overrides = load d env none overrides) ∧
    (NoneAbove d → ∀ overrides,
      let s := (ofDirectory d.here.toPath).replace (overrides.getD {})
      (Usable s ∧ load d env none overrides = .ok s) ∨
        (Blanks s.preferred.toList ∧ load d env none overrides = .error .blankPlatform) ∨
        (¬ Blanks s.preferred.toList ∧ s.source.parts = s.output.parts ∧
          load d env none overrides = .error .sameDirectory)) := by
  refine ⟨exists_nearest d, fun dir h => ⟨locate_settingsPath hd h.above, fun overrides => ?_,
    fun _ _ => h.load_file hd, h.load_directory hd, h.load_invalid hd,
    fun _ he hhere hsame => h.load_frame hd he hhere hsame⟩, fun h => h.load_cases hd⟩
  exact load_of_base ((h.base_eq hd).trans (h.base_path hd).symm) overrides

/-! ## A directory in the way -/

/-- A working directory that has a directory with the name of settings files right above it, and a
settings file at the root. -/
def blockedProject : Disk where
  nodes := [
    (["work"], .directory),
    (["work", "site"], .directory),
    (["work", "ptabs.toml"], .directory),
    (["ptabs.toml"], .file { content := "[tabs]\ndefault_platform = \"iOS\"\n".toUTF8 })]
  here := ["work", "site"]

/-- The settings file at the root is not read. -/
theorem load_discovers_blockedProject : blockedProject.IsTree ∧ Nearest blockedProject ["work"] ∧
    ∀ overrides, load blockedProject {} none overrides = .error (.access .isDirectory) := by
  have htree : blockedProject.IsTree := by decide
  obtain ⟨-, hnearest, -⟩ := load_discovers htree {}
  have hwork : Nearest blockedProject ["work"] := by
    refine ⟨by decide, by decide, fun nearer habove hlen => ?_⟩
    obtain rfl : nearer = ["work", "site"] :=
      habove.eq_of_length_le hlen
    decide
  obtain ⟨-, -, -, hdirectory, -⟩ := hnearest ["work"] hwork
  exact ⟨htree, hwork, hdirectory rfl⟩

end DocTabs.Settings
