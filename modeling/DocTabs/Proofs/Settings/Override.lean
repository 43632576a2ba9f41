/-
Overrides and a settings file that is bad by itself. A file is expanded and checked with its own
values before any of them is replaced, so a value that an override replaces can still make the load
fail; without a file only the result is checked.
-/
import DocTabs.Proofs.Settings.Load

namespace DocTabs.Settings

open Disk FilePath Text

variable {d : Disk} {env : Environment} {path : Option FilePath} {file : FilePath} {f : File}
  {s : Settings}

theorem check_ne_unset (s : Settings) (name : String) : check s ≠ .error (.unset name) := by
  intro h
  rcases check_cases s with ⟨-, hs⟩ | ⟨-, hs⟩ | ⟨-, -, hs⟩
  · rw [hs] at h; cases h
  · rw [hs] at h; cases h
  · rw [hs] at h; cases h

theorem exists_error_of_not_usable (h : ¬ Usable s) : ∃ e, check s = .error e := by
  rcases check_cases s with ⟨hu, -⟩ | ⟨-, hs⟩ | ⟨-, -, hs⟩
  · exact absurd hu h
  · exact ⟨_, hs⟩
  · exact ⟨_, hs⟩

/-! ## The three steps of a load with overrides -/

section

variable (hfile : path.or (nearest? d) = some file) (hf : HoldsFile d file f) (o : Overrides)

include hfile hf

theorem load_of_unset {name : String}
    (hp : expandReferences env (f.preferred.getD Tabs.defaultPlatform) = .error name) :
    load d env path (some o) = .error (.unset name) := by
  rw [load, base_of_file hfile hf, read_of_holds hf, hp]
  rfl

variable {preferred : String}
  (hp : expandReferences env (f.preferred.getD Tabs.defaultPlatform) = .ok preferred)

include hp

/-- Where a file is read, a load with overrides checks twice: what the file makes by itself, and
what the overrides make of that. -/
theorem load_of_expanded : load d env path (some o) =
    (check (ofFile file f preferred) >>= fun s => check (s.replace o)) := by
  rw [load, base_of_file hfile hf, read_of_holds hf, hp]

theorem load_of_usable (hu : Usable (ofFile file f preferred)) :
    load d env path (some o) = check ((ofFile file f preferred).replace o) := by
  rw [load_of_expanded hfile hf o hp, hu.check]
  rfl

theorem load_of_not_usable (hu : ¬ Usable (ofFile file f preferred)) :
    ∃ e, check (ofFile file f preferred) = .error e ∧ load d env path (some o) = .error e := by
  obtain ⟨e, he⟩ := exists_error_of_not_usable hu
  refine ⟨e, he, ?_⟩
  rw [load_of_expanded hfile hf o hp, he]
  rfl

end

/-- Without a file, only what the overrides make of the defaults is checked. -/
theorem load_of_directory (hnone : nearest? d = none) (o : Overrides) :
    load d env none (some o) = check ((ofDirectory d.here.toPath).replace o) := by
  rw [load, base, hnone]
  rfl

/-- With overrides, a settings file that can be read decides in three steps what is loaded. A
variable of the file's platform that is not set fails the load, whatever the overrides give. Where
what the file makes by itself can be used, the load is the check of what the overrides make of it.
Where it cannot, the load fails with what is wrong with it, whatever the overrides give. -/
theorem load_overridden (hfile : path.or (nearest? d) = some file) (hf : HoldsFile d file f)
    (o : Overrides) :
    (∀ name, load d env path (some o) = .error (.unset name) ↔
      expandReferences env (f.preferred.getD Tabs.defaultPlatform) = .error name) ∧
    ∀ preferred, expandReferences env (f.preferred.getD Tabs.defaultPlatform) = .ok preferred →
      (Usable (ofFile file f preferred) →
        load d env path (some o) = check ((ofFile file f preferred).replace o)) ∧
      (¬ Usable (ofFile file f preferred) →
        ∃ e, check (ofFile file f preferred) = .error e ∧ load d env path (some o) = .error e) := by
  refine ⟨fun name => ⟨fun h => ?_, load_of_unset hfile hf o⟩, fun preferred hp =>
    ⟨load_of_usable hfile hf o hp, load_of_not_usable hfile hf o hp⟩⟩
  cases hp : expandReferences env (f.preferred.getD Tabs.defaultPlatform) with
  | error missing =>
    rw [load_of_unset hfile hf o hp, Except.error.injEq, LoadError.unset.injEq] at h
    rw [h]
  | ok preferred =>
    -- neither of the two checks tells of a variable
    exfalso
    by_cases hu : Usable (ofFile file f preferred)
    · rw [load_of_usable hfile hf o hp hu] at h
      exact check_ne_unset _ name h
    · obtain ⟨e, he, hl⟩ := load_of_not_usable hfile hf o hp hu
      exact check_ne_unset _ name (he.trans (hl.symm.trans h))

/-! ## A file with a blank platform -/

/-- A working directory with a settings file that sets a blank platform. -/
def blankProject : Disk where
  nodes := [(["ptabs.toml"], .file { content := "[tabs]\ndefault_platform = \"\"\n".toUTF8 })]

theorem blankProject_holds : HoldsFile blankProject ⟨"ptabs.toml"⟩ { preferred := some "" } := by
  have hl : blankProject.locate ⟨"ptabs.toml"⟩ = .ok ["ptabs.toml"] := by
    rw [locate_eq, if_neg (by decide), if_neg (by decide)]
    rfl
  exact holdsFile_of_toUTF8 hl rfl (by decide +kernel)

theorem load_overridden_blankProject :
    HoldsFile blankProject ⟨"ptabs.toml"⟩ { preferred := some "" } ∧
    ∃ e, load blankProject {} (some ⟨"ptabs.toml"⟩) (some { output := some ⟨"out"⟩ }) = .error e := by
  have hfile : (some (FilePath.mk "ptabs.toml")).or (nearest? blankProject) = some ⟨"ptabs.toml"⟩ := rfl
  have hload := @load_overridden _ {} _ _ _ hfile blankProject_holds { output := some ⟨"out"⟩ }
  obtain ⟨e, -, he⟩ := (hload.2 "" rfl).2 (by decide)
  exact ⟨blankProject_holds, e, he⟩

/-- The platform of the file fails the load although another one takes its place, and all could be
used. -/
theorem blankProject_fails :
    HoldsFile blankProject ⟨"ptabs.toml"⟩ { preferred := some "" } ∧
    Usable ((ofFile ⟨"ptabs.toml"⟩ { preferred := some "" } "").replace { preferred := some "iOS" }) ∧
    load blankProject {} (some ⟨"ptabs.toml"⟩) (some { preferred := some "iOS" }) =
      .error .blankPlatform := by
  have hfile : (some (FilePath.mk "ptabs.toml")).or (nearest? blankProject) = some ⟨"ptabs.toml"⟩ := rfl
  refine ⟨blankProject_holds, by decide, ?_⟩
  rw [load_of_expanded hfile blankProject_holds _ rfl]
  rfl

end DocTabs.Settings
