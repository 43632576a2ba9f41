/-
Which variables a text refers to. Loading settings looks at those variables only that the platform of
the settings file refers to, so environments in which these are the same load the same settings.
-/
import DocTabs.Proofs.Settings.Environment
import DocTabs.Proofs.Settings.Load

namespace DocTabs.Settings

open Disk FilePath

variable {env env' : Environment} {d : Disk} {path : Option FilePath} {file : FilePath}

/-- One of the references of a text is to the name. Without a `$\x7b` a text has no references. -/
def Refers (text name : String) : Prop :=
  Text.contains "$\x7b" text.toList = true ∧
    ∃ fallback, Piece.reference name.toList fallback ∈ Piece.ofText text.toList

theorem not_refers_of_not_contains {text : String} (h : Text.contains "$\x7b" text.toList = false)
    (name : String) : ¬ Refers text name := by
  rintro ⟨hcontains, -⟩
  rw [h] at hcontains
  cases hcontains

/-- A path leads to one settings document at most. -/
theorem HoldsFile.unique {f f' : File} (h : HoldsFile d file f) (h' : HoldsFile d file f') :
    f' = f := by
  obtain ⟨document, htext, hf⟩ := h
  obtain ⟨document', htext', hf'⟩ := h'
  obtain rfl := Except.ok.inj (htext.symm.trans htext')
  exact Option.some.inj (hf'.symm.trans hf)

/-! ## Environments that agree -/

theorem mapM_value_congr {pieces : List Piece}
    (h : ∀ name fallback, Piece.reference name fallback ∈ pieces →
      env'.get? (String.ofList name) = env.get? (String.ofList name)) :
    pieces.mapM (·.value env') = pieces.mapM (·.value env) := by
  induction pieces with
  | nil => rfl
  | cons p pieces ih =>
    have hp : p.value env' = p.value env := by
      cases p with
      | char c => rfl
      | reference name fallback => simp only [Piece.value, h name fallback (by simp)]
    rw [List.mapM_cons, List.mapM_cons, hp, ih fun name fallback hmem =>
      h name fallback (List.mem_cons_of_mem p hmem)]

/-- A text is expanded alike where the variables that it refers to are the same. -/
theorem expandReferences_congr {text : String}
    (h : ∀ name, Refers text name → env'.get? name = env.get? name) :
    expandReferences env' text = expandReferences env text := by
  unfold expandReferences
  split
  · rename_i hcontains
    rw [mapM_value_congr fun name fallback hmem =>
      h (String.ofList name) ⟨hcontains, fallback, by rwa [String.toList_ofList]⟩]
  · rfl

theorem expandReferences_platform_congr {f : File}
    (h : ∀ v name, f.preferred = some v → Refers v name → env'.get? name = env.get? name) :
    expandReferences env' (f.preferred.getD Tabs.defaultPlatform) =
      expandReferences env (f.preferred.getD Tabs.defaultPlatform) := by
  refine expandReferences_congr fun name hname => ?_
  cases hf : f.preferred with
  | some v =>
    rw [hf] at hname
    exact h v name hf hname
  | none =>
    rw [hf] at hname
    exact absurd hname (not_refers_of_not_contains (by decide) name)

/-- A settings file is read alike where the variables that its platform refers to are the same. -/
theorem read_congr
    (h : ∀ f v name, HoldsFile d file f → f.preferred = some v → Refers v name →
      env'.get? name = env.get? name) : read d env' file = read d env file := by
  by_cases hheld : ∃ f, HoldsFile d file f
  · obtain ⟨f, hf⟩ := hheld
    rw [read_of_holds hf, read_of_holds hf, expandReferences_platform_congr fun v name => h f v name hf]
  · -- a file that is no settings document fails before its platform is expanded
    unfold read
    cases htext : d.text file with
    | error fault => rfl
    | ok document =>
      cases hf : File.ofText? document with
      | some f => exact absurd ⟨f, document, htext, hf⟩ hheld
      | none =>
        simp only [Except.mapError, bind, Except.bind, hf, Option.elim]
        rfl

/-- Settings load alike where the variables are the same that the platform of the settings file
refers to. -/
theorem load_congr (o : Option Overrides)
    (h : ∀ file f v name, path.or (nearest? d) = some file → HoldsFile d file f →
      f.preferred = some v → Refers v name → env'.get? name = env.get? name) :
    load d env' path o = load d env path o := by
  have hbase : base d env' path = base d env path := by
    unfold base
    cases path with
    | some p =>
      dsimp only
      rw [read_congr fun f v name => h p f v name rfl]
    | none =>
      dsimp only
      cases hn : nearest? d with
      | none => rfl
      | some p =>
        dsimp only
        rw [read_congr fun f v name => h p f v name (by rw [Option.none_or, hn])]
  rw [load, load, hbase]

end DocTabs.Settings
