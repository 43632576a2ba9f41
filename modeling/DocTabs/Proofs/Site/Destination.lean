/-
Where a build puts things. The result of a source file goes below the output directory, under the
name of the file or, for a markdown page, under its stem with another extension; the assets go into
one directory there.
-/
import DocTabs.Site.Build
import DocTabs.Proofs.Disk.Frame

namespace DocTabs.Disk

/-! ## Stems -/

namespace FilePath

theorem stem_cases (name : String) : stem name = name ∨
    ∃ pieces : List (List Char), (∀ piece ∈ pieces, piece ∈ name.toList.splitOn '.') ∧
      stem name = ".".intercalate (pieces.map String.ofList) := by
  unfold stem cutName
  rw [splitOn_eq]
  split
  · rename_i extension first more h
    split
    · exact .inl rfl
    · refine .inr ⟨((name.toList.splitOn '.').reverse.tail).reverse, fun piece hp => ?_, ?_⟩
      · exact List.mem_reverse.1 (List.mem_of_mem_tail (List.mem_reverse.1 hp))
      · rw [List.map_reverse, List.map_tail, h]
        rfl
  · exact .inl rfl

/-- A stem has no other characters than its name, save for dots. -/
theorem mem_of_mem_stem {name : String} {c : Char} (hc : c ≠ '.') (h : c ∈ (stem name).toList) :
    c ∈ name.toList := by
  rcases stem_cases name with he | ⟨pieces, hpieces, he⟩
  · rwa [← he]
  · have hne : pieces ≠ [] := by
      rintro rfl
      rw [he] at h
      simp at h
    have htext : (stem name).toList = ['.'].intercalate pieces := by
      rw [he, String.toList_intercalate, List.map_map,
        show String.toList ∘ String.ofList = id from funext fun _ => String.toList_ofList, List.map_id]
      rfl
    rw [mem_iff_mem_splitOn hc, htext,
      List.splitOn_intercalate '.' (fun piece hp => not_mem_of_mem_splitOn (hpieces piece hp)) hne] at h
    obtain ⟨piece, hp, hmem⟩ := h
    exact (mem_iff_mem_splitOn hc).2 ⟨piece, hpieces piece hp, hmem⟩

end FilePath

/-- With the extension of a rendered page a name is still a name. -/
theorem IsName.html {name : String} (h : IsName name) :
    IsName (FilePath.stem name ++ "." ++ "html") := by
  have hmem : ∀ c, c ∈ (FilePath.stem name ++ "." ++ "html").toList ↔
      c ∈ (FilePath.stem name).toList ∨ c ∈ ".html".toList := by
    intro c
    rw [String.append_assoc, String.toList_append, List.mem_append]
    rfl
  have hnot : ∀ c, c ≠ '.' → c ∉ ".html".toList → c ∉ name.toList →
      c ∉ (FilePath.stem name ++ "." ++ "html").toList := fun c hc h1 h2 h3 =>
    ((hmem c).1 h3).elim (fun h => h2 (FilePath.mem_of_mem_stem hc h)) h1
  have hletter : 'h' ∈ (FilePath.stem name ++ "." ++ "html").toList := (hmem _).2 (.inr (by decide))
  refine ⟨fun he => ?_, fun he => ?_, fun he => ?_, hnot _ (by decide) (by decide) h.noSlash,
    hnot _ (by decide) (by decide) h.noNul⟩ <;>
  · rw [he] at hletter
    revert hletter
    decide

end DocTabs.Disk

namespace DocTabs.Site

open Disk FilePath

/-! ## Results of source files -/

/-- The name of the result of a file. -/
def outputName (name : String) : String :=
  match Form.ofName name with
  | .markdown => stem name ++ "." ++ "html"
  | _ => name

/-- Where the result of a source file lies below the output directory. -/
def outputOf (file : Location) : Location :=
  file.dropLast ++ [outputName (fileName file)]

/-- The destination of a file is the output directory with the names of its result behind it. -/
theorem destination_extends (plan : Plan) {file : Location} (hne : file ≠ [])
    (h : ∀ s ∈ file, IsName s) : Extends plan.output (outputOf file) (plan.destination file) := by
  obtain ⟨dir, name, rfl⟩ := List.eq_nil_or_concat file |>.resolve_left hne
  have hpath : Extends plan.output (dir ++ [name]) (plan.output.join (relativePath (dir.concat name))) := by
    rw [← List.concat_eq_append]
    exact extends_join plan.output hne h
  have hname : fileName (dir.concat name) = name := by simp [fileName]
  have hout : outputOf (dir.concat name) = dir ++ [outputName name] := by
    rw [outputOf, hname, List.concat_eq_append, List.dropLast_concat]
  unfold Plan.destination
  rw [hout, hname, outputName]
  cases Form.ofName name with
  | markdown => exact hpath.withExtension (h name (by simp)).html
  | html => exact hpath
  | verbatim => exact hpath

/-! ## Assets -/

namespace Asset

theorem disk_isTree : disk.IsTree := by decide

theorem home_leads : disk.Leads (Location.toPath disk.here) disk.here :=
  leads_iff.2 (by decide)

/-- Every asset is kept under its name. -/
theorem find?_name (a : Asset) : find? ⟨a.name⟩ = some a.content := by
  have hname : ∀ s ∈ [a.name], IsName s := by cases a <;> decide
  have hpath : Extends (Location.toPath disk.here) ([] ++ [a.name])
      ((Location.toPath disk.here).join ⟨a.name⟩) := extends_join _ (by simp) hname
  have hfile : disk.get? (disk.here ++ [] ++ [a.name]) = some (.file { content := a.content }) := by
    cases a <;> rfl
  rw [find?, content_of_leads disk_isTree home_leads hpath hfile]
  rfl

end Asset

/-- The directory of the assets in a site. -/
def Plan.assetDirectory (plan : Plan) : FilePath :=
  plan.output.join ⟨Asset.directory⟩

/-- Where an asset goes. -/
def Plan.assetPath (plan : Plan) (a : Asset) : FilePath :=
  plan.assetDirectory.join ⟨a.name⟩

theorem writeAssets_eq (plan : Plan) : plan.writeAssets = (do
    Step.makeDirectories plan.assetDirectory
    Asset.all.forM fun a => Step.change (plan.assetPath a) (·.write (plan.assetPath a) a.content)
    Step.tell (.wroteAssets plan.assetDirectory)) := by
  unfold Plan.writeAssets
  simp only [Asset.find?_name]
  rfl

theorem assetDirectory_extends (plan : Plan) :
    Extends plan.output [Asset.directory] plan.assetDirectory :=
  extends_join plan.output (by simp) (by decide)

theorem assetPath_extends (plan : Plan) (a : Asset) :
    Extends plan.output ([Asset.directory] ++ [a.name]) (plan.assetPath a) := by
  refine (assetDirectory_extends plan).join (by simp) ?_
  cases a <;> decide

end DocTabs.Site
