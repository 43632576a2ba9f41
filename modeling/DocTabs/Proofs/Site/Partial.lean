/-
What a build leaves wherever it stops. The results of the files that it has visited lie at their
destinations, the assets come behind all of them, and every other file is as it was.
-/
import DocTabs.Proofs.Site.Ending

namespace DocTabs.Site

open Disk FilePath Step

variable {plan : Plan} {d e : Disk} {out file l : Location} {visited : List Location}
  {written : List Asset} {r : Except BuildError Report} {u : Progress}

/-! ## What is left -/

/-- On `e` the results of some files and some assets lie at their destinations, and all other files
are those of `d`. -/
structure Plan.Leaves (plan : Plan) (d e : Disk) (visited : List Location) (written : List Asset) :
    Prop where
  wrote : ∃ writes, writes.map (·.1) = visited.map (d.target plan.output ++ outputOf ·) ∧
    Wrote (writes ++ written.map (·.writeOf (d.target plan.output))) d e
  destination : ∀ file ∈ visited,
    e.locate (plan.destination file) = .ok (d.target plan.output ++ outputOf file)
  asset : ∀ a ∈ written,
    e.locate (plan.assetPath a) = .ok (d.target plan.output ++ [Asset.directory, a.name])

/-- The destination of a file leads to its place where a file lies there. -/
theorem locate_destination (he : e.IsTree) (hp : e.Leads plan.output out) (hne : file ≠ [])
    (hnames : ∀ s ∈ file, IsName s) {f : RegularFile}
    (hfile : e.file? (out ++ outputOf file) = some f) :
    e.locate (plan.destination file) = .ok (out ++ outputOf file) := by
  rw [file?_eq_some, outputOf, ← List.append_assoc] at hfile
  rw [outputOf, ← List.append_assoc]
  exact locate_of_leads he hp (destination_extends plan hne hnames) hfile

theorem locate_assetPath (he : e.IsTree) (hp : e.Leads plan.output out) {a : Asset}
    {f : RegularFile} (hfile : e.file? (out ++ [Asset.directory, a.name]) = some f) :
    e.locate (plan.assetPath a) = .ok (out ++ [Asset.directory, a.name]) := by
  have hplace : out ++ [Asset.directory, a.name] = out ++ [Asset.directory] ++ [a.name] := by simp
  rw [file?_eq_some, hplace] at hfile
  rw [hplace]
  exact locate_of_leads he hp (assetPath_extends plan a) hfile

theorem Plan.Treated.leaves (h : plan.Treated d visited u)
    (hsource : ∀ file ∈ visited, IsSource d (d.target plan.source) (d.target plan.output) file)
    (hkept : Outside (d.target plan.output) u.disk e)
    (hwrote : Wrote (written.map (·.writeOf (d.target plan.output))) u.disk e) :
    plan.Leaves d e visited written := by
  obtain ⟨m, hm, hout, writes, hplaces, hwrites⟩ := h.wrote hsource
  have he := hwrites.append hwrote
  have hlead := hkept.leads (hout.leads hm.output)
  -- at the place of every write there lies a file
  have hfile : ∀ l ∈ (writes ++ written.map (·.writeOf (d.target plan.output))).map (·.1),
      ∃ f, e.file? l = some f := by
    intro l hl
    obtain ⟨f, hlatest⟩ := exists_latest hl
    exact ⟨f, by rw [he, hlatest]; rfl⟩
  refine ⟨⟨writes, hplaces, he⟩, fun file hvisited => ?_, fun a ha => ?_⟩
  · obtain ⟨hne, hnames⟩ := hm.names (hsource file hvisited)
    obtain ⟨f, hf⟩ := hfile (d.target plan.output ++ outputOf file) (by
      rw [List.map_append, hplaces]
      exact List.mem_append_left _ (List.mem_map_of_mem hvisited))
    exact locate_destination hkept.tree hlead hne hnames hf
  · obtain ⟨f, hf⟩ := hfile (d.target plan.output ++ [Asset.directory, a.name]) (by
      rw [List.map_append, List.map_map]
      exact List.mem_append_right _ (List.mem_map.2 ⟨a, ha, rfl⟩))
    exact locate_assetPath hkept.tree hlead hf

theorem Plan.Ends.leaves (h : plan.Ends d r e visited written) : plan.Leaves d e visited written := by
  cases h with
  | noSource => exact ⟨⟨[], rfl, .refl d⟩, nofun, nofun⟩
  | noOutput _ hwrote => exact ⟨⟨[], rfl, hwrote⟩, nofun, nofun⟩
  | atFile hsources htreated _ hkept hwrote =>
    exact htreated.leaves (fun file hfile => (hsources.mem file).1 (List.mem_append_left _ hfile))
      hkept hwrote
  | atAssets hsources htreated _ hkept hwrote
  | succeeds hsources htreated hkept hwrote =>
    exact htreated.leaves (fun file hfile => (hsources.mem file).1 hfile) hkept hwrote

namespace Plan.Leaves

theorem file_kept (h : plan.Leaves d e visited written) {f : RegularFile}
    (hl : d.get? l = some (.file f)) : ∃ later, e.get? l = some (.file later) := by
  obtain ⟨writes, -, hwrote⟩ := h.wrote
  have hfile := hwrote l
  rw [file?_eq_some.2 hl] at hfile
  cases hlatest : latest (writes ++ written.map (·.writeOf (d.target plan.output))) l with
  | none => exact ⟨f, file?_eq_some.1 (by rw [hfile, hlatest]; rfl)⟩
  | some later => exact ⟨later, file?_eq_some.1 (by rw [hfile, hlatest]; rfl)⟩

/-- A file that differs is at the destination of a file that was visited, or at that of an asset. -/
theorem of_file?_ne (h : plan.Leaves d e visited written) (hl : e.file? l ≠ d.file? l) :
    (∃ file ∈ visited, l = d.target plan.output ++ outputOf file) ∨
      ∃ a ∈ written, l = d.target plan.output ++ [Asset.directory, a.name] := by
  obtain ⟨writes, hplaces, hwrote⟩ := h.wrote
  have hmem : l ∈ (writes ++ written.map (·.writeOf (d.target plan.output))).map (·.1) := by
    by_contra hnot
    refine hl ?_
    rw [hwrote l, latest_eq_none.2 fun p hp he => hnot (List.mem_map.2 ⟨p, hp, he⟩)]
    rfl
  rw [List.map_append, List.mem_append, hplaces] at hmem
  rcases hmem with hmem | hmem
  · obtain ⟨file, hfile, rfl⟩ := List.mem_map.1 hmem
    exact .inl ⟨file, hfile, rfl⟩
  · rw [List.map_map] at hmem
    obtain ⟨a, ha, rfl⟩ := List.mem_map.1 hmem
    exact .inr ⟨a, ha, rfl⟩

theorem file?_outside (h : plan.Leaves d e visited written) (hl : ¬ d.target plan.output <+: l) :
    e.file? l = d.file? l := by
  by_contra hne
  rcases h.of_file?_ne hne with ⟨file, -, rfl⟩ | ⟨a, -, rfl⟩ <;> exact hl (List.prefix_append ..)

end Plan.Leaves

/-- Files that were treated have their results at their destinations, and these stay where no file is
written behind them. -/
theorem Plan.Treated.content (h : plan.Treated d visited u)
    (hsource : ∀ file ∈ visited, IsSource d (d.target plan.source) (d.target plan.output) file)
    (hkept : Outside (d.target plan.output) u.disk e) (hwrote : Wrote [] u.disk e)
    (hfile : file ∈ visited) : ∃ content, u.disk.content (plan.destination file) = .ok content ∧
      e.content (plan.destination file) = .ok content := by
  obtain ⟨m, hm, hout, writes, hplaces, hwrites⟩ := h.wrote hsource
  obtain ⟨hne, hnames⟩ := hm.names (hsource file hfile)
  obtain ⟨f, hlatest⟩ : ∃ f, latest writes (d.target plan.output ++ outputOf file) = some f :=
    exists_latest (hplaces ▸ List.mem_map_of_mem hfile)
  have hf : u.disk.file? (d.target plan.output ++ outputOf file) = some f := by
    rw [hwrites, hlatest]
    rfl
  have hread : ∀ {x : Disk}, x.IsTree → x.Leads plan.output (d.target plan.output) →
      x.file? (d.target plan.output ++ outputOf file) = some f →
      x.content (plan.destination file) = .ok f.content := by
    intro x hx hlead hx'
    rw [file?_eq_some, outputOf, ← List.append_assoc] at hx'
    exact content_of_leads hx hlead (destination_extends plan hne hnames) hx'
  have hlead := hout.leads hm.output
  exact ⟨f.content, hread hout.tree hlead hf,
    hread hkept.tree (hkept.leads hlead) ((hwrote _).trans hf)⟩

namespace Plan.Ends

/-- Without a source directory nothing changes. -/
theorem of_sourceNotFound {source : FilePath}
    (h : plan.Ends d (.error (.sourceNotFound source)) e visited written) : e = d := by
  cases h with
  | noSource => rfl

/-- An access fails before any asset is written, where the files before it have their results, or
behind all source files. -/
theorem of_access {path : FilePath} {fault : Fault}
    (h : plan.Ends d (.error (.access path fault)) e visited written) :
    (written = [] ∧ ∀ file ∈ visited, ∃ u content, plan.Treated d visited u ∧
      u.disk.content (plan.destination file) = .ok content ∧
      e.content (plan.destination file) = .ok content) ∨
    (Sources d (d.target plan.source) (d.target plan.output) visited ∧ ∃ u, plan.Treated d visited u ∧
      Wrote (written.map (·.writeOf (d.target plan.output))) u.disk e) := by
  cases h with
  | noOutput => exact .inl ⟨rfl, nofun⟩
  | @atFile _ _ _ _ _ u _ hsources htreated _ hkept hwrote =>
    have hsource : ∀ f ∈ visited, IsSource d (d.target plan.source) (d.target plan.output) f :=
      fun f hf => (hsources.mem f).1 (List.mem_append_left _ hf)
    refine .inl ⟨rfl, fun f hf => ?_⟩
    obtain ⟨content, hbefore, hafter⟩ := htreated.content hsource hkept hwrote hf
    exact ⟨u, content, htreated, hbefore, hafter⟩
  | atAssets hsources htreated _ _ hwrote => exact .inr ⟨hsources, _, htreated, hwrote⟩

end Plan.Ends

/-- Whatever stops a build, and where: no file is removed, and none outside the output directory is
made or changed; without a source directory nothing changes at all. Each file that was made or
changed is at the destination of a source file that was visited, or of an asset. When an access
fails at a source file, or before the walk or the assets, no asset is written, and the destinations
of the files visited before hold what treating these files in order leaves there; when it fails
behind the walk, all source files were visited, and only assets were written over what they left. -/
theorem build_leaves_prefix (plan : Plan) (hd : d.IsTree)
    (hout : ¬ d.target plan.output <+: d.target plan.source) :
    (∀ l f, d.get? l = some (.file f) →
      ∃ later, (build plan d).disk.get? l = some (.file later)) ∧
    (∀ l, ¬ d.target plan.output <+: l → (build plan d).disk.file? l = d.file? l) ∧
    (∀ source, (build plan d).result = .error (.sourceNotFound source) →
      (build plan d).disk = d) ∧
    ∃ visited written, plan.Ends d (build plan d).result (build plan d).disk visited written ∧
      (∀ l, (build plan d).disk.file? l ≠ d.file? l →
        (∃ file ∈ visited, (build plan d).disk.locate (plan.destination file) = .ok l) ∨
          ∃ a ∈ written, (build plan d).disk.locate (plan.assetPath a) = .ok l) ∧
      ∀ path fault, (build plan d).result = .error (.access path fault) →
        (written = [] ∧ ∀ file ∈ visited, ∃ u content, plan.Treated d visited u ∧
          u.disk.content (plan.destination file) = .ok content ∧
          (build plan d).disk.content (plan.destination file) = .ok content) ∨
        (Sources d (d.target plan.source) (d.target plan.output) visited ∧
          ∃ u, plan.Treated d visited u ∧
            Wrote (written.map (·.writeOf (d.target plan.output))) u.disk (build plan d).disk) := by
  obtain ⟨visited, written, hends⟩ := build_ends plan hd hout
  have hleaves := hends.leaves
  refine ⟨fun l f => hleaves.file_kept, fun l => hleaves.file?_outside, fun source hr => ?_,
    visited, written, hends, fun l hl => ?_, fun path fault hr => ?_⟩
  · rw [hr] at hends
    exact hends.of_sourceNotFound
  · rcases hleaves.of_file?_ne hl with ⟨file, hfile, rfl⟩ | ⟨a, ha, rfl⟩
    · exact .inl ⟨file, hfile, hleaves.destination file hfile⟩
    · exact .inr ⟨a, ha, hleaves.asset a ha⟩
  · rw [hr] at hends
    exact hends.of_access

/-! ## A page that is no text -/

/-- A source directory with a plain file and a page that is no text. -/
def brokenSite : Disk where
  nodes := [
    (["docs"], .directory),
    (["docs", "a.txt"], .file { content := "a".toUTF8 }),
    (["docs", "b.html"], .file { content := ⟨#[0xff]⟩ })]

/-- A build from `docs` to the directory beside it. -/
def brokenPlan : Plan := ⟨⟨"docs"⟩, ⟨"site"⟩, "Android"⟩

theorem brokenSite_isTree : brokenSite.IsTree := by decide

theorem brokenSite_outside :
    ¬ brokenSite.target brokenPlan.output <+: brokenSite.target brokenPlan.source := by
  decide

theorem brokenSite_hasDirectory : brokenSite.hasDirectory brokenPlan.source = true :=
  hasDirectory_iff.2 ⟨["docs"], leads_iff.2 (by decide)⟩

/-- The build of it fails at an access: a build that succeeds has read all pages. -/
theorem brokenSite_fails : ∃ path fault,
    (build brokenPlan brokenSite).result = .error (.access path fault) := by
  obtain ⟨visited, written, hends⟩ := build_ends brokenPlan brokenSite_isTree brokenSite_outside
  cases hr : (build brokenPlan brokenSite).result with
  | ok r =>
    exfalso
    obtain ⟨w, hsteps, -⟩ := build_ok hr
    obtain ⟨works, hw⟩ := exists_works_of_ok brokenSite_isTree brokenSite_outside hsteps
    have hsource : IsSource brokenSite (brokenSite.target brokenPlan.source)
        (brokenSite.target brokenPlan.output) ["b.html"] := by
      refine ⟨⟨_, rfl⟩, fun name hname => ?_, by decide⟩
      rw [List.mem_singleton.1 hname, isHidden_eq]
      rfl
    obtain ⟨work, hwork, hfile⟩ := List.mem_map.1 ((hw.sources.mem _).2 hsource)
    cases hw.ofFile work hwork with
    | @page file cut _ htext =>
      obtain rfl : file = ["b.html"] := hfile
      obtain ⟨f, hf, hdecode⟩ := textAt_eq_ok.1 htext
      obtain rfl : ⟨⟨#[0xff]⟩, .readWrite⟩ = f := Node.file.inj (Option.some.inj hf)
      cases (show decode ⟨#[0xff]⟩ = .error .notText from rfl).symm.trans hdecode
    | @copy file f hform =>
      obtain rfl : file = ["b.html"] := hfile
      exact absurd hform (by decide)
  | error error =>
    rw [hr] at hends
    generalize (build brokenPlan brokenSite).disk = e at hends
    cases hends with
    | noSource h => rw [brokenSite_hasDirectory] at h; cases h
    | noOutput | atFile | atAssets => exact ⟨_, _, rfl⟩

theorem build_leaves_prefix_brokenSite : brokenSite.IsTree ∧
    ¬ brokenSite.target brokenPlan.output <+: brokenSite.target brokenPlan.source ∧
    (∃ path fault, (build brokenPlan brokenSite).result = .error (.access path fault)) ∧
    (∀ l, ¬ ["site"] <+: l → (build brokenPlan brokenSite).disk.file? l = brokenSite.file? l) ∧
    ∃ visited written, brokenPlan.Ends brokenSite (build brokenPlan brokenSite).result
        (build brokenPlan brokenSite).disk visited written ∧
      (written = [] ∨ Sources brokenSite ["docs"] ["site"] visited) := by
  obtain ⟨-, houtside, -, visited, written, hends, -, herror⟩ :=
    build_leaves_prefix brokenPlan brokenSite_isTree brokenSite_outside
  obtain ⟨path, fault, hfails⟩ := brokenSite_fails
  exact ⟨brokenSite_isTree, brokenSite_outside, ⟨path, fault, hfails⟩, houtside, visited, written,
    hends, (herror path fault hfails).imp (·.1) (·.1)⟩

end DocTabs.Site
