/-
Results at their destinations. A successful build writes the result of every source file where it
belongs, and there it stays unless a later result or an asset goes to the same place; a markdown
page and an HTML page of one stem do go to the same place.
-/
import DocTabs.Proofs.Site.Sequence

namespace DocTabs.Site

open Disk FilePath Page Step

variable {plan : Plan} {d : Disk} {work : Work} {works before after : List Work} {r : Report}

/-- The destination of a file holds what was written there last. -/
theorem content_of_latest (hd : d.IsTree) (hout : ¬ d.target plan.output <+: d.target plan.source)
    (h : (build plan d).result = .ok r) (hw : plan.Works d works) (hwork : work ∈ works)
    {f : RegularFile} (hlatest : latest (plan.writes (d.target plan.output) works)
      (d.target plan.output ++ outputOf work.file) = some f) :
    (build plan d).disk.content (plan.destination work.file) = .ok f.content := by
  obtain ⟨m, hm, houtside, hwrote, -⟩ := built hd hout hw h
  obtain ⟨hne, hnames⟩ := hm.names (hw.isSource hwork)
  have hplace : d.target plan.output ++ outputOf work.file =
      d.target plan.output ++ work.file.dropLast ++ [outputName (fileName work.file)] := by
    rw [outputOf, List.append_assoc]
  refine content_of_leads houtside.tree (houtside.leads hm.output)
    (destination_extends plan hne hnames) ?_
  rw [← hplace, ← file?_eq_some, hwrote, hlatest]
  rfl

/-- The last write to the place of a result is that of the result, unless a later one or an asset
goes there, too. -/
theorem latest_writes (plan : Plan) (out : Location) (before : List Work)
    (hafter : ∀ later ∈ after, outputOf later.file ≠ outputOf work.file)
    (hasset : ∀ a : Asset, outputOf work.file ≠ [Asset.directory, a.name]) :
    latest (plan.writes out (before ++ work :: after)) (out ++ outputOf work.file) =
      some (work.resultFile plan.preferred) := by
  have hwrites : plan.writes out (before ++ work :: after) =
      before.map (plan.writeOf out) ++ plan.writeOf out work ::
        (after.map (plan.writeOf out) ++ Asset.all.map (·.writeOf out)) := by
    simp [Plan.writes]
  rw [hwrites]
  refine latest_of_last (p := plan.writeOf out work) fun q hq => ?_
  rcases List.mem_append.1 hq with hq | hq
  · obtain ⟨later, hlater, rfl⟩ := List.mem_map.1 hq
    exact fun he => hafter later hlater (List.append_cancel_left he)
  · obtain ⟨a, -, rfl⟩ := List.mem_map.1 hq
    exact fun he => hasset a (List.append_cancel_left he).symm

/-- After a successful build the destination of a source file holds the file's own result, unless a
later source file or an asset goes there, too. -/
theorem destination_holds_result (plan : Plan) (hd : d.IsTree)
    (hout : ¬ d.target plan.output <+: d.target plan.source) (h : (build plan d).result = .ok r)
    (hw : plan.Works d (before ++ work :: after))
    (hafter : ∀ later ∈ after, outputOf later.file ≠ outputOf work.file)
    (hasset : ∀ a : Asset, outputOf work.file ≠ [Asset.directory, a.name]) :
    (build plan d).disk.content (plan.destination work.file) = .ok (work.result plan.preferred) :=
  content_of_latest hd hout h hw (by simp) (latest_writes plan _ before hafter hasset)

theorem destination_holds_result_smallSite : smallSite.IsTree ∧
    ¬ smallSite.target smallPlan.output <+: smallSite.target smallPlan.source ∧
    ∃ r work after, (build smallPlan smallSite).result = .ok r ∧
      smallPlan.Works smallSite (work :: after) ∧ work.file = ["guide", "setup.md"] ∧
      (∀ later ∈ after, outputOf later.file ≠ outputOf work.file) ∧
      (∀ a : Asset, outputOf work.file ≠ [Asset.directory, a.name]) ∧
      (build smallPlan smallSite).disk.content (smallPlan.destination work.file) =
        .ok (work.result "Android") := by
  obtain ⟨r, works, h, hw, hfiles⟩ := smallSite_builds
  obtain ⟨work, after, rfl, hwork, hrest⟩ := List.map_eq_cons_iff.1 hfiles
  have hafter : ∀ later ∈ after, outputOf later.file ≠ outputOf work.file := fun later hlater => by
    have hmem : later.file ∈ after.map (·.file) := List.mem_map_of_mem hlater
    rw [hrest] at hmem
    rw [hwork]
    generalize later.file = file at hmem
    revert file
    decide
  have hasset : ∀ a : Asset, outputOf work.file ≠ [Asset.directory, a.name] := fun a => by
    rw [hwork]
    cases a <;> decide
  have hw' : smallPlan.Works smallSite ([] ++ work :: after) := hw
  exact ⟨smallSite_isTree, smallSite_outside, r, work, after, h, hw, hwork, hafter, hasset,
    destination_holds_result smallPlan smallSite_isTree smallSite_outside h hw' hafter hasset⟩

/-! ## A page that is lost -/

/-- A source directory with an HTML page and a markdown page of one stem. -/
def twinSite : Disk where
  nodes := [
    (["docs"], .directory),
    (["docs", "a.html"], .file { content := "x".toUTF8 }),
    (["docs", "a.md"], .file { content := "y".toUTF8 }),
    (["site"], .directory),
    (["site", "assets"], .directory)]

/-- A build from `docs` to the directory beside it. -/
def twinPlan : Plan := ⟨⟨"docs"⟩, ⟨"site"⟩, "Android"⟩

theorem twinSite_sources :
    sourcesFrom twinSite ["docs"] ["site"] twinSite.height [] = [["a.html"], ["a.md"]] := by
  rw [show twinSite.height = 3 from rfl, sourcesFrom, shown_of_ordered rfl (by decide)]
  rfl

theorem twinSite_builds : ∃ r works, (build twinPlan twinSite).result = .ok r ∧
    twinPlan.Works twinSite works ∧ works.map (·.file) = [["a.html"], ["a.md"]] :=
  build_of_listed (by decide) (leads_iff.2 (by decide)) (leads_iff.2 (by decide)) (by decide)
    twinSite_sources (fun file hfile _ => by
      simp only [List.mem_cons, List.not_mem_nil, or_false] at hfile
      rcases hfile with rfl | rfl <;> exact ⟨_, textAt_of_toUTF8 rfl⟩)
    (by decide) (by decide) (fun a => by cases a <;> decide)

/-- The result of an HTML page without containers is the page itself. -/
theorem result_html {root : Location} {text : String} (hof : work.OfFile d root)
    (hform : Form.ofName (fileName work.file) = .html)
    (htext : d.textAt (root ++ work.file) = .ok text)
    (hspan : Text.first span? text.toList = none) (preferred : String) :
    work.result preferred = text.toUTF8 := by
  cases hof with
  | @page file cut _ htext' hcut =>
    obtain rfl : cut.text = text := Except.ok.inj (htext'.symm.trans htext)
    rw [show Form.ofName (fileName file) = .html from hform] at hcut
    obtain ⟨hparts, hlast⟩ := (cut_done hspan).unique hcut
    rw [Work.result, PageCut.expansion, show Form.ofName (fileName file) = .html from hform]
    simp [pageDocument, hparts, hlast, cutHtml]
  | @copy file _ hverbatim =>
    rw [show Form.ofName (fileName file) = .html from hform] at hverbatim
    cases hverbatim

theorem result_markdown {root : Location} (hof : work.OfFile d root)
    (hform : Form.ofName (fileName work.file) = .markdown) (preferred : String) :
    ∃ p : Standalone, work.result preferred = p.toHtml.toUTF8 := by
  cases hof with
  | @page file cut =>
    rw [Work.result, PageCut.expansion, show Form.ofName (fileName file) = .markdown from hform]
    exact ⟨_, rfl⟩
  | @copy file _ hverbatim =>
    rw [show Form.ofName (fileName file) = .markdown from hform] at hverbatim
    cases hverbatim

theorem head?_toHtml (p : Standalone) : p.toHtml.toList.head? = some '<' := by
  unfold Standalone.toHtml
  simp only [String.toList_append]
  rfl

/-- Of an HTML page and a markdown page of one stem a successful build keeps the second one only. -/
theorem twinSite_loses_page : twinSite.IsTree ∧
    ¬ twinSite.target twinPlan.output <+: twinSite.target twinPlan.source ∧
    ∃ r works work, (build twinPlan twinSite).result = .ok r ∧ twinPlan.Works twinSite works ∧
      work ∈ works ∧ work.file = ["a.html"] ∧ work.result "Android" = "x".toUTF8 ∧
      (build twinPlan twinSite).disk.content (twinPlan.destination work.file) ≠
        .ok (work.result "Android") := by
  obtain ⟨r, works, h, hw, hfiles⟩ := twinSite_builds
  obtain ⟨work, rest, rfl, hwork, hrest⟩ := List.map_eq_cons_iff.1 hfiles
  obtain ⟨twin, last, rfl, htwin, hlast⟩ := List.map_eq_cons_iff.1 hrest
  obtain rfl := List.map_eq_nil_iff.1 hlast
  have htree : twinSite.IsTree := by decide
  have hout : ¬ twinSite.target twinPlan.output <+: twinSite.target twinPlan.source := by decide
  have hresult : work.result "Android" = "x".toUTF8 := by
    refine result_html (hw.ofFile work (by simp)) (by rw [hwork]; decide) ?_ (by decide) _
    rw [hwork]
    exact textAt_of_toUTF8 rfl
  obtain ⟨p, hp⟩ := result_markdown (hw.ofFile twin (by simp)) (by rw [htwin]; decide) "Android"
  -- the markdown page comes second, and its result goes to the place of the first one
  have hlatest : latest (twinPlan.writes (twinSite.target twinPlan.output) [work, twin])
      (twinSite.target twinPlan.output ++ outputOf work.file) = some (twin.resultFile "Android") := by
    have hplace : outputOf work.file = outputOf twin.file := by
      rw [hwork, htwin]
      decide
    rw [hplace]
    refine latest_writes twinPlan _ [work] nofun fun a => ?_
    rw [htwin]
    cases a <;> decide
  refine ⟨htree, hout, r, _, work, h, hw, by simp, hwork, hresult, ?_⟩
  rw [content_of_latest htree hout h hw (by simp) hlatest, hresult, Work.resultFile, hp]
  intro he
  have htext : p.toHtml = "x" := String.toByteArray_inj.1 (Except.ok.inj he)
  have hhead := head?_toHtml p
  rw [htext] at hhead
  revert hhead
  decide

end DocTabs.Site
