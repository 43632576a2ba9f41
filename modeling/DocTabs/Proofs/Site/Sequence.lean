/-
What a successful build does, in which order and with which numbers: it delivers the works of exactly
the source files, one after another, the ids that pages draw are numbered through all of them, and
the report sums up the works.
-/
import DocTabs.Proofs.Site.Success

namespace DocTabs.Site

open Disk FilePath Page Step

variable {plan : Plan} {d : Disk} {root : Location} {work : Work} {works : List Work} {r : Report}

/-! ## Pages by their names -/

/-- Whether a file is a page: it is markdown or HTML by the extension of its name. -/
def isPageFile (file : Location) : Bool :=
  (extension? (fileName file)).any (· ∈ ["md", "markdown", "html", "htm"])

theorem form_eq_verbatim {file : Location} :
    Form.ofName (fileName file) = .verbatim ↔ isPageFile file = false := by
  unfold Form.ofName isPageFile
  cases extension? (fileName file) with
  | none => simp
  | some extension =>
    simp only [Option.any_some, decide_eq_false_iff_not]
    split
    · rename_i h
      simp only [List.mem_cons, List.not_mem_nil, or_false] at h
      rcases h with rfl | rfl <;> simp
    · rename_i h
      split <;> simp_all

theorem Work.OfFile.isPage_eq (h : work.OfFile d root) : work.isPage = isPageFile work.file := by
  cases h with
  | page hform => exact (Bool.eq_true_of_not_eq_false fun h => hform (form_eq_verbatim.2 h)).symm
  | copy hform => exact (form_eq_verbatim.1 hform).symm

/-! ## The whole run -/

/-- The ids that the spans of some works draw, in order. -/
def drawnIds (works : List Work) : List String :=
  (((works.flatMap (·.spans)).zip (works.flatMap (·.ids))).filter (·.1.isAnonymous)).map (·.2)

theorem drawnIds_eq (h : Numbered 0 works) :
    drawnIds works = ((works.flatMap (·.spans)).filter (·.isAnonymous)).mapIdx fun i span =>
      span.kind.idStem ++ "-" ++ toString (i + 1) := by
  rw [drawnIds, h.flatMap_ids, drawn_spanIds]
  simp only [Nat.zero_add]

/-- What a successful build leaves, in terms of its works. -/
theorem built (hd : d.IsTree) (hout : ¬ d.target plan.output <+: d.target plan.source)
    (hw : plan.Works d works) (h : (build plan d).result = .ok r) :
    ∃ m, plan.Ready d m ∧ Outside (d.target plan.output) m (build plan d).disk ∧
      Wrote (plan.writes (d.target plan.output) works) m (build plan d).disk ∧
      r = Report.ofWorks works := by
  obtain ⟨w, hsteps, rfl⟩ := build_ok h
  obtain ⟨m, hm, hdeliver⟩ := steps_eq_deliverAll hd hout hw hsteps
  obtain ⟨houtside, hwrote, hreport⟩ := deliverAll_ok (w := plan.ready m) hm.tree hm.output
    (fun work hwork => hm.names (hw.isSource hwork)) hdeliver
  have hdisk : (build plan d).disk = w.disk := by rw [build_eq, Plan.outcome, hsteps]
  rw [hdisk, hreport, foldl_count]
  refine ⟨m, hm, houtside, hwrote, ?_⟩
  simp [Plan.ready, Plan.start]

/-- A build that succeeds delivers the works of the source files: each regular file that is neither
hidden nor below the output directory is treated once, in the byte order of the paths name by name;
the ids that spans without one draw are numbered from 1 through all pages in that order; and the
report counts pages, other files and containers, and collects the warnings behind the paths. -/
theorem build_delivers (plan : Plan) (hd : d.IsTree)
    (hout : ¬ d.target plan.output <+: d.target plan.source) (h : (build plan d).result = .ok r) :
    ∃ works, plan.Works d works ∧ build plan d = plan.outcome (plan.program works) d ∧
      drawnIds works = (((works.flatMap (·.spans)).filter (·.isAnonymous)).mapIdx fun i span =>
        span.kind.idStem ++ "-" ++ toString (i + 1)) ∧
      r.pages = (works.map (·.file)).countP isPageFile ∧
      r.copied = (works.map (·.file)).countP (!isPageFile ·) ∧
      r.containers = (works.map (·.containers)).sum ∧
      r.warnings = works.flatMap (·.warnings) := by
  obtain ⟨w, hsteps, -⟩ := build_ok h
  obtain ⟨works, hw⟩ := exists_works_of_ok hd hout hsteps
  obtain ⟨m, hm, hdeliver⟩ := steps_eq_deliverAll hd hout hw hsteps
  obtain ⟨-, -, -, -, rfl⟩ := built hd hout hw h
  have hpage : ∀ work ∈ works, work.isPage = isPageFile work.file := fun work hwork =>
    (hw.ofFile work hwork).isPage_eq
  refine ⟨works, hw, ?_, drawnIds_eq hw.numbered, ?_, ?_, rfl, rfl⟩
  · rw [build_eq, Plan.outcome, Plan.outcome, program_eq hm, hsteps, hdeliver]
  · rw [List.countP_map]
    exact List.countP_congr fun work hwork => by simp [hpage work hwork]
  · rw [List.countP_map]
    exact List.countP_congr fun work hwork => by simp [hpage work hwork]

theorem build_delivers_smallSite : smallSite.IsTree ∧
    ¬ smallSite.target smallPlan.output <+: smallSite.target smallPlan.source ∧
    ∃ r, (build smallPlan smallSite).result = .ok r ∧ ∃ works, smallPlan.Works smallSite works ∧
      works.map (·.file) = [["guide", "setup.md"], ["guide-map.html"], ["notes.txt"]] ∧
      r.pages = 2 ∧ r.copied = 1 := by
  obtain ⟨r, works, h, hw, hfiles⟩ := smallSite_builds
  obtain ⟨works', hw', -, -, hpages, hcopied, -⟩ :=
    build_delivers smallPlan smallSite_isTree smallSite_outside h
  have hfiles' := (hw'.sources.unique hw.sources).trans hfiles
  rw [hfiles'] at hpages hcopied
  exact ⟨smallSite_isTree, smallSite_outside, r, h, works', hw', hfiles', hpages.trans (by decide),
    hcopied.trans (by decide)⟩

end DocTabs.Site
