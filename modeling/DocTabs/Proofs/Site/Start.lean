/-
How a build starts. It needs the source directory, makes the output directory, and then knows where
both lie: where the spellings of their paths tell.
-/
import DocTabs.Site.Build
import DocTabs.Proofs.Site.Step

namespace DocTabs.Site

open Disk FilePath Step

variable {plan : Plan} {d m : Disk}

/-- The state that a build starts from. -/
def Plan.start (plan : Plan) (d : Disk) : Progress :=
  ⟨d, ⟨plan.preferred, 0⟩, {}, []⟩

/-- The state of a build when the output directory is made. -/
def Plan.ready (plan : Plan) (m : Disk) : Progress :=
  { plan.start m with events := [.started plan.source plan.output] }

/-- The steps of a build after the output directory is made. -/
def Plan.treatAll (plan : Plan) (root out : Location) (depth : Nat) : Step Unit := do
  plan.visit root out depth []
  plan.writeAssets
  tell (.finished (← get).report)

/-- `m` is the disk `d` after the output directory is made: a tree on which the paths of source and
output lead where their spellings tell. -/
structure Plan.Ready (plan : Plan) (d m : Disk) : Prop where
  made : d.makeDirectories plan.output = (none, m)
  tree : m.IsTree
  grown : Grown (fun _ => True) d m
  source : m.Leads plan.source (d.target plan.source)
  output : m.Leads plan.output (d.target plan.output)

/-- On a tree with both directories nothing is to be made. -/
theorem ready_self (hd : d.IsTree) (hs : d.Leads plan.source (d.target plan.source))
    (ho : d.Leads plan.output (d.target plan.output)) : plan.Ready d d :=
  ⟨makeDirectories_of_leads ho, hd, .refl d, hs, ho⟩

theorem Plan.Ready.unique {m' : Disk} (hm : plan.Ready d m) (hm' : plan.Ready d m') : m = m' :=
  (Prod.mk.inj (hm.made.symm.trans hm'.made)).2

theorem steps_of_not_directory (h : d.hasDirectory plan.source = false) :
    plan.steps (plan.start d) = .error (.sourceNotFound plan.source) (plan.start d) := by
  unfold Plan.steps
  rw [get_bind]
  simp only [Plan.start, h]
  rfl

theorem steps_of_directory (h : d.hasDirectory plan.source = true) :
    plan.steps (plan.start d) = (do
      makeDirectories plan.output
      let root ← look plan.source (·.canonical plan.source)
      let out ← look plan.output (·.canonical plan.output)
      plan.treatAll root out (← get).disk.height : Step Unit)
        { plan.start d with events := [.started plan.source plan.output] } := by
  unfold Plan.steps
  rw [get_bind]
  simp only [Plan.start, h]
  rfl

/-- When both directories are there, the source files are treated. -/
theorem steps_of_ready (hs : d.hasDirectory plan.source = true) (hm : plan.Ready d m) :
    plan.steps (plan.start d) =
      plan.treatAll (d.target plan.source) (d.target plan.output) m.height (plan.ready m) := by
  rw [steps_of_directory hs]
  simp only [bind_eq, Step.makeDirectories, look, Plan.start, hm.made, canonical_of_leads hm.source,
    canonical_of_leads hm.output]
  rfl

/-- How a build starts. Without the source directory it does nothing; where the output directory
cannot be made the disk has only grown by directories; otherwise the source files are treated. -/
theorem steps_starts (plan : Plan) (hd : d.IsTree) :
    (d.hasDirectory plan.source = false ∧
      plan.steps (plan.start d) = .error (.sourceNotFound plan.source) (plan.start d)) ∨
    ((∀ m, ¬ plan.Ready d m) ∧ ∃ path fault w,
      plan.steps (plan.start d) = .error (.access path fault) w ∧
        Grown (fun _ => True) d w.disk) ∨
    (d.hasDirectory plan.source = true ∧ ∃ m : Disk, plan.Ready d m ∧ plan.steps (plan.start d) =
      plan.treatAll (d.target plan.source) (d.target plan.output) m.height (plan.ready m)) := by
  cases hs : d.hasDirectory plan.source with
  | false => exact .inl ⟨rfl, steps_of_not_directory hs⟩
  | true =>
    obtain ⟨root, hroot⟩ := hasDirectory_iff.1 hs
    obtain rfl := hroot.target
    obtain ⟨htree, hgrown⟩ := makeDirectories_grown hd plan.output
    have hlocate := fun l => leads_of_makeDirectories hd (p := plan.output) (l := l)
    rcases hm : d.makeDirectories plan.output with ⟨_ | fault, m⟩ <;> rw [hm] at htree hgrown hlocate
    · have hsource := hgrown.leads hroot
      cases ho : m.canonical plan.output with
      | ok out =>
        -- the path leads to what was made, and where that is its spelling tells
        have hout := hlocate out rfl (locate_of_canonical ho)
        obtain rfl : out = d.target plan.output := by rw [hout.target, target_congr hgrown.here]
        have hready : plan.Ready d m := ⟨hm, htree, hgrown, hsource, hout⟩
        exact .inr (.inr ⟨rfl, m, hready, steps_of_ready hs hready⟩)
      | error fault =>
        refine .inr (.inl ⟨fun m' hm' => ?_, plan.output, fault, plan.ready m, ?_, hgrown⟩)
        · obtain rfl : m = m' := (Prod.mk.inj (hm.symm.trans hm'.made)).2
          rw [canonical_of_leads hm'.output] at ho
          cases ho
        · rw [steps_of_directory hs]
          simp only [bind_eq, Step.makeDirectories, look, Plan.start, hm, canonical_of_leads hsource, ho]
          rfl
    · refine .inr (.inl ⟨fun m' hm' => ?_, plan.output, fault, plan.ready m, ?_, hgrown⟩)
      · rw [hm'.made] at hm
        cases hm
      · rw [steps_of_directory hs]
        simp only [bind_eq, Step.makeDirectories, Plan.start, hm]
        rfl

/-- A build stops on a disk that has only grown by directories, or makes the output directory and
treats the source files. -/
theorem steps_cases (plan : Plan) (hd : d.IsTree) :
    (∃ e w, plan.steps (plan.start d) = .error e w ∧ Grown (fun _ => True) d w.disk) ∨
      ∃ m : Disk, plan.Ready d m ∧ plan.steps (plan.start d) =
        plan.treatAll (d.target plan.source) (d.target plan.output) m.height (plan.ready m) := by
  rcases steps_starts plan hd with ⟨-, h⟩ | ⟨-, path, fault, w, h, hgrown⟩ | ⟨-, h⟩
  · exact .inl ⟨_, _, h, .refl d⟩
  · exact .inl ⟨_, w, h, hgrown⟩
  · exact .inr h

/-! ## Outcomes -/

/-- The outcome of steps that start from a disk. -/
def Plan.outcome (plan : Plan) (m : Step Unit) (d : Disk) : Outcome :=
  match m (plan.start d) with
  | .ok _ w => ⟨.ok w.report, w.disk, w.events⟩
  | .error e w => ⟨.error e, w.disk, w.events⟩

theorem build_eq (plan : Plan) (d : Disk) : build plan d = plan.outcome plan.steps d := rfl

theorem build_disk (plan : Plan) (d : Disk) :
    (build plan d).disk = (plan.steps.final (plan.start d)).disk := by
  rw [build_eq, Plan.outcome, final]
  cases plan.steps (plan.start d) <;> rfl

/-- Without a source directory a build changes nothing. -/
theorem build_of_not_directory (h : d.hasDirectory plan.source = false) :
    (build plan d).result = .error (.sourceNotFound plan.source) ∧ (build plan d).disk = d := by
  rw [build_eq, Plan.outcome, steps_of_not_directory h]
  exact ⟨rfl, rfl⟩

theorem build_ok {r : Report} (h : (build plan d).result = .ok r) :
    ∃ w, plan.steps (plan.start d) = .ok () w ∧ w.report = r := by
  rw [build_eq, Plan.outcome] at h
  cases hsteps : plan.steps (plan.start d) with
  | ok a w => rw [hsteps] at h; exact ⟨w, rfl, Except.ok.inj h⟩
  | error e w => rw [hsteps] at h; cases h

end DocTabs.Site
