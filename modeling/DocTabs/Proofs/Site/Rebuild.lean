/-
Building again. The first build has changed nothing that the second one reads, and has left room for
all that is written, unless it has copied a file that may only be read: the copy has the mode of the
file, and nothing is written over it. Without such a file the second build writes the same files again,
and with one it fails.
-/
import DocTabs.Proofs.Site.Sequence

namespace DocTabs.Site

open Disk FilePath Page Step

variable {plan : Plan} {d m e : Disk} {out : Location} {work : Work} {works : List Work}
  {r : Report} {w u : Progress}

/-- What a build that succeeded has changed lies below the output, so building again starts on the
disk as it is and has the same works. -/
theorem ready_again (hd : d.IsTree) (hout : ¬ d.target plan.output <+: d.target plan.source)
    (hw : plan.Works d works) (h : (build plan d).result = .ok r) :
    (build plan d).disk.here = d.here ∧ plan.Works (build plan d).disk works ∧
      plan.Ready (build plan d).disk (build plan d).disk := by
  obtain ⟨m, hm, houtside, -, -⟩ := built hd hout hw h
  have hhere : (build plan d).disk.here = d.here := houtside.here.trans hm.grown.here
  have htarget := target_congr hhere
  refine ⟨hhere, hw.congr hhere fun l f hl => ?_, ready_self houtside.tree ?_ ?_⟩
  · rw [houtside.same l hl]
    exact hm.grown.file_iff
  · exact htarget plan.source ▸ houtside.leads hm.source
  · exact htarget plan.output ▸ houtside.leads hm.output

section ReadOnly

variable (hnames : ∀ work ∈ works, work.file ≠ [] ∧ ∀ s ∈ work.file, IsName s) (hwork : work ∈ works)
include hnames hwork

/-- A work that may only be read, once delivered, stays in its place. -/
theorem holds_of_deliver (hmode : work.mode = .readOnly) (hd : w.disk.IsTree)
    (hp : w.disk.Leads plan.output out) (h : works.forM plan.deliver w = .ok () u) :
    Holds out w.disk (out ++ outputOf work.file) (·.mode = .readOnly) u.disk := by
  obtain ⟨before, after, rfl⟩ := List.append_of_mem hwork
  rw [forM_append, forM_cons] at h
  obtain ⟨_, v, hbefore, h⟩ := bind_ok h
  obtain ⟨_, v', hdeliver, hafter⟩ := bind_ok h
  have hkeeps : ∀ {I : Disk → Prop}, Stable out w.disk (fun _ _ => True) I →
      ∀ other ∈ before ++ work :: after, Keeps I (plan.deliver other) := fun hI other hother =>
    keeps_deliver hI hp (hnames other hother).1 (hnames other hother).2
  have hv := (Keeps.forM fun other hother => hkeeps (stable_outside ..) other (by simp [hother])).ok
    (.refl hd) hbefore
  have hv' := (hkeeps (stable_outside ..) work (by simp)).ok hv hdeliver
  obtain ⟨m, -, -, rfl⟩ := deliver_ok hv.tree (hv.leads hp) (hnames work (by simp)).1
    (hnames work (by simp)).2 hdeliver
  have hholds : Holds out w.disk (out ++ outputOf work.file) (·.mode = .readOnly)
      (m.put (out ++ outputOf work.file) (.file (work.resultFile plan.preferred))) :=
    ⟨hv', _, hmode, get?_put_self m _ (by simp [outputOf])⟩
  exact (Keeps.forM fun other hother => hkeeps (stable_readOnly ..) other (by simp [hother])).ok
    hholds hafter

/-- It is still there when everything is delivered. -/
theorem holds_of_deliverAll (hmode : work.mode = .readOnly) (hd : w.disk.IsTree)
    (hp : w.disk.Leads plan.output out) (h : plan.deliverAll works w = .ok () u) :
    Holds out w.disk (out ++ outputOf work.file) (·.mode = .readOnly) u.disk := by
  unfold Plan.deliverAll at h
  obtain ⟨_, v, hworks, h⟩ := bind_ok h
  obtain ⟨_, v', hassets, htell⟩ := bind_ok h
  have hv := holds_of_deliver hnames hwork hmode hd hp hworks
  have hv' := (keeps_writeAssets (stable_readOnly ..) hp fun _ => trivial).ok hv hassets
  cases htell
  exact hv'

/-- A work cannot be delivered where a file lies that may only be read. -/
theorem not_deliver_of_holds (hp : d.Leads plan.output out)
    (hw : Holds out d (out ++ outputOf work.file) (·.mode = .readOnly) w.disk) :
    works.forM plan.deliver w ≠ .ok () u := by
  intro h
  obtain ⟨v, v', hv, hdeliver⟩ := forM_ok (fun other hother =>
    keeps_deliver (stable_readOnly ..) hp (hnames other hother).1 (hnames other hother).2) hw h hwork
  obtain ⟨hne, hname⟩ := hnames work hwork
  obtain ⟨m, hgrown, hwritable, -⟩ := deliver_ok hv.outside.tree (hv.outside.leads hp) hne hname hdeliver
  obtain ⟨f, hmode, hf⟩ := hv.file
  rw [(writable_iff (hgrown.kept hf)).1 hwritable] at hmode
  cases hmode

end ReadOnly

/-- A build that succeeds twice copies only files that may be written. -/
theorem writable_of_build_again {r' : Report} (hd : d.IsTree)
    (hout : ¬ d.target plan.output <+: d.target plan.source) (h : (build plan d).result = .ok r)
    (hagain : (build plan (build plan d).disk).result = .ok r') {file : Location}
    (hsource : IsSource d (d.target plan.source) (d.target plan.output) file)
    (hpage : isPageFile file = false) : d.Writable (d.target plan.source ++ file) := by
  obtain ⟨w, hsteps, -⟩ := build_ok h
  obtain ⟨works, hw⟩ := exists_works_of_ok hd hout hsteps
  obtain ⟨work, hwork, rfl⟩ := List.mem_map.1 ((hw.sources.mem file).2 hsource)
  have hcopied : ∃ f, d.get? (d.target plan.source ++ work.file) = some (.file f) ∧ work.mode = f.mode := by
    cases hw.ofFile work hwork with
    | page hform => exact absurd (form_eq_verbatim.2 hpage) hform
    | copy _ hf => exact ⟨_, hf, rfl⟩
  obtain ⟨f, hf, hmode⟩ := hcopied
  rw [writable_iff hf, ← hmode]
  cases hreadOnly : work.mode with
  | readWrite => rfl
  | readOnly =>
    exfalso
    -- the first build has left a copy that may only be read, and the second one copies the file again
    obtain ⟨m, hm, hdeliver⟩ := steps_eq_deliverAll hd hout hw hsteps
    have hleft := holds_of_deliverAll (w := plan.ready m)
      (fun other hother => hm.names (hw.isSource hother)) hwork hreadOnly hm.tree hm.output hdeliver
    rw [← show (build plan d).disk = w.disk by rw [build_eq, Plan.outcome, hsteps]] at hleft
    obtain ⟨hhere, hw', hready⟩ := ready_again hd hout hw h
    have htarget := target_congr hhere
    obtain ⟨w', hsteps', -⟩ := build_ok hagain
    obtain ⟨m', hm', hdeliver'⟩ := steps_eq_deliverAll hready.tree (by rwa [htarget, htarget]) hw' hsteps'
    obtain rfl := hm'.unique hready
    obtain ⟨_, v, hworks, -⟩ := bind_ok hdeliver'
    refine not_deliver_of_holds (fun other hother => hm'.names (hw'.isSource hother)) hwork hready.output
      ⟨.refl hready.tree, ?_⟩ hworks
    rw [htarget]
    exact hleft.file

end DocTabs.Site
