/-
A build as the delivery of its works. The walk treats the source files in order, each on a disk that
still reads as the first one outside the output directory, with the session that the files before it
have left; so a build that succeeds does what a program does that knows all works beforehand.
-/
import DocTabs.Proofs.Site.Walk
import DocTabs.Proofs.Site.Work

namespace DocTabs.Site

open Disk FilePath Page Step

variable {plan : Plan} {d e : Disk} {root out : Location} {work : Work} {works : List Work}
  {w u : Progress}

/-! ## Works of files outside the output -/

theorem textAt_of_treat {file : Location} (hform : Form.ofName (fileName file) ≠ .verbatim)
    (h : plan.treat root file w = .ok () u) : ∃ text, w.disk.textAt (root ++ file) = .ok text := by
  rw [treat_of_page plan root hform] at h
  obtain ⟨text, v, hlook, -⟩ := bind_ok h
  exact ⟨text, look_ok hlook⟩

theorem Work.OfFile.congr (h : work.OfFile d root)
    (hfile : ∀ f, e.get? (root ++ work.file) = some (.file f) ↔
      d.get? (root ++ work.file) = some (.file f)) : work.OfFile e root := by
  cases h with
  | page hform htext hcut =>
    obtain ⟨f, hf, hdecode⟩ := textAt_eq_ok.1 htext
    exact .page hform (textAt_eq_ok.2 ⟨f, (hfile f).2 hf, hdecode⟩) hcut
  | copy hform hf => exact .copy hform ((hfile _).2 hf)

theorem Plan.Works.isSource (h : plan.Works d works) (hwork : work ∈ works) :
    IsSource d (d.target plan.source) (d.target plan.output) work.file :=
  (h.sources.mem _).1 (List.mem_map_of_mem hwork)

/-- Disks with the same files outside the output directory have the same works. -/
theorem Plan.Works.congr (h : plan.Works d works) (hhere : e.here = d.here)
    (hfile : ∀ l f, ¬ d.target plan.output <+: l →
      (e.get? l = some (.file f) ↔ d.get? l = some (.file f))) : plan.Works e works := by
  refine ⟨?_, fun work hwork => ?_, h.numbered⟩ <;> rw [target_congr hhere]
  · rw [target_congr hhere]
    exact h.sources.congr hfile
  · exact (h.ofFile work hwork).congr fun f => hfile _ f (h.isSource hwork).outside

/-- The names of a source file, of which there is at least one. -/
theorem IsSource.names {file : Location} (hd : d.IsTree) (hroot : d.get? root = some .directory)
    (h : IsSource d root out file) : file ≠ [] ∧ ∀ s ∈ file, IsName s := by
  obtain ⟨f, hf⟩ := h.isFile
  refine ⟨?_, fun s hs => hd.isName hf s (List.mem_append_right _ hs)⟩
  rintro rfl
  rw [List.append_nil, hroot] at hf
  cases hf

theorem Plan.Ready.names {m : Disk} {file : Location} (hm : plan.Ready d m)
    (h : IsSource d (d.target plan.source) (d.target plan.output) file) :
    file ≠ [] ∧ ∀ s ∈ file, IsName s := by
  have h' : IsSource m (d.target plan.source) (d.target plan.output) file :=
    ⟨h.isFile.imp fun _ hf => hm.grown.kept hf, h.shown, h.outside⟩
  exact h'.names hm.tree hm.source.2

/-! ## One delivery -/

/-- A delivery that succeeds has put the result below the output directory, where it may be, and counted
the work. -/
theorem deliver_ok (hd : w.disk.IsTree) (hp : w.disk.Leads plan.output out) (hne : work.file ≠ [])
    (hnames : ∀ s ∈ work.file, IsName s) (h : plan.deliver work w = .ok () u) :
    ∃ m : Disk, Grown (out <+: ·) w.disk m ∧ m.Writable (out ++ outputOf work.file) ∧ u = {
      disk := m.put (out ++ outputOf work.file) (.file (work.resultFile plan.preferred))
      session.preferred := w.session.preferred
      session.drawn := w.session.drawn + work.drawn
      report := work.count w.report
      events := w.events ++ work.events plan.preferred } := by
  rw [deliver_eq] at h
  split at h
  · rename_i v hput
    obtain ⟨m, -, hgrown, -, hwritable, rfl⟩ := Step.putFile_ok (w := { w with
      session.drawn := w.session.drawn + work.drawn }) hd hp (destination_extends plan hne hnames) hput
    cases h
    rw [outputOf, ← List.append_assoc]
    exact ⟨m, hgrown, hwritable, rfl⟩
  · cases h

theorem keeps_deliver {I : Disk → Prop} (hI : Stable out d (fun _ _ => True) I)
    (hp : d.Leads plan.output out) (hne : work.file ≠ []) (hnames : ∀ s ∈ work.file, IsName s) :
    Keeps I (plan.deliver work) :=
  .bind (keeps_onSession _) fun _ =>
    .bind (keeps_putFile hI hp (destination_extends plan hne hnames) trivial)
      fun _ => keeps_of_disk fun _ => rfl

/-- Treating the files of numbered works is delivering the works. -/
theorem forM_treat_eq_deliver (hp : d.Leads plan.output out)
    (hof : ∀ work ∈ works, work.OfFile d root)
    (hnames : ∀ work ∈ works, work.file ≠ [] ∧ ∀ s ∈ work.file, IsName s)
    (hout : ∀ work ∈ works, ¬ out <+: root ++ work.file) (hw : Outside out d w.disk)
    (hpreferred : w.session.preferred = plan.preferred) (hnum : Numbered w.session.drawn works) :
    (works.map (·.file)).forM (plan.treat root) w = works.forM plan.deliver w := by
  -- a delivery leaves a disk and a number of drawn ids from which the works after it go on
  induction works generalizing w with
  | nil => rfl
  | cons work works ih =>
    obtain ⟨hof, hof'⟩ := List.forall_mem_cons.1 hof
    obtain ⟨⟨hne, hname⟩, hnames'⟩ := List.forall_mem_cons.1 hnames
    obtain ⟨hout, hout'⟩ := List.forall_mem_cons.1 hout
    rw [List.map_cons, forM_cons, forM_cons, bind_eq, bind_eq,
      treat_eq_deliver hp hof hne hname hout hw hpreferred hnum.1]
    cases hdeliver : plan.deliver work w with
    | error e u => rfl
    | ok a u =>
      have hu := (keeps_deliver (stable_outside out _) hp hne hname).ok hw hdeliver
      obtain ⟨m, -, -, rfl⟩ := deliver_ok hw.tree (hw.leads hp) hne hname hdeliver
      exact ih hof' hnames' hout' hu hpreferred hnum.2

/-! ## The whole build -/

/-- What a build does with its works when the output directory is made. -/
def Plan.deliverAll (plan : Plan) (works : List Work) : Step Unit := do
  works.forM plan.deliver
  plan.writeAssets
  tell (.finished (← get).report)

/-- What a build does that knows its works. -/
def Plan.program (plan : Plan) (works : List Work) : Step Unit := do
  tell (.started plan.source plan.output)
  makeDirectories plan.output
  plan.deliverAll works

variable {m : Disk}

theorem Plan.Ready.congr (hm : plan.Ready d m) (hw : plan.Works d works) : plan.Works m works :=
  hw.congr hm.grown.here fun _ _ _ => hm.grown.file_iff

/-- The walk on a disk with the output directory delivers the works. -/
theorem treatAll_eq (hm : plan.Ready d m) (hout : ¬ d.target plan.output <+: d.target plan.source)
    (hw : plan.Works d works) :
    plan.treatAll (d.target plan.source) (d.target plan.output) m.height (plan.ready m) =
      plan.deliverAll works (plan.ready m) := by
  have hw' := hm.congr hw
  have hnames : ∀ work ∈ works, work.file ≠ [] ∧ ∀ s ∈ work.file, IsName s := fun work hwork =>
    (hw'.isSource hwork).names hm.tree (target_congr hm.grown.here plan.source ▸ hm.source.2)
  have hsources := hw'.sources
  rw [target_congr hm.grown.here, target_congr hm.grown.here] at hsources
  have hfiles : sourcesFrom m (d.target plan.source) (d.target plan.output) m.height [] =
      works.map (·.file) :=
    (sources_sourcesFrom hm.tree hm.source.2 hout le_rfl).unique hsources
  have hwalk : plan.visit (d.target plan.source) (d.target plan.output) m.height [] (plan.ready m) =
      works.forM plan.deliver (plan.ready m) := by
    rw [visit_eq hm.tree hm.output (by rwa [List.append_nil]) (.refl hm.tree), hfiles]
    refine forM_treat_eq_deliver hm.output (fun work hwork => ?_) hnames
      (fun work hwork => (hw.isSource hwork).outside) (.refl hm.tree) rfl hw.numbered
    have := hw'.ofFile work hwork
    rwa [target_congr hm.grown.here] at this
  rw [Plan.treatAll, Plan.deliverAll, bind_eq, bind_eq, hwalk]

theorem program_eq (hm : plan.Ready d m) (works : List Work) :
    plan.program works (plan.start d) = plan.deliverAll works (plan.ready m) := by
  rw [Plan.program, bind_eq, show tell (.started plan.source plan.output) (plan.start d) =
    .ok () { plan.start d with events := [.started plan.source plan.output] } from rfl]
  simp only [bind_eq, Step.makeDirectories, Plan.start, hm.made]
  rfl

/-- A build that succeeds does what its works tell. -/
theorem steps_eq_deliverAll (hd : d.IsTree) (hout : ¬ d.target plan.output <+: d.target plan.source)
    (hw : plan.Works d works) (h : plan.steps (plan.start d) = .ok () w) :
    ∃ m, plan.Ready d m ∧ plan.deliverAll works (plan.ready m) = .ok () w := by
  rcases steps_cases plan hd with ⟨e, u, he, -⟩ | ⟨m, hm, he⟩
  · rw [h] at he; cases he
  · exact ⟨m, hm, by rw [← treatAll_eq hm hout hw, ← he, h]⟩

theorem exists_works_of_texts (plan : Plan) (hd : d.IsTree)
    (hroot : d.get? (d.target plan.source) = some .directory)
    (hout : ¬ d.target plan.output <+: d.target plan.source)
    (htext : ∀ file ∈ sourcesFrom d (d.target plan.source) (d.target plan.output) d.height [],
      Form.ofName (fileName file) ≠ .verbatim → ∃ text, d.textAt (d.target plan.source ++ file) = .ok text) :
    ∃ works, plan.Works d works := by
  have hsources := sources_sourcesFrom hd hroot hout le_rfl
  obtain ⟨works, hfiles, hof, hnum⟩ := exists_works
    (fun file hfile => ((hsources.mem file).1 hfile).isFile) htext 0
  exact ⟨works, hfiles ▸ hsources, hof, hnum⟩

/-- A build that succeeds has works: all its pages are texts. -/
theorem exists_works_of_ok (hd : d.IsTree) (hout : ¬ d.target plan.output <+: d.target plan.source)
    (h : plan.steps (plan.start d) = .ok () w) : ∃ works, plan.Works d works := by
  rcases steps_cases plan hd with ⟨e, u, he, -⟩ | ⟨m, hm, he⟩
  · rw [h] at he; cases he
  have htarget := target_congr hm.grown.here
  have hsources := sources_sourcesFrom hm.tree hm.source.2 hout le_rfl
  rw [h, Plan.treatAll] at he
  obtain ⟨_, u, hvisit, -⟩ := bind_ok he.symm
  rw [visit_eq hm.tree hm.output (by rwa [List.append_nil]) (.refl hm.tree)] at hvisit
  have hkeeps : ∀ file ∈ sourcesFrom m (d.target plan.source) (d.target plan.output) m.height [],
      Keeps (Outside (d.target plan.output) m) (plan.treat (d.target plan.source) file) :=
    fun file hfile => by
      obtain ⟨hne, hnames⟩ := ((hsources.mem file).1 hfile).names hm.tree hm.source.2
      exact keeps_treat (stable_outside _ m) hm.output hne hnames fun _ _ => trivial
  obtain ⟨works, hworks⟩ := exists_works_of_texts plan hm.tree
    (by rw [htarget]; exact hm.source.2) (by rwa [htarget, htarget]) (by
      rw [htarget, htarget]
      intro file hfile hform
      -- the page was read when its turn came, from a disk that read there as the first one
      obtain ⟨v, v', hv, htreat⟩ := forM_ok hkeeps (.refl hm.tree) hvisit hfile
      rw [← textAt_congr (hv.same _ ((hsources.mem file).1 hfile).outside)]
      exact textAt_of_treat hform htreat)
  exact ⟨works, hworks.congr hm.grown.here.symm fun l f _ => hm.grown.file_iff.symm⟩

end DocTabs.Site
