/-
What a build leaves. Its report sums up its works, and the files of the disk are those from before
with the results of the works and then the assets written over them, one after another.
-/
import Mathlib.Algebra.GroupWithZero.Nat
import DocTabs.Proofs.Disk.Written
import DocTabs.Proofs.Site.Program

namespace DocTabs.Site

open Disk FilePath Page Step

variable {plan : Plan} {d : Disk} {out : Location} {work : Work} {works : List Work} {w u : Progress}

/-! ## Reports -/

/-- The report that counts some works. -/
def Report.ofWorks (works : List Work) : Report where
  pages := works.countP (·.isPage)
  containers := (works.map (·.containers)).sum
  copied := works.countP (!·.isPage)
  warnings := works.flatMap (·.warnings)

theorem foldl_count (works : List Work) (r : Report) :
    works.foldl (fun r work => work.count r) r = {
      pages := r.pages + (Report.ofWorks works).pages
      containers := r.containers + (Report.ofWorks works).containers
      copied := r.copied + (Report.ofWorks works).copied
      warnings := r.warnings ++ (Report.ofWorks works).warnings } := by
  induction works generalizing r with
  | nil => simp [Report.ofWorks]
  | cons work works ih =>
    rw [List.foldl_cons, ih]
    cases work <;>
      simp [Report.ofWorks, Work.count, Work.isPage, Work.containers, Work.warnings] <;> omega

/-! ## Deliveries -/

/-- What is written for a work: where, and the file. -/
def Plan.writeOf (plan : Plan) (out : Location) (work : Work) : Location × RegularFile :=
  (out ++ outputOf work.file, work.resultFile plan.preferred)

/-- What is written for an asset. -/
def Asset.writeOf (out : Location) (a : Asset) : Location × RegularFile :=
  (out ++ [Asset.directory, a.name], { content := a.content })

/-- All that is written by a build. -/
def Plan.writes (plan : Plan) (out : Location) (works : List Work) : List (Location × RegularFile) :=
  works.map (plan.writeOf out) ++ Asset.all.map (·.writeOf out)

/-- Deliveries that succeed have written the results and counted the works, one after another. -/
theorem forM_deliver_ok (hd : w.disk.IsTree) (hp : w.disk.Leads plan.output out)
    (hnames : ∀ work ∈ works, work.file ≠ [] ∧ ∀ s ∈ work.file, IsName s)
    (h : works.forM plan.deliver w = .ok () u) :
    Outside out w.disk u.disk ∧ Wrote (works.map (plan.writeOf out)) w.disk u.disk ∧
      u.report = works.foldl (fun r work => work.count r) w.report := by
  induction works generalizing w with
  | nil => cases h; exact ⟨.refl hd, .refl _, rfl⟩
  | cons work works ih =>
    -- one delivery is one write, and those after it are written over its disk
    obtain ⟨⟨hne, hname⟩, hnames'⟩ := List.forall_mem_cons.1 hnames
    rw [forM_cons] at h
    obtain ⟨_, v, hwork, hworks⟩ := bind_ok h
    have hv := (keeps_deliver (stable_outside out _) hp hne hname).ok (.refl hd) hwork
    obtain ⟨m, hgrown, -, rfl⟩ := deliver_ok hd hp hne hname hwork
    obtain ⟨hout, hwrote, hreport⟩ := ih hv.tree (hv.leads hp) hnames' hworks
    exact ⟨hv.trans hout List.prefix_rfl, (hgrown.wrote (by simp [outputOf]) _).append hwrote, hreport⟩

theorem forM_assets_ok (hd : w.disk.IsTree) (hp : w.disk.Leads plan.output out) (as : List Asset)
    (h : (as.forM fun a => change (plan.assetPath a) (·.write (plan.assetPath a) a.content)) w =
      .ok () u) :
    Outside out w.disk u.disk ∧ Wrote (as.map (·.writeOf out)) w.disk u.disk ∧
      u.report = w.report := by
  induction as generalizing w with
  | nil => cases h; exact ⟨.refl hd, .refl _, rfl⟩
  | cons a as ih =>
    rw [forM_cons] at h
    obtain ⟨_, v, ha, has⟩ := bind_ok h
    have hv := (keeps_change (stable_outside out _) hp (assetPath_extends plan a) trivial).ok
      (.refl hd) ha
    obtain ⟨m, hm, rfl⟩ := change_ok.1 ha
    obtain ⟨-, -, rfl⟩ := (Disk.putFile_ok hd hp (assetPath_extends plan a)).1 hm
    obtain ⟨hout, hwrote, hreport⟩ := ih hv.tree (hv.leads hp) has
    refine ⟨hv.trans hout List.prefix_rfl, ?_, hreport⟩
    rw [List.map_cons, ← List.singleton_append]
    refine Wrote.append ?_ hwrote
    rw [List.append_assoc]
    exact (Grown.refl (P := fun _ => True) w.disk).wrote (by simp) _

theorem writeAssets_ok (hd : w.disk.IsTree) (hp : w.disk.Leads plan.output out)
    (h : plan.writeAssets w = .ok () u) :
    Outside out w.disk u.disk ∧ Wrote (Asset.all.map (·.writeOf out)) w.disk u.disk ∧
      u.report = w.report := by
  rw [writeAssets_eq] at h
  obtain ⟨_, v, hmake, h⟩ := bind_ok h
  obtain ⟨_, v', hassets, htell⟩ := bind_ok h
  have hv := (keeps_makeDirectories (stable_outside out _) hp (assetDirectory_extends plan)).ok (.refl hd)
    hmake
  obtain ⟨m, hm, rfl⟩ : ∃ m, Grown (fun _ => True) w.disk m ∧ v = { w with disk := m } := by
    obtain ⟨m, hm, rfl⟩ := makeDirectories_ok.1 hmake
    have hgrown := (makeDirectories_grown hd plan.assetDirectory).2
    rw [hm] at hgrown
    exact ⟨m, hgrown, rfl⟩
  obtain ⟨hout, hwrote, hreport⟩ := forM_assets_ok hv.tree (hv.leads hp) _ hassets
  cases htell
  exact ⟨hv.trans hout List.prefix_rfl, hm.wrote_nil.append hwrote, hreport⟩

/-- All works delivered: what lies outside the output is unchanged, the files are those that the
writes leave, and the report counts the works. -/
theorem deliverAll_ok (hd : w.disk.IsTree) (hp : w.disk.Leads plan.output out)
    (hnames : ∀ work ∈ works, work.file ≠ [] ∧ ∀ s ∈ work.file, IsName s)
    (h : plan.deliverAll works w = .ok () u) :
    Outside out w.disk u.disk ∧ Wrote (plan.writes out works) w.disk u.disk ∧
      u.report = works.foldl (fun r work => work.count r) w.report := by
  unfold Plan.deliverAll at h
  obtain ⟨_, v, hworks, h⟩ := bind_ok h
  obtain ⟨_, v', hassets, htell⟩ := bind_ok h
  obtain ⟨hv, hwrote, hreport⟩ := forM_deliver_ok hd hp hnames hworks
  obtain ⟨hv', hwrote', hreport'⟩ := writeAssets_ok hv.tree (hv.leads hp) hassets
  cases htell
  exact ⟨hv.trans hv' List.prefix_rfl, hwrote.append hwrote', hreport'.trans hreport⟩

end DocTabs.Site
