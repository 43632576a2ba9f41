/-
When a build succeeds. Where source and output directories exist, all pages are texts, all copied
files may be written, and there is room for every result and every asset, nothing can go wrong, and
no directory is added or lost. A copy has the mode of its file, so the copy of a file that may only be
read would take the room of what comes to the same place later.
-/
import DocTabs.Proofs.Site.Result

namespace DocTabs.Disk

/-- The same directories lie on both disks, and where a file may be put on the first one, it may be put
on the second. -/
structure SameRoom (d e : Disk) : Prop where
  directory : ∀ l, e.get? l = some .directory ↔ d.get? l = some .directory
  writable : ∀ l, d.Writable l → e.Writable l

/-- A file can be put at the location: the directory exists, and it may be put there. -/
def HasRoom (d : Disk) (l : Location) : Prop :=
  d.get? l.dropLast = some .directory ∧ d.Writable l

instance (d : Disk) (l : Location) : Decidable (d.HasRoom l) :=
  inferInstanceAs (Decidable (_ ∧ _))

variable {d e m : Disk} {l dir : Location} {name : String} {f : RegularFile}

theorem SameRoom.refl (d : Disk) : SameRoom d d := ⟨fun _ => Iff.rfl, fun _ => id⟩

theorem SameRoom.trans (h : SameRoom d e) (h' : SameRoom e m) : SameRoom d m :=
  ⟨fun l => (h'.directory l).trans (h.directory l), fun l hl => h'.writable l (h.writable l hl)⟩

theorem SameRoom.hasRoom (h : SameRoom d e) (hl : d.HasRoom l) : e.HasRoom l :=
  ⟨(h.directory _).2 hl.1, h.writable l hl.2⟩

/-- Putting a file that may be written takes no room. -/
theorem HasRoom.sameRoom (h : d.HasRoom l) (hf : f.mode = .readWrite) :
    SameRoom d (d.put l (.file f)) := by
  have hne : l ≠ [] := fun he => h.2.not_directory (he ▸ d.get?_nil)
  refine ⟨fun k => ?_, fun k hk => ?_⟩
  · rw [get?_put d hne]
    by_cases hk : k = l
    · rw [if_pos hk, hk]
      exact ⟨nofun, fun he => absurd he h.2.not_directory⟩
    · rw [if_neg hk]
  · by_cases hkl : k = l
    · subst hkl
      exact (writable_iff (get?_put_self d _ hne)).2 hf
    · exact hk.congr (get?_put_of_ne d _ hkl)

theorem hasRoom_concat : d.HasRoom (dir ++ [name]) ↔
    d.get? dir = some .directory ∧ d.Writable (dir ++ [name]) := by
  rw [HasRoom, List.dropLast_concat]

end DocTabs.Disk

namespace DocTabs.Site

open Disk FilePath Page Step

variable {plan : Plan} {d : Disk} {out : Location} {work : Work} {works : List Work} {w : Progress}

/-! ## Deliveries with room -/

theorem deliver_of_room (hd : w.disk.IsTree) (hp : w.disk.Leads plan.output out)
    (hne : work.file ≠ []) (hnames : ∀ s ∈ work.file, IsName s)
    (hmode : work.mode = .readWrite) (hroom : w.disk.HasRoom (out ++ outputOf work.file)) :
    ∃ u, plan.deliver work w = .ok () u ∧ SameRoom w.disk u.disk := by
  have hplace : out ++ outputOf work.file =
      out ++ work.file.dropLast ++ [outputName (fileName work.file)] := by
    rw [outputOf, List.append_assoc]
  rw [hplace] at hroom
  obtain ⟨hdir, hwritable⟩ := hasRoom_concat.1 hroom
  have hput := Step.putFile_of_directory (w := { w with session.drawn := w.session.drawn + work.drawn })
    hd hp (destination_extends plan hne hnames) hdir hwritable (work.resultFile plan.preferred)
  exact ⟨_, deliver_of_putFile hput, hroom.sameRoom hmode⟩

theorem forM_deliver_of_room (hd : w.disk.IsTree) (hp : w.disk.Leads plan.output out)
    (hnames : ∀ work ∈ works, work.file ≠ [] ∧ ∀ s ∈ work.file, IsName s)
    (hmode : ∀ work ∈ works, work.mode = .readWrite)
    (hroom : ∀ work ∈ works, w.disk.HasRoom (out ++ outputOf work.file)) :
    ∃ u, works.forM plan.deliver w = .ok () u ∧ SameRoom w.disk u.disk := by
  induction works generalizing w with
  | nil => exact ⟨w, rfl, .refl _⟩
  | cons work works ih =>
    obtain ⟨⟨hne, hname⟩, hnames'⟩ := List.forall_mem_cons.1 hnames
    obtain ⟨hmode, hmode'⟩ := List.forall_mem_cons.1 hmode
    obtain ⟨hroom, hroom'⟩ := List.forall_mem_cons.1 hroom
    obtain ⟨v, hwork, hsame⟩ := deliver_of_room hd hp hne hname hmode hroom
    have hv := (keeps_deliver (stable_outside out _) hp hne hname).ok (.refl hd) hwork
    obtain ⟨u, hworks, hsame'⟩ := ih hv.tree (hv.leads hp) hnames' hmode'
      fun work hwork => hsame.hasRoom (hroom' work hwork)
    refine ⟨u, ?_, hsame.trans hsame'⟩
    rw [forM_cons, bind_eq, hwork]
    exact hworks

theorem forM_assets_of_room (hd : w.disk.IsTree) (hp : w.disk.Leads plan.output out) (as : List Asset)
    (hroom : ∀ a : Asset, w.disk.HasRoom (out ++ [Asset.directory, a.name])) :
    ∃ u, (as.forM fun a => change (plan.assetPath a) (·.write (plan.assetPath a) a.content)) w =
      .ok () u ∧ SameRoom w.disk u.disk := by
  induction as generalizing w with
  | nil => exact ⟨w, rfl, .refl _⟩
  | cons a as ih =>
    have hplace : out ++ [Asset.directory, a.name] = out ++ [Asset.directory] ++ [a.name] := by simp
    have hsame := (hroom a).sameRoom (f := { content := a.content }) rfl
    obtain ⟨hdir, hwritable⟩ := hasRoom_concat.1 (hplace ▸ hroom a)
    have ha : change (plan.assetPath a) (·.write (plan.assetPath a) a.content) w = .ok () _ :=
      change_ok.2 ⟨_, (Disk.putFile_ok hd hp (assetPath_extends plan a)).2 ⟨hdir, hwritable, rfl⟩,
        rfl⟩
    have hv := (keeps_change (stable_outside out _) hp (assetPath_extends plan a) trivial).ok
      (.refl hd) ha
    rw [← hplace] at ha hv
    obtain ⟨u, has, hsame'⟩ := ih hv.tree (hv.leads hp) fun a => hsame.hasRoom (hroom a)
    refine ⟨u, ?_, hsame.trans hsame'⟩
    rw [forM_cons, bind_eq, ha]
    exact has

/-- With room for every result and every asset all works that may be written are delivered. -/
theorem deliverAll_of_room (hd : w.disk.IsTree) (hp : w.disk.Leads plan.output out)
    (hnames : ∀ work ∈ works, work.file ≠ [] ∧ ∀ s ∈ work.file, IsName s)
    (hmode : ∀ work ∈ works, work.mode = .readWrite)
    (hroom : ∀ work ∈ works, w.disk.HasRoom (out ++ outputOf work.file))
    (hassets : ∀ a : Asset, w.disk.HasRoom (out ++ [Asset.directory, a.name])) :
    ∃ u, plan.deliverAll works w = .ok () u ∧ SameRoom w.disk u.disk := by
  obtain ⟨v, hworks, hsame⟩ := forM_deliver_of_room hd hp hnames hmode hroom
  obtain ⟨hout, -, -⟩ := forM_deliver_ok hd hp hnames hworks
  have hp' := hout.leads hp
  -- the deliveries have added no directory and lost none, so there still is room for the assets
  have hassets' := fun a => hsame.hasRoom (hassets a)
  have hdirectory : v.disk.get? (out ++ [Asset.directory]) = some .directory := by
    have := (hassets' .script).1
    rwa [show out ++ [Asset.directory, Asset.script.name] =
      out ++ [Asset.directory] ++ [Asset.script.name] by simp, List.dropLast_concat] at this
  have hmake : Step.makeDirectories plan.assetDirectory v = .ok () v := by
    rw [Step.makeDirectories, makeDirectories_of_leads
      (hp'.extends hout.tree (assetDirectory_extends plan) hdirectory)]
  obtain ⟨u, has, hsame'⟩ := forM_assets_of_room hout.tree hp' Asset.all hassets'
  refine ⟨{ u with events := u.events ++ [.wroteAssets plan.assetDirectory] ++ [.finished u.report] }, ?_,
    hsame.trans hsame'⟩
  rw [Plan.deliverAll, bind_eq, hworks]
  simp only [bind_eq, writeAssets_eq, hmake, has]
  rfl

/-- Where the directories exist and there is room for what its works write, a build succeeds. -/
theorem build_of_room (hd : d.IsTree) (hs : d.Leads plan.source (d.target plan.source))
    (ho : d.Leads plan.output (d.target plan.output))
    (hout : ¬ d.target plan.output <+: d.target plan.source) (hw : plan.Works d works)
    (hmode : ∀ work ∈ works, work.mode = .readWrite)
    (hroom : ∀ work ∈ works, d.HasRoom (d.target plan.output ++ outputOf work.file))
    (hassets : ∀ a : Asset, d.HasRoom (d.target plan.output ++ [Asset.directory, a.name])) :
    ∃ r, (build plan d).result = .ok r ∧ SameRoom d (build plan d).disk := by
  have hready := ready_self hd hs ho
  obtain ⟨u, hu, hsame⟩ := deliverAll_of_room (w := plan.ready d) hd ho
    (fun work hwork => (hw.isSource hwork).names hd hs.2) hmode hroom hassets
  have hsteps : plan.steps (plan.start d) = .ok () u := by
    rw [steps_of_ready (hasDirectory_iff.2 ⟨_, hs⟩) hready, treatAll_eq hready hout hw, hu]
  rw [build_eq, Plan.outcome, hsteps]
  exact ⟨_, rfl, hsame⟩

/-- The work of a file that may be written may be written. -/
theorem Work.OfFile.mode_eq {root : Location} (h : work.OfFile d root)
    (hw : Form.ofName (fileName work.file) = .verbatim → d.Writable (root ++ work.file)) :
    work.mode = .readWrite := by
  cases h with
  | page => rfl
  | copy hform hf => exact (writable_iff hf).1 (hw hform)

/-- The same in terms of the listed source files: their pages are texts, the other ones may be written,
and there is room for the result of each. -/
theorem build_of_listed {files : List Location} (hd : d.IsTree)
    (hs : d.Leads plan.source (d.target plan.source)) (ho : d.Leads plan.output (d.target plan.output))
    (hout : ¬ d.target plan.output <+: d.target plan.source)
    (hfiles : sourcesFrom d (d.target plan.source) (d.target plan.output) d.height [] = files)
    (htext : ∀ file ∈ files, Form.ofName (fileName file) ≠ .verbatim →
      ∃ text, d.textAt (d.target plan.source ++ file) = .ok text)
    (hwritable : ∀ file ∈ files, Form.ofName (fileName file) = .verbatim →
      d.Writable (d.target plan.source ++ file))
    (hroom : ∀ file ∈ files, d.HasRoom (d.target plan.output ++ outputOf file))
    (hassets : ∀ a : Asset, d.HasRoom (d.target plan.output ++ [Asset.directory, a.name])) :
    ∃ r works, (build plan d).result = .ok r ∧ plan.Works d works ∧ works.map (·.file) = files := by
  obtain ⟨works, hw⟩ := exists_works_of_texts plan hd hs.2 hout (by rwa [hfiles])
  have hworks : works.map (·.file) = files :=
    hfiles ▸ hw.sources.unique (sources_sourcesFrom hd hs.2 hout le_rfl)
  have hfile : ∀ work ∈ works, work.file ∈ files := fun work hwork =>
    hworks ▸ List.mem_map_of_mem hwork
  obtain ⟨r, h, -⟩ := build_of_room hd hs ho hout hw
    (fun work hwork => (hw.ofFile work hwork).mode_eq (hwritable _ (hfile work hwork)))
    (fun work hwork => hroom _ (hfile work hwork)) hassets
  exact ⟨r, works, h, hw, hworks⟩

/-! ## A small site -/

/-- A source directory with two pages, one of them in a directory below, a plain file and a hidden
one, and in it an output directory with an older page. -/
def smallSite : Disk where
  nodes := [
    (["docs"], .directory),
    (["docs", ".draft.md"], .file { content := "TODO".toUTF8 }),
    (["docs", "guide"], .directory),
    (["docs", "guide", "setup.md"], .file { content := "<!-- platformtabs --><!-- /platformtabs -->".toUTF8 }),
    (["docs", "guide-map.html"], .file { content := "<!-- codesample --><!-- /codesample -->".toUTF8 }),
    (["docs", "notes.txt"], .file { content := "notes".toUTF8 }),
    (["docs", "site"], .directory),
    (["docs", "site", "assets"], .directory),
    (["docs", "site", "guide"], .directory),
    (["docs", "site", "older.md"], .file { content := "# Older".toUTF8 })]

/-- A build from `docs` to a directory in it. -/
def smallPlan : Plan := ⟨⟨"docs"⟩, ⟨"./docs/site"⟩, "Android"⟩

theorem smallSite_isTree : smallSite.IsTree := by decide

theorem smallSite_outside : ¬ smallSite.target smallPlan.output <+: smallSite.target smallPlan.source := by
  decide

theorem smallSite_sources : sourcesFrom smallSite ["docs"] ["docs", "site"] smallSite.height [] =
    [["guide", "setup.md"], ["guide-map.html"], ["notes.txt"]] := by
  have hguide : sourcesFrom smallSite ["docs"] ["docs", "site"] 3 ["guide"] = [["guide", "setup.md"]] := by
    rw [sourcesFrom, shown_of_ordered rfl (by decide)]
    rfl
  rw [show smallSite.height = 4 from rfl, sourcesFrom, shown_of_ordered rfl (by decide)]
  show sourcesFrom smallSite ["docs"] ["docs", "site"] 3 ["guide"] ++ _ = _
  rw [hguide]
  rfl

theorem smallSite_builds : ∃ r works, (build smallPlan smallSite).result = .ok r ∧
    smallPlan.Works smallSite works ∧
    works.map (·.file) = [["guide", "setup.md"], ["guide-map.html"], ["notes.txt"]] :=
  build_of_listed smallSite_isTree (leads_iff.2 (by decide)) (leads_iff.2 (by decide)) smallSite_outside
    smallSite_sources (fun file hfile _ => by
      simp only [List.mem_cons, List.not_mem_nil, or_false] at hfile
      rcases hfile with rfl | rfl | rfl <;> exact ⟨_, textAt_of_toUTF8 rfl⟩)
    (by decide) (by decide) (fun a => by cases a <;> decide)

end DocTabs.Site
