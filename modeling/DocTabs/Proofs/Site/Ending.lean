/-
How a build ends, wherever it does. It treats the source files one after another and then writes the
assets. A step that fails has at most made directories, so a build that fails leaves what it would
have left if the steps before the failing one had been all that it was to do.
-/
import DocTabs.Proofs.Disk.Written
import DocTabs.Proofs.Site.Result

namespace DocTabs.Site

open Disk FilePath Step

variable {plan : Plan} {d : Disk} {root out dir file l : Location} {files : List Location}
  {w u : Progress}

namespace Step

/-! ## Steps that write one file -/

/-- What a step comes to that puts one file at `l` on the disk `d`: where it fails, it does so at an
access and has changed no file. -/
inductive Puts (l : Location) (d : Disk) : EStateM.Result BuildError Progress Unit → Prop
  | fails {path : FilePath} {fault : Fault} {u : Progress} :
      Wrote [] d u.disk → Puts l d (.error (.access path fault) u)
  | puts {f : RegularFile} {u : Progress} :
      Wrote [(l, f)] d u.disk → Puts l d (.ok () u)

/-- Steps behind the file that do not fail and leave the disk alone. -/
theorem Puts.bind {m f : Step Unit} (h : Puts l d (m w))
    (hf : ∀ u, ∃ v, f u = .ok () v ∧ v.disk = u.disk) : Puts l d ((do m; f : Step Unit) w) := by
  rw [bind_eq]
  cases hm : m w with
  | error e u => rwa [hm] at h
  | ok a u =>
    rw [hm] at h
    obtain ⟨v, hv, hdisk⟩ := hf u
    dsimp only
    rw [hv]
    cases h with
    | puts hwrote => exact .puts (hdisk.symm ▸ hwrote)

variable {p q : FilePath} {name : String}

/-- Putting a file below an existing directory, after the directories on the way. -/
theorem puts_of_change (hd : w.disk.IsTree) (hp : w.disk.Leads p out)
    (hq : Extends p (dir ++ [name]) q) {f : Disk → Except Fault Disk}
    (hf : ∀ m e, m.IsTree → m.Leads p out → f m = .ok e → m.get? (out ++ dir) = some .directory ∧
      m.Writable (out ++ dir ++ [name]) ∧ ∃ file, e = m.put (out ++ dir ++ [name]) (.file file)) :
    Puts (out ++ dir ++ [name]) w.disk ((do makeParent q; change q f : Step Unit) w) := by
  obtain ⟨m, -, hgrown, hcases⟩ := put_cases hd hp hq (P := fun _ => True) fun m e hm hl he => by
    obtain ⟨h1, h2, file, rfl⟩ := hf m e hm hl he
    exact ⟨h1, h2, file, trivial, rfl⟩
  rcases hcases with ⟨path, fault, he⟩ | ⟨-, -, file, -, he⟩ <;> rw [he]
  · exact .fails hgrown.wrote_nil
  · exact .puts (hgrown.wrote (by simp) file)

theorem puts_putFile (hd : w.disk.IsTree) (hp : w.disk.Leads p out)
    (hq : Extends p (dir ++ [name]) q) (file : RegularFile) :
    Puts (out ++ dir ++ [name]) w.disk (putFile q file w) :=
  puts_of_change hd hp hq fun m e hm hl he => by
    obtain ⟨h1, h2, rfl⟩ := (Disk.putFile_ok hm hl hq).1 he
    exact ⟨h1, h2, file, rfl⟩

theorem puts_copy (hd : w.disk.IsTree) (hp : w.disk.Leads p out) (hq : Extends p (dir ++ [name]) q)
    (source : Location) : Puts (out ++ dir ++ [name]) w.disk (copy source q w) :=
  puts_of_change hd hp hq fun _ _ hm hl he => Disk.copy_ok hm hl hq he

end Step

/-! ## Treating files -/

/-- Treating a file puts its result at its place, or fails at an access. -/
theorem puts_treat (hd : w.disk.IsTree) (hp : w.disk.Leads plan.output out) (hne : file ≠ [])
    (hnames : ∀ s ∈ file, IsName s) : Puts (out ++ outputOf file) w.disk (plan.treat root file w) := by
  have hdest := destination_extends plan hne hnames
  rw [outputOf, ← List.append_assoc]
  by_cases hform : Form.ofName (fileName file) = .verbatim
  · rw [treat_of_verbatim plan root hform]
    exact (puts_copy hd hp hdest _).bind fun u => ⟨_, rfl, rfl⟩
  · rw [treat_of_page plan root hform, bind_eq]
    cases htext : w.disk.textAt (root ++ file) with
    | error fault =>
      simp only [look, htext]
      exact .fails (.refl _)
    | ok text =>
      -- the page is expanded on the session, and then written from a state with the same disk
      let expanded := expandPage (Form.ofName (fileName file)) file text w.session
      have hexpand : onSession (expandPage (Form.ofName (fileName file)) file text) w =
          .ok expanded.1 { w with session := expanded.2 } := rfl
      simp only [look, htext, bind_eq _ _ w, hexpand]
      refine Puts.bind ?_ fun u => ⟨_, record_eq _ _ u, rfl⟩
      exact puts_putFile (w := { w with session := expanded.2 }) hd hp hdest _

/-- Files that are all treated have their results written, one after another. -/
theorem forM_treat_ok (hd : w.disk.IsTree) (hp : w.disk.Leads plan.output out)
    (hnames : ∀ file ∈ files, file ≠ [] ∧ ∀ s ∈ file, IsName s)
    (h : files.forM (plan.treat root) w = .ok () u) : Outside out w.disk u.disk ∧
      ∃ writes, writes.map (·.1) = files.map (out ++ outputOf ·) ∧ Wrote writes w.disk u.disk := by
  induction files generalizing w with
  | nil => cases h; exact ⟨.refl hd, [], rfl, .refl _⟩
  | cons file files ih =>
    obtain ⟨⟨hne, hname⟩, hnames'⟩ := List.forall_mem_cons.1 hnames
    rw [forM_cons] at h
    obtain ⟨_, v, hfile, hfiles⟩ := bind_ok h
    have hv := (keeps_treat (stable_outside out _) hp hne hname fun _ _ => trivial).ok (.refl hd) hfile
    have hputs : Puts (out ++ outputOf file) w.disk (plan.treat root file w) :=
      puts_treat hd hp hne hname
    rw [hfile] at hputs
    obtain ⟨hout, writes, hplaces, hwrote⟩ := ih hv.tree (hv.leads hp) hnames' hfiles
    cases hputs with
    | @puts f _ hput =>
      exact ⟨hv.trans hout List.prefix_rfl, _ :: writes, by rw [List.map_cons, hplaces, List.map_cons],
        hput.append hwrote⟩

/-! ## Writing assets -/

theorem forM_assets_error (hd : w.disk.IsTree) (hp : w.disk.Leads plan.output out) {as : List Asset}
    {error : BuildError}
    (h : (as.forM fun a => change (plan.assetPath a) (·.write (plan.assetPath a) a.content)) w =
      .error error u) : ∃ path fault written, error = .access path fault ∧ written <+: as ∧
        Wrote (written.map (·.writeOf out)) w.disk u.disk := by
  obtain ⟨before, a, after, v, rfl, hbefore, ha⟩ := forM_error h
  obtain ⟨fault, rfl, rfl⟩ := change_error ha
  obtain ⟨-, hwrote, -⟩ := forM_assets_ok hd hp before hbefore
  exact ⟨_, fault, before, rfl, List.prefix_append .., hwrote⟩

/-- Assets that cannot all be written fail at an access, behind the first of them. -/
theorem writeAssets_error (hd : w.disk.IsTree) (hp : w.disk.Leads plan.output out)
    {error : BuildError} (h : plan.writeAssets w = .error error u) :
    ∃ path fault written, error = .access path fault ∧ written <+: Asset.all ∧
      Wrote (written.map (·.writeOf out)) w.disk u.disk := by
  have hgrown := (makeDirectories_grown hd plan.assetDirectory).2
  rw [writeAssets_eq] at h
  rcases bind_error h with h | ⟨_, v, hmake, h⟩
  · obtain ⟨fault, m, hm, rfl, rfl⟩ := makeDirectories_error h
    rw [hm] at hgrown
    exact ⟨_, fault, [], rfl, List.nil_prefix, hgrown.wrote_nil⟩
  · have hv := (keeps_makeDirectories (stable_outside out _) hp (assetDirectory_extends plan)).ok
      (.refl hd) hmake
    obtain ⟨m, hm, rfl⟩ := makeDirectories_ok.1 hmake
    rw [hm] at hgrown
    rcases bind_error h with h | ⟨_, _, -, h⟩
    · obtain ⟨path, fault, written, rfl, hwritten, hwrote⟩ := forM_assets_error hv.tree (hv.leads hp) h
      exact ⟨path, fault, written, rfl, hwritten, hgrown.wrote_nil.append hwrote⟩
    · cases h

/-! ## Endings -/

/-- The files have been treated, one after another from the start of the walk, and no others. -/
def Plan.Treated (plan : Plan) (d : Disk) (files : List Location) (u : Progress) : Prop :=
  ∃ m, plan.Ready d m ∧ files.forM (plan.treat (d.target plan.source)) (plan.ready m) = .ok () u

/-- How a build ends: its result, the disk that it leaves, the source files that it has treated, and
the assets that it has written. -/
inductive Plan.Ends (plan : Plan) (d : Disk) :
    Except BuildError Report → Disk → List Location → List Asset → Prop
  /-- There is no source directory. -/
  | noSource : d.hasDirectory plan.source = false →
      Ends plan d (.error (.sourceNotFound plan.source)) d [] []
  /-- The output directory cannot be made. -/
  | noOutput {path : FilePath} {fault : Fault} {e : Disk} : (∀ m, ¬ plan.Ready d m) →
      Wrote [] d e → Ends plan d (.error (.access path fault)) e [] []
  /-- A source file fails, behind others that have been treated. -/
  | atFile {visited rest : List Location} {file : Location} {path : FilePath} {fault : Fault}
      {u w : Progress} :
      Sources d (d.target plan.source) (d.target plan.output) (visited ++ file :: rest) →
      plan.Treated d visited u →
      plan.treat (d.target plan.source) file u = .error (.access path fault) w →
      Outside (d.target plan.output) u.disk w.disk → Wrote [] u.disk w.disk →
      Ends plan d (.error (.access path fault)) w.disk visited []
  /-- An asset fails, behind all source files and perhaps another asset. -/
  | atAssets {visited : List Location} {written : List Asset} {path : FilePath} {fault : Fault}
      {u : Progress} {e : Disk} :
      Sources d (d.target plan.source) (d.target plan.output) visited → plan.Treated d visited u →
      written <+: Asset.all → Outside (d.target plan.output) u.disk e →
      Wrote (written.map (·.writeOf (d.target plan.output))) u.disk e →
      Ends plan d (.error (.access path fault)) e visited written
  /-- Nothing fails. -/
  | succeeds {visited : List Location} {r : Report} {u : Progress} {e : Disk} :
      Sources d (d.target plan.source) (d.target plan.output) visited → plan.Treated d visited u →
      Outside (d.target plan.output) u.disk e →
      Wrote (Asset.all.map (·.writeOf (d.target plan.output))) u.disk e →
      Ends plan d (.ok r) e visited Asset.all

section

variable {m : Disk} {visited rest : List Location}

/-- The source files are those that the walk lists when the output directory is made. -/
theorem Plan.Ready.sources (hm : plan.Ready d m)
    (hout : ¬ d.target plan.output <+: d.target plan.source) :
    Sources d (d.target plan.source) (d.target plan.output)
      (sourcesFrom m (d.target plan.source) (d.target plan.output) m.height []) :=
  (sources_sourcesFrom hm.tree hm.source.2 hout le_rfl).congr fun _ _ _ => hm.grown.file_iff.symm

/-- Files that are treated from the start of the walk leave what their results leave. -/
theorem Plan.Treated.wrote (h : plan.Treated d visited u)
    (hsource : ∀ file ∈ visited, IsSource d (d.target plan.source) (d.target plan.output) file) :
    ∃ m, plan.Ready d m ∧ Outside (d.target plan.output) m u.disk ∧
      ∃ writes, writes.map (·.1) = visited.map (d.target plan.output ++ outputOf ·) ∧
        Wrote writes d u.disk := by
  obtain ⟨m, hm, h⟩ := h
  obtain ⟨hout, writes, hplaces, hwrote⟩ := forM_treat_ok hm.tree hm.output
    (fun file hfile => hm.names (hsource file hfile)) h
  exact ⟨m, hm, hout, writes, hplaces, hm.grown.wrote_nil.append hwrote⟩

/-- A file that fails behind others has made directories at most. -/
theorem Plan.Treated.ends (h : plan.Treated d visited u)
    (hsources : Sources d (d.target plan.source) (d.target plan.output) (visited ++ file :: rest))
    {error : BuildError} (hfile : plan.treat (d.target plan.source) file u = .error error w) :
    plan.Ends d (.error error) w.disk visited [] := by
  obtain ⟨m, hm, hout, -⟩ := h.wrote fun file hfile =>
    (hsources.mem file).1 (List.mem_append_left _ hfile)
  obtain ⟨hne, hnames⟩ := hm.names ((hsources.mem file).1 (by simp))
  have hlead := hout.leads hm.output
  have hkept : Outside (d.target plan.output) u.disk
      ((plan.treat (d.target plan.source) file).final u).disk :=
    keeps_treat (stable_outside _ u.disk) hlead hne hnames (fun _ _ => trivial) u (.refl hout.tree)
  have hputs : Puts (d.target plan.output ++ outputOf file) u.disk
      (plan.treat (d.target plan.source) file u) := puts_treat hout.tree hlead hne hnames
  rw [final, hfile] at hkept
  rw [hfile] at hputs
  cases hputs with
  | fails hwrote => exact .atFile hsources h hfile hkept hwrote

/-- The walk and the assets end as a build does. -/
theorem treatAll_ends (hm : plan.Ready d m) (hout : ¬ d.target plan.output <+: d.target plan.source) :
    ∃ visited written, match plan.treatAll (d.target plan.source) (d.target plan.output) m.height
        (plan.ready m) with
      | .ok _ w => plan.Ends d (.ok w.report) w.disk visited written
      | .error e w => plan.Ends d (.error e) w.disk visited written := by
  have hsources := hm.sources hout
  have hvisit : plan.visit (d.target plan.source) (d.target plan.output) m.height [] (plan.ready m) =
      _ := visit_eq hm.tree hm.output (by rwa [List.append_nil]) (.refl hm.tree)
  generalize sourcesFrom m (d.target plan.source) (d.target plan.output) m.height [] = files at *
  -- when the walk is over, all files are treated, and the assets come next
  have hwalked : ∀ {u}, files.forM (plan.treat (d.target plan.source)) (plan.ready m) = .ok () u →
      plan.Treated d files u ∧ u.disk.IsTree ∧ u.disk.Leads plan.output (d.target plan.output) := by
    intro u hu
    have htreated : plan.Treated d files u := ⟨m, hm, hu⟩
    obtain ⟨m', hm', hout', -⟩ := htreated.wrote fun file => (hsources.mem file).1
    exact ⟨htreated, hout'.tree, hout'.leads hm'.output⟩
  cases h : plan.treatAll (d.target plan.source) (d.target plan.output) m.height (plan.ready m) with
  | ok a w =>
    obtain ⟨_, u, hu, h⟩ := bind_ok h
    obtain ⟨_, v, hassets, htell⟩ := bind_ok h
    rw [hvisit] at hu
    obtain ⟨htreated, htree, hlead⟩ := hwalked hu
    obtain ⟨hkept, hwrote, -⟩ := writeAssets_ok htree hlead hassets
    cases htell
    exact ⟨files, Asset.all, .succeeds hsources htreated hkept hwrote⟩
  | error e w =>
    rcases bind_error h with hu | ⟨_, u, hu, h⟩ <;> rw [hvisit] at hu
    · obtain ⟨visited, file, rest, v, rfl, hv, hfile⟩ := forM_error hu
      exact ⟨visited, [], Plan.Treated.ends ⟨m, hm, hv⟩ hsources hfile⟩
    · obtain ⟨htreated, htree, hlead⟩ := hwalked hu
      rcases bind_error h with hassets | ⟨_, v, -, htell⟩
      · obtain ⟨path, fault, written, rfl, hwritten, hwrote⟩ := writeAssets_error htree hlead hassets
        have hkept := keeps_writeAssets (stable_outside _ u.disk) hlead (fun _ => trivial) u
          (.refl htree)
        rw [final, hassets] at hkept
        exact ⟨files, written, .atAssets hsources htreated hwritten hkept hwrote⟩
      · cases htell

/-- Every build ends in one of these ways. -/
theorem build_ends (plan : Plan) (hd : d.IsTree)
    (hout : ¬ d.target plan.output <+: d.target plan.source) :
    ∃ visited written, plan.Ends d (build plan d).result (build plan d).disk visited written := by
  rw [build_eq, Plan.outcome]
  rcases steps_starts plan hd with ⟨hs, h⟩ | ⟨hm, path, fault, w, h, hgrown⟩ | ⟨-, m, hm, h⟩ <;> rw [h]
  · exact ⟨[], [], .noSource hs⟩
  · exact ⟨[], [], .noOutput hm hgrown.wrote_nil⟩
  · obtain ⟨visited, written, hends⟩ := treatAll_ends hm hout
    refine ⟨visited, written, ?_⟩
    cases ht : plan.treatAll (d.target plan.source) (d.target plan.output) m.height (plan.ready m)
    all_goals
      rw [ht] at hends
      exact hends

end

end DocTabs.Site
