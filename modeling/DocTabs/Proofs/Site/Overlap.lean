/-
A build into its own source directory. The check of settings compares the spellings of the two
directories, so it lets two spellings of one directory pass; a plain file is then copied onto itself,
which empties it.
-/
import DocTabs.Command.Run
import DocTabs.Proofs.Site.Success

namespace DocTabs.Site

open Disk FilePath Step Command

variable {plan : Plan} {root file : Location} {w : Progress} {content : ByteArray}

theorem copy_self {p q : FilePath} {out dir : Location} {name : String} (hd : w.disk.IsTree)
    (hp : w.disk.Leads p out) (hq : Extends p (dir ++ [name]) q)
    (hfile : w.disk.get? (out ++ dir ++ [name]) = some (.file { content })) :
    Step.copy (out ++ dir ++ [name]) q w =
      .ok () { w with disk := w.disk.put (out ++ dir ++ [name]) (.file { content := .empty }) } := by
  obtain ⟨above, habove, hext⟩ := hq.parent?
  have hdir : w.disk.get? (out ++ dir) = some .directory := hd.get?_above hfile (by simp)
  have hcopy : w.disk.copy (out ++ dir ++ [name]) q =
      .ok (w.disk.put (out ++ dir ++ [name]) (.file { content := .empty })) := by
    have hlocate := (locateFile_ok hd hp hq).2 ⟨hdir, (writable_iff hfile).2 rfl, rfl⟩
    unfold Disk.copy
    rw [fileAt_eq_ok.2 hfile, hlocate]
    simp [bind, Except.bind, pure, Except.pure]
  unfold Step.copy makeParent
  simp only [habove, bind_eq, Step.makeDirectories, change,
    makeDirectories_of_leads (hp.extends hd hext hdir), hcopy]

/-- Where the output directory is the source directory, a plain file that may be written is emptied when
it is treated. -/
theorem treat_self (hd : w.disk.IsTree) (hp : w.disk.Leads plan.output root) (hne : file ≠ [])
    (hform : Form.ofName (fileName file) = .verbatim)
    (hfile : w.disk.get? (root ++ file) = some (.file { content })) :
    plan.treat root file w = .ok () { w with
      disk := w.disk.put (root ++ file) (.file { content := .empty })
      report.copied := w.report.copied + 1 } := by
  obtain ⟨dir, name, rfl⟩ := List.eq_nil_or_concat file |>.resolve_left hne
  rw [List.concat_eq_append] at *
  have hnames : ∀ s ∈ dir ++ [name], IsName s := fun s hs =>
    hd.isName hfile s (List.mem_append_right _ hs)
  have hdest := destination_extends plan hne hnames
  have hout : outputOf (dir ++ [name]) = dir ++ [name] := by
    rw [outputOf, outputName, hform, List.dropLast_concat, fileName, List.getLast?_concat]
    rfl
  rw [hout] at hdest
  rw [← List.append_assoc] at hfile ⊢
  rw [treat_of_verbatim plan root hform, bind_eq]
  simp only [← List.append_assoc, copy_self hd hp hdest hfile]
  rfl

/-! ## A source that is lost -/

/-- `plainSite` with the file emptied. -/
def emptiedSite : Disk :=
  plainSite.put ["docs", "a.txt"] (.file { content := .empty })

/-- Settings for a build from `docs` to `docs`, spelled in two ways. -/
def respelled : Settings := ⟨"Android", ⟨"docs"⟩, ⟨"./docs"⟩, none⟩

/-- The state of the build when the walk is over. -/
def walked : Progress :=
  { (planOf respelled).ready plainSite with disk := emptiedSite, report.copied := 1 }

theorem plainSite_leads : plainSite.Leads (planOf respelled).source ["docs"] ∧
    plainSite.Leads (planOf respelled).output ["docs"] :=
  ⟨leads_iff.2 (by decide), leads_iff.2 (by decide)⟩

/-- A walk does nothing in a directory without visible entries. -/
theorem visit_of_names_nil {plan : Plan} {root excluded dir : Location} {w : Progress}
    (h : (w.disk.names (root ++ dir)).filter (!Plan.isHidden ·) = []) (depth : Nat) :
    plan.visit root excluded depth dir w = .ok () w := by
  cases depth with
  | zero => rfl
  | succ depth =>
    rw [visit_succ, get_bind, h]
    rfl

theorem visit_plainSite : (planOf respelled).visit ["docs"] ["docs"] plainSite.height []
    ((planOf respelled).ready plainSite) = .ok () walked := by
  have hnames : (plainSite.names (["docs"] ++ [])).filter (!Plan.isHidden ·) =
      ["a.txt", "assets"] := by
    rw [shown_of_ordered rfl (by decide)]
    rfl
  have hbelow : (walked.disk.names (["docs"] ++ ["assets"])).filter (!Plan.isHidden ·) = [] := by
    rw [shown_of_ordered rfl (by decide)]
    rfl
  have hfile : (planOf respelled).turn ["docs"] ["docs"] 2 [] "a.txt"
      ((planOf respelled).ready plainSite) = .ok () walked := by
    rw [turn_eq (by decide)]
    exact treat_self plainSite_isTree plainSite_leads.2 (by decide) (by decide) rfl
  have hassets : (planOf respelled).turn ["docs"] ["docs"] 2 [] "assets" walked =
      .ok () walked := by
    rw [turn_eq (by decide)]
    exact visit_of_names_nil hbelow 2
  rw [show plainSite.height = 2 + 1 from rfl, visit_succ, get_bind,
    show ((planOf respelled).ready plainSite).disk = plainSite from rfl, hnames, forM_cons, bind_eq,
    hfile]
  dsimp only
  rw [forM_cons, bind_eq, hassets]
  rfl

/-- Settings that pass the check can name one directory twice, and then a build that succeeds empties
a file of its own source. -/
theorem respelled_empties_source : Settings.check respelled = .ok respelled ∧
    plainSite.target (planOf respelled).output = plainSite.target (planOf respelled).source ∧
    plainSite.IsTree ∧ plainSite.get? ["docs", "a.txt"] = some (.file { content := "hello".toUTF8 }) ∧
    (∃ r, (build (planOf respelled) plainSite).result = .ok r) ∧
    (build (planOf respelled) plainSite).disk.get? ["docs", "a.txt"] =
      some (.file { content := .empty }) := by
  have hready : (planOf respelled).Ready plainSite plainSite :=
    ready_self plainSite_isTree plainSite_leads.1 plainSite_leads.2
  have htree : emptiedSite.IsTree := by decide
  have hp : emptiedSite.Leads (planOf respelled).output ["docs"] := leads_iff.2 (by decide)
  -- what comes after the walk is that of a build without works: the assets
  obtain ⟨u, hu, -⟩ : ∃ u, (planOf respelled).deliverAll [] walked = .ok () u ∧
      SameRoom emptiedSite u.disk :=
    deliverAll_of_room htree hp (by simp) (by simp) (by simp) fun a => by cases a <;> decide
  obtain ⟨-, hwrote, -⟩ := deliverAll_ok htree hp (by simp) hu
  have hsteps : (planOf respelled).steps ((planOf respelled).start plainSite) = .ok () u := by
    rw [steps_of_ready (hasDirectory_iff.2 ⟨_, plainSite_leads.1⟩) hready, ← hu]
    show (planOf respelled).treatAll ["docs"] ["docs"] plainSite.height _ = _
    rw [Plan.treatAll, bind_eq, visit_plainSite]
    rfl
  have hlatest : latest ((planOf respelled).writes ["docs"] []) ["docs", "a.txt"] = none := by
    refine latest_eq_none.2 fun p hp => ?_
    obtain ⟨a, -, rfl⟩ := List.mem_map.1 hp
    cases a <;> decide
  rw [build_eq, Plan.outcome, hsteps]
  refine ⟨rfl, by decide, plainSite_isTree, rfl, ⟨_, rfl⟩, ?_⟩
  rw [← file?_eq_some, hwrote, hlatest]
  rfl

end DocTabs.Site
