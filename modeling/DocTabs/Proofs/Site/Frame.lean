/-
What a build leaves alone. Whatever the paths of source and output are and however the build ends,
the regular files outside the output directory stay as they are: the directories that are made at
first take the place of nothing, and all that follows happens below the output directory.
-/
import DocTabs.Proofs.Disk.Listing
import DocTabs.Proofs.Site.Destination
import DocTabs.Proofs.Site.Start

namespace DocTabs.Site

open Disk FilePath Step

variable {plan : Plan} {d : Disk} {root out excluded file dir : Location}

/-! ## One turn of the walk -/

/-- What the walk does with one entry of a directory. -/
def Plan.turn (plan : Plan) (root excluded : Location) (depth : Nat) (dir : Location) (name : String) :
    Step Unit :=
  if root ++ (dir ++ [name]) = excluded then pure ()
  else do
    match (← get).disk.get? (root ++ (dir ++ [name])) with
    | some .directory => plan.visit root excluded depth (dir ++ [name])
    | some (.file _) => plan.treat root (dir ++ [name])
    | none => throw (.walk (Location.toPath (root ++ (dir ++ [name]))) .missing)

theorem visit_succ (plan : Plan) (root excluded dir : Location) (depth : Nat) :
    plan.visit root excluded (depth + 1) dir = (do
      let names := (← get).disk.names (root ++ dir)
      (names.filter (!Plan.isHidden ·)).forM (plan.turn root excluded depth dir) : Step Unit) := rfl

theorem turn_excluded {depth : Nat} {name : String} (h : root ++ (dir ++ [name]) = excluded) :
    plan.turn root excluded depth dir name = pure () := by
  rw [Plan.turn, if_pos h]

theorem turn_eq {depth : Nat} {name : String} (h : root ++ (dir ++ [name]) ≠ excluded) (w : Progress) :
    plan.turn root excluded depth dir name w = (match w.disk.get? (root ++ (dir ++ [name])) with
      | some .directory => plan.visit root excluded depth (dir ++ [name])
      | some (.file _) => plan.treat root (dir ++ [name])
      | none => throw (.walk (Location.toPath (root ++ (dir ++ [name]))) .missing) : Step Unit) w := by
  rw [Plan.turn, if_neg h, get_bind]

/-! ## One file -/

theorem treat_of_page (plan : Plan) (root : Location)
    (h : Form.ofName (fileName file) ≠ .verbatim) : plan.treat root file = (do
      let text ← Step.look (Location.toPath (root ++ file)) (·.textAt (root ++ file))
      let e ← Step.onSession (expandPage (Form.ofName (fileName file)) file text)
      Step.write (plan.destination file) e.html.toUTF8
      Step.record (relativePath file) e) := by
  unfold Plan.treat
  cases hform : Form.ofName (fileName file) with
  | verbatim => exact absurd hform h
  | markdown | html => rfl

theorem treat_of_verbatim (plan : Plan) (root : Location)
    (h : Form.ofName (fileName file) = .verbatim) : plan.treat root file = (do
      Step.copy (root ++ file) (plan.destination file)
      modify fun w => { w with report.copied := w.report.copied + 1 }) := by
  unfold Plan.treat
  rw [h]

/-- What the treatment of a file can put: an expansion of some text for a page. -/
def MayPut (file : Location) (f : RegularFile) : Prop :=
  Form.ofName (fileName file) ≠ .verbatim → ∃ text s,
    f = { content := (expandPage (Form.ofName (fileName file)) file text s).1.html.toUTF8 }

/-! ## Every part of a build stays below the output -/

theorem keeps_get {α : Type} {I : Disk → Prop} {f : Progress → Step α}
    (h : ∀ w, I w.disk → Keeps I (f w)) : Keeps I (get >>= f) :=
  fun w hI => h w hI w hI

section

variable {May : Location → RegularFile → Prop} {I : Disk → Prop} (hI : Stable out d May I)
  (hp : d.Leads plan.output out)

include hI hp

theorem keeps_treat (hne : file ≠ []) (h : ∀ s ∈ file, IsName s)
    (hmay : ∀ f, MayPut file f → May (outputOf file) f) :
    Keeps I (plan.treat root file) := by
  have hdest := destination_extends plan hne h
  by_cases hform : Form.ofName (fileName file) = .verbatim
  · rw [treat_of_verbatim plan root hform]
    refine .bind (keeps_copy hI hp hdest _ fun f => ?_) fun _ => keeps_of_disk fun _ => rfl
    exact hmay f fun hpage => absurd hform hpage
  · rw [treat_of_page plan root hform]
    refine .bind (keeps_look _ _) fun text => keeps_onSession_bind fun s =>
      .bind (keeps_putFile hI hp hdest ?_) fun _ => keeps_record _ _
    exact hmay _ fun _ => ⟨text, s, rfl⟩

theorem keeps_turn_of_visit {depth : Nat} {name : String} (h : ∀ s ∈ dir ++ [name], IsName s)
    (hmay : ∀ file, dir ++ [name] <+: file → ∀ f, MayPut file f → May (outputOf file) f)
    (hvisit : Keeps I (plan.visit root excluded depth (dir ++ [name]))) :
    Keeps I (plan.turn root excluded depth dir name) := by
  unfold Plan.turn
  split
  · exact keeps_of_disk fun _ => rfl
  · refine keeps_get fun u _ => ?_
    split
    · exact hvisit
    · exact keeps_treat hI hp (by simp) h (hmay _ List.prefix_rfl)
    · exact keeps_of_disk fun _ => rfl

theorem keeps_visit {depth : Nat} (h : ∀ s ∈ dir, IsName s)
    (hmay : ∀ file, dir <+: file → ∀ f, MayPut file f → May (outputOf file) f) :
    Keeps I (plan.visit root excluded depth dir) := by
  induction depth generalizing dir with
  | zero => exact keeps_of_disk fun _ => rfl
  | succ depth ih =>
    rw [visit_succ]
    -- the directory is listed on the disk of its turn, which is a tree like the first one
    refine keeps_get fun w hw => Keeps.forM fun name hname => ?_
    have hentry := (hI.outside hw).tree.isName_of_entry h (List.mem_filter.1 hname).1
    have hbelow := fun file (hfile : dir ++ [name] <+: file) =>
      hmay file ((List.prefix_append ..).trans hfile)
    exact keeps_turn_of_visit hI hp hentry hbelow (ih hentry hbelow)

theorem keeps_turn (depth : Nat) {name : String} (h : ∀ s ∈ dir ++ [name], IsName s)
    (hmay : ∀ file, dir ++ [name] <+: file → ∀ f, MayPut file f → May (outputOf file) f) :
    Keeps I (plan.turn root excluded depth dir name) :=
  keeps_turn_of_visit hI hp h hmay (keeps_visit hI hp h hmay)

theorem keeps_writeAssets (hmay : ∀ a : Asset, May [Asset.directory, a.name] { content := a.content }) :
    Keeps I plan.writeAssets := by
  rw [writeAssets_eq]
  refine .bind (keeps_makeDirectories hI hp (assetDirectory_extends plan)) fun _ => ?_
  refine .bind (.forM fun a _ => ?_) fun _ => keeps_tell _
  exact keeps_change hI hp (assetPath_extends plan a) (hmay a)

end

/-! ## The whole build -/

theorem keeps_treatAll (hp : d.Leads plan.output out) (root : Location) (depth : Nat) :
    Keeps (Outside out d) (plan.treatAll root out depth) :=
  .bind (keeps_visit (stable_outside out d) hp (by simp) fun _ _ _ _ => trivial) fun _ =>
    .bind (keeps_writeAssets (stable_outside out d) hp fun _ => trivial) fun _ =>
      keeps_get fun _ _ => keeps_tell _

/-- Whatever a build is asked to do and however it ends, every regular file outside its output
directory keeps its content and its mode. -/
theorem build_keeps_outside (plan : Plan) (hd : d.IsTree) {l : Location} {f : RegularFile}
    (hout : ¬ d.target plan.output <+: l) (hl : d.get? l = some (.file f)) :
    (build plan d).disk.get? l = some (.file f) := by
  rw [build_disk]
  rcases steps_cases plan hd with ⟨e, w, h, hgrown⟩ | ⟨m, hm, h⟩
  · rw [final, h]
    exact hgrown.kept hl
  · have hkeeps := keeps_treatAll hm.output (d.target plan.source) m.height (plan.ready m)
      (.refl hm.tree)
    rw [final] at hkeeps ⊢
    rw [h, hkeeps.same l hout]
    exact hm.grown.kept hl

/-- A directory with one plain file in it, and one for assets. -/
def plainSite : Disk where
  nodes := [
    (["docs"], .directory),
    (["docs", "a.txt"], .file { content := "hello".toUTF8 }),
    (["docs", "assets"], .directory)]

theorem plainSite_isTree : plainSite.IsTree := by decide

theorem build_keeps_outside_plainSite : plainSite.IsTree ∧
    ¬ plainSite.target ⟨"site"⟩ <+: ["docs", "a.txt"] ∧
    plainSite.get? ["docs", "a.txt"] = some (.file { content := "hello".toUTF8 }) ∧
    (build ⟨⟨"docs"⟩, ⟨"site"⟩, "Android"⟩ plainSite).disk.get? ["docs", "a.txt"] =
      some (.file { content := "hello".toUTF8 }) :=
  ⟨plainSite_isTree, by decide, rfl,
    build_keeps_outside ⟨⟨"docs"⟩, ⟨"site"⟩, "Android"⟩ plainSite_isTree (by decide) rfl⟩

end DocTabs.Site
