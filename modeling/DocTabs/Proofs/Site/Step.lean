/-
The elementary steps of a build. A step keeps a property of the disk when it ends on a disk with
the property, also where it fails; writing a file below a directory keeps everything else, and says
what it has done where it succeeds.
-/
import DocTabs.Site.Progress
import DocTabs.Proofs.Disk.Frame

namespace DocTabs.Site

open Disk FilePath

namespace Step

variable {α β : Type} {I : Disk → Prop} {w w' : Progress}

/-! ## Running steps -/

theorem bind_eq (m : Step α) (f : α → Step β) (w : Progress) :
    (m >>= f) w = match m w with
      | .ok a w' => f a w'
      | .error e w' => .error e w' := by
  show EStateM.bind m f w = _
  unfold EStateM.bind
  cases m w <;> rfl

theorem get_bind (f : Progress → Step α) (w : Progress) : (get >>= f) w = f w w := rfl

theorem bind_ok {m : Step α} {f : α → Step β} {b : β} (h : (m >>= f) w = .ok b w') :
    ∃ a u, m w = .ok a u ∧ f a u = .ok b w' := by
  rw [bind_eq] at h
  split at h
  · rename_i a u hm
    exact ⟨a, u, hm, h⟩
  · cases h

theorem bind_error {m : Step α} {f : α → Step β} {e : BuildError} (h : (m >>= f) w = .error e w') :
    m w = .error e w' ∨ ∃ a u, m w = .ok a u ∧ f a u = .error e w' := by
  rw [bind_eq] at h
  split at h
  · rename_i a u hm
    exact .inr ⟨a, u, hm, h⟩
  · rename_i hm
    cases h
    exact .inl hm

theorem forM_cons (f : α → Step Unit) (x : α) (xs : List α) :
    (x :: xs).forM f = (do f x; xs.forM f) := rfl

theorem forM_append (f : α → Step Unit) (xs ys : List α) :
    (xs ++ ys).forM f = (do xs.forM f; ys.forM f) := by
  induction xs with
  | nil => rfl
  | cons x xs ih => rw [List.cons_append, forM_cons, ih, forM_cons, bind_assoc]

theorem forM_flatMap (f : β → Step Unit) (g : α → List β) (xs : List α) :
    (xs.flatMap g).forM f = xs.forM fun x => (g x).forM f := by
  induction xs with
  | nil => rfl
  | cons x xs ih => rw [List.flatMap_cons, forM_append, ih, forM_cons]

/-! ## What a step keeps -/

/-- The state that a step ends in, whether it fails or not. -/
def final (m : Step α) (w : Progress) : Progress :=
  match m w with
  | .ok _ w' | .error _ w' => w'

/-- From a disk with the property the step ends on one, whether it fails or not. -/
def Keeps (I : Disk → Prop) (m : Step α) : Prop :=
  ∀ w, I w.disk → I (m.final w).disk

theorem final_of_ok {m : Step α} {a : α} (h : m w = .ok a w') : m.final w = w' := by
  rw [final, h]

theorem final_bind (m : Step α) (f : α → Step β) (w : Progress) :
    (m >>= f).final w = match m w with
      | .ok a w' => (f a).final w'
      | .error _ w' => w' := by
  rw [final, bind_eq]
  cases m w <;> rfl

theorem Keeps.ok {m : Step α} (h : Keeps I m) (hI : I w.disk) {a : α} (hm : m w = .ok a w') :
    I w'.disk :=
  final_of_ok hm ▸ h w hI

theorem keeps_of_disk {m : Step α} (h : ∀ w, (m.final w).disk = w.disk) : Keeps I m :=
  fun w hI => (h w).symm ▸ hI

theorem Keeps.bind {m : Step α} {f : α → Step β} (hm : Keeps I m) (hf : ∀ a, Keeps I (f a)) :
    Keeps I (m >>= f) := by
  intro w hI
  have hfinal := hm w hI
  rw [final_bind]
  rw [final] at hfinal
  cases h : m w <;> rw [h] at hfinal
  · exact hf _ _ hfinal
  · exact hfinal

theorem Keeps.forM {f : α → Step Unit} {xs : List α} (h : ∀ x ∈ xs, Keeps I (f x)) :
    Keeps I (xs.forM f) := by
  induction xs with
  | nil => exact keeps_of_disk fun _ => rfl
  | cons x xs ih =>
    rw [forM_cons]
    exact (h x (List.mem_cons_self ..)).bind fun _ => ih fun y hy => h y (List.mem_cons_of_mem _ hy)

/-- A loop can be exchanged for one whose turns are equal on the disks that the turns keep. -/
theorem forM_congr {f g : α → Step Unit} {xs : List α}
    (hfg : ∀ x ∈ xs, ∀ w, I w.disk → f x w = g x w) (hg : ∀ x ∈ xs, Keeps I (g x)) (hI : I w.disk) :
    xs.forM f w = xs.forM g w := by
  induction xs generalizing w with
  | nil => rfl
  | cons x xs ih =>
    rw [forM_cons, forM_cons, bind_eq, bind_eq, hfg x (List.mem_cons_self ..) w hI]
    cases hx : g x w with
    | error e u => rfl
    | ok a u =>
      exact ih (fun y hy => hfg y (List.mem_cons_of_mem _ hy))
        (fun y hy => hg y (List.mem_cons_of_mem _ hy))
        ((hg x (List.mem_cons_self ..)).ok hI hx)

/-- Each turn of a loop that succeeds has succeeded on a disk that the turns keep. -/
theorem forM_ok {f : α → Step Unit} {xs : List α} (hf : ∀ x ∈ xs, Keeps I (f x)) (hI : I w.disk)
    (h : xs.forM f w = .ok () w') {x : α} (hx : x ∈ xs) : ∃ u u', I u.disk ∧ f x u = .ok () u' := by
  induction xs generalizing w with
  | nil => cases hx
  | cons y xs ih =>
    rw [forM_cons] at h
    obtain ⟨_, u, hy, h⟩ := bind_ok h
    rcases List.mem_cons.1 hx with rfl | hx
    · exact ⟨w, u, hI, hy⟩
    · exact ih (fun z hz => hf z (List.mem_cons_of_mem _ hz)) ((hf y (List.mem_cons_self ..)).ok hI hy)
        h hx

/-- A loop that fails has run the turns before the failing one. -/
theorem forM_error {f : α → Step Unit} {xs : List α} {e : BuildError}
    (h : xs.forM f w = .error e w') : ∃ before x after u, xs = before ++ x :: after ∧
      before.forM f w = .ok () u ∧ f x u = .error e w' := by
  induction xs generalizing w with
  | nil => cases h
  | cons x xs ih =>
    rw [forM_cons, bind_eq] at h
    cases hx : f x w with
    | error _ u => exact ⟨[], x, xs, w, rfl, rfl, by rwa [hx] at h ⊢⟩
    | ok a u =>
      rw [hx] at h
      obtain ⟨before, y, after, v, rfl, hbefore, hy⟩ := ih h
      refine ⟨x :: before, y, after, v, rfl, ?_, hy⟩
      rw [forM_cons, bind_eq, hx]
      exact hbefore

/-! ## Steps that leave the disk alone -/

theorem keeps_tell (e : Event) : Keeps I (tell e) := keeps_of_disk fun _ => rfl

theorem keeps_onSession (f : Page.Session → α × Page.Session) : Keeps I (onSession f) :=
  keeps_of_disk fun _ => rfl

theorem keeps_onSession_bind {f : Page.Session → α × Page.Session} {g : α → Step β}
    (h : ∀ s, Keeps I (g (f s).1)) : Keeps I (onSession f >>= g) := by
  intro w hI
  rw [final_bind]
  exact h w.session _ hI

theorem onSession_ok {f : Page.Session → α × Page.Session} {a : α} (h : onSession f w = .ok a w') :
    a = (f w.session).1 ∧ w'.disk = w.disk := by
  cases h
  exact ⟨rfl, rfl⟩

theorem look_ok {p : FilePath} {f : Disk → Except Fault α} {a : α} (h : look p f w = .ok a w') :
    f w.disk = .ok a := by
  unfold look at h
  cases hf : f w.disk with
  | ok b => rw [hf] at h; cases h; rfl
  | error fault => rw [hf] at h; cases h

theorem keeps_look (p : FilePath) (f : Disk → Except Fault α) : Keeps I (look p f) := by
  refine keeps_of_disk fun w => ?_
  unfold final look
  cases f w.disk <;> rfl

/-- What is told of a page. -/
def pageEvents (page : FilePath) (e : Page.Expansion) : List Event :=
  .builtPage page e.containers :: e.warnings.map (.warned page)

theorem warn_eq (page : FilePath) (warning : String) (w : Progress) :
    (do tell (.warned page warning)
        modify fun w => { w with report.warnings :=
          w.report.warnings ++ [page.text ++ ": " ++ warning] } : Step Unit) w = .ok () { w with
      report.warnings := w.report.warnings ++ [page.text ++ ": " ++ warning]
      events := w.events ++ [.warned page warning] } := rfl

/-- A page is told of and counted, with its path in front of each of its warnings. -/
theorem record_eq (page : FilePath) (e : Page.Expansion) (w : Progress) :
    record page e w = .ok () { w with
      report.pages := w.report.pages + 1
      report.containers := w.report.containers + e.containers
      report.warnings := w.report.warnings ++ e.warnings.map (page.text ++ ": " ++ ·)
      events := w.events ++ pageEvents page e } := by
  have hwarn : ∀ (warnings : List String) (w : Progress), (warnings.forM fun warning => do
      tell (.warned page warning)
      modify fun w => { w with report.warnings :=
        w.report.warnings ++ [page.text ++ ": " ++ warning] } : Step Unit) w = .ok () { w with
          report.warnings := w.report.warnings ++ warnings.map (page.text ++ ": " ++ ·)
          events := w.events ++ warnings.map (.warned page) } := by
    -- the state is general, since every warning that is told adds to it
    intro warnings
    induction warnings with
    | nil =>
      intro w
      simp only [List.map_nil, List.append_nil]
      rfl
    | cons a warnings ih =>
      intro w
      rw [forM_cons, bind_eq, warn_eq]
      simp only [ih, List.append_assoc, List.map_cons, List.singleton_append]
  unfold record
  rw [bind_eq, show tell (.builtPage page e.containers) w = EStateM.Result.ok ()
    { w with events := w.events ++ [.builtPage page e.containers] } from rfl]
  simp only [bind_eq, hwarn, pageEvents, List.append_assoc, List.singleton_append]
  rfl

theorem keeps_record (page : FilePath) (e : Page.Expansion) : Keeps I (record page e) :=
  keeps_of_disk fun w => by rw [final, record_eq]

/-! ## Writing a file -/

theorem makeDirectories_ok {p : FilePath} : makeDirectories p w = .ok () w' ↔
    ∃ m, w.disk.makeDirectories p = (none, m) ∧ w' = { w with disk := m } := by
  unfold makeDirectories
  rcases w.disk.makeDirectories p with ⟨_ | fault, m⟩ <;> simp [eq_comm]

theorem makeDirectories_error {p : FilePath} {e : BuildError} (h : makeDirectories p w = .error e w') :
    ∃ fault m, w.disk.makeDirectories p = (some fault, m) ∧ e = .access p fault ∧
      w' = { w with disk := m } := by
  unfold makeDirectories at h
  rcases hm : w.disk.makeDirectories p with ⟨_ | fault, m⟩ <;> rw [hm] at h <;> cases h
  exact ⟨fault, m, rfl, rfl, rfl⟩

theorem change_error {p : FilePath} {f : Disk → Except Fault Disk} {e : BuildError}
    (h : change p f w = .error e w') : ∃ fault, e = .access p fault ∧ w' = w := by
  unfold change at h
  cases hf : f w.disk <;> rw [hf] at h <;> cases h
  exact ⟨_, rfl, rfl⟩

theorem change_ok {p : FilePath} {f : Disk → Except Fault Disk} :
    change p f w = .ok () w' ↔ ∃ m, f w.disk = .ok m ∧ w' = { w with disk := m } := by
  unfold change
  cases f w.disk <;> simp [eq_comm]

section

variable {out dir : Location} {p q : FilePath} {name : String}

/-- Putting a file below an existing directory: the directories on the way come first, and then the
step fails, or the file is put into its directory, where it may be. -/
theorem put_cases (hd : w.disk.IsTree) (hp : w.disk.Leads p out) (hq : Extends p (dir ++ [name]) q)
    {f : Disk → Except Fault Disk} {P : RegularFile → Prop}
    (hf : ∀ m e, m.IsTree → m.Leads p out → f m = .ok e → m.get? (out ++ dir) = some .directory ∧
      m.Writable (out ++ dir ++ [name]) ∧
      ∃ file, P file ∧ e = m.put (out ++ dir ++ [name]) (.file file)) :
    ∃ m : Disk, m.IsTree ∧ Grown (out <+: ·) w.disk m ∧
      ((∃ path fault, (do makeParent q; change q f : Step Unit) w =
          .error (.access path fault) { w with disk := m }) ∨
        m.get? (out ++ dir) = some .directory ∧ m.Writable (out ++ dir ++ [name]) ∧
          ∃ file, P file ∧ (do makeParent q; change q f : Step Unit) w =
            .ok () { w with disk := m.put (out ++ dir ++ [name]) (.file file) }) := by
  obtain ⟨above, habove, hext⟩ := hq.parent?
  obtain ⟨htree, hway⟩ := makeDirectories_below hd hp hext
  have hgrown := hway.mono fun _ hk => hk.1
  refine ⟨_, htree, hgrown, ?_⟩
  unfold makeParent
  simp only [habove, bind_eq, makeDirectories, change]
  rcases hm : w.disk.makeDirectories above with ⟨_ | fault, m⟩ <;> rw [hm] at htree hgrown
  · dsimp only
    cases hw : f m with
    | error fault => exact .inl ⟨_, _, rfl⟩
    | ok e =>
      obtain ⟨h1, h2, file, hP, rfl⟩ := hf m e htree (hgrown.leads hp) hw
      exact .inr ⟨h1, h2, file, hP, rfl⟩
  · exact .inl ⟨_, _, rfl⟩

/-- In a directory that exists a file is put wherever it may be. -/
theorem putFile_of_directory (hd : w.disk.IsTree) (hp : w.disk.Leads p out)
    (hq : Extends p (dir ++ [name]) q) (hdir : w.disk.get? (out ++ dir) = some .directory)
    (hw : w.disk.Writable (out ++ dir ++ [name])) (file : RegularFile) :
    putFile q file w =
      .ok () { w with disk := w.disk.put (out ++ dir ++ [name]) (.file file) } := by
  obtain ⟨above, habove, hext⟩ := hq.parent?
  unfold putFile makeParent
  simp only [habove, bind_eq, makeDirectories, change,
    makeDirectories_of_leads (hp.extends hd hext hdir), (putFile_ok hd hp hq).2 ⟨hdir, hw, rfl⟩]

/-- Copying a file from outside `out` to below it is putting it there. -/
theorem copy_eq_putFile (hd : w.disk.IsTree) (hp : w.disk.Leads p out)
    (hq : Extends p (dir ++ [name]) q) {source : Location} {file : RegularFile}
    (hs : w.disk.get? source = some (.file file)) (hout : ¬ out <+: source) :
    copy source q w = putFile q file w := by
  obtain ⟨above, habove, hext⟩ := hq.parent?
  obtain ⟨htree, hway⟩ := makeDirectories_below hd hp hext
  have hgrown := hway.mono fun _ hk => hk.1
  have hne : out ++ dir ++ [name] ≠ source := by
    rintro rfl
    exact hout (by rw [List.append_assoc]; exact List.prefix_append ..)
  unfold copy putFile makeParent
  simp only [habove, bind_eq, makeDirectories, change]
  rcases hm : w.disk.makeDirectories above with ⟨_ | fault, m⟩
  · rw [hm] at htree hgrown
    dsimp only
    rw [Disk.copy_eq_putFile (hgrown.kept hs) htree (hgrown.leads hp) hq hne]
  · rfl

/-- Putting a file that succeeds has put it, after directories below `out`. -/
theorem putFile_ok (hd : w.disk.IsTree) (hp : w.disk.Leads p out) (hq : Extends p (dir ++ [name]) q)
    {file : RegularFile} (h : putFile q file w = .ok () w') : ∃ m : Disk, m.IsTree ∧
      Grown (out <+: ·) w.disk m ∧ m.get? (out ++ dir) = some .directory ∧
      m.Writable (out ++ dir ++ [name]) ∧
      w' = { w with disk := m.put (out ++ dir ++ [name]) (.file file) } := by
  obtain ⟨m, htree, hgrown, hcases⟩ := put_cases hd hp hq (P := (· = file))
    fun m e hm hl he => by
      obtain ⟨h1, h2, rfl⟩ := (Disk.putFile_ok hm hl hq).1 he
      exact ⟨h1, h2, file, rfl, rfl⟩
  unfold putFile at h
  rcases hcases with ⟨_, _, he⟩ | ⟨h1, h2, _, rfl, he⟩
  · rw [h] at he; cases he
  · rw [h] at he
    cases he
    exact ⟨m, htree, hgrown, h1, h2, rfl⟩

variable {d : Disk} {May : Location → RegularFile → Prop} (hI : Stable out d May I)

include hI

/-- Putting a file below `out` that may be there. -/
theorem keeps_put (hp : d.Leads p out) (hq : Extends p (dir ++ [name]) q)
    {f : Disk → Except Fault Disk}
    (hf : ∀ m e, m.IsTree → m.Leads p out → f m = .ok e → m.get? (out ++ dir) = some .directory ∧
      m.Writable (out ++ dir ++ [name]) ∧
      ∃ file, May (dir ++ [name]) file ∧ e = m.put (out ++ dir ++ [name]) (.file file)) :
    Keeps I (do makeParent q; change q f : Step Unit) := by
  intro w hw
  have hout := hI.outside hw
  obtain ⟨m, htree, hgrown, hcases⟩ := put_cases hout.tree (hout.leads hp) hq hf
  have hm := hI.grown hw htree hgrown
  rcases hcases with ⟨_, _, he⟩ | ⟨h1, h2, file, hmay, he⟩ <;> rw [final, he]
  · exact hm
  · exact hI.put hm h1 (hq.isName name (by simp)) h2 hmay

theorem keeps_putFile (hp : d.Leads p out) (hq : Extends p (dir ++ [name]) q) {file : RegularFile}
    (hmay : May (dir ++ [name]) file) : Keeps I (putFile q file) :=
  keeps_put hI hp hq fun m e hm hl he => by
    obtain ⟨h1, h2, rfl⟩ := (Disk.putFile_ok hm hl hq).1 he
    exact ⟨h1, h2, _, hmay, rfl⟩

/-- The same for a write into a directory that was made before. -/
theorem keeps_change (hp : d.Leads p out) (hq : Extends p (dir ++ [name]) q) {content : ByteArray}
    (hmay : May (dir ++ [name]) { content }) : Keeps I (change q (·.write q content)) := by
  intro w hw
  have hout := hI.outside hw
  unfold final change
  dsimp only
  cases hm : w.disk.write q content with
  | error fault => exact hw
  | ok m =>
    obtain ⟨h1, h2, rfl⟩ := (Disk.putFile_ok hout.tree (hout.leads hp) hq).1 hm
    exact hI.put hw h1 (hq.isName name (by simp)) h2 hmay

theorem keeps_copy (hp : d.Leads p out) (hq : Extends p (dir ++ [name]) q) (source : Location)
    (hmay : ∀ file, May (dir ++ [name]) file) : Keeps I (copy source q) :=
  keeps_put hI hp hq fun m e hm hl he => by
    obtain ⟨h1, h2, file, rfl⟩ := Disk.copy_ok hm hl hq he
    exact ⟨h1, h2, file, hmay file, rfl⟩

/-- Directories on the way to a path below `out` are made below `out`. -/
theorem keeps_makeDirectories (hp : d.Leads p out) (hq : Extends p dir q) :
    Keeps I (makeDirectories q) := by
  intro w hw
  have hout := hI.outside hw
  obtain ⟨htree, hway⟩ := makeDirectories_below hout.tree (hout.leads hp) hq
  have hmade := hI.grown hw htree (hway.mono fun _ hk => hk.1)
  unfold final makeDirectories
  rcases hm : w.disk.makeDirectories q with ⟨_ | fault, m⟩ <;> rw [hm] at hmade <;> exact hmade

end

end Step

end DocTabs.Site
