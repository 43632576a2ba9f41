/-
Changes of a disk. Making directories only adds directories where nothing lies, and below a
directory that exists it adds them nowhere else; writing and copying put one file into a directory
that exists. Trees stay trees.
-/
import DocTabs.Proofs.Disk.Locate

namespace DocTabs.Disk

open FilePath

/-! ## Growing by directories -/

/-- `e` has all that `d` has, and otherwise only directories at locations with the property. -/
structure Grown (P : Location → Prop) (d e : Disk) : Prop where
  here : e.here = d.here
  get? : ∀ l, e.get? l = d.get? l ∨ d.get? l = none ∧ e.get? l = some .directory ∧ P l

variable {P Q : Location → Prop} {d e f : Disk} {l k : Location}

theorem Grown.refl (d : Disk) : Grown P d d := ⟨rfl, fun _ => .inl rfl⟩

theorem Grown.trans (h : Grown P d e) (h' : Grown P e f) : Grown P d f where
  here := h'.here.trans h.here
  get? l := by
    rcases h.get? l with h1 | ⟨h1, h2, hP⟩
    · rcases h'.get? l with h3 | ⟨h3, h4, hP⟩
      · exact .inl (h3.trans h1)
      · exact .inr ⟨h1.symm.trans h3, h4, hP⟩
    · rcases h'.get? l with h3 | ⟨h3, -⟩
      · exact .inr ⟨h1, h3.trans h2, hP⟩
      · rw [h2] at h3; cases h3

theorem Grown.mono (h : Grown P d e) (hPQ : ∀ l, P l → Q l) : Grown Q d e where
  here := h.here
  get? l := (h.get? l).imp id fun ⟨h1, h2, hP⟩ => ⟨h1, h2, hPQ l hP⟩

theorem Grown.kept (h : Grown P d e) {n : Node} (hl : d.get? l = some n) : e.get? l = some n := by
  rcases h.get? l with h1 | ⟨h1, -⟩
  · rw [h1, hl]
  · rw [hl] at h1; cases h1

theorem Grown.file_iff (h : Grown P d e) {file : RegularFile} :
    e.get? l = some (.file file) ↔ d.get? l = some (.file file) := by
  rcases h.get? l with h1 | ⟨h1, h2, -⟩
  · rw [h1]
  · simp [h1, h2]

theorem Grown.eq_of_not (h : Grown P d e) (hl : ¬ P l) : e.get? l = d.get? l :=
  (h.get? l).resolve_right fun ⟨_, _, hP⟩ => hl hP

theorem Grown.leads (h : Grown P d e) {p : FilePath} (hp : d.Leads p l) : e.Leads p l :=
  hp.mono h.here fun _ => h.kept

theorem Grown.follow (h : Grown P d e) {segs : List String} (hk : d.follow l segs = .ok k) :
    e.follow l segs = .ok k := by
  induction segs generalizing l with
  | nil => exact hk
  | cons s rest ih =>
    refine follow_cons_eq_ok.2 ((follow_cons_eq_ok.1 hk).imp ?_ ?_)
    · rintro ⟨hs, hl, hrest⟩
      exact ⟨hs, h.kept hl, ih hrest⟩
    · rintro ⟨hs, hdot, hslash, hrest⟩
      exact ⟨hs, fun he => h.kept (hdot he), fun he hnil file hfile =>
        hslash he hnil file (h.file_iff.1 hfile), ih hrest⟩

theorem Grown.locate (h : Grown P d e) {p : FilePath} (hp : d.locate p = .ok l) :
    e.locate p = .ok l := by
  rw [locate_eq] at hp ⊢
  split at hp
  · cases hp
  split at hp
  · cases hp
  · rename_i h1 h2
    rw [if_neg h1, if_neg h2, origin_congr h.here]
    exact h.follow hp

theorem grown_put (hl : d.get? l = none) (hP : P l) : Grown P d (d.put l .directory) where
  here := rfl
  get? k := by
    have hne : l ≠ [] := by rintro rfl; cases hl
    rw [get?_put d hne]
    split
    · rename_i hk
      subst hk
      exact .inr ⟨hl, rfl, hP⟩
    · exact .inl rfl

/-! ## One directory -/

theorem follow_of_none {segs : List String} (hl : d.get? l = none) (h : d.follow l segs = .ok k) :
    k = l := by
  induction segs with
  | nil => exact (Except.ok.inj h).symm
  | cons s rest ih =>
    rcases follow_cons_eq_ok.1 h with ⟨-, hdir, -⟩ | ⟨-, -, -, h⟩
    · rw [hl] at hdir; cases hdir
    · exact ih h

/-- A way that ends where nothing lies ends with a name in a directory. -/
theorem follow_missing (hd : d.IsTree) {segs : List String} (hl : d.get? l ≠ none)
    (hslash : ∀ s ∈ segs, '/' ∉ s.toList) (hnul : ∀ s ∈ segs, '\x00' ∉ s.toList)
    (h : d.follow l segs = .ok k) (hk : d.get? k = none) :
    ∃ dir name, k = dir ++ [name] ∧ d.get? dir = some .directory ∧ IsName name := by
  induction segs generalizing l with
  | nil => exact absurd (Except.ok.inj h ▸ hk) hl
  | cons s rest ih =>
    obtain ⟨hslash, hslash'⟩ := List.forall_mem_cons.1 hslash
    obtain ⟨hnul, hnul'⟩ := List.forall_mem_cons.1 hnul
    rcases follow_cons_eq_ok.1 h with ⟨hs, hdir, h⟩ | ⟨-, -, -, h⟩
    · by_cases hm : d.get? (step l s) = none
      · -- nothing lies at the name, so the way ends there; above it there is always something
        obtain rfl := follow_of_none hm h
        obtain ⟨h1, h2⟩ := isIdle_eq_false.1 hs
        have h3 : s ≠ ".." := by
          rintro rfl
          rw [step, if_pos rfl, hd.get?_dropLast hdir] at hm
          cases hm
        exact ⟨l, s, if_neg h3, hdir, h1, h2, h3, hslash, hnul⟩
      · exact ih hm hslash' hnul' h
    · exact ih hl hslash' hnul' h

theorem locate_missing (hd : d.IsTree) {p : FilePath} (h : d.locate p = .ok l)
    (hl : d.get? l = none) :
    ∃ dir name, l = dir ++ [name] ∧ d.get? dir = some .directory ∧ IsName name := by
  have horigin : ∀ start, d.get? (d.origin start) ≠ none := by
    intro start
    cases start <;> simp [origin, hd.here]
  rw [locate_eq] at h
  split at h
  · cases h
  split at h
  · cases h
  · rename_i hnul
    refine follow_missing hd (horigin _) (fun s => noSlash_of_mem_segments) (fun s hs hn => ?_) h hl
    exact hnul ⟨s, mem_parts_of_nul hs hn, hn⟩

/-- A directory is made where nothing lies, in a directory. -/
theorem makeDirectory_ok (hd : d.IsTree) {p : FilePath} (h : d.makeDirectory p = .ok e) :
    ∃ l, d.locate p = .ok l ∧ d.get? l = none ∧ e = d.put l .directory ∧ e.IsTree := by
  unfold makeDirectory at h
  cases hp : d.locate p with
  | error fault => rw [hp] at h; cases h
  | ok l =>
    rw [hp] at h
    cases hl : d.get? l with
    | some n => simp [bind, Except.bind, hl, throw, throwThe, MonadExceptOf.throw] at h
    | none =>
      obtain ⟨dir, name, rfl, hdir, hname⟩ := locate_missing hd hp hl
      simp only [bind, Except.bind, hl, pure, Except.pure, Except.ok.injEq] at h
      exact ⟨_, rfl, hl, h.symm, h ▸ hd.put hdir hname (.inl rfl)⟩

theorem makeDirectory_of_leads {p : FilePath} (h : d.Leads p l) :
    d.makeDirectory p = .error .taken := by
  simp [makeDirectory, h.1, h.2, bind, Except.bind, throw, throwThe, MonadExceptOf.throw]

theorem hasDirectory_iff {p : FilePath} : d.hasDirectory p = true ↔ ∃ l, d.Leads p l := by
  unfold hasDirectory find? Leads
  cases h : d.locate p with
  | error fault => simp
  | ok l => simp

theorem leads_put {p : FilePath} (hp : d.locate p = .ok l) (hl : d.get? l = none) :
    (d.put l .directory).Leads p l :=
  ⟨(grown_put (P := fun _ => True) hl trivial).locate hp,
    get?_put_self d _ (by rintro rfl; cases hl)⟩

/-! ## Directories and those above them -/

/-- An attempt to make `p` on `d`: the directory is made, or the disk stays as it is, without a
failure only where the directory is there. -/
def Attempt (p : FilePath) (d : Disk) (r : Option Fault × Disk) : Prop :=
  (∃ made, d.makeDirectory p = .ok made ∧ r = (none, made)) ∨
    r.2 = d ∧ (r.1 = none → ∃ l, d.Leads p l)

theorem attempt_settled (p : FilePath) (d : Disk) (fault : Fault) :
    Attempt p d (if d.hasDirectory p then none else some fault, d) := by
  refine .inr ⟨rfl, fun h => ?_⟩
  dsimp only at h
  split at h
  · rename_i hp; exact hasDirectory_iff.1 hp
  · cases h

/-- A chain attempts its first directory, before or after those behind it. -/
theorem makeChain_cons (d : Disk) (p : FilePath) (above : List FilePath) :
    Attempt p d (d.makeChain (p :: above)) ∨ d.makeDirectory p = .error .missing ∧
      Attempt p (d.makeChain above).2 (d.makeChain (p :: above)) := by
  cases h : d.makeDirectory p with
  | ok made => exact .inl (.inl ⟨made, h, by simp [makeChain, h]⟩)
  | error fault =>
    by_cases hf : fault = .missing
    · subst hf
      refine .inr ⟨rfl, ?_⟩
      rcases habove : d.makeChain above with ⟨_ | fault, e⟩
      · cases he : e.makeDirectory p with
        | ok made => exact .inl ⟨made, he, by simp [makeChain, h, habove, he]⟩
        | error fault =>
          simp only [makeChain, h, habove, he]
          exact attempt_settled p e fault
      · simp only [makeChain, h, habove]
        exact .inr ⟨rfl, fun h => by cases h⟩
    · refine .inl ?_
      rw [show d.makeChain (p :: above) = (if d.hasDirectory p then none else some fault, d) by
        cases fault <;> first | exact absurd rfl hf | simp [makeChain, h]]
      exact attempt_settled p d fault

theorem Attempt.grown {p : FilePath} {r : Option Fault × Disk} (h : Attempt p d r) (hd : d.IsTree)
    (hP : ∀ l, d.locate p = .ok l → P l) :
    r.2.IsTree ∧ Grown P d r.2 ∧ (r.1 = none → ∃ l, r.2.Leads p l) := by
  rcases h with ⟨made, h, rfl⟩ | ⟨h, hp⟩
  · obtain ⟨l, hp, hl, rfl, ht⟩ := makeDirectory_ok hd h
    exact ⟨ht, grown_put hl (hP l hp), fun _ => ⟨l, leads_put hp hl⟩⟩
  · rw [h]
    exact ⟨hd, .refl d, hp⟩

/-- Whatever becomes of making a chain of directories, the disk only grows by directories. -/
theorem makeChain_grown (hd : d.IsTree) (ps : List FilePath) :
    (d.makeChain ps).2.IsTree ∧ Grown (fun _ => True) d (d.makeChain ps).2 := by
  induction ps with
  | nil => exact ⟨hd, .refl d⟩
  | cons p above ih =>
    rcases makeChain_cons d p above with h | ⟨-, h⟩
    · obtain ⟨h1, h2, -⟩ := h.grown hd fun _ _ => trivial
      exact ⟨h1, h2⟩
    · obtain ⟨h1, h2, -⟩ := h.grown ih.1 fun _ _ => trivial
      exact ⟨h1, ih.2.trans h2⟩

theorem makeDirectories_grown (hd : d.IsTree) (p : FilePath) :
    (d.makeDirectories p).2.IsTree ∧ Grown (fun _ => True) d (d.makeDirectories p).2 :=
  makeChain_grown hd _

/-- The first directory of a chain exists where nothing failed. -/
theorem leads_of_makeChain (hd : d.IsTree) {p : FilePath} {above : List FilePath}
    (h : (d.makeChain (p :: above)).1 = none) : ∃ l, (d.makeChain (p :: above)).2.Leads p l := by
  rcases makeChain_cons d p above with ha | ⟨-, ha⟩
  · exact (ha.grown hd (P := fun _ => True) fun _ _ => trivial).2.2 h
  · exact (ha.grown (makeChain_grown hd above).1 (P := fun _ => True) fun _ _ => trivial).2.2 h

theorem makeDirectories_of_leads {p : FilePath} (h : d.Leads p l) :
    d.makeDirectories p = (none, d) := by
  rw [makeDirectories, ancestors_eq]
  cases p.parent? with
  | none => rfl
  | some above =>
    simp only [makeChain, makeDirectory_of_leads h, hasDirectory_iff.2 ⟨l, h⟩, if_true]

/-- Directories that are made without a failure exist. -/
theorem leads_of_makeDirectories (hd : d.IsTree) {p : FilePath}
    (h : (d.makeDirectories p).1 = none) (hl : (d.makeDirectories p).2.locate p = .ok l) :
    (d.makeDirectories p).2.Leads p l := by
  have ht := (makeDirectories_grown hd p).1
  revert h hl ht
  cases hparent : p.parent? with
  | some above =>
    rw [makeDirectories, ancestors_eq, hparent]
    intro h hl _
    obtain ⟨k, hk⟩ := leads_of_makeChain hd h
    obtain rfl : l = k := Except.ok.inj (hl.symm.trans hk.1)
    exact hk
  | none =>
    intro _ hl ht
    -- a path without a parent has no parts, so it leads to where it starts
    rcases List.eq_nil_or_concat p.parts.2 with hparts | ⟨pre, s, hparts⟩
    · have hne : p.parts ≠ (.implied, []) := by
        intro he
        rw [locate_eq, if_pos he] at hl
        cases hl
      have horigin : (d.makeDirectories p).2.get? ((d.makeDirectories p).2.origin p.parts.1) =
          some .directory := by
        cases p.parts.1 <;> simp [origin, ht.here]
      have hlead := leads_iff.2 ⟨hne, by simp [hparts], by rw [hparts, enter, if_pos horigin]⟩
      obtain rfl := Except.ok.inj (hl.symm.trans hlead.1)
      exact hlead
    · obtain ⟨above, ha, -⟩ := parent?_eq (hparts.trans List.concat_eq_append)
      rw [hparent] at ha
      cases ha

theorem Attempt.below {p q : FilePath} {names : List String} {s : String} {r : Option Fault × Disk}
    (h : Attempt q d r) (hd : d.IsTree) (hp : d.Leads p l) (hq : Extends p (names ++ [s]) q) :
    r.2.IsTree ∧ Grown (fun k => l <+: k ∧ k <+: l ++ (names ++ [s])) d r.2 := by
  obtain ⟨htree, hgrown, -⟩ := h.grown
    (P := fun k => l <+: k ∧ k <+: l ++ (names ++ [s])) hd fun k hk => by
      rw [((hp.locate_eq_ok hd hq).1 hk).2, List.append_assoc]
      exact ⟨List.prefix_append .., List.prefix_rfl⟩
  exact ⟨htree, hgrown⟩

/-- Below a directory that exists, directories are added only on the way from it. -/
theorem makeDirectories_below (hd : d.IsTree) {p q : FilePath} (hp : d.Leads p l)
    {names : List String} (hq : Extends p names q) : (d.makeDirectories q).2.IsTree ∧
      Grown (fun k => l <+: k ∧ k <+: l ++ names) d (d.makeDirectories q).2 := by
  induction names using List.reverseRecOn generalizing q with
  | nil =>
    have hlead : d.Leads q l := hp.congr (by rw [hq.parts, List.append_nil])
    rw [makeDirectories_of_leads hlead]
    exact ⟨hd, .refl d⟩
  | append_singleton names s ih =>
    obtain ⟨above, habove, hext⟩ := hq.parent?
    have heq : d.makeDirectories q = d.makeChain (q :: above.ancestors) := by
      rw [makeDirectories, ancestors_eq, habove]
    rw [heq]
    rcases makeChain_cons d q above.ancestors with h | ⟨-, h⟩
    · exact h.below hd hp hq
    · -- the directories above are made first, on the shorter way
      obtain ⟨htree, hgrown⟩ := ih hext
      obtain ⟨htree', hgrown'⟩ := h.below htree (hgrown.leads hp) hq
      have hway := hgrown.mono fun k hk => hk.imp_right fun hk : k <+: l ++ names =>
        hk.trans ⟨[s], List.append_assoc ..⟩
      exact ⟨htree', hway.trans hgrown'⟩

/-! ## Files -/

/-- Whether a file may be put in place of what lies somewhere. -/
def Node.isWritable : Node → Bool
  | .file f => f.mode == .readWrite
  | .directory => false

/-- A file may be put at the location: nothing lies there, or a file that may be written. -/
def Writable (d : Disk) (l : Location) : Prop :=
  (d.get? l).all (·.isWritable) = true

instance (d : Disk) (l : Location) : Decidable (d.Writable l) :=
  inferInstanceAs (Decidable (_ = true))

theorem Writable.not_directory (h : d.Writable l) : d.get? l ≠ some .directory := fun hl => by
  rw [Writable, hl] at h
  cases h

theorem writable_iff {file : RegularFile} (hl : d.get? l = some (.file file)) :
    d.Writable l ↔ file.mode = .readWrite := by
  rw [Writable, hl]
  simp [Node.isWritable]

theorem Writable.congr (h : d.Writable l) (hl : e.get? l = d.get? l) : e.Writable l := by
  rwa [Writable, hl]

section

variable {p q : FilePath} {dir : List String} {name : String}

/-- A file can be written where its directory exists and it may be put. -/
theorem locateFile_ok (hd : d.IsTree) (hp : d.Leads p l) (hq : Extends p (dir ++ [name]) q) :
    d.locateFile q = .ok k ↔ d.get? (l ++ dir) = some .directory ∧
      d.Writable (l ++ dir ++ [name]) ∧ k = l ++ dir ++ [name] := by
  have hloc : ∀ k, d.locate q = .ok k ↔ _ := fun k => hp.locate_eq_ok hd hq
  have hslash := (hq.endsInName (by simp)).not_endsWith_slash
  unfold locateFile Writable
  cases h : d.locate q with
  | error fault =>
    have : d.get? (l ++ dir) ≠ some .directory := fun he => by
      have := (hloc _).2 ⟨he, rfl⟩
      rw [h] at this
      cases this
    simp [bind, Except.bind, this]
  | ok m =>
    obtain ⟨hdir, rfl⟩ := (hloc m).1 h
    simp only [bind, Except.bind, hdir, true_and]
    rcases d.get? (l ++ dir ++ [name]) with _ | ⟨_, _ | _⟩ | _ <;>
      simp [hslash, Node.isWritable, pure, Except.pure, throw, throwThe, MonadExceptOf.throw, @eq_comm _ k]

theorem putFile_ok (hd : d.IsTree) (hp : d.Leads p l) (hq : Extends p (dir ++ [name]) q)
    {f : RegularFile} : d.putFile q f = .ok e ↔ d.get? (l ++ dir) = some .directory ∧
      d.Writable (l ++ dir ++ [name]) ∧ e = d.put (l ++ dir ++ [name]) (.file f) := by
  have hput : d.putFile q f = .ok e ↔ ∃ k, d.locateFile q = .ok k ∧ e = d.put k (.file f) := by
    unfold putFile
    cases d.locateFile q <;> simp [bind, Except.bind, pure, Except.pure, eq_comm]
  rw [hput]
  constructor
  · rintro ⟨k, hk, rfl⟩
    obtain ⟨h1, h2, rfl⟩ := (locateFile_ok hd hp hq).1 hk
    exact ⟨h1, h2, rfl⟩
  · rintro ⟨h1, h2, rfl⟩
    exact ⟨_, (locateFile_ok hd hp hq).2 ⟨h1, h2, rfl⟩, rfl⟩

theorem copy_ok (hd : d.IsTree) (hp : d.Leads p l) (hq : Extends p (dir ++ [name]) q)
    {source : Location} (h : d.copy source q = .ok e) : d.get? (l ++ dir) = some .directory ∧
      d.Writable (l ++ dir ++ [name]) ∧ ∃ f, e = d.put (l ++ dir ++ [name]) (.file f) := by
  unfold copy at h
  cases hf : d.fileAt source with
  | error fault => rw [hf] at h; cases h
  | ok f =>
    cases hk : d.locateFile q with
    | error fault => rw [hf, hk] at h; cases h
    | ok k =>
      rw [hf, hk] at h
      obtain ⟨h1, h2, rfl⟩ := (locateFile_ok hd hp hq).1 hk
      exact ⟨h1, h2, _, (Except.ok.inj h).symm⟩

/-- A file that is copied elsewhere keeps its content and its mode. -/
theorem copy_eq_putFile {source : Location} {f : RegularFile} (hs : d.get? source = some (.file f))
    (hd : d.IsTree) (hp : d.Leads p l) (hq : Extends p (dir ++ [name]) q)
    (hne : l ++ dir ++ [name] ≠ source) : d.copy source q = d.putFile q f := by
  unfold copy putFile
  rw [fileAt_eq_ok.2 hs]
  simp only [bind, Except.bind]
  cases h : d.locateFile q with
  | error fault => rfl
  | ok k =>
    obtain ⟨-, -, rfl⟩ := (locateFile_ok hd hp hq).1 h
    simp only [if_neg hne]

end

end DocTabs.Disk
