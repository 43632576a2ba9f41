/-
Paths made from paths. Joining names to a path, going to its parent and replacing its extension are
told by what they do to the parts; a path that goes on by names from another one is a relation of
its own, which is what a disk needs to know of the paths below a directory.
-/
import DocTabs.Proofs.Disk.FilePath

namespace DocTabs.Disk.FilePath

/-! ## Joining names -/

/-- The text of a path ends in a name, so that it can be the path of a file. -/
def EndsInName (p : FilePath) : Prop :=
  ∃ s, p.segments.getLast? = some s ∧ isIdle s = false

/-- The relative path that names make. -/
def ofNames (names : List String) : FilePath :=
  ⟨"/".intercalate names⟩

theorem segments_ofNames {names : List String} (hne : names ≠ []) (h : ∀ s ∈ names, IsName s) :
    (ofNames names).segments = names :=
  segments_intercalate hne fun s hs => (h s hs).noSlash

theorem endsWith_slash {s : String} : s.endsWith "/" = true ↔ ∃ t, s = t ++ "/" := by
  rw [show s.endsWith "/" = s.toSlice.endsWith "/" from rfl, String.Slice.endsWith_string_iff,
    String.copy_toSlice]
  constructor
  · rintro ⟨t, h⟩
    exact ⟨String.ofList t, String.toList_inj.1 (by simp [← h])⟩
  · rintro ⟨t, rfl⟩
    exact ⟨t.toList, by simp⟩

theorem EndsInName.not_endsWith_slash {p : FilePath} (h : p.EndsInName) :
    p.text.endsWith "/" = false := by
  obtain ⟨s, hs, hidle⟩ := h
  rw [Bool.eq_false_iff]
  intro he
  obtain ⟨t, ht⟩ := endsWith_slash.1 he
  have hp : p.segments = (FilePath.mk t).segments ++ [""] := by
    rw [show p = ⟨t ++ "/" ++ ""⟩ by cases p; simp [← ht], segments_append]
    rfl
  rw [hp, List.getLast?_concat, Option.some.injEq] at hs
  exact (isIdle_eq_false.1 hidle).1 hs.symm

/-- Joined names come behind the segments of a path, the last of which may be empty. -/
theorem segments_join (p : FilePath) {names : List String} (hne : names ≠ [])
    (h : ∀ s ∈ names, IsName s) :
    ∃ base, (p.join (ofNames names)).segments = base ++ names ∧
      ((p.segments = base ∧ p.text ≠ "") ∨ p.segments = base ++ [""]) := by
  have hseg := segments_ofNames hne h
  have habs : (ofNames names).isAbsolute = false := by
    obtain ⟨s, rest, rfl⟩ := List.exists_cons_of_ne_nil hne
    have hs := h s (List.mem_cons_self ..)
    have := split_fst (ofNames (s :: rest))
    rw [hseg] at this
    rw [isAbsolute, this]
    simp [hs.ne_empty, hs.ne_dot]
  simp only [join, habs, Bool.false_eq_true, if_false]
  by_cases hempty : p.text = ""
  · refine ⟨[], ?_, .inr ?_⟩
    · simpa [hempty] using hseg
    · rw [show p = ⟨""⟩ by cases p; cases hempty; rfl]; rfl
  by_cases hslash : p.text.endsWith "/" = true
  · obtain ⟨t, ht⟩ := endsWith_slash.1 hslash
    refine ⟨(FilePath.mk t).segments, ?_, .inr ?_⟩
    · rw [if_pos (by simp [hslash]), ht, segments_append]
      exact congrArg _ hseg
    · rw [show p = ⟨t ++ "/" ++ ""⟩ by cases p; simp [← ht], segments_append]
      rfl
  · refine ⟨p.segments, ?_, .inl ⟨rfl, hempty⟩⟩
    rw [if_neg (by simp [hslash, hempty]), segments_append]
    exact congrArg _ hseg

theorem filter_names {names : List String} (h : ∀ s ∈ names, IsName s) :
    names.filter (!isIdle ·) = names :=
  List.filter_eq_self.2 fun s hs => by simp [(h s hs).not_idle]

theorem parts_join (p : FilePath) {names : List String} (hne : names ≠ [])
    (h : ∀ s ∈ names, IsName s) :
    (p.join (ofNames names)).parts = (p.parts.1, p.parts.2 ++ names) := by
  obtain ⟨base, hj, hp⟩ := p.segments_join hne h
  have hnames := filter_names h
  refine Prod.ext (?_ : _ = p.parts.1) (?_ : _ = p.parts.2 ++ names)
  · rw [parts_fst, parts_fst, split_fst, split_fst, hj]
    obtain ⟨s, rest, rfl⟩ := List.exists_cons_of_ne_nil hne
    have hs := h s (List.mem_cons_self ..)
    rcases base with _ | ⟨b, base⟩
    · rcases hp with ⟨hp, -⟩ | hp
      · exact absurd hp p.segments_ne_nil
      · simp [hp, hs.ne_empty, hs.ne_dot]
    · rcases hp with ⟨hp, ht⟩ | hp
      · -- only the empty text has a single empty segment
        have hb : b :: base ≠ [""] := fun he => ht (by rw [← intercalate_segments, hp, he]; rfl)
        simp only [hp, List.cons_append, List.head?_cons, ne_eq, hb, not_false_eq_true, and_true]
        simp
      · simp [hp]
  · rw [parts_snd, parts_snd, hj, List.filter_append, hnames]
    rcases hp with ⟨hp, -⟩ | hp
    · rw [hp]
    · rw [hp, List.filter_append]
      simp [isIdle]

theorem endsInName_join (p : FilePath) {names : List String} (hne : names ≠ [])
    (h : ∀ s ∈ names, IsName s) : (p.join (ofNames names)).EndsInName := by
  obtain ⟨base, hj, -⟩ := p.segments_join hne h
  obtain ⟨init, s, rfl⟩ := List.eq_nil_or_concat names |>.resolve_left hne
  refine ⟨s, ?_, (h s (by simp)).not_idle⟩
  rw [hj, List.concat_eq_append, ← List.append_assoc, List.getLast?_concat]

/-! ## Parents and extensions -/

theorem CanFollow.of_prefix {start : Start} {front segs : List String} (h : CanFollow start segs)
    (hfront : front <+: segs) (hne : front ≠ []) : CanFollow start front := by
  obtain ⟨rest, rfl⟩ := hfront
  obtain ⟨a, front, rfl⟩ := List.exists_cons_of_ne_nil hne
  cases start with
  | root => exact hne
  | here => trivial
  | implied =>
    rcases h with he | ⟨b, tail, he, hb⟩
    · simp only [List.cons_append, List.cons.injEq, List.append_eq_nil_iff] at he
      exact .inl (by rw [he.1, he.2.1])
    · obtain ⟨rfl, -⟩ := List.cons.inj he
      exact .inr ⟨a, front, rfl, hb⟩

/-- A name can stand where another one stood. -/
theorem CanFollow.replace {start : Start} {front idle : List String} {s t : String}
    (h : CanFollow start (front ++ [s] ++ idle)) (ht : isIdle t = false) :
    CanFollow start (front ++ [t]) := by
  cases start with
  | root => simp [CanFollow]
  | here => trivial
  | implied =>
    rcases front with _ | ⟨a, front⟩
    · exact .inr ⟨t, [], rfl, ht⟩
    · rcases h with he | ⟨b, tail, he, hb⟩
      · simp at he
      · obtain ⟨rfl, -⟩ := List.cons.inj he
        exact .inr ⟨a, _, rfl, hb⟩

theorem noSlash_of_mem_split {p : FilePath} {s : String} (h : s ∈ p.split.2) : '/' ∉ s.toList := by
  apply noSlash_of_mem_segments (p := p)
  rw [← unsplit_split]
  generalize p.split = split at h ⊢
  obtain ⟨start, segs⟩ := split
  cases start <;> simp [unsplit] <;> simp_all

theorem endsInName_ofSplit {start : Start} {segs : List String} {s : String}
    (hf : CanFollow start (segs ++ [s])) (hslash : ∀ t ∈ segs ++ [s], '/' ∉ t.toList)
    (hs : isIdle s = false) : (ofSplit start (segs ++ [s])).EndsInName := by
  refine ⟨s, ?_, hs⟩
  rw [segments_ofSplit hf hslash]
  cases start with
  | root => exact List.getLast?_concat (l := "" :: segs)
  | here => exact List.getLast?_concat (l := "." :: segs)
  | implied => exact List.getLast?_concat

/-- A path with parts ends, idle segments aside, in the last of them. -/
theorem exists_split {p : FilePath} {pre : List String} {s : String} (h : p.parts.2 = pre ++ [s]) :
    ∃ before idle, p.split.2 = before ++ [s] ++ idle ∧ dropIdle p.split.2 = before ++ [s] ∧
      before.filter (!isIdle ·) = pre ∧ isIdle s = false := by
  obtain ⟨before, hdrop, hpre, hs⟩ := exists_last_of_filter h
  obtain ⟨idle, hidle, -⟩ := exists_dropIdle p.split.2
  exact ⟨before, idle, hdrop ▸ hidle, hdrop, hpre, hs⟩

theorem parent?_of_ne_nil {p : FilePath} (h : dropIdle p.split.2 ≠ []) :
    p.parent? = some (ofSplit p.split.1 (dropIdle (dropIdle p.split.2).dropLast)) := by
  unfold parent?
  dsimp only
  split
  · rename_i he _; exact absurd he h
  · rename_i he _; exact absurd he h
  · rfl

/-- A path without parts is its own end, but `.` lies in the empty path. -/
theorem parent?_of_nil {p above : FilePath} (h : p.parts.2 = []) (ha : p.parent? = some above) :
    p.parts.1 = .here ∧ above = ⟨""⟩ := by
  have hdrop : dropIdle p.split.2 = [] := by
    by_contra hne
    have hlast : ¬ isIdle ((dropIdle p.split.2).getLast hne) = true :=
      List.rdropWhile_last_not isIdle p.split.2 hne
    have hmem : _ ∈ (dropIdle p.split.2).filter (!isIdle ·) :=
      List.mem_filter.2 ⟨List.getLast_mem hne, by simpa using hlast⟩
    rw [filter_dropIdle] at hmem
    exact List.ne_nil_of_mem hmem h
  rw [parts_fst]
  cases hstart : p.split.1 <;> simp only [parent?, hdrop, hstart] at ha
  · cases ha
  · exact ⟨rfl, (Option.some.inj ha).symm⟩
  · cases ha

/-- The parent of a path has its parts but the last. -/
theorem parent?_eq {p : FilePath} {pre : List String} {s : String} (h : p.parts.2 = pre ++ [s]) :
    ∃ above, p.parent? = some above ∧ above.parts = (p.parts.1, pre) ∧
      (pre ≠ [] → above.EndsInName) := by
  obtain ⟨before, idle, hsplit, hdrop, rfl, hs⟩ := exists_split h
  obtain ⟨idle', hbefore, -⟩ := exists_dropIdle before
  have hpar : p.parent? = some (ofSplit p.split.1 (dropIdle before)) := by
    rw [parent?_of_ne_nil (by simp [hdrop]), hdrop, List.dropLast_concat]
  have hfront : dropIdle before <+: p.split.2 := by
    rw [hsplit, List.append_assoc]
    exact (show dropIdle before <+: before from ⟨idle', hbefore.symm⟩).trans (List.prefix_append ..)
  have hslash : ∀ t ∈ dropIdle before, '/' ∉ t.toList := fun t ht =>
    noSlash_of_mem_split (hfront.subset ht)
  have hfollow : dropIdle before = [] ∨ CanFollow p.split.1 (dropIdle before) := by
    by_cases hne : dropIdle before = []
    · exact .inl hne
    · exact .inr (p.canFollow_split.of_prefix hfront hne)
  refine ⟨_, hpar, ?_, fun hne => ?_⟩
  · rw [parts_ofSplit hslash hfollow, filter_dropIdle, parts_fst]
  · obtain ⟨pre, t, hpre⟩ := List.eq_nil_or_concat _ |>.resolve_left hne
    rw [List.concat_eq_append] at hpre
    obtain ⟨before', hdrop', -, ht⟩ := exists_last_of_filter hpre
    rw [hdrop'] at hslash hfollow ⊢
    exact endsInName_ofSplit (hfollow.resolve_left (by simp)) hslash ht

/-- With another extension the last part of a path has another name. -/
theorem parts_withExtension {p : FilePath} {pre : List String} {s extension : String}
    (h : p.parts.2 = pre ++ [s]) (hs : IsName s) (hnew : IsName (stem s ++ "." ++ extension)) :
    (p.withExtension extension).parts = (p.parts.1, pre ++ [stem s ++ "." ++ extension]) ∧
      (p.withExtension extension).EndsInName := by
  obtain ⟨before, idle, hsplit, hdrop, rfl, -⟩ := exists_split h
  have hext : p.withExtension extension =
      ofSplit p.split.1 (before ++ [stem s ++ "." ++ extension]) := by
    simp only [withExtension, hdrop, List.getLast?_concat, List.dropLast_concat]
    rw [if_neg (by simp [hs.ne_dotDot])]
  have hfollow := (hsplit ▸ p.canFollow_split).replace hnew.not_idle
  have hslash : ∀ t ∈ before ++ [stem s ++ "." ++ extension], '/' ∉ t.toList := by
    intro t ht
    rcases List.mem_append.1 ht with ht | ht
    · exact noSlash_of_mem_split (by rw [hsplit]; simp [ht])
    · obtain rfl := List.mem_singleton.1 ht
      exact hnew.noSlash
  rw [hext]
  refine ⟨?_, endsInName_ofSplit hfollow hslash hnew.not_idle⟩
  rw [parts_ofSplit hslash (.inr hfollow), List.filter_append, parts_fst,
    @filter_names [_] (by simpa using hnew)]

/-! ## Extensions by names -/

/-- `q` is `p` with names behind it. -/
structure Extends (p : FilePath) (names : List String) (q : FilePath) : Prop where
  parts : q.parts = (p.parts.1, p.parts.2 ++ names)
  isName : ∀ s ∈ names, IsName s
  endsInName : names ≠ [] → q.EndsInName

theorem extends_join (p : FilePath) {names : List String} (hne : names ≠ [])
    (h : ∀ s ∈ names, IsName s) : Extends p names (p.join (ofNames names)) :=
  ⟨p.parts_join hne h, h, fun _ => p.endsInName_join hne h⟩

theorem Extends.join {p q : FilePath} {names more : List String} (h : Extends p names q)
    (hne : more ≠ []) (hmore : ∀ s ∈ more, IsName s) :
    Extends p (names ++ more) (q.join (ofNames more)) where
  parts := by rw [q.parts_join hne hmore, h.parts, List.append_assoc]
  isName s hs := (List.mem_append.1 hs).elim (h.isName s) (hmore s)
  endsInName _ := q.endsInName_join hne hmore

theorem Extends.parent? {p q : FilePath} {names : List String} {s : String}
    (h : Extends p (names ++ [s]) q) : ∃ above, q.parent? = some above ∧ Extends p names above := by
  have hparts : q.parts.2 = p.parts.2 ++ names ++ [s] := by rw [h.parts, List.append_assoc]
  obtain ⟨above, ha, habove, hend⟩ := parent?_eq hparts
  refine ⟨above, ha, ?_, fun t ht => h.isName t (List.mem_append_left _ ht), fun hne => hend ?_⟩
  · rw [habove, h.parts]
  · exact fun he => hne (List.append_eq_nil_iff.1 he).2

theorem Extends.withExtension {p q : FilePath} {names : List String} {s extension : String}
    (h : Extends p (names ++ [s]) q) (hnew : IsName (stem s ++ "." ++ extension)) :
    Extends p (names ++ [stem s ++ "." ++ extension]) (q.withExtension extension) := by
  have hparts : q.parts.2 = p.parts.2 ++ names ++ [s] := by rw [h.parts, List.append_assoc]
  obtain ⟨hext, hend⟩ := parts_withExtension hparts (h.isName s (by simp)) hnew
  refine ⟨?_, fun t ht => ?_, fun _ => hend⟩
  · rw [hext, h.parts, List.append_assoc]
  · rcases List.mem_append.1 ht with ht | ht
    · exact h.isName t (List.mem_append_left _ ht)
    · exact List.mem_singleton.1 ht ▸ hnew

/-! ## Ancestors -/

/-- How many paths lie above a path, itself included. -/
def rank (p : FilePath) : Nat :=
  p.parts.2.length + if p.parts.1 = .here then 1 else 0

theorem rank_parent? {p above : FilePath} (h : p.parent? = some above) : above.rank < p.rank := by
  rcases List.eq_nil_or_concat p.parts.2 with hp | ⟨pre, s, hp⟩
  · obtain ⟨hstart, rfl⟩ := parent?_of_nil hp h
    have hempty : (FilePath.mk "").rank = 0 := by decide
    rw [hempty, rank, if_pos hstart]
    omega
  · rw [List.concat_eq_append] at hp
    obtain ⟨above', ha, hparts, -⟩ := parent?_eq hp
    obtain rfl : above' = above := Option.some.inj (ha ▸ h)
    simp [rank, hparts, hp]

theorem go_eq {n m : Nat} {p : FilePath} (hn : p.rank ≤ n) (hm : p.rank ≤ m) :
    ancestors.go n p = ancestors.go m p := by
  induction n generalizing m p with
  | zero =>
    cases m with
    | zero => rfl
    | succ m =>
      cases hp : p.parent? with
      | none => simp [ancestors.go, hp]
      | some above => exact absurd (rank_parent? hp) (by omega)
  | succ n ih =>
    cases hp : p.parent? with
    | none => cases m <;> simp [ancestors.go, hp]
    | some above =>
      have hlt := rank_parent? hp
      cases m with
      | zero => omega
      | succ m => simp only [ancestors.go, hp, ih (by omega : above.rank ≤ n) (by omega : _ ≤ m)]

theorem rank_le (p : FilePath) : p.rank ≤ p.split.2.length.succ := by
  have := List.length_filter_le (!isIdle ·) p.split.2
  unfold rank parts
  split <;> simp <;> omega

/-- The ancestors of a path are the path itself and those of its parent. -/
theorem ancestors_eq (p : FilePath) :
    p.ancestors = match p.parent? with
      | some above => p :: above.ancestors
      | none => [] := by
  unfold ancestors
  cases hp : p.parent? with
  | none => simp [ancestors.go, hp]
  | some above =>
    have hle : above.rank ≤ p.split.2.length := by
      have := rank_parent? hp
      have := p.rank_le
      omega
    simp only [ancestors.go, hp, go_eq hle above.rank_le]

end DocTabs.Disk.FilePath
