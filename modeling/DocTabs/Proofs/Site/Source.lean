/-
The source files of a build: the regular files below the source directory under shown names and
outside the output directory. Listing directory by directory gives each of them once, in the byte
order of the paths name by name, so that a directory comes where its own name stands.
-/
import DocTabs.Site.Build
import DocTabs.Proofs.Disk.Listing
import DocTabs.Proofs.Text.ByteOrder

namespace DocTabs.Site

open Disk

/-! ## Order of paths -/

/-- The first path comes before the second, name by name in the order of bytes. -/
def Before (a b : Location) : Prop :=
  List.Lex (fun s t => Text.bytes s < Text.bytes t) a b

theorem before_iff {a b : Location} : Before a b ↔ a < b := by
  unfold Before
  simp only [Text.bytes_lt]
  rfl

theorem Before.asymm {a b : Location} (h : Before a b) : ¬ Before b a := by
  rw [before_iff] at h ⊢
  exact lt_asymm h

/-! ## Source files -/

/-- The hidden names are those that start with a dot. -/
theorem isHidden_eq (name : String) : Plan.isHidden name = (name.toList.head? == some '.') := by
  rw [Plan.isHidden, Bool.eq_iff_iff, String.startsWith_string_iff, show ".".toList = ['.'] from rfl]
  rcases name.toList with _ | ⟨c, cs⟩
  · simp
  · rw [List.cons_prefix_cons, List.head?_cons, beq_iff_eq, Option.some.injEq, eq_comm]
    simp

/-- A regular file below `root`, named `file` from there on, that is neither hidden nor in a hidden
directory and does not lie below `out`. -/
structure IsSource (d : Disk) (root out file : Location) : Prop where
  isFile : ∃ f, d.get? (root ++ file) = some (.file f)
  shown : ∀ name ∈ file, Plan.isHidden name = false
  outside : ¬ out <+: root ++ file

/-- The source files, each once and in order. -/
structure Sources (d : Disk) (root out : Location) (files : List Location) : Prop where
  ordered : files.Pairwise Before
  mem : ∀ file, file ∈ files ↔ IsSource d root out file

variable {d e : Disk} {root out : Location} {files : List Location}

theorem Sources.unique {files' : List Location} (h : Sources d root out files)
    (h' : Sources d root out files') : files = files' := by
  have hnodup : ∀ {files : List Location}, files.Pairwise Before → files.Nodup := fun h =>
    h.imp fun h he => (he ▸ h).asymm (he ▸ h)
  refine List.Perm.eq_of_pairwise (fun a b _ _ hab hba => absurd hba hab.asymm) h.ordered h'.ordered ?_
  rw [List.perm_ext_iff_of_nodup (hnodup h.ordered) (hnodup h'.ordered)]
  exact fun file => (h.mem file).trans (h'.mem file).symm

/-- Disks with the same files outside the output directory have the same source files. -/
theorem Sources.congr (h : Sources d root out files)
    (hfile : ∀ l f, ¬ out <+: l →
      (e.get? l = some (.file f) ↔ d.get? l = some (.file f))) :
    Sources e root out files := by
  refine ⟨h.ordered, fun file => (h.mem file).trans ?_⟩
  constructor
  · rintro ⟨⟨f, hf⟩, hshown, hout⟩
    exact ⟨⟨f, (hfile _ _ hout).2 hf⟩, hshown, hout⟩
  · rintro ⟨⟨f, hf⟩, hshown, hout⟩
    exact ⟨⟨f, (hfile _ _ hout).1 hf⟩, hshown, hout⟩

/-! ## Listing them -/

/-- What an entry contributes: nothing if it is the output directory, a directory what lies below
it, and a file itself. -/
def listEntry (d : Disk) (root out : Location) (below : Location → List Location)
    (entry : Location) : List Location :=
  if root ++ entry = out then []
  else match d.get? (root ++ entry) with
    | some .directory => below entry
    | some (.file _) => [entry]
    | none => []

/-- The source files below `dir`, as far as `depth` names down, in the order of the walk. -/
def sourcesFrom (d : Disk) (root out : Location) : Nat → Location → List Location
  | 0, _ => []
  | depth + 1, dir =>
    ((d.names (root ++ dir)).filter (!Plan.isHidden ·)).flatMap fun name =>
      listEntry d root out (sourcesFrom d root out depth) (dir ++ [name])

/-- The shown names of a directory whose entries stand in order. -/
theorem shown_of_ordered {dir : Location} {names : List String}
    (h : d.nodes.filterMap (fun e => nameIn? dir e.1) = names) (ho : names.Pairwise (· ≤ ·)) :
    (d.names dir).filter (!Plan.isHidden ·) = names.filter (·.toList.head? != some '.') := by
  simp only [names_of_ordered h ho, isHidden_eq]
  rfl

theorem mem_listEntry {below : Location → List Location} {entry file : Location} :
    file ∈ listEntry d root out below entry ↔ root ++ entry ≠ out ∧
      (d.get? (root ++ entry) = some .directory ∧ file ∈ below entry ∨
        (∃ f, d.get? (root ++ entry) = some (.file f)) ∧ file = entry) := by
  unfold listEntry
  split
  · rename_i h; simp [h]
  · rename_i h
    rcases d.get? (root ++ entry) with _ | _ | _ <;> simp [h]

/-- An entry is outside the output where the directory it lies in is, unless it is the output. -/
theorem not_below_concat {dir : Location} {name : String} (hout : ¬ out <+: root ++ dir)
    (hne : root ++ (dir ++ [name]) ≠ out) : ¬ out <+: root ++ (dir ++ [name]) := by
  rw [← List.append_assoc, List.prefix_concat_iff, not_or, List.append_assoc]
  exact ⟨fun h => hne h.symm, hout⟩

theorem mem_sourcesFrom (hd : d.IsTree) {depth : Nat} {dir file : Location}
    (hout : ¬ out <+: root ++ dir) :
    file ∈ sourcesFrom d root out depth dir ↔ ∃ name rest, file = dir ++ name :: rest ∧
      rest.length < depth ∧ (∃ f, d.get? (root ++ file) = some (.file f)) ∧
      (∀ s ∈ name :: rest, Plan.isHidden s = false) ∧ ¬ out <+: root ++ file := by
  induction depth generalizing dir with
  | zero => simp [sourcesFrom]
  | succ depth ih =>
    simp only [sourcesFrom, List.mem_flatMap, List.mem_filter, Bool.not_eq_true', mem_names hd,
      mem_listEntry]
    constructor
    · rintro ⟨name, ⟨-, hshown⟩, hne, ⟨-, hfile⟩ | ⟨hfile, rfl⟩⟩
      · obtain ⟨s, rest, rfl, hlen, hf, hall, hbelow⟩ := (ih (not_below_concat hout hne)).1 hfile
        refine ⟨name, s :: rest, by simp, by simpa using hlen, hf, ?_, hbelow⟩
        simpa [hshown] using hall
      · exact ⟨name, [], rfl, by simp, hfile, by simpa using hshown, not_below_concat hout hne⟩
    · rintro ⟨name, rest, rfl, hlen, hfile, hall, hbelow⟩
      have hcons : dir ++ name :: rest = dir ++ [name] ++ rest := by simp
      have hne : root ++ (dir ++ [name]) ≠ out := by
        rintro rfl
        exact hbelow ⟨rest, by simp⟩
      -- what lies at the entry is the file itself, or a directory on the way to it
      rcases rest with _ | ⟨s, rest⟩
      · obtain ⟨f, hf⟩ := hfile
        refine ⟨name, ⟨?_, hall name (by simp)⟩, hne, .inr ⟨⟨f, hf⟩, rfl⟩⟩
        rw [List.append_assoc, hf]
        simp
      · have hdir : d.get? (root ++ (dir ++ [name])) = some .directory := by
          obtain ⟨f, hf⟩ := hfile
          rw [hcons, ← List.append_assoc root] at hf
          exact hd.get?_above hf (by simp)
        refine ⟨name, ⟨?_, hall name (by simp)⟩, hne, .inl ⟨hdir, ?_⟩⟩
        · rw [List.append_assoc, hdir]
          simp
        · exact (ih (not_below_concat hout hne)).2 ⟨s, rest, hcons, by simpa using hlen, hfile,
            fun t ht => hall t (List.mem_cons_of_mem _ ht), hbelow⟩

/-- What an entry contributes are files, and goes on from its name. -/
theorem exists_of_mem_listEntry (hd : d.IsTree) {depth : Nat} {dir file : Location} {name : String}
    (hout : ¬ out <+: root ++ dir)
    (h : file ∈ listEntry d root out (sourcesFrom d root out depth) (dir ++ [name])) :
    (∃ rest, file = dir ++ name :: rest) ∧ ∃ f, d.get? (root ++ file) = some (.file f) := by
  obtain ⟨hne, ⟨-, hfile⟩ | ⟨hfile, rfl⟩⟩ := mem_listEntry.1 h
  · obtain ⟨s, rest, rfl, -, hf, -⟩ := (mem_sourcesFrom hd (not_below_concat hout hne)).1 hfile
    exact ⟨⟨s :: rest, by simp⟩, hf⟩
  · exact ⟨⟨[], rfl⟩, hfile⟩

theorem pairwise_sourcesFrom (hd : d.IsTree) {depth : Nat} {dir : Location}
    (hout : ¬ out <+: root ++ dir) : (sourcesFrom d root out depth dir).Pairwise (· < ·) := by
  induction depth generalizing dir with
  | zero => exact .nil
  | succ depth ih =>
    -- below one name the order holds by induction, and between two names it is theirs
    rw [sourcesFrom, List.pairwise_flatMap]
    refine ⟨fun name _ => ?_, ?_⟩
    · unfold listEntry
      split
      · exact .nil
      rename_i hne
      split
      · exact ih (not_below_concat hout hne)
      · exact List.pairwise_singleton ..
      · exact .nil
    · refine ((pairwise_names hd _).filter _).imp fun {s t} hst a ha b hb => ?_
      obtain ⟨⟨rest, rfl⟩, -⟩ := exists_of_mem_listEntry hd hout ha
      obtain ⟨⟨rest', rfl⟩, -⟩ := exists_of_mem_listEntry hd hout hb
      exact List.append_left_lt (List.cons_lt_cons_iff.2 (.inl hst))

/-- Listing from the source directory, as deep as anything lies, gives the source files. -/
theorem sources_sourcesFrom (hd : d.IsTree) (hroot : d.get? root = some .directory)
    (hout : ¬ out <+: root) {depth : Nat} (hdepth : d.height ≤ depth) :
    Sources d root out (sourcesFrom d root out depth []) := by
  have hout' : ¬ out <+: root ++ [] := by rwa [List.append_nil]
  refine ⟨(pairwise_sourcesFrom hd hout').imp before_iff.2, fun file => ?_⟩
  rw [mem_sourcesFrom hd hout']
  constructor
  · rintro ⟨name, rest, rfl, -, hf, hshown, hbelow⟩
    exact ⟨hf, hshown, hbelow⟩
  · rintro ⟨⟨f, hf⟩, hshown, hbelow⟩
    rcases file with _ | ⟨name, rest⟩
    · rw [List.append_nil, hroot] at hf
      cases hf
    · have hlen := length_lt_height hd hf
      rw [List.length_append, List.length_cons] at hlen
      exact ⟨name, rest, rfl, by omega, ⟨f, hf⟩, hshown, hbelow⟩

end DocTabs.Site
