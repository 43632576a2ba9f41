/-
Files after a sequence of writes: a file is what the last write to it has put, and a file that is
not written stays as it is.
-/
import DocTabs.Proofs.Disk.Make

namespace DocTabs.Disk

/-- The regular file at a location. -/
def file? (d : Disk) (l : Location) : Option RegularFile :=
  match d.get? l with
  | some (.file f) => some f
  | _ => none

/-- The content of the regular file at a location. -/
def bytes? (d : Disk) (l : Location) : Option ByteArray :=
  (d.file? l).map (·.content)

/-- The file that the last of some writes puts at a location. -/
def latest (writes : List (Location × RegularFile)) (l : Location) : Option RegularFile :=
  writes.reverse.lookup l

/-- The files of `e` are those of `d` after the writes. -/
def Wrote (writes : List (Location × RegularFile)) (d e : Disk) : Prop :=
  ∀ l, e.file? l = (latest writes l).or (d.file? l)

variable {d e f m : Disk} {l k : Location} {file : RegularFile}
  {writes more : List (Location × RegularFile)}

theorem file?_eq_some : d.file? l = some file ↔ d.get? l = some (.file file) := by
  unfold file?
  rcases d.get? l with _ | _ | _ <;> simp

theorem bytes?_of_file (h : d.get? l = some (.file file)) : d.bytes? l = some file.content := by
  rw [bytes?, file?_eq_some.2 h]
  rfl

theorem file?_put (hl : l ≠ []) :
    (d.put l (.file file)).file? k = if k = l then some file else d.file? k := by
  unfold file?
  rw [get?_put d hl]
  by_cases hk : k = l
  · rw [if_pos hk, if_pos hk]
  · rw [if_neg hk, if_neg hk]

theorem Grown.file?_eq {P : Location → Prop} (h : Grown P d e) (l : Location) :
    e.file? l = d.file? l := by
  unfold file?
  rcases h.get? l with h1 | ⟨h1, h2, -⟩
  · rw [h1]
  · rw [h1, h2]

/-! ## The last write -/

theorem latest_append (writes more : List (Location × RegularFile)) (l : Location) :
    latest (writes ++ more) l = (latest more l).or (latest writes l) := by
  rw [latest, List.reverse_append, List.lookup_append]
  rfl

theorem latest_cons (p : Location × RegularFile) (writes : List (Location × RegularFile)) (l : Location) :
    latest (p :: writes) l = (latest writes l).or (if l = p.1 then some p.2 else none) := by
  rw [← List.singleton_append, latest_append]
  congr 1
  obtain ⟨k, file⟩ := p
  show List.lookup l [(k, file)] = _
  by_cases h : l = k
  · simp [h]
  · rw [List.lookup_cons, show (l == k) = false by simpa using h, if_neg h]
    rfl

theorem latest_eq_none : latest writes l = none ↔ ∀ p ∈ writes, p.1 ≠ l := by
  rw [latest, List.lookup_eq_none_iff]
  simp only [List.mem_reverse, bne_iff_ne, ne_comm]

theorem latest_of_last {p : Location × RegularFile} (h : ∀ q ∈ more, q.1 ≠ p.1) :
    latest (writes ++ p :: more) p.1 = some p.2 := by
  rw [latest_append, latest_cons, latest_eq_none.2 h, if_pos rfl]
  rfl

theorem exists_latest (h : l ∈ writes.map (·.1)) : ∃ file, latest writes l = some file := by
  rw [← Option.ne_none_iff_exists', ne_eq, latest_eq_none]
  intro hne
  obtain ⟨p, hp, rfl⟩ := List.mem_map.1 h
  exact hne p hp rfl

theorem Wrote.refl (d : Disk) : Wrote [] d d := fun _ => rfl

theorem Wrote.append (h : Wrote writes d e) (h' : Wrote more e f) : Wrote (writes ++ more) d f := by
  intro l
  rw [h' l, h l, latest_append, Option.or_assoc]

/-- One write, after some directories are made. -/
theorem Grown.wrote {P : Location → Prop} (h : Grown P d m) (hl : l ≠ []) (file : RegularFile) :
    Wrote [(l, file)] d (m.put l (.file file)) := by
  intro k
  rw [file?_put hl, h.file?_eq, latest_cons]
  split <;> rfl

theorem Grown.wrote_nil {P : Location → Prop} (h : Grown P d m) : Wrote [] d m := fun l =>
  h.file?_eq l

end DocTabs.Disk
