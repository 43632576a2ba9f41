/-
Paths by their parts. A path text is its segments with slashes between them; its parts are the
start of the path and the segments that lead somewhere, so that idle ones do not matter.
-/
import DocTabs.Disk.FilePath
import Mathlib.Data.List.DropRight

namespace DocTabs.Disk

/-! ## Names -/

/-- A name that an entry of a directory can have. -/
structure IsName (name : String) : Prop where
  ne_empty : name ≠ ""
  ne_dot : name ≠ "."
  ne_dotDot : name ≠ ".."
  noSlash : '/' ∉ name.toList
  noNul : '\x00' ∉ name.toList

instance (name : String) : Decidable (IsName name) :=
  decidable_of_iff (name ≠ "" ∧ name ≠ "." ∧ name ≠ ".." ∧ '/' ∉ name.toList ∧ '\x00' ∉ name.toList)
    ⟨fun ⟨a, b, c, d, e⟩ => ⟨a, b, c, d, e⟩, fun ⟨a, b, c, d, e⟩ => ⟨a, b, c, d, e⟩⟩

theorem isIdle_eq_false {segment : String} :
    FilePath.isIdle segment = false ↔ segment ≠ "" ∧ segment ≠ "." := by
  simp [FilePath.isIdle]

theorem IsName.not_idle {name : String} (h : IsName name) : FilePath.isIdle name = false :=
  isIdle_eq_false.2 ⟨h.ne_empty, h.ne_dot⟩

namespace FilePath

/-! ## Segments -/

theorem splitOn_eq (c : Char) (s : List Char) : Text.splitOn (· == c) s = s.splitOn c := by
  induction s with
  | nil => rfl
  | cons d s ih =>
    rw [List.splitOn_cons_eq_if_modifyHead, ← ih]
    cases h : Text.splitOn (· == c) s with
    | nil => exact absurd (ih ▸ h) (List.splitOn_ne_nil c s)
    | cons piece rest =>
      simp only [Text.splitOn, List.foldr_cons] at h ⊢
      rw [h]
      rfl

theorem segments_eq (p : FilePath) : p.segments = (p.text.toList.splitOn '/').map String.ofList := by
  rw [segments, splitOn_eq]

theorem segments_ne_nil (p : FilePath) : p.segments ≠ [] := by
  rw [segments_eq]
  exact fun h => List.splitOn_ne_nil _ _ (List.map_eq_nil_iff.1 h)

/-- The text of a path is its segments with slashes between them. -/
theorem intercalate_segments (p : FilePath) : "/".intercalate p.segments = p.text := by
  apply String.toList_inj.1
  rw [String.toList_intercalate, segments_eq, List.map_map,
    show String.toList ∘ String.ofList = id from funext fun _ => String.toList_ofList, List.map_id]
  exact List.intercalate_splitOn '/'

/-- Segments without a slash are the segments of their text. -/
theorem segments_intercalate {segs : List String} (hne : segs ≠ [])
    (h : ∀ s ∈ segs, '/' ∉ s.toList) : (FilePath.mk ("/".intercalate segs)).segments = segs := by
  rw [segments_eq, String.toList_intercalate]
  show List.map String.ofList (List.splitOn '/' (['/'].intercalate (segs.map String.toList))) = segs
  rw [List.splitOn_intercalate '/' (by simpa using h) (by simpa using hne), List.map_map,
    show String.ofList ∘ String.toList = id from funext fun s => String.ofList_toList, List.map_id]

theorem segments_append (a b : String) :
    (FilePath.mk (a ++ "/" ++ b)).segments = (FilePath.mk a).segments ++ (FilePath.mk b).segments := by
  simp only [segments_eq, String.toList_append, List.append_assoc, ← List.map_append]
  congr 1
  exact List.splitOn_append_cons_self a.toList b.toList

theorem not_mem_of_mem_splitOn {c : Char} {s piece : List Char} (h : piece ∈ s.splitOn c) :
    c ∉ piece := by
  induction s generalizing piece with
  | nil =>
    obtain rfl : piece = [] := by simpa using h
    exact List.not_mem_nil
  | cons d s ih =>
    obtain ⟨first, rest, hs⟩ := List.exists_cons_of_ne_nil (List.splitOn_ne_nil c s)
    rw [hs] at ih
    rw [List.splitOn_cons_eq_if_modifyHead, hs] at h
    split at h
    · rcases List.mem_cons.1 h with rfl | h
      · exact List.not_mem_nil
      · exact ih h
    · rename_i hd
      rw [List.modifyHead_cons] at h
      rcases List.mem_cons.1 h with rfl | h
      · intro hc
        rcases List.mem_cons.1 hc with rfl | hc
        · exact hd (by simp)
        · exact ih (List.mem_cons_self ..) hc
      · exact ih (List.mem_cons_of_mem _ h)

theorem noSlash_of_mem_segments {p : FilePath} {s : String} (h : s ∈ p.segments) :
    '/' ∉ s.toList := by
  rw [segments_eq] at h
  obtain ⟨piece, hp, rfl⟩ := List.mem_map.1 h
  rw [String.toList_ofList]
  exact not_mem_of_mem_splitOn hp

/-! ## Start and segments -/

/-- The segments of a path with the given start and the segments from there on. -/
def unsplit : Start × List String → List String
  | (.root, segs) => "" :: segs
  | (.here, segs) => "." :: segs
  | (.implied, segs) => segs

/-- Whether segments can follow a start: those of an implied start do not look like another one. -/
def CanFollow : Start → List String → Prop
  | .root, segs => segs ≠ []
  | .here, _ => True
  | .implied, segs => segs = [""] ∨ ∃ s rest, segs = s :: rest ∧ isIdle s = false

theorem unsplit_split (p : FilePath) : unsplit p.split = p.segments := by
  unfold split
  split
  · rename_i rest h
    split
    · rename_i hr
      rw [h, List.isEmpty_iff.1 hr]; rfl
    · rw [h]; rfl
  · rename_i rest h
    rw [h]; rfl
  · rfl

theorem canFollow_split (p : FilePath) : CanFollow p.split.1 p.split.2 := by
  unfold split
  split
  · split
    · exact .inl rfl
    · rename_i hr
      exact fun he => hr (List.isEmpty_iff.2 he)
  · trivial
  · rename_i hroot hhere
    obtain ⟨s, rest, h⟩ := List.exists_cons_of_ne_nil p.segments_ne_nil
    refine .inr ⟨s, rest, h, isIdle_eq_false.2 ⟨?_, ?_⟩⟩
    · rintro rfl; exact hroot rest h
    · rintro rfl; exact hhere rest h

/-- Where a path starts and what follows is read off its segments. -/
theorem split_eq {p : FilePath} {start : Start} {segs : List String}
    (h : p.segments = unsplit (start, segs)) (hf : CanFollow start segs) : p.split = (start, segs) := by
  unfold split
  rw [h]
  cases start with
  | root =>
    have hne : segs ≠ [] := hf
    simp [unsplit, hne]
  | here => rfl
  | implied =>
    rcases hf with rfl | ⟨s, rest, rfl, hs⟩
    · rfl
    · obtain ⟨h1, h2⟩ := isIdle_eq_false.1 hs
      simp only [unsplit]
      split
      · rename_i he; cases he; exact absurd rfl h1
      · rename_i he; cases he; exact absurd rfl h2
      · rfl

theorem segments_ofSplit {start : Start} {segs : List String} (hf : CanFollow start segs)
    (hs : ∀ s ∈ segs, '/' ∉ s.toList) : (ofSplit start segs).segments = unsplit (start, segs) := by
  have key : ∀ first : String, '/' ∉ first.toList → segs ≠ [] →
      (FilePath.mk (first ++ "/" ++ "/".intercalate segs)).segments = first :: segs := by
    intro first hfirst hne
    rw [segments_append, segments_intercalate hne hs]
    have : (FilePath.mk first).segments = [first] := by
      simpa using @segments_intercalate [first] (by simp) (by simpa using hfirst)
    rw [this]; rfl
  cases start with
  | root =>
    have h := key "" (by simp) hf
    rwa [String.empty_append] at h
  | here =>
    rcases segs with _ | ⟨s, segs⟩
    · rfl
    · exact key "." (by decide) (by simp)
  | implied =>
    refine segments_intercalate ?_ hs
    rcases hf with rfl | ⟨s, rest, rfl, -⟩ <;> simp

theorem split_ofSplit {start : Start} {segs : List String} (hf : CanFollow start segs)
    (hs : ∀ s ∈ segs, '/' ∉ s.toList) : (ofSplit start segs).split = (start, segs) :=
  split_eq (segments_ofSplit hf hs) hf

/-! ## Idle segments -/

theorem dropIdle_eq (segs : List String) : dropIdle segs = segs.rdropWhile isIdle := rfl

/-- Segments are those left when the idle ones at their end are dropped, and idle ones. -/
theorem exists_dropIdle (segs : List String) :
    ∃ idle, segs = dropIdle segs ++ idle ∧ ∀ s ∈ idle, isIdle s = true := by
  refine ⟨segs.rtakeWhile isIdle, (List.rdropWhile_append_rtakeWhile ..).symm, fun s hs => ?_⟩
  exact List.mem_rtakeWhile_imp hs

theorem filter_dropIdle (segs : List String) :
    (dropIdle segs).filter (!isIdle ·) = segs.filter (!isIdle ·) := by
  obtain ⟨idle, h, hidle⟩ := exists_dropIdle segs
  conv_rhs => rw [h]
  have hnone : idle.filter (!isIdle ·) = [] := List.filter_eq_nil_iff.2 (by simpa using hidle)
  rw [List.filter_append, hnone, List.append_nil]

/-- Segments that hold an idle one last go on to be cut. -/
theorem exists_last_of_filter {segs pre : List String} {s : String}
    (h : segs.filter (!isIdle ·) = pre ++ [s]) :
    ∃ before, dropIdle segs = before ++ [s] ∧ before.filter (!isIdle ·) = pre ∧ isIdle s = false := by
  have hs : isIdle s = false := by
    have : s ∈ segs.filter (!isIdle ·) := h ▸ by simp
    simpa using (List.mem_filter.1 this).2
  rcases List.eq_nil_or_concat (dropIdle segs) with he | ⟨before, t, he⟩
  · rw [← filter_dropIdle, he] at h
    simp at h
  · have ht : isIdle t = false := by
      have := List.rdropWhile_last_not isIdle segs (by rw [← dropIdle_eq, he]; simp)
      simpa [← dropIdle_eq, he] using this
    have hlast : [t].filter (!isIdle ·) = [t] := by simp [ht]
    rw [← filter_dropIdle, he, List.concat_eq_append, List.filter_append, hlast] at h
    obtain ⟨h1, h2⟩ := List.append_inj' h rfl
    obtain rfl : t = s := by simpa using h2
    exact ⟨before, by rw [he, List.concat_eq_append], h1, hs⟩

/-! ## Parts -/

theorem isAbsolute_iff {p : FilePath} : p.isAbsolute = true ↔ p.parts.1 = .root := by
  simp [isAbsolute, parts]

theorem parts_fst (p : FilePath) : p.parts.1 = p.split.1 := rfl

/-- The segments that lead somewhere, wherever the path starts. -/
theorem parts_snd (p : FilePath) : p.parts.2 = p.segments.filter (!isIdle ·) := by
  rw [← unsplit_split, parts]
  obtain ⟨start, segs⟩ := p.split
  cases start <;> simp [unsplit, isIdle]

theorem parts_ofSplit {start : Start} {segs : List String} (hs : ∀ s ∈ segs, '/' ∉ s.toList)
    (h : segs = [] ∨ CanFollow start segs) :
    (ofSplit start segs).parts = (start, segs.filter (!isIdle ·)) := by
  rcases h with rfl | h
  · cases start <;> decide
  · rw [parts, split_ofSplit h hs]

/-- Only the empty text names nothing. -/
theorem text_eq_empty {p : FilePath} : p.text = "" ↔ p.parts = (.implied, []) := by
  constructor
  · rintro h
    obtain rfl : p = ⟨""⟩ := by cases p; cases h; rfl
    decide
  · intro h
    have hf := p.canFollow_split
    have h1 : p.split.1 = .implied := congrArg Prod.fst h
    have h2 : p.split.2.filter (!isIdle ·) = [] := congrArg Prod.snd h
    rw [h1] at hf
    rcases hf with he | ⟨s, rest, he, hs⟩
    · rw [← intercalate_segments, ← unsplit_split, show p.split = (.implied, [""]) from Prod.ext h1 he]
      decide
    · rw [he] at h2
      simp [hs] at h2

/-- A character other than the separator stands in a text where it stands in a piece. -/
theorem mem_iff_mem_splitOn {c d : Char} (hd : d ≠ c) {s : List Char} :
    d ∈ s ↔ ∃ piece ∈ s.splitOn c, d ∈ piece := by
  induction s with
  | nil => simp
  | cons e s ih =>
    obtain ⟨first, rest, hs⟩ := List.exists_cons_of_ne_nil (List.splitOn_ne_nil c s)
    rw [hs] at ih
    rw [List.splitOn_cons_eq_if_modifyHead, hs, List.mem_cons, ih]
    split
    · rename_i he
      have : d ≠ e := fun h => hd (h.trans (by simpa using he))
      simp [this]
    · simp [or_assoc]

theorem mem_parts_of_nul {p : FilePath} {s : String} (hs : s ∈ p.segments)
    (hn : '\x00' ∈ s.toList) : s ∈ p.parts.2 := by
  have hidle : isIdle s = false := by
    refine isIdle_eq_false.2 ⟨?_, ?_⟩ <;> rintro rfl <;> revert hn <;> decide
  rw [parts_snd]
  exact List.mem_filter.2 ⟨hs, by simp [hidle]⟩

theorem contains_nul {p : FilePath} :
    p.text.contains '\x00' = true ↔ ∃ s ∈ p.parts.2, '\x00' ∈ s.toList := by
  have hsegs : p.text.contains '\x00' = true ↔ ∃ s ∈ p.segments, '\x00' ∈ s.toList := by
    rw [String.contains_char_eq, decide_eq_true_iff, mem_iff_mem_splitOn (c := '/') (by decide),
      segments_eq]
    simp
  rw [hsegs]
  constructor
  · rintro ⟨s, hs, hn⟩
    exact ⟨s, mem_parts_of_nul hs hn, hn⟩
  · rintro ⟨s, hs, hn⟩
    rw [parts_snd] at hs
    exact ⟨s, (List.mem_filter.1 hs).1, hn⟩

theorem split_fst (p : FilePath) :
    p.split.1 = if p.segments.head? = some "" ∧ p.segments ≠ [""] then .root
      else if p.segments.head? = some "." then .here else .implied := by
  have hf := p.canFollow_split
  rw [← unsplit_split]
  generalize p.split = split at hf ⊢
  obtain ⟨start, segs⟩ := split
  cases start with
  | root =>
    have hne : segs ≠ [] := hf
    simp [unsplit, hne]
  | here => simp [unsplit]
  | implied =>
    rcases hf with rfl | ⟨s, rest, rfl, hs⟩
    · simp [unsplit]
    · obtain ⟨h1, h2⟩ := isIdle_eq_false.1 hs
      simp [unsplit, h1, h2]

end FilePath

end DocTabs.Disk
