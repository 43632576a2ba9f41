/-
Where a path leads. Following a path comes down to its parts: it goes from directory to directory,
and a path that leads to a directory can be followed by names. The location is the one that the
spelling tells, since nothing on a disk leads elsewhere.
-/
import DocTabs.Disk.Access
import DocTabs.Proofs.Disk.Extends
import DocTabs.Proofs.Disk.Tree

namespace DocTabs.Disk

open FilePath

/-! ## Directories along the way -/

/-- The location that a part leads to from a directory. -/
def step (l : Location) (part : String) : Location :=
  if part = ".." then l.dropLast else l ++ [part]

/-- The location that parts lead to from a directory, whatever lies on the way. -/
def walk (l : Location) (parts : List String) : Location :=
  parts.foldl step l

/-- Where a path starts. -/
def origin (d : Disk) : Start → Location
  | .root => []
  | .here | .implied => d.here

/-- The location that the spelling of a path tells. -/
def target (d : Disk) (p : FilePath) : Location :=
  walk (d.origin p.parts.1) p.parts.2

/-- The directory that parts lead to from `l`, where every location from `l` on is a directory. -/
def enter (d : Disk) (l : Location) : List String → Option Location
  | [] => if d.get? l = some .directory then some l else none
  | part :: rest => if d.get? l = some .directory then d.enter (step l part) rest else none

variable {d e : Disk} {l k : Location}

theorem enter_of_not_directory (h : d.get? l ≠ some .directory) (parts : List String) :
    d.enter l parts = none := by
  cases parts <;> simp [enter, h]

theorem origin_congr (h : e.here = d.here) : e.origin = d.origin := by
  funext start
  cases start <;> simp [origin, h]

theorem target_congr (h : e.here = d.here) (p : FilePath) : e.target p = d.target p := by
  rw [target, target, origin_congr h]

/-- A way through directories is still one where no directory is lost. -/
theorem enter_mono (hde : ∀ k, d.get? k = some .directory → e.get? k = some .directory)
    {parts : List String} (h : d.enter l parts = some k) : e.enter l parts = some k := by
  induction parts generalizing l with
  | nil =>
    simp only [enter, Option.ite_none_right_eq_some] at h ⊢
    exact ⟨hde l h.1, h.2⟩
  | cons part rest ih =>
    simp only [enter, Option.ite_none_right_eq_some] at h ⊢
    exact ⟨hde l h.1, ih h.2⟩

/-! ## Following segments -/

theorem follow_cons_name {s : String} (hs : isIdle s = false) (rest : List String) :
    d.follow l (s :: rest) = match d.get? l with
      | some .directory => d.follow (step l s) rest
      | some (.file _) => .error .notDirectory
      | none => .error .missing := by
  obtain ⟨h1, h2⟩ := isIdle_eq_false.1 hs
  simp only [follow, beq_eq_false_iff_ne.2 h1, beq_eq_false_iff_ne.2 h2, Bool.false_and, step]
  rcases d.get? l with _ | _ | _ <;> simp

theorem follow_cons_dot (rest : List String) :
    d.follow l ("." :: rest) = match d.get? l with
      | some .directory => d.follow l rest
      | some (.file _) => .error .notDirectory
      | none => .error .missing := by
  simp only [follow]
  rcases d.get? l with _ | _ | _ <;> simp

theorem follow_cons_empty {rest : List String} (h : rest ≠ []) :
    d.follow l ("" :: rest) = d.follow l rest := by
  simp [follow, h]

theorem follow_empty : d.follow l [""] = match d.get? l with
    | some (.file _) => .error .notDirectory
    | _ => .ok l := by
  simp only [follow]
  rcases d.get? l with _ | _ | _ <;> simp

/-- How a way that does not fail goes on from its first segment: by a name in a directory, or by an
idle segment, where `.` wants a directory and a slash at the end no file. -/
theorem follow_cons_eq_ok {s : String} {rest : List String} : d.follow l (s :: rest) = .ok k ↔
    isIdle s = false ∧ d.get? l = some .directory ∧ d.follow (step l s) rest = .ok k ∨
    isIdle s = true ∧ (s = "." → d.get? l = some .directory) ∧
      (s = "" → rest = [] → ∀ f, d.get? l ≠ some (.file f)) ∧ d.follow l rest = .ok k := by
  cases hs : isIdle s with
  | false =>
    rw [follow_cons_name hs]
    rcases d.get? l with _ | _ | _ <;> simp
  | true =>
    rcases (by simpa [isIdle] using hs : s = "" ∨ s = ".") with rfl | rfl
    · by_cases hrest : rest = []
      · rw [hrest, follow_empty]
        rcases d.get? l with _ | _ | _ <;> simp [follow]
      · simp [follow_cons_empty hrest, hrest]
    · rw [follow_cons_dot]
      rcases d.get? l with _ | _ | _ <;> simp

/-- Segments lead to a directory where their parts go through directories. -/
theorem follow_directory {segs : List String} :
    (d.follow l segs = .ok k ∧ d.get? k = some .directory) ↔
      d.enter l (segs.filter (!isIdle ·)) = some k := by
  induction segs generalizing l with
  | nil =>
    simp only [follow, List.filter_nil, enter, Option.ite_none_right_eq_some, Option.some.injEq,
      Except.ok.injEq]
    constructor
    · rintro ⟨rfl, h⟩; exact ⟨h, rfl⟩
    · rintro ⟨h, rfl⟩; exact ⟨rfl, h⟩
  | cons s rest ih =>
    rw [follow_cons_eq_ok]
    cases hs : isIdle s with
    | false =>
      rw [List.filter_cons_of_pos (by simp [hs]), enter]
      by_cases h : d.get? l = some .directory <;> simp [h, ih]
    | true =>
      rw [List.filter_cons_of_neg (by simp [hs]), ← ih]
      constructor
      · rintro ⟨⟨h, -⟩ | ⟨-, -, -, h⟩, hk⟩
        · cases h
        · exact ⟨h, hk⟩
      · -- what an idle segment wants is there, since the way goes on from a directory
        rintro ⟨h, hk⟩
        have hl : d.get? l = some .directory := by
          by_contra hl
          have hnone := enter_of_not_directory hl (rest.filter (!isIdle ·))
          rw [ih.1 ⟨h, hk⟩] at hnone
          cases hnone
        exact ⟨.inr ⟨rfl, fun _ => hl, fun _ _ _ => by simp [hl], h⟩, hk⟩

/-- Idle segments do not matter on the way to a name. -/
theorem follow_filter {segs : List String} {s : String} (hlast : segs.getLast? = some s)
    (hs : isIdle s = false) : d.follow l segs = d.follow l (segs.filter (!isIdle ·)) := by
  induction segs generalizing l with
  | nil => cases hlast
  | cons t rest ih =>
    by_cases hrest : rest = []
    · subst hrest
      obtain rfl : t = s := by simpa using hlast
      simp [hs]
    · have hlast' : rest.getLast? = some s := by
        rwa [List.getLast?_cons_of_ne_nil hrest] at hlast
      cases ht : isIdle t with
      | false =>
        rw [follow_cons_name ht, List.filter_cons_of_pos (by simp [ht]), follow_cons_name ht]
        simp only [ih hlast']
      | true =>
        rw [List.filter_cons_of_neg (by simp [ht])]
        rcases (by simpa [isIdle] using ht : t = "" ∨ t = ".") with rfl | rfl
        · rw [follow_cons_empty hrest, ih hlast']
        · rw [follow_cons_dot, ih hlast']
          -- where `.` fails, the next name fails in the same way
          obtain ⟨a, more, hmore⟩ : ∃ a more, rest.filter (!isIdle ·) = a :: more :=
            List.exists_cons_of_ne_nil fun he => by
              have hmem := List.mem_of_getLast? hlast'
              have := List.filter_eq_nil_iff.1 he s hmem
              simp [hs] at this
          have ha : isIdle a = false := by
            have : a ∈ rest.filter (!isIdle ·) := hmore ▸ List.mem_cons_self ..
            simpa using (List.mem_filter.1 this).2
          rw [hmore, follow_cons_name ha]
          rcases d.get? l with _ | _ | _ <;> rfl

theorem follow_append {xs ys : List String} (hx : ∀ s ∈ xs, isIdle s = false)
    (h : d.enter l xs = some k) : d.follow l (xs ++ ys) = d.follow k ys := by
  induction xs generalizing l with
  | nil =>
    simp only [enter, Option.ite_none_right_eq_some, Option.some.injEq] at h
    rw [List.nil_append, h.2]
  | cons x xs ih =>
    simp only [enter, Option.ite_none_right_eq_some] at h
    rw [List.cons_append, follow_cons_name (hx x (List.mem_cons_self ..)), h.1]
    exact ih (fun s hs => hx s (List.mem_cons_of_mem _ hs)) h.2

/-- Following ends where the parts lead. -/
theorem follow_eq_ok {segs : List String} (h : d.follow l segs = .ok k) :
    k = walk l (segs.filter (!isIdle ·)) := by
  induction segs generalizing l with
  | nil => exact (Except.ok.inj h).symm
  | cons s rest ih =>
    rcases follow_cons_eq_ok.1 h with ⟨hs, -, h⟩ | ⟨hs, -, -, h⟩
    · rw [List.filter_cons_of_pos (by simp [hs])]
      exact ih h
    · rw [List.filter_cons_of_neg (by simp [hs])]
      exact ih h

/-- Following names ends at them, in a directory. -/
theorem follow_names (hd : d.IsTree) {dir : List String} {name : String}
    (hdir : ∀ s ∈ dir, IsName s) (hname : IsName name) :
    d.follow l (dir ++ [name]) = .ok k ↔
      d.get? (l ++ dir) = some .directory ∧ k = l ++ dir ++ [name] := by
  have hstep : ∀ {s : String}, IsName s → ∀ l, step l s = l ++ [s] := fun h _ => if_neg h.ne_dotDot
  induction dir generalizing l with
  | nil =>
    rw [List.nil_append, follow_cons_name hname.not_idle, hstep hname]
    rcases hl : d.get? l with _ | _ | _ <;> simp [hl, follow, eq_comm]
  | cons s dir ih =>
    have hs := hdir s (List.mem_cons_self ..)
    rw [List.cons_append, follow_cons_name hs.not_idle, hstep hs]
    have hrest := @ih (l ++ [s]) fun t ht => hdir t (List.mem_cons_of_mem _ ht)
    simp only [List.append_assoc, List.cons_append, List.nil_append] at hrest ⊢
    have habove : d.get? (l ++ s :: dir) = some .directory → d.get? l = some .directory :=
      fun h => hd.get?_above h (by simp)
    rcases hl : d.get? l with _ | _ | _
    · simp [hl] at habove; simp [habove]
    · simp [hl] at habove; simp [habove]
    · exact hrest

/-! ## Paths -/

/-- The path leads to the directory at `l`. -/
def Leads (d : Disk) (p : FilePath) (l : Location) : Prop :=
  d.locate p = .ok l ∧ d.get? l = some .directory

theorem origin_eq (d : Disk) (p : FilePath) :
    (if p.isAbsolute then [] else d.here) = d.origin p.parts.1 := by
  by_cases h : p.parts.1 = .root
  · rw [if_pos (isAbsolute_iff.2 h), h]; rfl
  · rw [if_neg fun ha => h (isAbsolute_iff.1 ha)]
    cases hs : p.parts.1 <;> simp_all [origin]

/-- A path that can be located is not empty, holds no U+0000, and is followed from its start. -/
theorem locate_eq {p : FilePath} : d.locate p =
    if p.parts = (.implied, []) then .error .missing
    else if ∃ s ∈ p.parts.2, '\x00' ∈ s.toList then .error .nulInPath
    else d.follow (d.origin p.parts.1) p.segments := by
  unfold locate
  rw [origin_eq]
  have hempty : p.text.isEmpty = true ↔ p.parts = (.implied, []) := by
    rw [String.isEmpty_iff, text_eq_empty]
  simp only [hempty, contains_nul]

theorem locate_eq_target {p : FilePath} (h : d.locate p = .ok l) : l = d.target p := by
  rw [locate_eq] at h
  split at h
  · cases h
  split at h
  · cases h
  · rw [target, parts_snd]
    exact follow_eq_ok h

/-- Whether a path leads to a directory depends on its parts alone. -/
theorem leads_iff {p : FilePath} : d.Leads p l ↔ p.parts ≠ (.implied, []) ∧
    (∀ s ∈ p.parts.2, '\x00' ∉ s.toList) ∧ d.enter (d.origin p.parts.1) p.parts.2 = some l := by
  rw [Leads, locate_eq]
  split
  · rename_i h; simp [h]
  split
  · rename_i h
    obtain ⟨s, hs, hn⟩ := h
    simp only [reduceCtorEq, false_and, false_iff]
    exact fun h => h.2.1 s hs hn
  · rename_i hne hnul
    rw [follow_directory, ← parts_snd]
    simp only [not_exists, not_and] at hnul
    exact ⟨fun h => ⟨hne, hnul, h⟩, fun h => h.2.2⟩

theorem locate_of_canonical {p : FilePath} (h : d.canonical p = .ok l) : d.locate p = .ok l := by
  unfold canonical at h
  cases hp : d.locate p with
  | error fault => rw [hp] at h; cases h
  | ok k =>
    rw [hp] at h
    cases hk : d.get? k with
    | none => simp [bind, Except.bind, hk, throw, throwThe, MonadExceptOf.throw] at h
    | some n =>
      simp only [bind, Except.bind, hk, pure, Except.pure] at h
      exact h

theorem canonical_of_leads {p : FilePath} (h : d.Leads p l) : d.canonical p = .ok l := by
  simp [canonical, h.1, h.2, bind, Except.bind, pure, Except.pure]

theorem Leads.congr {p q : FilePath} (h : d.Leads p l) (hpq : q.parts = p.parts) : d.Leads q l := by
  rw [leads_iff] at h ⊢
  rwa [hpq]

theorem Leads.target {p : FilePath} (h : d.Leads p l) : l = d.target p := locate_eq_target h.1

theorem Leads.mono {p : FilePath} (hhere : e.here = d.here)
    (hde : ∀ k, d.get? k = some .directory → e.get? k = some .directory) (h : d.Leads p l) :
    e.Leads p l := by
  rw [leads_iff] at h ⊢
  exact ⟨h.1, h.2.1, origin_congr hhere ▸ enter_mono hde h.2.2⟩

/-- A path that goes on by names from the path of a directory is followed from the directory. -/
theorem Leads.locate_extends {p q : FilePath} {names : List String} (h : d.Leads p l)
    (hq : Extends p names q) (hnonempty : names ≠ []) : d.locate q = d.follow l names := by
  obtain ⟨hne, hnul, henter⟩ := leads_iff.1 h
  obtain ⟨s, hlast, hs⟩ := hq.endsInName hnonempty
  rw [locate_eq, if_neg, if_neg, follow_filter hlast hs, ← parts_snd, hq.parts]
  · refine follow_append (fun t ht => ?_) henter
    rw [parts_snd] at ht
    simpa using (List.mem_filter.1 ht).2
  · rintro ⟨t, ht, hn⟩
    rw [hq.parts] at ht
    rcases List.mem_append.1 ht with ht | ht
    · exact hnul t ht hn
    · exact (hq.isName t ht).noNul hn
  · rw [hq.parts, Prod.mk.injEq, List.append_eq_nil_iff]
    rintro ⟨h1, h2, -⟩
    exact hne (Prod.ext h1 h2)

/-- It is located where the directory that it lies in exists. -/
theorem Leads.locate_eq_ok {p q : FilePath} {dir : List String} {name : String} (hd : d.IsTree)
    (h : d.Leads p l) (hq : Extends p (dir ++ [name]) q) :
    d.locate q = .ok k ↔ d.get? (l ++ dir) = some .directory ∧ k = l ++ dir ++ [name] := by
  rw [h.locate_extends hq (by simp)]
  exact follow_names hd (fun s hs => hq.isName s (by simp [hs])) (hq.isName name (by simp))

/-! ## Reading a text -/

theorem fileAt_eq_ok {f : RegularFile} : d.fileAt l = .ok f ↔ d.get? l = some (.file f) := by
  unfold fileAt
  rcases d.get? l with _ | _ | _ <;> simp

theorem contentAt_eq_ok {content : ByteArray} :
    d.contentAt l = .ok content ↔ ∃ f, d.get? l = some (.file f) ∧ f.content = content := by
  unfold contentAt fileAt
  rcases d.get? l with _ | _ | _ <;> simp [Functor.map, Except.map]

theorem textAt_eq_ok {text : String} :
    d.textAt l = .ok text ↔ ∃ f, d.get? l = some (.file f) ∧ decode f.content = .ok text := by
  unfold textAt contentAt fileAt
  rcases d.get? l with _ | _ | _ <;> simp [bind, Except.bind, Functor.map, Except.map]

theorem textAt_congr (h : e.get? l = d.get? l) : e.textAt l = d.textAt l := by
  rw [textAt, contentAt, fileAt, h]; rfl

theorem textAt_of_toUTF8 {text : String} {mode : Mode}
    (h : d.get? l = some (.file ⟨text.toUTF8, mode⟩)) : d.textAt l = .ok text := by
  refine textAt_eq_ok.2 ⟨_, h, ?_⟩
  have hvalid : text.toUTF8.IsValidUTF8 := text.isValidUTF8
  unfold decode String.fromUTF8?
  rw [dif_pos hvalid]
  rfl

/-- The text that a path leads to is the one at its location. -/
theorem text_eq_ok {p : FilePath} {text : String} :
    d.text p = .ok text ↔ ∃ l, d.locate p = .ok l ∧ d.textAt l = .ok text := by
  unfold Disk.text Disk.content
  cases hl : d.locate p with
  | error fault =>
    constructor
    · intro h; cases h
    · rintro ⟨l, h, -⟩; cases h
  | ok l =>
    constructor
    · intro h; exact ⟨l, rfl, h⟩
    · rintro ⟨k, hk, h⟩
      obtain rfl := Except.ok.inj hk
      exact h

end DocTabs.Disk
