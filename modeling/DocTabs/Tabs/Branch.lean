/-
Branches between comment markers, `<!-- platform: NAME -->` ... `<!-- /platform -->` and likewise
for languages. A branch starts at the least position where an opening marker is followed by a
closing marker of its level, and ends at the earliest such closing marker; the next one is looked
for behind it.
-/
import DocTabs.Tabs.Vocabulary
import DocTabs.Text.Blank
import DocTabs.Text.Seek
namespace DocTabs.Tabs

open Text

/-! ## Markers -/

/-- The text after `<!--` and the blanks that follow it. -/
def markerStart? (s : List Char) : Option (List Char) :=
  (after? "<!--" s).map trimStart

/-- The text after `-->`, which blanks may precede. -/
def markerEnd? (s : List Char) : Option (List Char) :=
  after? "-->" (trimStart s)

/-- The text after a closing marker `<!-- /keyword -->`. -/
def closing? (keyword : String) (s : List Char) : Option (List Char) :=
  markerStart? s >>= after? "/" >>= after? keyword >>= markerEnd?

/-- A marker's argument and the text after its `-->`. The argument is all text up to the first `>`
less the dashes and the blanks before them, and must not be empty. -/
def argument? (s : List Char) : Option (List Char × List Char) :=
  match (s.takeWhile (· ≠ '>')).reverse, s.dropWhile (· ≠ '>') with
  | '-' :: '-' :: r, '>' :: rest =>
    let name := (r.dropWhile isBlank).reverse
    if name.isEmpty then none else some (name, rest)
  | _, _ => none

/-- The name in an opening marker `<!-- keyword: NAME -->` and the text after the marker. -/
def opening? (keyword : String) (s : List Char) : Option (List Char × List Char) :=
  markerStart? s >>= after? keyword >>= after? ":" >>= (argument? ∘ trimStart)

/-! ## What a marker consumes -/

theorem markerStart?_length {s r : List Char} (h : markerStart? s = some r) :
    r.length < s.length := by
  obtain ⟨t, ht, rfl⟩ := Option.map_eq_some_iff.1 h
  have h1 := after?_length ht
  have h2 := length_trimStart_le t
  have h3 : "<!--".toList.length = 4 := rfl
  omega

theorem markerEnd?_length {s r : List Char} (h : markerEnd? s = some r) :
    r.length < s.length := by
  have h1 := after?_length h
  have h2 := length_trimStart_le s
  have h3 : "-->".toList.length = 3 := rfl
  omega

theorem closing?_length {keyword : String} {s r : List Char} (h : closing? keyword s = some r) :
    r.length < s.length := by
  simp only [closing?, Option.bind_eq_bind, Option.bind_eq_some_iff] at h
  obtain ⟨c, ⟨b, ⟨a, ha, hb⟩, hc⟩, hr⟩ := h
  have h1 := markerStart?_length ha
  have h2 := after?_length hb
  have h3 := after?_length hc
  have h4 := markerEnd?_length hr
  omega

theorem argument?_length {s name r : List Char} (h : argument? s = some (name, r)) :
    r.length < s.length := by
  unfold argument? at h
  split at h
  · rename_i rest _ hd
    dsimp only at h
    split at h
    · cases h
    · obtain ⟨-, rfl⟩ := by simpa using h
      have := congrArg List.length (List.takeWhile_append_dropWhile (p := (· ≠ '>')) (l := s))
      rw [hd] at this
      simp at this
      omega
  · cases h

theorem opening?_length {keyword : String} {s name r : List Char}
    (h : opening? keyword s = some (name, r)) : r.length < s.length := by
  simp only [opening?, Option.bind_eq_bind, Option.bind_eq_some_iff, Function.comp] at h
  obtain ⟨c, ⟨b, ⟨a, ha, hb⟩, hc⟩, hr⟩ := h
  have h1 := markerStart?_length ha
  have h2 := after?_length hb
  have h3 := after?_length hc
  have h4 := argument?_length hr
  have h5 := length_trimStart_le c
  omega

/-! ## Branches -/

/-- One named alternative of a container or of a platform. Names are kept as written and may
repeat. -/
structure Branch where
  name : String
  content : String
  deriving DecidableEq, Repr

namespace Branch

/-- The branch whose opening marker stands at the head of the text, and the text after its closing
marker. -/
def read? (level : Level) (s : List Char) : Option (Branch × List Char) := do
  let (name, inside) ← opening? level.keyword s
  let (content, rest) ← first (closing? level.keyword) inside
  return (⟨String.ofList name, String.ofList (trim content)⟩, rest)

theorem read?_length {level : Level} {s r : List Char} {b : Branch}
    (h : read? level s = some (b, r)) : r.length < s.length := by
  simp only [read?, Option.bind_eq_bind, Option.bind_eq_some_iff, Option.pure_def,
    Option.some.injEq, Prod.mk.injEq] at h
  obtain ⟨⟨name, inside⟩, ho, ⟨content, rest⟩, hc, -, rfl⟩ := h
  obtain ⟨t, rfl, ht⟩ := first_some hc
  have h1 := opening?_length ho
  have h2 := closing?_length ht
  rw [List.length_append] at h1
  dsimp only at h1 h2 ⊢
  omega

/-- All branches of a level in the text, left to right. -/
def scan (level : Level) (s : List Char) : List Branch :=
  match _h : first (read? level) s with
  | none => []
  | some (_, b, rest) => b :: scan level rest
termination_by s.length
decreasing_by
  obtain ⟨t, rfl, ht⟩ := first_some _h
  have := read?_length ht
  simp
  omega

end Branch

/-- A platform's branch together with the language branches in its content. -/
structure PlatformBranch where
  branch : Branch
  languages : List Branch
  deriving DecidableEq, Repr

/-- Scans the content of a platform's branch for its languages. -/
def Branch.withLanguages (b : Branch) : PlatformBranch :=
  ⟨b, scan .language b.content.toList⟩

end DocTabs.Tabs
