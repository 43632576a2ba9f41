/-
A page as plain text and container spans. A span starts at the least position where an opening
marker of either kind is followed by a closing marker of the same kind, and ends with the earliest
such closing marker; the next span is looked for behind it.
-/
import DocTabs.Tabs.Branch

namespace DocTabs.Page

open Tabs Text

/-- A piece of a page. -/
inductive Segment where
  /-- Text that stays as it is. -/
  | text (content : List Char)
  /-- A container, without its markers. -/
  | span (kind : Kind) (id : Option String) (body : List Char)
  deriving DecidableEq, Repr

/-- The value in ` id="VALUE"`, which holds no quote and is not empty, and the text after it. At
least one blank comes first. -/
def idAttribute? (s : List Char) : Option (List Char × List Char) :=
  if s.head?.any isBlank then do
    let r ← after? "id=\"" (trimStart s)
    let (id, rest) ← cut? "\"" r
    if id.isEmpty then none else some (id, rest)
  else none

/-- The id in an opening marker of a container, if it has one, and the text after the marker. -/
def containerOpening? (kind : Kind) (s : List Char) : Option (Option String × List Char) := do
  let r ← markerStart? s >>= after? kind.keyword
  match idAttribute? r with
  | some (id, r) => (markerEnd? r).map (some (String.ofList id), ·)
  | none => (markerEnd? r).map (none, ·)

/-- The container of a kind whose opening marker stands at the head of the text, and the text after
its closing marker. -/
def spanOf? (kind : Kind) (s : List Char) : Option (Segment × List Char) := do
  let (id, inside) ← containerOpening? kind s
  let (body, rest) ← first (closing? kind.keyword) inside
  return (.span kind id body, rest)

/-- The container of any kind at the head of the text. -/
def span? (s : List Char) : Option (Segment × List Char) :=
  spanOf? .plain s <|> spanOf? .sample s

/-! ## What a span consumes -/

theorem cut?_length {w : String} {s p r : List Char} (h : cut? w s = some (p, r)) :
    r.length ≤ s.length := by
  obtain ⟨t, rfl, ht⟩ := first_some h
  have := after?_length ht
  rw [List.length_append]
  omega

theorem idAttribute?_length {s id r : List Char} (h : idAttribute? s = some (id, r)) :
    r.length ≤ s.length := by
  unfold idAttribute? at h
  split at h
  · simp only [Option.bind_eq_bind, Option.bind_eq_some_iff] at h
    obtain ⟨a, ha, ⟨v, t⟩, hv, h⟩ := h
    split at h
    · cases h
    · obtain ⟨-, rfl⟩ := Prod.mk.inj (Option.some.inj h)
      have h1 := after?_length ha
      have h2 := cut?_length hv
      have h3 := length_trimStart_le s
      dsimp only at h2 ⊢
      omega
  · cases h

theorem containerOpening?_length {kind : Kind} {s r : List Char} {id : Option String}
    (h : containerOpening? kind s = some (id, r)) : r.length < s.length := by
  simp only [containerOpening?, Option.bind_eq_bind, Option.bind_eq_some_iff] at h
  obtain ⟨b, ⟨a, ha, hb⟩, h⟩ := h
  have h1 := markerStart?_length ha
  have h2 := after?_length hb
  split at h
  · rename_i hi
    obtain ⟨t, ht, he⟩ := Option.map_eq_some_iff.1 h
    obtain ⟨-, rfl⟩ := Prod.mk.inj he
    have h3 := idAttribute?_length hi
    have h4 := markerEnd?_length ht
    omega
  · obtain ⟨t, ht, he⟩ := Option.map_eq_some_iff.1 h
    obtain ⟨-, rfl⟩ := Prod.mk.inj he
    have h4 := markerEnd?_length ht
    omega

theorem spanOf?_length {kind : Kind} {s r : List Char} {g : Segment}
    (h : spanOf? kind s = some (g, r)) : r.length < s.length := by
  simp only [spanOf?, Option.bind_eq_bind, Option.bind_eq_some_iff, Option.pure_def,
    Option.some.injEq, Prod.mk.injEq] at h
  obtain ⟨⟨id, inside⟩, ho, ⟨body, rest⟩, hc, -, rfl⟩ := h
  obtain ⟨t, rfl, ht⟩ := first_some hc
  have h1 := containerOpening?_length ho
  have h2 := closing?_length ht
  rw [List.length_append] at h1
  dsimp only at h1 h2 ⊢
  omega

theorem span?_length {s r : List Char} {g : Segment} (h : span? s = some (g, r)) :
    r.length < s.length := by
  unfold span? at h
  cases hp : spanOf? .plain s with
  | some p => rw [hp] at h; cases h; exact spanOf?_length hp
  | none => rw [hp] at h; exact spanOf?_length h

/-! ## Segments -/

/-- The text and the spans of a page, in order. -/
def segments (s : List Char) : List Segment :=
  match _h : first span? s with
  | none => [.text s]
  | some (before, span, rest) => .text before :: span :: segments rest
termination_by s.length
decreasing_by
  obtain ⟨t, rfl, ht⟩ := first_some _h
  have := span?_length ht
  simp
  omega

end DocTabs.Page
