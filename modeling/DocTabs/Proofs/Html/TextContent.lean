/-
The text content of HTML: what is left when the tags are taken out and the references of running text are
decoded. Text that was escaped is read back between whatever tags it stands.
-/
import DocTabs.Proofs.Html.Escape

namespace DocTabs.Html

/-! ## Reading -/

/-- Where in HTML a reader is. -/
inductive Place where
  | text
  | tag
  /-- In a quoted value of a tag. -/
  | value

/-- The text content, read from a place on. The references are those that running text is written
with. -/
def textChars : Place → List Char → List Char
  | .text, '<' :: s => textChars .tag s
  | .text, '&' :: 'a' :: 'm' :: 'p' :: ';' :: s => '&' :: textChars .text s
  | .text, '&' :: 'l' :: 't' :: ';' :: s => '<' :: textChars .text s
  | .text, '&' :: 'g' :: 't' :: ';' :: s => '>' :: textChars .text s
  | .text, c :: s => c :: textChars .text s
  | .tag, '>' :: s => textChars .text s
  | .tag, '"' :: s => textChars .value s
  | .tag, _ :: s => textChars .tag s
  | .value, '"' :: s => textChars .tag s
  | .value, _ :: s => textChars .value s
  | _, [] => []

/-- The text content of an HTML text. -/
def textContent (html : String) : String :=
  String.ofList (textChars .text html.toList)

/-! ## Text -/

theorem textChars_escapeTextChar (c : Char) (s : List Char) :
    textChars .text (escapeTextChar c ++ s) = c :: textChars .text s := by
  unfold escapeTextChar escapeChar
  split_ifs with hquote h1 h2 h3 h4 h5
  · rw [List.singleton_append]
    rcases hquote with rfl | rfl <;> rfl
  · rw [h1]; rfl
  · rw [h2]; rfl
  · rw [h3]; rfl
  · exact absurd (.inl h4) hquote
  · exact absurd (.inr h5) hquote
  · -- a `<` starts a tag and an `&` a reference, and nothing else does
    rw [List.singleton_append, textChars] <;> simp [h1, h2]

/-- Text that was escaped is read back. -/
theorem textChars_escapeText (t : String) (s : List Char) :
    textChars .text ((escapeText t).toList ++ s) = t.toList ++ textChars .text s := by
  rw [escapeText, String.toList_ofList]
  induction t.toList with
  | nil => rfl
  | cons c cs ih =>
    rw [List.flatMap_cons, List.append_assoc, textChars_escapeTextChar, ih, List.cons_append]

/-! ## Tags -/

/-- HTML without text of its own. -/
def Textless (w : List Char) : Prop := ∀ s, textChars .text (w ++ s) = textChars .text s

/-- What may stand inside a tag. -/
def Inside (w : List Char) : Prop := ∀ s, textChars .tag (w ++ s) = textChars .tag s

theorem Inside.append {v w : List Char} (hv : Inside v) (hw : Inside w) : Inside (v ++ w) := fun s => by
  rw [List.append_assoc, hv, hw]

theorem inside_of_not_mem {w : List Char} (hsign : '>' ∉ w) (hquote : '"' ∉ w) : Inside w := by
  intro s
  induction w with
  | nil => rfl
  | cons c w ih =>
    rw [List.mem_cons, not_or] at hsign hquote
    rw [List.cons_append, textChars]
    · exact ih hsign.2 hquote.2
    · exact fun h => hsign.1 h.symm
    · exact fun h => hquote.1 h.symm

theorem textChars_value {v : List Char} (h : '"' ∉ v) (s : List Char) :
    textChars .value (v ++ '"' :: s) = textChars .tag s := by
  induction v with
  | nil => rfl
  | cons c v ih =>
    rw [List.mem_cons, not_or] at h
    rw [List.cons_append, textChars]
    · exact ih h.2
    · exact fun hc => h.1 hc.symm

/-- An attribute stands inside a tag, whatever its value holds beside quotes. -/
theorem inside_attribute {name value : List Char} (hsign : '>' ∉ name) (hquote : '"' ∉ name)
    (hvalue : '"' ∉ value) : Inside (name ++ '"' :: (value ++ ['"'])) := fun s => by
  rw [List.append_assoc, inside_of_not_mem hsign hquote, List.cons_append, List.append_assoc]
  exact textChars_value hvalue s

/-- A tag has no text. -/
theorem Inside.textless {w : List Char} (h : Inside w) : Textless ('<' :: (w ++ ['>'])) := fun s => by
  rw [List.cons_append, List.append_assoc]
  exact h ('>' :: s)

end DocTabs.Html
