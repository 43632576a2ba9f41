/-
Reading escaped text back. The references that escaping writes are decoded from left to right, which
gives the text again: what looks like a reference in it has had its `&` escaped, and every `&` that is
left starts a reference. Escaped texts and link destinations hold no quote.
-/
import Mathlib.Tactic.SplitIfs
import DocTabs.Html.Escape

namespace DocTabs.Html

/-- The text with the references that escaping writes decoded, from left to right. -/
def unescapeChars : List Char → List Char
  | '&' :: 'a' :: 'm' :: 'p' :: ';' :: s => '&' :: unescapeChars s
  | '&' :: 'l' :: 't' :: ';' :: s => '<' :: unescapeChars s
  | '&' :: 'g' :: 't' :: ';' :: s => '>' :: unescapeChars s
  | '&' :: 'q' :: 'u' :: 'o' :: 't' :: ';' :: s => '"' :: unescapeChars s
  | '&' :: '#' :: '3' :: '9' :: ';' :: s => '\'' :: unescapeChars s
  | c :: s => c :: unescapeChars s
  | [] => []

/-- The same for strings. -/
def unescape (s : String) : String :=
  String.ofList (unescapeChars s.toList)

theorem unescapeChars_escapeChar (c : Char) (s : List Char) :
    unescapeChars (escapeChar c ++ s) = c :: unescapeChars s := by
  unfold escapeChar
  split_ifs with h1 h2 h3 h4 h5
  · rw [h1]; rfl
  · rw [h2]; rfl
  · rw [h3]; rfl
  · rw [h4]; rfl
  · rw [h5]; rfl
  · -- only an `&` starts a reference
    rw [List.singleton_append, unescapeChars] <;> simp [h1]

theorem unescape_escape (s : String) : unescape (escape s) = s := by
  have hchars : ∀ cs : List Char, unescapeChars (cs.flatMap escapeChar) = cs := by
    intro cs
    induction cs with
    | nil => rfl
    | cons c cs ih => rw [List.flatMap_cons, unescapeChars_escapeChar, ih]
  rw [unescape, escape, String.toList_ofList, hchars, String.ofList_toList]

/-- The written form of a character holds no sign that starts or ends a tag or an attribute value. -/
theorem not_mem_escapeChar {c : Char} (h : c ∈ ['<', '>', '"', '\'']) (e : Char) : c ∉ escapeChar e := by
  intro he
  simp only [List.mem_cons, List.not_mem_nil, or_false] at h
  unfold escapeChar at he
  split_ifs at he
  iterate 5
    · rcases h with rfl | rfl | rfl | rfl <;> exact absurd he (by decide)
  · -- a character that stands for itself is none of the signs
    rw [List.mem_singleton] at he
    subst he
    rcases h with h | h | h | h <;> contradiction

/-- Escaped text holds no sign that starts or ends a tag or an attribute value. -/
theorem not_mem_escape {c : Char} (h : c ∈ ['<', '>', '"', '\'']) (s : String) :
    c ∉ (escape s).toList := by
  rw [escape, String.toList_ofList, List.mem_flatMap]
  rintro ⟨d, -, hd⟩
  exact not_mem_escapeChar h d hd

/-! ## The references of escaped text -/

/-- The references that escaping writes. -/
def references : List String := ["&amp;", "&lt;", "&gt;", "&quot;", "&#39;"]

/-- A character is written as itself, unless it is an `&`, or as a reference. -/
theorem escapeChar_cases (c : Char) :
    c ≠ '&' ∧ escapeChar c = [c] ∨ ∃ r ∈ references, escapeChar c = r.toList := by
  unfold escapeChar
  split_ifs with h
  · exact .inr ⟨"&amp;", by decide, rfl⟩
  · exact .inr ⟨"&lt;", by decide, rfl⟩
  · exact .inr ⟨"&gt;", by decide, rfl⟩
  · exact .inr ⟨"&quot;", by decide, rfl⟩
  · exact .inr ⟨"&#39;", by decide, rfl⟩
  · exact .inl ⟨h, rfl⟩

/-- A reference has one `&`, which starts it. -/
theorem eq_nil_of_reference {r : String} (hr : r ∈ references) {u v : List Char}
    (h : r.toList = u ++ '&' :: v) : u = [] := by
  have hone : ∀ r ∈ references, r.toList.head? = some '&' ∧ '&' ∉ r.toList.tail := by decide
  obtain ⟨-, htail⟩ := hone r hr
  rcases u with _ | ⟨c, u⟩
  · rfl
  · rw [h] at htail
    exact absurd (List.mem_append_right u (List.mem_cons_self ..)) htail

/-- Wherever an `&` stands in escaped text, a reference starts. -/
theorem reference_of_amp {cs before after : List Char}
    (h : cs.flatMap escapeChar = before ++ '&' :: after) :
    ∃ r ∈ references, r.toList <+: '&' :: after := by
  induction cs generalizing before with
  | nil => cases before <;> cases h
  | cons c cs ih =>
    rw [List.flatMap_cons] at h
    -- the `&` stands behind what the first character is written as, or in it
    rcases List.append_eq_append_iff.1 h with ⟨u, -, hu⟩ | ⟨u, hc, hu⟩
    · exact ih hu
    rcases u with _ | ⟨d, u⟩
    · have hrest : cs.flatMap escapeChar = [] ++ '&' :: after := hu.symm
      exact ih hrest
    obtain ⟨rfl, rfl⟩ := List.cons.inj hu
    rcases escapeChar_cases c with ⟨hne, hself⟩ | ⟨r, hr, hwritten⟩
    · rw [hself] at hc
      have hmem : '&' ∈ [c] := hc ▸ List.mem_append_right before (List.mem_cons_self ..)
      exact absurd (List.mem_singleton.1 hmem).symm hne
    · rw [hwritten] at hc
      obtain rfl := eq_nil_of_reference hr hc
      exact ⟨r, hr, cs.flatMap escapeChar, by rw [hc]; rfl⟩

theorem escape_append (s t : String) : escape (s ++ t) = escape s ++ escape t := by
  rw [escape, String.toList_append, List.flatMap_append, String.ofList_append]
  rfl

/-- Escaped text holds no sign that starts or ends a tag or an attribute value, and no `&` but those
that start a reference. Decoding its references once, from left to right, gives the text back, also
where the text looks like escaped text itself, so no two texts are written alike. What is written for
a text does not depend on the texts around it. -/
theorem escape_reversible (s : String) :
    (∀ c ∈ ['<', '>', '"', '\''], c ∉ (escape s).toList) ∧
    (∀ before after, (escape s).toList = before ++ '&' :: after →
      ∃ r ∈ references, r.toList <+: '&' :: after) ∧
    unescape (escape s) = s ∧ (∀ t, escape t = escape s → t = s) ∧
    ∀ t, escape (s ++ t) = escape s ++ escape t := by
  refine ⟨fun c hc => not_mem_escape hc s, fun before after h => ?_, unescape_escape s,
    fun t ht => ?_, escape_append s⟩
  · rw [escape, String.toList_ofList] at h
    exact reference_of_amp h
  · rw [← unescape_escape t, ht, unescape_escape]

/-! ## Running text and link destinations -/

/-- Running text holds no sign that starts or ends a tag. -/
theorem not_mem_escapeText {c : Char} (h : c ∈ ['<', '>']) (s : String) :
    c ∉ (escapeText s).toList := by
  have hsigns : c ∈ ['<', '>', '"', '\''] := List.mem_append_left ['"', '\''] h
  rw [escapeText, String.toList_ofList, List.mem_flatMap]
  rintro ⟨d, -, hd⟩
  unfold escapeTextChar at hd
  split at hd
  · rename_i hquote
    rw [List.mem_singleton] at hd
    subst hd
    rcases hquote with rfl | rfl <;> exact absurd h (by decide)
  · exact not_mem_escapeChar hsigns d hd

/-- Running text without special characters is written as it is. -/
theorem escapeText_of_not_mem {s : String} (h : ∀ c ∈ ['&', '<', '>'], c ∉ s.toList) : escapeText s = s := by
  have hchar : ∀ c ∈ s.toList, escapeTextChar c = [c] := by
    intro c hc
    have hamp : c ≠ '&' := fun e => h '&' (by decide) (e ▸ hc)
    have hopen : c ≠ '<' := fun e => h '<' (by decide) (e ▸ hc)
    have hclose : c ≠ '>' := fun e => h '>' (by decide) (e ▸ hc)
    by_cases hquote : c = '"' ∨ c = '\''
    · rw [escapeTextChar, if_pos hquote]
    · rw [escapeTextChar, if_neg hquote]
      rw [not_or] at hquote
      simp [escapeChar, hamp, hopen, hclose, hquote]
  rw [escapeText, List.flatMap_def, List.map_congr_left hchar, ← List.flatMap_def, List.flatMap_singleton',
    String.ofList_toList]

/-- A number is written in digits. -/
theorem not_mem_number {c : Char} (hc : c.isDigit = false) (n : Nat) : c ∉ (toString n).toList := by
  intro hmem
  rw [Nat.toString_eq_ofList_toDigits, String.toList_ofList] at hmem
  rw [Nat.isDigit_of_mem_toDigits (by decide) (by decide) hmem] at hc
  cases hc

theorem hexDigit_not_sign : ∀ n < 16, hexDigit n ∉ ['<', '>', '"'] := by decide

/-- A link destination can stand in a quoted value, and starts or ends no tag. -/
theorem not_mem_escapeLink {c : Char} (h : c ∈ ['<', '>', '"']) (s : String) :
    c ∉ (escapeLink s).toList := by
  have hpercent : ∀ b, c ∉ percent b := by
    intro b hb
    have hlt : b.toNat < 256 := b.toNat_lt
    simp only [percent, List.mem_cons, List.not_mem_nil, or_false] at hb
    rcases hb with rfl | rfl | rfl
    · exact absurd h (by decide)
    · exact hexDigit_not_sign _ (by omega) h
    · exact hexDigit_not_sign _ (by omega) h
  obtain ⟨hsafe, hamp, hquote⟩ :
      isLinkSafe c = false ∧ c ∉ "&amp;".toList ∧ c ∉ "&#x27;".toList := by
    simp only [List.mem_cons, List.not_mem_nil, or_false] at h
    rcases h with rfl | rfl | rfl <;> decide
  rw [escapeLink, String.toList_ofList, List.mem_flatMap]
  rintro ⟨d, -, hd⟩
  unfold escapeLinkChar at hd
  split_ifs at hd with hd'
  · rw [List.mem_singleton] at hd
    rw [hd, hd'] at hsafe
    cases hsafe
  · exact hamp hd
  · exact hquote hd
  · obtain ⟨b, -, hb⟩ := List.mem_flatMap.1 hd
    exact hpercent b hb

end DocTabs.Html
