/-
What leaf content loses. Blanks around it go, and of a paragraph around it the start tag or both tags;
the content keeps everything else, and all layouts of one line of text have the same leaf.
-/
import DocTabs.Proofs.Text.Occurrences
import DocTabs.Tabs.Leaf

namespace DocTabs.Tabs.Leaf

open Text

variable {s t r inner a b c e x y : List Char}

/-! ## The tags of a paragraph -/

theorem solid_start : Solid "<p>" := solid_of_all (by decide) (by decide)

theorem solid_stop : Solid "</p>" := solid_of_all (by decide) (by decide)

/-- The start tag and the text behind it share no occurrence. -/
theorem apart_start {w : String} (hw : '>' ∉ w.toList.dropLast) (s : List Char) :
    Apart w "<p>".toList s :=
  apart_of_last fun c hc => by
    obtain rfl := Option.some.inj (show some '>' = some c from hc)
    exact hw

/-- The end tag and the text before it share no occurrence. -/
theorem apart_stop {w : String} (hw : '<' ∉ w.toList.tail) (s : List Char) :
    Apart w s "</p>".toList :=
  apart_of_head fun c hc => by
    obtain rfl := Option.some.inj (show some '<' = some c from hc)
    exact hw

theorem occurrences_start_opened (s : List Char) :
    occurrences "<p>" ("<p>".toList ++ s) = occurrences "<p>" s + 1 := by
  rw [occurrences_append solid_start.ne_nil (apart_start (by decide) s),
    show occurrences "<p>" "<p>".toList = 1 by decide, Nat.add_comm]

theorem occurrences_stop_opened (s : List Char) :
    occurrences "</p>" ("<p>".toList ++ s) = occurrences "</p>" s := by
  rw [occurrences_append solid_stop.ne_nil (apart_start (by decide) s),
    show occurrences "</p>" "<p>".toList = 0 by decide, Nat.zero_add]

theorem occurrences_start_closed (s : List Char) :
    occurrences "<p>" (s ++ "</p>".toList) = occurrences "<p>" s := by
  rw [occurrences_append solid_start.ne_nil (apart_stop (by decide) s),
    show occurrences "<p>" "</p>".toList = 0 by decide, Nat.add_zero]

theorem occurrences_stop_closed (s : List Char) :
    occurrences "</p>" (s ++ "</p>".toList) = occurrences "</p>" s + 1 := by
  rw [occurrences_append solid_stop.ne_nil (apart_stop (by decide) s),
    show occurrences "</p>" "</p>".toList = 1 by decide]

theorem contains_stop : contains "</p>" s = true ↔ occurrences "</p>" s ≠ 0 := by
  rw [contains_iff, Ne, occurrences_eq_zero, not_not]

/-! ## Unwrapping -/

/-- A start tag without any end tag is dropped. -/
theorem ofContent_opened (htrim : trim s = "<p>".toList ++ inner) (hinner : occurrences "</p>" inner = 0) :
    ofContent s = trim inner := by
  have hafter : after? "<p>" (trim s) = some inner := after?_eq_some.2 htrim
  have hcontains : contains "</p>" inner = false := by
    rw [Bool.eq_false_iff, Ne, contains_stop]
    exact not_not.2 hinner
  unfold ofContent
  simp only [hafter, unwrapped, hcontains]
  cases hbefore : before? "</p>" inner with
  | none => rfl
  | some init =>
    rw [before?_eq_some.1 hbefore, occurrences_stop_closed] at hinner
    cases hinner

/-- A pair around a content without an end tag of its own is dropped. -/
theorem ofContent_paired (htrim : trim s = "<p>".toList ++ (inner ++ "</p>".toList))
    (hinner : occurrences "</p>" inner = 0) : ofContent s = trim inner := by
  have hafter : after? "<p>" (trim s) = some (inner ++ "</p>".toList) := after?_eq_some.2 htrim
  have hbefore : before? "</p>" (inner ++ "</p>".toList) = some inner := before?_eq_some.2 rfl
  have hcontains : contains "</p>" inner = false := by
    rw [Bool.eq_false_iff, Ne, contains_stop]
    exact not_not.2 hinner
  unfold ofContent
  simp only [hafter, unwrapped, hbefore, hcontains]
  rfl

theorem ofContent_of_not_start (h : ¬ "<p>".toList <+: trim s) : ofContent s = trim s := by
  have hafter : after? "<p>" (trim s) = none := by
    cases hafter : after? "<p>" (trim s) with
    | none => rfl
    | some inside => exact absurd ⟨inside, (after?_eq_some.1 hafter).symm⟩ h
  unfold ofContent
  simp only [hafter]

/-- A content is trimmed, or loses a start tag without any end tag, or a pair that holds no other end
tag. -/
theorem ofContent_cases (s : List Char) : ofContent s = trim s ∨
    (∃ inner, trim s = "<p>".toList ++ inner ∧ occurrences "</p>" inner = 0 ∧
      ofContent s = trim inner) ∨
    ∃ inner, trim s = "<p>".toList ++ (inner ++ "</p>".toList) ∧ occurrences "</p>" inner = 0 ∧
      ofContent s = trim inner := by
  by_cases hstart : "<p>".toList <+: trim s
  · obtain ⟨inside, hinside⟩ := hstart
    by_cases hnone : occurrences "</p>" inside = 0
    · exact .inr (.inl ⟨inside, hinside.symm, hnone, ofContent_opened hinside.symm hnone⟩)
    have hafter : after? "<p>" (trim s) = some inside := after?_eq_some.2 hinside.symm
    cases hbefore : before? "</p>" inside with
    | none =>
      refine .inl ?_
      unfold ofContent
      simp only [hafter, unwrapped, hbefore, if_pos (contains_stop.2 hnone)]
    | some inner =>
      obtain rfl := before?_eq_some.1 hbefore
      by_cases hinner : occurrences "</p>" inner = 0
      · exact .inr (.inr ⟨inner, hinside.symm, hinner, ofContent_paired hinside.symm hinner⟩)
      · refine .inl ?_
        unfold ofContent
        simp only [hafter, unwrapped, hbefore, if_pos (contains_stop.2 hinner)]
  · exact .inl (ofContent_of_not_start hstart)

/-- `r` is what is left of a text when the blanks around it go, and with them at most a start tag at its
front, or that and an end tag at its end, and the blanks inside the tags. -/
inductive LeftOf (r : List Char) : List Char → Prop
  | bare {a b : List Char} : Blanks a → Blanks b → LeftOf r (a ++ r ++ b)
  | opened {a b c : List Char} : Blanks a → Blanks b → Blanks c →
      LeftOf r (a ++ ("<p>".toList ++ (c ++ r)) ++ b)
  | paired {a b c e : List Char} : Blanks a → Blanks b → Blanks c → Blanks e →
      LeftOf r (a ++ ("<p>".toList ++ (c ++ r ++ e ++ "</p>".toList)) ++ b)

theorem leftOf_ofContent (s : List Char) : LeftOf (ofContent s) s := by
  obtain ⟨a, b, ha, hb, hs⟩ := exists_trim s
  rcases ofContent_cases s with h | ⟨inner, hinner, -, h⟩ | ⟨inner, hinner, -, h⟩
  · have hbare : LeftOf (ofContent s) (a ++ ofContent s ++ b) := .bare ha hb
    rwa [show a ++ ofContent s ++ b = s by rw [h, ← hs]] at hbare
  · obtain ⟨c, e, hc, he, hi⟩ := exists_trim inner
    rw [← h] at hi
    have hopened : LeftOf (ofContent s) (a ++ ("<p>".toList ++ (c ++ ofContent s)) ++ (e ++ b)) :=
      .opened ha (he.append hb) hc
    have htext : s = a ++ ("<p>".toList ++ (c ++ ofContent s)) ++ (e ++ b) := by
      conv_lhs => rw [hs, hinner, hi]
      simp only [List.append_assoc]
    rwa [← htext] at hopened
  · obtain ⟨c, e, hc, he, hi⟩ := exists_trim inner
    rw [← h] at hi
    have hpaired : LeftOf (ofContent s)
        (a ++ ("<p>".toList ++ (c ++ ofContent s ++ e ++ "</p>".toList)) ++ b) := .paired ha hb hc he
    have htext : s = a ++ ("<p>".toList ++ (c ++ ofContent s ++ e ++ "</p>".toList)) ++ b := by
      conv_lhs => rw [hs, hinner, hi]
    rwa [← htext] at hpaired

/-! ## Tags that are counted -/

/-- As many start tags as end tags stay as many: a pair that is dropped has the only end tag. -/
theorem occurrences_ofContent (h : occurrences "<p>" s = occurrences "</p>" s) :
    occurrences "<p>" (ofContent s) = occurrences "</p>" (ofContent s) := by
  rw [← solid_start.occurrences_trim s, ← solid_stop.occurrences_trim s] at h
  rcases ofContent_cases s with he | ⟨inner, htrim, hinner, he⟩ | ⟨inner, htrim, -, he⟩
  · rw [he, h]
  · rw [htrim, occurrences_start_opened, occurrences_stop_opened, hinner] at h
    cases h
  · rw [htrim, occurrences_start_opened, occurrences_stop_opened, occurrences_start_closed,
      occurrences_stop_closed] at h
    rw [he, solid_start.occurrences_trim, solid_stop.occurrences_trim]
    omega

/-- With two end tags or more, only blanks go. -/
theorem ofContent_of_two (h : 2 ≤ occurrences "</p>" s) : ofContent s = trim s := by
  rw [← solid_stop.occurrences_trim s] at h
  rcases ofContent_cases s with he | ⟨inner, htrim, hinner, -⟩ | ⟨inner, htrim, hinner, -⟩
  · exact he
  · rw [htrim, occurrences_stop_opened, hinner] at h
    omega
  · rw [htrim, occurrences_stop_opened, occurrences_stop_closed, hinner] at h
    omega

/-- Where a text without an end tag is followed by one and by blanks, no end tag stands before other
characters. -/
theorem blanks_of_last_stop (hx : occurrences "</p>" x = 0) (hb : Blanks b)
    (h : x ++ "</p>".toList ++ b = y ++ "</p>".toList ++ t) : Blanks t := by
  have hnot : ∀ v, x ≠ y ++ "</p>".toList ++ v := fun v hv =>
    occurrences_eq_zero.1 hx ⟨y, v, hv.symm⟩
  rcases List.append_eq_append_iff.1 h with ⟨u, -, rfl⟩ | ⟨u, hu, rfl⟩
  · exact fun d hd => hb d (List.mem_append_right u hd)
  by_cases hnil : u = []
  · rwa [hnil, List.nil_append]
  -- otherwise the other end tag begins earlier: in `x`, or so that it overlaps with the last one
  rcases List.append_eq_append_iff.1 hu with ⟨v, hv, htag⟩ | ⟨v, hv, -⟩
  · rcases List.eq_nil_or_concat v with rfl | ⟨v, d, rfl⟩
    · exact absurd (hv.symm.trans (List.append_nil _).symm) (by simpa using hnot [])
    · have hlast := congrArg List.getLast? hv
      rw [List.concat_eq_append, ← List.append_assoc, List.getLast?_concat, List.getLast?_append] at hlast
      obtain rfl := Option.some.inj (show some '>' = some d from hlast)
      have hmem : '>' ∈ "</p>".toList.dropLast := by
        rw [htag, List.dropLast_append_of_ne_nil hnil]
        simp
      exact absurd hmem (by decide)
  · exact absurd hv (hnot v)

/-- With an end tag before something else than blanks, only blanks go. -/
theorem ofContent_of_stop_before (hs : s = y ++ "</p>".toList ++ t) (ht : ¬ Blanks t) :
    ofContent s = trim s := by
  rcases ofContent_cases s with he | ⟨inner, htrim, hinner, -⟩ | ⟨inner, htrim, hinner, -⟩
  · exact he
  · have hnone : occurrences "</p>" s = 0 := by
      rw [← solid_stop.occurrences_trim, htrim, occurrences_stop_opened, hinner]
    exact absurd ⟨y, t, hs.symm⟩ (occurrences_eq_zero.1 hnone)
  · obtain ⟨a, b, ha, hb, htext⟩ := exists_trim s
    have hfront : occurrences "</p>" (a ++ ("<p>".toList ++ inner)) = 0 := by
      have hbetween := solid_stop.occurrences_between ha blanks_nil ("<p>".toList ++ inner)
      rw [List.append_nil] at hbetween
      rw [hbetween, occurrences_stop_opened, hinner]
    have hends : a ++ ("<p>".toList ++ inner) ++ "</p>".toList ++ b = y ++ "</p>".toList ++ t := by
      rw [← hs, htext, htrim]
      simp only [List.append_assoc]
    exact absurd (blanks_of_last_stop hfront hb hends) ht

/-! ## Layouts of one text -/

section

variable (hstop : occurrences "</p>" t = 0)

include hstop

/-- A start tag before a text without an end tag is dropped with it. -/
theorem ofContent_start : ofContent ("<p>".toList ++ t) = trim t := by
  obtain ⟨b, hb, ht⟩ := exists_trimEnd t
  have htrim : trim ("<p>".toList ++ t) = "<p>".toList ++ trimEnd t := by
    have hflush : Flush ("<p>".toList ++ t) := fun d hd => by
      obtain rfl := Option.some.inj (show some '<' = some d from hd)
      decide
    rw [trim, trimStart_of_flush hflush]
    refine trimEnd_append_flush (fun d hd => ?_) t
    obtain rfl := Option.some.inj (show some '>' = some d from hd)
    decide
  have hinner : occurrences "</p>" (trimEnd t) = 0 := by
    have hbetween := solid_stop.occurrences_between blanks_nil hb (trimEnd t)
    rw [List.nil_append, ← ht, hstop] at hbetween
    exact hbetween.symm
  rw [ofContent_opened htrim hinner]
  have hbetween := trim_between blanks_nil hb (trimEnd t)
  rw [List.nil_append, ← ht] at hbetween
  exact hbetween.symm

/-- A pair around a text without an end tag is dropped, with all blanks around and inside it. -/
theorem ofContent_pair (ha : Blanks a) (hb : Blanks b) (hc : Blanks c) (he : Blanks e) :
    ofContent (a ++ ("<p>".toList ++ (b ++ t ++ c ++ "</p>".toList)) ++ e) = trim t := by
  have htrim : trim (a ++ ("<p>".toList ++ (b ++ t ++ c ++ "</p>".toList)) ++ e) =
      "<p>".toList ++ (b ++ t ++ c ++ "</p>".toList) := by
    refine trim_of_flush (fun d hd => ?_) (fun d hd => ?_) ha he
    · obtain rfl := Option.some.inj (show some '<' = some d from hd)
      decide
    · rw [← List.append_assoc, List.reverse_append] at hd
      obtain rfl := Option.some.inj (show some '>' = some d from hd)
      decide
  have hinner : occurrences "</p>" (b ++ t ++ c) = 0 := by
    rw [solid_stop.occurrences_between hb hc, hstop]
  rw [ofContent_paired htrim hinner, trim_between hb hc]

end

/-! ## The laws of leaf content -/

theorem normalize_of_ofContent {s : String} {r : List Char} (h : ofContent s.toList = r) :
    normalize s = String.ofList r := by
  rw [normalize, h]

/-- A leaf is trimmed, and its content has lost nothing but blanks around it and a start tag, or a pair of
tags, at its ends. As many start tags as end tags stay as many. With two end tags, or one that is not
at the end, only blanks go. A text without an end tag, and without a start tag at its front, has the
same leaf as it is, behind a start tag, in a pair, and in a pair with blanks around and inside it. -/
theorem normalize_laws (s : String) :
    trimmed (normalize s) = normalize s ∧
    LeftOf (normalize s).toList s.toList ∧
    (occurrences "<p>" s.toList = occurrences "</p>" s.toList →
      occurrences "<p>" (normalize s).toList = occurrences "</p>" (normalize s).toList) ∧
    (2 ≤ occurrences "</p>" s.toList → normalize s = trimmed s) ∧
    (∀ before behind : String, s = before ++ "</p>" ++ behind → ¬ Blanks behind.toList →
      normalize s = trimmed s) ∧
    (¬ "</p>".toList <:+: s.toList → ¬ "<p>".toList <+: (trimmed s).toList →
      normalize s = trimmed s ∧ normalize ("<p>" ++ s) = trimmed s ∧
      normalize ("<p>" ++ s ++ "</p>") = trimmed s ∧
      ∀ a b c e : String, Blanks a.toList → Blanks b.toList → Blanks c.toList → Blanks e.toList →
        normalize (a ++ "<p>" ++ b ++ s ++ c ++ "</p>" ++ e) = trimmed s) := by
  have hlist : (normalize s).toList = ofContent s.toList := by rw [normalize, String.toList_ofList]
  refine ⟨?_, ?_, ?_, ?_, ?_, ?_⟩
  · have htrim : trim (ofContent s.toList) = ofContent s.toList := by
      rcases ofContent_cases s.toList with h | ⟨inner, -, -, h⟩ | ⟨inner, -, -, h⟩ <;> rw [h, trim_trim]
    rw [trimmed, hlist, htrim, normalize]
  · rw [hlist]
    exact leftOf_ofContent s.toList
  · rw [hlist]
    exact occurrences_ofContent
  · exact fun h => normalize_of_ofContent (ofContent_of_two h)
  · intro before behind hs hbehind
    refine normalize_of_ofContent (ofContent_of_stop_before (y := before.toList) (t := behind.toList) ?_ hbehind)
    rw [hs, String.toList_append, String.toList_append]
  · intro hstop hstart
    have hnone := occurrences_eq_zero.2 hstop
    rw [toList_trimmed] at hstart
    have hpair : ∀ a b c e : String, Blanks a.toList → Blanks b.toList → Blanks c.toList →
        Blanks e.toList → normalize (a ++ "<p>" ++ b ++ s ++ c ++ "</p>" ++ e) = trimmed s := by
      intro a b c e ha hb hc he
      refine normalize_of_ofContent ((congrArg ofContent ?_).trans (ofContent_pair hnone ha hb hc he))
      simp only [String.toList_append, List.append_assoc]
    refine ⟨normalize_of_ofContent (ofContent_of_not_start hstart),
      normalize_of_ofContent ?_, ?_, hpair⟩
    · rw [String.toList_append, ofContent_start hnone]
    · have hempty := hpair "" "" "" "" blanks_nil blanks_nil blanks_nil blanks_nil
      simpa only [String.empty_append, String.append_empty] using hempty

/-- Behind the start tag that is dropped another one can stand, which the next time is dropped, too. -/
example : normalize "<p> <p>Run" = "<p>Run" := by decide

end DocTabs.Tabs.Leaf
