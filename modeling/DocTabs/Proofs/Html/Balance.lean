/-
Balanced `div` elements. Read from left to right, a balanced text never ends more of them than it has
started, and in the end it has ended them all. Only the signs of the tags count, whatever they stand in,
so a tag that is put together by two texts side by side counts as well.
-/
import DocTabs.Proofs.Text.Occurrences

namespace DocTabs.Html

open Text

/-! ## Counting tags -/

/-- How a `div` starts. -/
def divStart : List Char := "<div".toList

/-- How a `div` ends. -/
def divStop : List Char := "</div>".toList

/-- The words that show where a `div` starts and ends. -/
def divSigns : List String := ["<div", "</div>"]

/-- How many more elements a text starts than it ends. -/
def divDepth (s : List Char) : Int := occurrences "<div" s - occurrences "</div>" s

/-- Read from left to right, the text never ends more elements than it has started, and in the end it has
ended all of them. -/
structure Balanced (s : List Char) : Prop where
  low : ∀ p, p <+: s → 0 ≤ divDepth p
  level : divDepth s = 0

instance (s : List Char) : Decidable (Balanced s) :=
  decidable_of_iff ((∀ p ∈ s.inits, 0 ≤ divDepth p) ∧ divDepth s = 0)
    ⟨fun h => ⟨fun p hp => h.1 p ((List.mem_inits p s).2 hp), h.2⟩,
      fun h => ⟨fun p hp => h.low p ((List.mem_inits p s).1 hp), h.level⟩⟩

/-- No tag starts in the first text and goes on in the second. -/
def Apart (a b : List Char) : Prop := ∀ w ∈ divSigns, Text.Apart w a b

theorem Apart.mono {a b q : List Char} (h : Apart a b) (hq : q <+: b) : Apart a q :=
  fun w hw => (h w hw).mono hq

theorem sign_eq {w : String} (hw : w ∈ divSigns) :
    ∃ t, w.toList = '<' :: t ∧ '<' ∉ t ∧ ∀ c ∈ w.toList.dropLast, c ∈ "</div".toList := by
  rw [divSigns, List.mem_cons, List.mem_singleton] at hw
  rcases hw with rfl | rfl
  · exact ⟨"div".toList, rfl, by decide, by simp⟩
  · exact ⟨"/div>".toList, rfl, by decide, by simp⟩

theorem apart_nil (b : List Char) : Apart [] b :=
  fun _ _ => apart_of_last nofun

/-- No tag goes on in a text that starts with a tag sign. -/
theorem apart_sign (a b : List Char) : Apart a ('<' :: b) := by
  intro w hw
  obtain ⟨t, ht, hsign, -⟩ := sign_eq hw
  refine apart_of_head fun c hc => ?_
  obtain rfl : '<' = c := Option.some.inj hc
  rwa [ht, List.tail_cons]

theorem apart_stop (a : List Char) : Apart a divStop := apart_sign a "/div>".toList

/-- No tag goes on behind a character that stands in none, or at the end of one. -/
theorem apart_end {c : Char} (hc : c ∉ "</div".toList) (a b : List Char) : Apart (a ++ [c]) b := by
  intro w hw
  obtain ⟨-, -, -, hlast⟩ := sign_eq hw
  refine apart_of_last fun d hd hmem => hc (hlast c ?_)
  rw [List.getLast?_concat] at hd
  rwa [Option.some.inj hd]

theorem occurrences_append_of_apart {w : String} {a b : List Char} (hw : w ∈ divSigns) (h : Apart a b) :
    occurrences w (a ++ b) = occurrences w a + occurrences w b := by
  obtain ⟨t, ht, -⟩ := sign_eq hw
  exact occurrences_append (by rw [ht]; exact List.cons_ne_nil _ t) (h w hw)

theorem divDepth_append {a b : List Char} (h : Apart a b) :
    divDepth (a ++ b) = divDepth a + divDepth b := by
  unfold divDepth
  rw [occurrences_append_of_apart (by simp [divSigns]) h,
    occurrences_append_of_apart (by simp [divSigns]) h]
  omega

/-! ## Texts without tags -/

/-- No `div` starts or ends in the text. -/
def Quiet (s : List Char) : Prop := ∀ w ∈ divSigns, occurrences w s = 0

instance (s : List Char) : Decidable (Quiet s) :=
  inferInstanceAs (Decidable (∀ w ∈ divSigns, occurrences w s = 0))

theorem Quiet.divDepth_eq {s : List Char} (h : Quiet s) : divDepth s = 0 := by
  rw [divDepth, h "<div" (by simp [divSigns]), h "</div>" (by simp [divSigns])]
  rfl

theorem Quiet.mono {p s : List Char} (h : Quiet s) (hp : p <+: s) : Quiet p :=
  fun w hw => Nat.le_zero.1 (h w hw ▸ occurrences_mono hp)

theorem Quiet.balanced {s : List Char} (h : Quiet s) : Balanced s where
  low _ hp := Int.le_of_eq (h.mono hp).divDepth_eq.symm
  level := h.divDepth_eq

theorem Quiet.append {a b : List Char} (ha : Quiet a) (hb : Quiet b) (h : Apart a b) : Quiet (a ++ b) :=
  fun w hw => by rw [occurrences_append_of_apart hw h, ha w hw, hb w hw]

theorem quiet_of_noTag {s : List Char} (h : '<' ∉ s) : Quiet s := by
  intro w hw
  obtain ⟨t, ht, -⟩ := sign_eq hw
  refine occurrences_eq_zero.2 fun hin => h (hin.subset ?_)
  rw [ht]
  exact List.mem_cons_self

/-- The start tag of another element. -/
theorem quiet_tag {c : Char} {s : List Char} (hc : c ∉ ['d', '/']) (hs : '<' ∉ c :: s) :
    Quiet ('<' :: c :: s) := by
  intro w hw
  have hother : ¬ w.toList <+: '<' :: c :: s := by
    intro hp
    rw [divSigns, List.mem_cons, List.mem_singleton] at hw
    rcases hw with rfl | rfl <;>
    · obtain ⟨rfl, -⟩ := List.cons_prefix_cons.1 (List.cons_prefix_cons.1 hp).2
      exact hc (by decide)
  rw [occurrences_cons, if_neg hother, quiet_of_noTag hs w hw]

/-! ## Putting balanced texts together -/

theorem Balanced.append {a b : List Char} (ha : Balanced a) (hb : Balanced b) (h : Apart a b) :
    Balanced (a ++ b) where
  low p hp := by
    rcases prefix_append_cases hp with hp | ⟨q, rfl, hq⟩
    · exact ha.low p hp
    · rw [divDepth_append (h.mono hq), ha.level, Int.zero_add]
      exact hb.low q hq
  level := by rw [divDepth_append h, ha.level, hb.level, Int.zero_add]

/-- The start tag of a `div`. -/
def IsDivTag (t : List Char) : Prop := ∃ r, t = divStart ++ r ++ ['>'] ∧ '<' ∉ r

theorem IsDivTag.apart {t : List Char} (ht : IsDivTag t) (s : List Char) : Apart t s := by
  obtain ⟨r, rfl, -⟩ := ht
  exact apart_end (by decide) _ s

theorem IsDivTag.apart_left {t : List Char} (ht : IsDivTag t) (a s : List Char) :
    Apart a (t ++ s) := by
  obtain ⟨r, rfl, -⟩ := ht
  exact apart_sign a ("div".toList ++ r ++ ['>'] ++ s)

theorem IsDivTag.quiet_tail {t : List Char} (ht : IsDivTag t) : ∃ r, t = '<' :: r ∧ Quiet r := by
  obtain ⟨r, rfl, hr⟩ := ht
  refine ⟨"div".toList ++ r ++ ['>'], rfl, quiet_of_noTag ?_⟩
  simp [hr]

/-- A part of a start tag that holds how it starts. -/
theorem IsDivTag.divDepth_part {t p : List Char} (ht : IsDivTag t) (hp : p <+: t)
    (hstart : divStart <+: p) : divDepth p = 1 := by
  obtain ⟨r, rfl, hr⟩ := ht.quiet_tail
  obtain ⟨c, p, rfl⟩ := List.exists_cons_of_ne_nil
    (fun h => by rw [h] at hstart; exact absurd hstart (by decide) : p ≠ [])
  obtain ⟨rfl, htail⟩ := List.cons_prefix_cons.1 hp
  have hquiet := hr.mono htail
  have hstop : ¬ divStop <+: '<' :: p := fun h => by
    have := List.prefix_of_prefix_length_le hstart h (by decide)
    exact absurd this (by decide)
  have hone : "<div".toList <+: '<' :: p := hstart
  have hnone : ¬ "</div>".toList <+: '<' :: p := hstop
  rw [divDepth, occurrences_cons, occurrences_cons, if_pos hone, if_neg hnone,
    hquiet "<div" (by simp [divSigns]), hquiet "</div>" (by simp [divSigns])]
  rfl

theorem IsDivTag.divDepth_eq {t : List Char} (ht : IsDivTag t) : divDepth t = 1 := by
  refine ht.divDepth_part (List.prefix_refl t) ?_
  obtain ⟨r, rfl, -⟩ := ht
  exact ⟨r ++ ['>'], by rw [List.append_assoc]⟩

/-- A balanced text inside an element. Every part of it that holds the start of the element but not all
of its end leaves an element open. -/
theorem IsDivTag.divDepth_pos {t s p : List Char} (ht : IsDivTag t) (hs : Balanced s)
    (hp : p <+: t ++ s ++ divStop) (hne : p ≠ t ++ s ++ divStop) (hstart : divStart <+: p) :
    0 < divDepth p := by
  rw [List.append_assoc] at hp hne
  rcases prefix_append_cases hp with hp | ⟨q, rfl, hq⟩
  · rw [ht.divDepth_part hp hstart]
    exact Int.one_pos
  rw [divDepth_append (ht.apart q), ht.divDepth_eq]
  rcases prefix_append_cases hq with hq | ⟨r, rfl, hr⟩
  · have := hs.low q hq
    omega
  -- of the end tag there is only a part, in which no element ends
  have hquiet : ∀ r ∈ divStop.inits, r ≠ divStop → divDepth r = 0 := by decide
  rw [divDepth_append ((apart_stop s).mono hr), hs.level,
    hquiet r ((List.mem_inits r _).2 hr) fun h => hne (by rw [h])]
  exact Int.one_pos

theorem Balanced.wrap {t s : List Char} (ht : IsDivTag t) (hs : Balanced s) :
    Balanced (t ++ s ++ divStop) := by
  have hlevel : divDepth (t ++ s ++ divStop) = 0 := by
    rw [List.append_assoc, divDepth_append (ht.apart _), divDepth_append (apart_stop s),
      ht.divDepth_eq, hs.level]
    decide
  refine ⟨fun p hp => ?_, hlevel⟩
  by_cases hstart : divStart <+: p
  · by_cases hne : p = t ++ s ++ divStop
    · exact Int.le_of_eq (hne ▸ hlevel).symm
    · exact Int.le_of_lt (ht.divDepth_pos hs hp hne hstart)
  · -- a part without the start of the element is a part of this start
    obtain ⟨r, rfl, -⟩ := ht
    rw [List.append_assoc, List.append_assoc, List.append_assoc] at hp
    rcases prefix_append_cases hp with hp | ⟨q, rfl, -⟩
    · have hquiet : ∀ p ∈ divStart.inits, 0 ≤ divDepth p := by decide
      exact hquiet p ((List.mem_inits p _).2 hp)
    · exact absurd (List.prefix_append ..) hstart

/-- One balanced text in the place of another one in a page. -/
theorem Balanced.replace {a x y b : List Char} (hpage : Balanced (a ++ x ++ b)) (hx : Balanced x)
    (hy : Balanced y) (hax : Apart a (x ++ b)) (hxb : Apart x b) (hay : Apart a (y ++ b))
    (hyb : Apart y b) : Balanced (a ++ y ++ b) := by
  have behind : ∀ {z r}, Balanced z → Apart a (z ++ b) → Apart z b → r <+: b →
      divDepth (a ++ (z ++ r)) = divDepth a + divDepth r := by
    intro z r hz haz hzb hr
    rw [divDepth_append (haz.mono ((List.prefix_append_right_inj z).2 hr)),
      divDepth_append (hzb.mono hr), hz.level, Int.zero_add]
  rw [List.append_assoc] at hpage ⊢
  constructor
  · intro p hp
    rcases prefix_append_cases hp with hp | ⟨q, rfl, hq⟩
    · exact hpage.low p (hp.trans (List.prefix_append ..))
    rcases prefix_append_cases hq with hq' | ⟨r, rfl, hr⟩
    · have ha := hpage.low a (List.prefix_append ..)
      have hq₀ := hy.low q hq'
      rw [divDepth_append (hay.mono hq)]
      omega
    · rw [behind hy hay hyb hr, ← behind hx hax hxb hr]
      exact hpage.low _ ((List.prefix_append_right_inj a).2 ((List.prefix_append_right_inj x).2 hr))
  · rw [behind hy hay hyb (List.prefix_refl b), ← behind hx hax hxb (List.prefix_refl b)]
    exact hpage.level

end DocTabs.Html
