/-
What a scan finds. The next branch of a level starts at the least position where an opening marker
is followed by a closing marker of the level, and its content ends at the earliest such closing
marker. The same branches come out of the plain pattern of a branch, which leaves open how far the
name goes into the blanks behind it: all its readings at one position agree.
-/
import DocTabs.Proofs.Tabs.Written

namespace DocTabs.Tabs

open Text

variable {level : Level} {s rest : List Char} {b : Branch} {bs : List Branch}

/-! ## The procedure -/

/-- At the head of the text an opening marker is followed, at or after its end, by a closing marker
of the same level. -/
def Branch.Starts (level : Level) (s : List Char) : Prop :=
  ∃ name o t c r, OpeningMarker level.keyword name o ∧ ClosingMarker level.keyword c ∧
    s = o ++ t ++ c ++ r

/-- No branch starts in the first `n` positions of the text. -/
def Branch.NoneBefore (level : Level) (n : Nat) (s : List Char) : Prop :=
  ∀ u v, s = u ++ v → u.length < n → ¬ Branch.Starts level v

/-- The branch at the head of the text and the text after its closing marker, which is the earliest
one of the level behind the opening marker. -/
def Branch.At (level : Level) (b : Branch) (rest s : List Char) : Prop :=
  ∃ o t c, OpeningMarker level.keyword b.name.toList o ∧ ClosingMarker level.keyword c ∧
    s = o ++ t ++ c ++ rest ∧ b.content.toList = trim t ∧
    ∀ t' c' r', t ++ c ++ rest = t' ++ c' ++ r' → ClosingMarker level.keyword c' →
      t.length ≤ t'.length

/-- The branches of a text: each is the one at the least position behind the branch before it. -/
inductive Branches (level : Level) : List Char → List Branch → Prop
  | done {s : List Char} : Branch.NoneBefore level (s.length + 1) s → Branches level s []
  | next {s gap t rest : List Char} {b : Branch} {bs : List Branch} :
      s = gap ++ t → Branch.NoneBefore level gap.length s → Branch.At level b rest t →
      Branches level rest bs → Branches level s (b :: bs)

/-! ## The pattern -/

/-- An opening marker in which the name may take some of the blanks behind it. -/
def OpeningText (keyword : String) (raw o : List Char) : Prop :=
  raw ≠ [] ∧ Flush raw ∧ '>' ∉ raw ∧ ∃ v w x, Blanks v ∧ Blanks w ∧ Blanks x ∧
    o = "<!--".toList ++ v ++ keyword.toList ++ ":".toList ++ w ++ raw ++ x ++ "-->".toList

/-- One way to read `m` as a branch: `raw` is taken for the name, and `t` for the content. -/
def Reading (level : Level) (raw t m : List Char) : Prop :=
  ∃ o c, OpeningText level.keyword raw o ∧ ClosingMarker level.keyword c ∧ m = o ++ t ++ c

/-- The branches that leftmost readings with the shortest content make of a text. -/
inductive ReadOff (level : Level) : List Char → List Branch → Prop
  | done {s : List Char} :
      (∀ u m v, s = u ++ m ++ v → ∀ raw t, ¬ Reading level raw t m) → ReadOff level s []
  | next {s gap m rest raw t : List Char} {bs : List Branch} :
      s = gap ++ m ++ rest → Reading level raw t m →
      (∀ u m' v, s = u ++ m' ++ v → u.length < gap.length → ∀ raw' t', ¬ Reading level raw' t' m') →
      (∀ m' v, m ++ rest = m' ++ v → ∀ raw' t', Reading level raw' t' m' → t.length ≤ t'.length) →
      ReadOff level rest bs →
      ReadOff level s (⟨String.ofList (trim raw), String.ofList (trim t)⟩ :: bs)

/-! ## One reading of a marker -/

theorem trimEnd_ne_nil {raw : List Char} (hne : raw ≠ []) (hf : Flush raw) : trimEnd raw ≠ [] := by
  intro h
  obtain ⟨w, hw, hraw⟩ := exists_trimEnd raw
  rw [h, List.nil_append] at hraw
  obtain ⟨c, r, rfl⟩ := List.exists_cons_of_ne_nil hne
  have hblank : isBlank c = true := hw c (hraw ▸ List.mem_cons_self ..)
  have hflush : isBlank c = false := hf c rfl
  rw [hblank] at hflush
  cases hflush

theorem trimEnd_trimEnd (raw : List Char) : trimEnd (trimEnd raw) = trimEnd raw := by
  rw [trimEnd_eq_reverse, trimEnd_eq_reverse, List.reverse_reverse,
    trimStart_of_flush (flush_trimStart _)]

/-- However far the name was taken, it is the same name when its end is trimmed. -/
theorem OpeningText.marker {keyword : String} {raw o : List Char} (h : OpeningText keyword raw o) :
    OpeningMarker keyword (trimEnd raw) o := by
  obtain ⟨hne, hf, hend, v, w, x, hv, hw, hx, rfl⟩ := h
  obtain ⟨y, hy, hraw⟩ := exists_trimEnd raw
  refine ⟨⟨trimEnd_ne_nil hne hf, hf.trimEnd, trimEnd_trimEnd raw, fun hm => hend ?_⟩, v, w, y ++ x,
    hv, hw, ?_, ?_⟩
  · exact (trimEnd_prefix_self raw).subset hm
  · intro c hc
    rcases List.mem_append.1 hc with hc | hc
    · exact hy c hc
    · exact hx c hc
  · conv_lhs => rw [hraw]
    simp only [List.append_assoc]

theorem OpeningMarker.text {keyword : String} {name o : List Char}
    (h : OpeningMarker keyword name o) : OpeningText keyword name o :=
  ⟨h.1.ne_nil, h.1.flush, h.1.noEnd, h.2⟩

theorem OpeningMarker.unique {keyword : String} (hk : MarkerWord keyword)
    {name name' o o' r r' : List Char} (h : OpeningMarker keyword name o)
    (h' : OpeningMarker keyword name' o') (he : o ++ r = o' ++ r') :
    name = name' ∧ o = o' ∧ r = r' := by
  have hread := (opening?_eq_some hk (r := r)).2 ⟨o, h, rfl⟩
  have hread' := (opening?_eq_some hk (r := r')).2 ⟨o', h', rfl⟩
  rw [he, hread', Option.some.injEq, Prod.mk.injEq] at hread
  obtain ⟨rfl, rfl⟩ := hread
  exact ⟨rfl, List.append_cancel_right he, rfl⟩

/-! ## Reading a branch -/

theorem read?_eq_some : Branch.read? level s = some (b, rest) ↔ Branch.At level b rest s := by
  have hk := level.isKeyword.markerWord
  constructor
  · intro h
    obtain ⟨⟨name, inside⟩, ho, h⟩ := Option.bind_eq_some_iff.1 h
    obtain ⟨⟨t, r⟩, hc, h⟩ := Option.bind_eq_some_iff.1 h
    obtain ⟨rfl, rfl⟩ := Prod.mk.inj (Option.some.inj h)
    obtain ⟨o, hm, rfl⟩ := (opening?_eq_some hk).1 ho
    obtain ⟨c, hclose, hinside, hleast⟩ := first_closing?.1 hc
    rw [hinside] at hleast ⊢
    exact ⟨o, t, c, by rwa [String.toList_ofList], hclose, by simp only [List.append_assoc],
      String.toList_ofList, hleast⟩
  · rintro ⟨o, t, c, ho, hc, rfl, hcontent, hleast⟩
    have hopen := (opening?_eq_some hk (r := t ++ c ++ rest)).2 ⟨o, ho, rfl⟩
    have hclose := first_closing?.2 ⟨c, hc, rfl, hleast⟩
    simp only [List.append_assoc] at hopen hclose ⊢
    simp only [Branch.read?, hopen, hclose, Option.bind_eq_bind, Option.bind_some, Option.pure_def,
      ← hcontent, String.ofList_toList]

theorem read?_eq_none : Branch.read? level s = none ↔ ¬ Branch.Starts level s := by
  constructor
  · rintro h ⟨name, o, t, c, r, ho, hc, rfl⟩
    have hopen := (opening?_eq_some level.isKeyword.markerWord (r := t ++ c ++ r)).2 ⟨o, ho, rfl⟩
    cases hclose : first (closing? level.keyword) (t ++ c ++ r) with
    | none =>
      have := first_eq_none.1 hclose t (c ++ r) (List.append_assoc ..)
      rw [closing?_eq_some.2 ⟨c, hc, rfl⟩] at this
      cases this
    | some p =>
      simp only [List.append_assoc] at hopen hclose h
      simp only [Branch.read?, hopen, hclose, Option.bind_eq_bind, Option.bind_some,
        Option.pure_def] at h
      cases h
  · intro h
    cases hr : Branch.read? level s with
    | none => rfl
    | some p =>
      obtain ⟨o, t, c, ho, hc, hs, -, -⟩ := read?_eq_some.1 hr
      exact absurd ⟨_, o, t, c, p.2, ho, hc, hs⟩ h

/-! ## Scanning follows the procedure -/

theorem first_read?_eq_none :
    first (Branch.read? level) s = none ↔ Branch.NoneBefore level (s.length + 1) s := by
  rw [first_eq_none]
  constructor
  · intro h u v huv _
    exact read?_eq_none.1 (h u v huv)
  · intro h u v huv
    refine read?_eq_none.2 (h u v huv ?_)
    rw [huv, List.length_append]
    omega

theorem first_read?_eq_some {gap : List Char} :
    first (Branch.read? level) s = some (gap, b, rest) ↔
      ∃ t, s = gap ++ t ∧ Branch.NoneBefore level gap.length s ∧ Branch.At level b rest t := by
  rw [first_eq_some]
  constructor
  · rintro ⟨t, hs, ht, hleast⟩
    exact ⟨t, hs, fun u v huv hu => read?_eq_none.1 (hleast u v huv hu), read?_eq_some.1 ht⟩
  · rintro ⟨t, hs, hnone, ht⟩
    exact ⟨t, hs, read?_eq_some.2 ht, fun u v huv hu => read?_eq_none.2 (hnone u v huv hu)⟩

theorem Branches.scan (h : Branches level s bs) : Branch.scan level s = bs := by
  induction h with
  | done hnone => exact scan_eq_nil (first_read?_eq_none.2 hnone)
  | next hs hnone hat _ ih =>
    rw [scan_eq_cons (first_read?_eq_some.2 ⟨_, hs, hnone, hat⟩), ih]

theorem branches_scan (level : Level) (s : List Char) : Branches level s (Branch.scan level s) := by
  cases h : first (Branch.read? level) s with
  | none =>
    rw [scan_eq_nil h]
    exact .done (first_read?_eq_none.1 h)
  | some p =>
    obtain ⟨gap, b, rest⟩ := p
    obtain ⟨t, hs, hnone, hat⟩ := first_read?_eq_some.1 h
    have hlen : rest.length < s.length := by
      have := Branch.read?_length (read?_eq_some.2 hat)
      rw [hs, List.length_append]
      omega
    -- what follows the branch is shorter than the text
    rw [scan_eq_cons h]
    exact .next hs hnone hat (branches_scan level rest)
termination_by s.length

theorem branches_iff : Branches level s bs ↔ bs = Branch.scan level s :=
  ⟨fun h => h.scan.symm, fun h => h ▸ branches_scan level s⟩

/-! ## Readings follow the procedure -/

theorem starts_iff_reading :
    Branch.Starts level s ↔ ∃ m v raw t, s = m ++ v ∧ Reading level raw t m := by
  constructor
  · rintro ⟨name, o, t, c, r, ho, hc, rfl⟩
    exact ⟨o ++ t ++ c, r, name, t, rfl, o, c, ho.text, hc, rfl⟩
  · rintro ⟨_, v, raw, t, rfl, o, c, ho, hc, rfl⟩
    exact ⟨trimEnd raw, o, t, c, v, ho.marker, hc, rfl⟩

theorem noneBefore_iff_reading {n : Nat} : Branch.NoneBefore level n s ↔
    ∀ u m v, s = u ++ m ++ v → u.length < n → ∀ raw t, ¬ Reading level raw t m := by
  constructor
  · intro h u m v hs hu raw t hr
    exact h u (m ++ v) (by rw [hs, List.append_assoc]) hu (starts_iff_reading.2 ⟨m, v, raw, t, rfl, hr⟩)
  · intro h u v hs hu hstart
    obtain ⟨m, r, raw, t, rfl, hr⟩ := starts_iff_reading.1 hstart
    exact h u m r (by rw [hs, List.append_assoc]) hu raw t hr

/-- A reading with the shortest content at its position tells the branch there. -/
theorem Reading.branchAt {raw t m : List Char} (h : Reading level raw t m)
    (hleast : ∀ m' v, m ++ rest = m' ++ v → ∀ raw' t', Reading level raw' t' m' →
      t.length ≤ t'.length) :
    Branch.At level ⟨String.ofList (trim raw), String.ofList (trim t)⟩ rest (m ++ rest) := by
  obtain ⟨o, c, ho, hc, rfl⟩ := h
  have hname : trim raw = trimEnd raw := by rw [trim, trimStart_of_flush ho.2.1]
  refine ⟨o, t, c, ?_, hc, rfl, String.toList_ofList, fun t' c' r' he hc' => ?_⟩
  · rw [String.toList_ofList, hname]
    exact ho.marker
  · refine hleast (o ++ t' ++ c') r' ?_ raw t' ⟨o, c', ho, hc', rfl⟩
    simp only [List.append_assoc] at he ⊢
    rw [he]

/-- The branch at a position has the shortest content of all readings there. -/
theorem Branch.At.reading (h : Branch.At level b rest s) :
    ∃ m t, s = m ++ rest ∧ Reading level b.name.toList t m ∧ b.content.toList = trim t ∧
      ∀ m' v, m ++ rest = m' ++ v → ∀ raw' t', Reading level raw' t' m' → t.length ≤ t'.length := by
  obtain ⟨o, t, c, ho, hc, rfl, hcontent, hleast⟩ := h
  refine ⟨o ++ t ++ c, t, rfl, ⟨o, c, ho.text, hc, rfl⟩, hcontent, ?_⟩
  rintro m' v he raw' t' ⟨o', c', ho', hc', rfl⟩
  simp only [List.append_assoc] at he
  obtain ⟨-, -, htail⟩ := ho.unique level.isKeyword.markerWord ho'.marker he
  exact hleast t' c' v (by simpa only [List.append_assoc] using htail) hc'

theorem ReadOff.branches (h : ReadOff level s bs) : Branches level s bs := by
  induction h with
  | done hnone =>
    exact .done (noneBefore_iff_reading.2 fun u m v hs _ => hnone u m v hs)
  | next hs hr hnone hleast _ ih =>
    exact .next (hs.trans (List.append_assoc ..)) (noneBefore_iff_reading.2 hnone) (hr.branchAt hleast) ih

theorem Branches.readOff (h : Branches level s bs) : ReadOff level s bs := by
  induction h with
  | @done s hnone =>
    refine .done fun u m v hs => noneBefore_iff_reading.1 hnone u m v hs ?_
    rw [hs, List.length_append, List.length_append]
    omega
  | @next s gap t rest b bs hs hnone hat _ ih =>
    obtain ⟨m, text, rfl, hr, hcontent, hleast⟩ := hat.reading
    have hname : trim b.name.toList = b.name.toList := by
      obtain ⟨o, t, c, ho, -⟩ := hat
      rw [trim, trimStart_of_flush ho.1.flush, ho.1.trimmed]
    have hb : b = ⟨String.ofList (trim b.name.toList), String.ofList (trim text)⟩ := by
      rw [hname, ← hcontent, String.ofList_toList, String.ofList_toList]
    rw [hb]
    exact .next (hs.trans (List.append_assoc ..).symm) hr (noneBefore_iff_reading.1 hnone) hleast ih

/-! ## What the branches are -/

theorem Branches.exists_at (h : Branches level s bs) (hb : b ∈ bs) :
    ∃ rest t, Branch.At level b rest t := by
  induction h with
  | done _ => cases hb
  | next _ _ hat _ ih =>
    rcases List.mem_cons.1 hb with rfl | hb
    · exact ⟨_, _, hat⟩
    · exact ih hb

theorem infix_trim (t : List Char) : trim t <:+: t :=
  (trimEnd_prefix_self _).isInfix.trans (trimStart_suffix t).isInfix

theorem Branch.At.noClosing (h : Branch.At level b rest s) {m : List Char}
    (hm : ClosingMarker level.keyword m) : ¬ m <:+: b.content.toList := by
  obtain ⟨o, t, c, -, -, -, hcontent, hleast⟩ := h
  rw [hcontent]
  intro hin
  obtain ⟨x, y, ht⟩ := hin.trans (infix_trim t)
  have hle := hleast x m (y ++ c ++ rest) (by rw [← ht]; simp only [List.append_assoc]) hm
  obtain ⟨v, w, -, -, rfl⟩ := hm
  have hlen := congrArg List.length ht
  simp only [List.length_append] at hlen
  have : "<!--".toList.length = 4 := rfl
  omega

theorem OpeningMarker.keyword_eq {word word' : String} {name name' o o' r r' : List Char}
    (hk : Keyword word) (hk' : Keyword word') (h : OpeningMarker word name o)
    (h' : OpeningMarker word' name' o') (he : o ++ r = o' ++ r') : word = word' := by
  obtain ⟨-, v, w, x, hv, -, -, rfl⟩ := h
  obtain ⟨-, v', w', x', hv', -, -, rfl⟩ := h'
  have hcolon : ∀ z, ∀ c ∈ (":".toList ++ z).head?, c.isAlpha = false := by
    intro z c hc
    cases hc
    decide
  simp only [List.append_assoc] at he
  have hwords := comment_inj hv hv' (hk.markerWord.flush.append hk.ne_nil _)
    (hk'.markerWord.flush.append hk'.ne_nil _) (by simpa only [List.append_assoc] using he)
  exact hk.eq_of_append hk' (hcolon _) (hcolon _) hwords

/-- A marker of the level stands at the head of the text. -/
def Level.MarkerAt (level : Level) (s : List Char) : Prop :=
  (∃ name o r, OpeningMarker level.keyword name o ∧ s = o ++ r) ∨
    ∃ c r, ClosingMarker level.keyword c ∧ s = c ++ r

theorem Level.keyword_inj {level other : Level} (h : level.keyword = other.keyword) :
    level = other := by
  cases level <;> cases other <;> simp [keyword] at h ⊢

theorem Level.MarkerAt.unique {other : Level} (h : level.MarkerAt s) (h' : other.MarkerAt s) :
    level = other := by
  have hk := level.isKeyword
  have hk' := other.isKeyword
  rcases h with ⟨name, o, r, ho, rfl⟩ | ⟨c, r, hc, rfl⟩
  · rcases h' with ⟨name', o', r', ho', he⟩ | ⟨c', r', hc', he⟩
    · exact keyword_inj (ho.keyword_eq hk hk' ho' he)
    · have hnone : closing? other.keyword (o ++ r) = none := ho.not_closing hk r
      rw [he, closing?_eq_some.2 ⟨c', hc', rfl⟩] at hnone
      cases hnone
  · rcases h' with ⟨name', o', r', ho', he⟩ | ⟨c', r', hc', he⟩
    · have hnone : closing? level.keyword (o' ++ r') = none := ho'.not_closing hk' r'
      rw [← he, closing?_eq_some.2 ⟨c, hc, rfl⟩] at hnone
      cases hnone
    · by_contra hne
      have hnone := hc.other hk hk' (fun hw => hne (keyword_inj hw).symm) r
      rw [he, closing?_eq_some.2 ⟨c', hc', rfl⟩] at hnone
      cases hnone

/-- A scan passes over a text in which no branch starts, whatever opening markers it leaves open. -/
theorem scan_append {u v : List Char} (h : Branch.NoneBefore level u.length (u ++ v)) :
    Branch.scan level (u ++ v) = Branch.scan level v := by
  have hpass : Passes (Branch.read? level) u v := by
    intro x y hu hy
    refine read?_eq_none.2 (h x (y ++ v) (by rw [hu, List.append_assoc]) ?_)
    have := List.length_pos_of_ne_nil hy
    rw [hu, List.length_append]
    omega
  have hfirst := hpass.first
  cases hv : first (Branch.read? level) v with
  | none =>
    rw [hv] at hfirst
    rw [scan_eq_nil hfirst, scan_eq_nil hv]
  | some p =>
    obtain ⟨gap, b, rest⟩ := p
    rw [hv] at hfirst
    rw [scan_eq_cons hfirst, scan_eq_cons hv]

/-- A scan finds exactly the branches of the procedure, and exactly those that the leftmost readings
of the pattern make, however far they take the names. Names are as they can stand in a marker,
contents are trimmed and hold no closing marker of their level, a marker of one level is none of the
other, and a text in which no branch starts is passed over. -/
theorem scan_eq_branches (level : Level) (s : List Char) :
    (∀ bs, Branches level s bs ↔ bs = Branch.scan level s) ∧
      (∀ bs, ReadOff level s bs ↔ bs = Branch.scan level s) ∧
      (∀ b ∈ Branch.scan level s, MarkerName b.name.toList ∧
        trim b.content.toList = b.content.toList ∧
        ∀ m, ClosingMarker level.keyword m → ¬ m <:+: b.content.toList) ∧
      (∀ (other : Level) t, other ≠ level → other.MarkerAt t → ¬ level.MarkerAt t) ∧
      ∀ u v, s = u ++ v → Branch.NoneBefore level u.length s →
        Branch.scan level s = Branch.scan level v := by
  refine ⟨fun bs => branches_iff, fun bs => ?_, fun b hb => ?_, fun other t hne hother hlevel => ?_,
    fun u v hs hnone => ?_⟩
  · exact ⟨fun h => branches_iff.1 h.branches, fun h => (branches_iff.2 h).readOff⟩
  · obtain ⟨rest, t, hat⟩ := (branches_scan level s).exists_at hb
    refine ⟨?_, ?_, fun m hm => hat.noClosing hm⟩
    · obtain ⟨o, x, c, ho, -⟩ := hat
      exact ho.1
    · obtain ⟨o, x, c, -, -, -, hcontent, -⟩ := hat
      rw [hcontent, trim_trim]
  · exact hne (hother.unique hlevel)
  · subst hs
    exact scan_append hnone

/-- A marker that is left open takes the next branch of its level into its content. -/
example : Branch.scan .platform
    "<!-- platform: a --><!-- platform: b -->x<!-- /platform -->".toList =
      [⟨"a", "<!-- platform: b -->x"⟩] := by
  decide +kernel

end DocTabs.Tabs
