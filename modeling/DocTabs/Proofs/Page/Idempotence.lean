/-
Expanding an expanded page. Where no leaf announces a container, the HTML of an expanded page has no
span: a marker that was left open on the page cannot be completed by the HTML of a container, and
behind it there is no closing marker that was not on the page.
-/
import DocTabs.Proofs.Page.Built
import DocTabs.Proofs.Page.RoundTrip
import DocTabs.Proofs.Tabs.Woven

namespace DocTabs.Page

open Tabs Text

/-! ## Texts without markers -/

/-- No closing marker of the keyword stands in the text. -/
def NoClosing (keyword : String) (s : List Char) : Prop :=
  ∀ m, ClosingMarker keyword m → ¬ m <:+: s

/-- No container is announced in the text: behind no comment start and blanks there is the keyword
of a kind. -/
def Unannounced (s : List Char) : Prop :=
  ∀ (kind : Kind) w, Blanks w → ¬ "<!--".toList ++ w ++ kind.keyword.toList <:+: s

theorem noClosing_iff {keyword : String} {s : List Char} :
    first (closing? keyword) s = none ↔ NoClosing keyword s := by
  rw [first_eq_none]
  constructor
  · rintro h m hm ⟨u, r, rfl⟩
    have hnone := h u (m ++ r) (List.append_assoc ..)
    rw [closing?_eq_some.2 ⟨m, hm, rfl⟩] at hnone
    cases hnone
  · intro h u v huv
    cases hc : closing? keyword v with
    | none => rfl
    | some r =>
      obtain ⟨m, hm, rfl⟩ := closing?_eq_some.1 hc
      exact absurd ⟨u, r, by rw [huv, List.append_assoc]⟩ (h m hm)

theorem unannounced_iff {s : List Char} : Unannounced s ↔
    ∀ kind ∈ [Kind.plain, .sample],
      first (fun s => markerStart? s >>= after? kind.keyword) s = none := by
  constructor
  · intro h kind _
    refine first_eq_none.2 fun u v huv => ?_
    cases hr : markerStart? v >>= after? kind.keyword with
    | none => rfl
    | some r =>
      obtain ⟨w, hw, rfl⟩ := (markerStart?_word kind.isKeyword.markerWord).1 hr
      exact absurd ⟨u, r, by rw [huv]; simp only [List.append_assoc]⟩ (h kind w hw)
  · rintro h kind w hw ⟨u, r, rfl⟩
    have hnone := first_eq_none.1 (h kind (by cases kind <;> decide)) u
      ("<!--".toList ++ w ++ kind.keyword.toList ++ r) (by simp only [List.append_assoc])
    rw [(markerStart?_word kind.isKeyword.markerWord).2 ⟨w, hw, rfl⟩] at hnone
    cases hnone

instance (s : List Char) : Decidable (Unannounced s) := decidable_of_iff _ unannounced_iff.symm

theorem NoClosing.mono {keyword : String} {s t : List Char} (h : NoClosing keyword t)
    (hs : s <:+: t) : NoClosing keyword s :=
  fun m hm hin => h m hm (hin.trans hs)

theorem tagged_of_append {w r : List Char} (h : Tagged (w ++ r)) : Tagged w := by
  cases w with
  | nil => exact fun c hc => by cases hc
  | cons d w => exact h

/-- A text with one tag sign, in front, has no tag behind its start. -/
theorem eq_nil_of_tag {n v w : List Char} (hn : '<' ∉ n) (hv : v ≠ []) (hw : Tagged w)
    (h : v ++ w = '<' :: n) : w = [] := by
  cases w with
  | nil => rfl
  | cons c w =>
    obtain ⟨d, v, rfl⟩ := List.exists_cons_of_ne_nil hv
    obtain rfl := hw c rfl
    obtain ⟨-, rfl⟩ := List.cons.inj h
    exact absurd (List.mem_append_right v List.mem_cons_self) hn

/-- A text with one tag sign, in front, ends before the next tag. -/
theorem prefix_of_tag {n v y r : List Char} (hn : '<' ∉ n) (hv : v ≠ []) (hy : Tagged y)
    (h : v ++ y = '<' :: n ++ r) : '<' :: n <+: v := by
  rcases List.append_eq_append_iff.1 h with ⟨w, hw, rfl⟩ | ⟨w, rfl, -⟩
  · obtain rfl := eq_nil_of_tag hn hv (tagged_of_append hy) hw.symm
    have heq : '<' :: n = v := hw.trans (List.append_nil v)
    exact heq ▸ List.prefix_refl _
  · exact List.prefix_append ..

/-- A search for closing markers passes over a text without them. -/
theorem NoClosing.passes {keyword : String} (hk : Keyword keyword) {g y : List Char}
    (h : NoClosing keyword g) (hy : Tagged y) : Passes (closing? keyword) g y := by
  intro u v huv hv
  cases hc : closing? keyword (v ++ y) with
  | none => rfl
  | some r =>
    obtain ⟨m, hm, he⟩ := closing?_eq_some.1 hc
    obtain ⟨n, rfl, hn⟩ := hm.tag hk
    exact absurd ((prefix_of_tag hn hv hy he).isInfix.trans ⟨u, [], by simp [huv]⟩) (h _ hm)

theorem ContainerOpening.announces {kind : Kind} {id : Option String} {o : List Char}
    (h : ContainerOpening kind id o) :
    ∃ w t, Blanks w ∧ o = "<!--".toList ++ w ++ kind.keyword.toList ++ t := by
  cases h with
  | anonymous hv hw => exact ⟨_, _, hv, by simp only [List.append_assoc]; rfl⟩
  | named hv hu hu' hw hne hq => exact ⟨_, _, hv, by simp only [List.append_assoc]; rfl⟩

/-- A search for spans passes over a text in which no container is announced. -/
theorem Unannounced.passes {g y : List Char} (h : Unannounced g) (hy : Tagged y) :
    Passes span? g y := by
  intro u v huv hv
  cases hs : span? (v ++ y) with
  | none => rfl
  | some p =>
    obtain ⟨seg, rest⟩ := p
    obtain ⟨span, -, o, c, ho, -, he, -⟩ := span?_eq_some.1 hs
    obtain ⟨w, t, hw, rfl⟩ := ho.announces
    have hn : '<' ∉ ['!', '-', '-'] ++ w ++ span.kind.keyword.toList := by
      simp [noTag_of_blanks hw, span.kind.isKeyword.noTag]
    have hpre := prefix_of_tag (r := t ++ (span.body ++ (c ++ rest))) hn hv hy
      (by rw [he, comment_eq]; simp only [List.append_assoc, List.cons_append])
    exact absurd (hpre.isInfix.trans ⟨u, [], by simp [huv]⟩) (h span.kind w hw)

/-! ## Opening markers before a container -/

/-- The text starts as the HTML of a container does: with a tag and its first attribute, the value
of which starts with neither a blank nor a dash. -/
def StartsDiv (r : List Char) : Prop :=
  ∃ d z, r = "<div class=\"".toList ++ d :: z ∧ isBlank d = false ∧ d ≠ '-'

theorem StartsDiv.tagged {r : List Char} (h : StartsDiv r) : Tagged r := by
  obtain ⟨d, z, rfl, -⟩ := h
  intro c hc
  cases hc
  rfl

theorem renderBody_startsDiv (kind : Kind) (id : String) (body : List Char) (preferred : String)
    (y : List Char) : StartsDiv ((renderBody kind id body preferred).toList ++ y) := by
  have hroot : ∀ k : Kind, ∃ d z, k.rootClass.toList = d :: z ∧ isBlank d = false ∧ d ≠ '-' := by
    rintro (_ | _) <;> exact ⟨_, _, rfl, by decide, by decide⟩
  unfold renderBody
  cases Container.ofBody? kind id body preferred with
  | none => exact ⟨_, _, rfl, by decide, by decide⟩
  | some c =>
    obtain ⟨d, z, hd, hblank, hdash⟩ := hroot c.kind
    refine ⟨d, ?_, ?_, hblank, hdash⟩
    rotate_left
    · rw [Option.map_some, Option.getD_some, Container.toHtml, divOpen]
      simp only [String.toList_append, List.append_assoc, hd, List.cons_append]
      rfl

theorem eq_of_quote {a b x y : List Char} (ha : '"' ∉ a) (hb : '"' ∉ b)
    (h : a ++ '"' :: x = b ++ '"' :: y) : a = b ∧ x = y := by
  have hcut := (cut?_char (w := "\"") (c := '"') (r := x) rfl).2 ⟨ha, rfl⟩
  rw [h, (cut?_char (c := '"') rfl).2 ⟨hb, rfl⟩] at hcut
  obtain ⟨rfl, rfl⟩ := Prod.mk.inj (Option.some.inj hcut)
  exact ⟨rfl, rfl⟩

/-- The id of a marker does not take in the start of a container: it would end with the quote in
front of the class, and the marker does not end there. -/
theorem eq_nil_of_id {i b t w x : List Char} (hi : '"' ∉ i) (hb : Blanks b)
    (hr : StartsDiv (w ++ x)) (hw : Tagged w) (h : t ++ w = i ++ '"' :: (b ++ "-->".toList)) :
    w = [] := by
  have hend : '<' ∉ '"' :: (b ++ "-->".toList) := by
    simp [noTag_of_blanks hb]
  cases w with
  | nil => rfl
  | cons c w =>
    obtain rfl := hw c rfl
    rcases List.append_eq_append_iff.1 h with ⟨j, rfl, hj⟩ | ⟨j, rfl, hj⟩
    · obtain ⟨d, z, hdiv, hblank, hdash⟩ := hr
      have hquote : '"' ∉ j := fun hm => hi (List.mem_append_right t hm)
      have hstart : j ++ '"' :: (b ++ ("-->".toList ++ x)) =
          "<div class=".toList ++ '"' :: d :: z := by
        rw [← List.append_assoc b, ← List.cons_append, ← List.append_assoc, ← hj, hdiv]
        rfl
      obtain ⟨-, hrest⟩ := eq_of_quote hquote (by decide) hstart
      cases b with
      | nil => exact absurd (List.cons.inj hrest).1.symm hdash
      | cons e b =>
        obtain ⟨rfl, -⟩ := List.cons.inj hrest
        rw [hb e List.mem_cons_self] at hblank
        cases hblank
    · exact absurd (hj ▸ List.mem_append_right j List.mem_cons_self) hend

/-- An opening marker before a container ends before it. -/
theorem ContainerOpening.ends {kind : Kind} {id : Option String} {o v r x : List Char}
    (ho : ContainerOpening kind id o) (hv : v ≠ []) (hr : StartsDiv r) (he : v ++ r = o ++ x) :
    ∃ v', v = o ++ v' ∧ x = v' ++ r := by
  rcases List.append_eq_append_iff.1 he with ⟨w, hw, rfl⟩ | ⟨v', rfl, rfl⟩
  · have htag : Tagged w := tagged_of_append hr.tagged
    suffices hnil : w = [] by
      subst hnil
      exact ⟨[], by simpa using hw.symm, rfl⟩
    cases ho with
    | @anonymous a b ha hb =>
      refine eq_nil_of_tag (n := ['!', '-', '-'] ++ a ++ kind.keyword.toList ++ b ++ ['-', '-', '>'])
        ?_ hv htag hw.symm
      simp [noTag_of_blanks ha, noTag_of_blanks hb, kind.isKeyword.noTag]
    | @named a u b i ha hu hu' hb hne hquote =>
      -- the marker up to its id is in front of the container
      have hn : '<' ∉ ['!', '-', '-'] ++ a ++ kind.keyword.toList ++ u ++ "id=\"".toList := by
        simp [noTag_of_blanks ha, noTag_of_blanks hu, kind.isKeyword.noTag]
      have hsplit : v ++ w = '<' :: (['!', '-', '-'] ++ a ++ kind.keyword.toList ++ u ++
          "id=\"".toList) ++ (i ++ '"' :: (b ++ "-->".toList)) := by
        rw [← hw, comment_eq]
        simp only [List.append_assoc, List.cons_append, List.nil_append]
        rfl
      obtain ⟨t, rfl⟩ := prefix_of_tag hn hv htag hsplit
      rw [List.append_assoc] at hsplit
      exact eq_nil_of_id hquote hb hr htag (List.append_cancel_left hsplit)
  · exact ⟨v', rfl, rfl⟩

/-! ## Expanded pages -/

theorem woven_renderBody {kind : Kind} {id preferred : String} {body : List Char}
    {P : List Char → Prop}
    (h : ∀ c, Container.ofBody? kind id body preferred = some c →
      ∀ content ∈ c.leaves, P content.toList) :
    Woven P (renderBody kind id body preferred).toList := by
  unfold renderBody
  cases hc : Container.ofBody? kind id body preferred with
  | none => exact .sealed (by decide)
  | some c =>
    refine (woven_ofBody? hc).mono ?_
    rintro x ⟨content, hl, rfl⟩
    exact h c hc content hl

theorem SpanAt.body_in {span : Span} {rest t : List Char} (h : SpanAt span rest t) :
    span.body <:+: t ∧ rest <:+: t := by
  obtain ⟨o, c, -, -, rfl, -⟩ := h
  exact ⟨⟨o, c ++ rest, by simp only [List.append_assoc]⟩, (List.suffix_append ..).isInfix⟩

/-- In the place of a span its HTML brings no closing marker with it. -/
theorem NoClosing.span {kind : Kind} {g t rest y : List Char} {span : Span}
    (hat : SpanAt span rest t) (h : NoClosing kind.keyword (g ++ t)) (hy : NoClosing kind.keyword y)
    (id preferred : String) :
    NoClosing kind.keyword (g ++ ((renderBody span.kind id span.body preferred).toList ++ y)) := by
  have hbody := h.mono (hat.body_in.1.trans (List.suffix_append g t).isInfix)
  have hgap := h.mono (List.prefix_append g t).isInfix
  -- the leaves are parts of the body, and the rest of the HTML is tags
  have hwoven : Woven (NoClosing kind.keyword)
      (renderBody span.kind id span.body preferred).toList :=
    woven_renderBody fun c hc content hl => hbody.mono (leaf_in_body hc hl)
  have hleaf : ∀ x, NoClosing kind.keyword x → ∀ z, Passes (closing? kind.keyword) x ('<' :: z) :=
    fun x hx z => hx.passes kind.isKeyword fun c hc => (Option.some.inj hc).symm
  have htag := (renderBody_startsDiv span.kind id span.body preferred y).tagged
  have hpass := (hgap.passes kind.isKeyword htag).append
    (hwoven.passes (commented_closing? _) hleaf y)
  rw [← noClosing_iff] at hy ⊢
  rw [← List.append_assoc, hpass.first, hy]
  rfl

theorem Cut.segments_span {s gap t rest last : List Char} {span : Span}
    {parts : List (List Char × Span)} (hs : s = gap ++ t) (hat : SpanAt span rest t)
    (hleast : ∀ u v, s = u ++ v → u.length < gap.length → ¬ Opens v) (hcut : Cut rest parts last) :
    Page.segments s = .text gap :: span.segment :: Page.segments rest := by
  rw [(Cut.span hs hat hleast hcut).segments, hcut.segments]
  rfl

theorem segments_done {s : List Char} (h : ∀ u v, s = u ++ v → ¬ Opens v) :
    segments s = [.text s] :=
  (Cut.done h).segments

theorem expandAll_text (σ : Session) (s : List Char) :
    expandAll σ [.text s] = (⟨String.ofList s, 0, []⟩, σ) := by
  simp [expandAll, Segment.expand, Expansion.append]

/-- The HTML of an expanded page has no closing marker of a kind of which the page has none. -/
theorem noClosing_expandAll {kind : Kind} {s last : List Char} {parts : List (List Char × Span)}
    (hcut : Cut s parts last) (h : NoClosing kind.keyword s) (σ : Session) :
    NoClosing kind.keyword (expandAll σ (segments s)).1.html.toList := by
  induction hcut generalizing σ with
  | done hnone =>
    rw [segments_done hnone, expandAll_text, String.toList_ofList]
    exact h
  | @span s gap t rest last span parts hs hat hleast hcut ih =>
    rw [Cut.segments_span hs hat hleast hcut, expandAll_part]
    subst hs
    have hrest := h.mono (hat.body_in.2.trans (List.suffix_append gap t).isInfix)
    simpa only [String.toList_append, String.toList_ofList, List.append_assoc] using
      h.span hat (ih hrest _) _ _

theorem container?_segment (σ : Session) (span : Span) : span.segment.container? σ =
    Container.ofBody? span.kind (span.idAfter σ.drawn) span.body σ.preferred := by
  obtain ⟨kind, id, body⟩ := span
  cases id <;> rfl

/-- Where no leaf announces a container, the HTML of an expanded page has no span. -/
theorem first_span?_expandAll {s last : List Char} {parts : List (List Char × Span)}
    (hcut : Cut s parts last) {σ : Session}
    (h : ∀ c ∈ builtAll σ (segments s), ∀ content ∈ c.leaves, Unannounced content.toList) :
    first span? (expandAll σ (segments s)).1.html.toList = none := by
  induction hcut generalizing σ with
  | done hnone =>
    rw [segments_done hnone, expandAll_text, String.toList_ofList]
    exact first_eq_none.2 fun u v huv => span?_eq_none.2 (hnone u v huv)
  | @span s gap t rest last span parts hs hat hleast hcut ih =>
    rw [Cut.segments_span hs hat hleast hcut] at h ⊢
    rw [builtAll, builtAll, container?_segment, expand_segment] at h
    rw [expandAll_part]
    subst hs
    generalize hσ : ({ σ with drawn := σ.drawn + if span.isAnonymous then 1 else 0 } : Session) = σ'
    have hrest : first span? (expandAll σ' (segments rest)).1.html.toList = none :=
      ih fun c hc => h c (by subst hσ; exact List.mem_append_right _ (List.mem_append_right _ hc))
    have hdiv := renderBody_startsDiv span.kind (span.idAfter σ.drawn) span.body σ.preferred
      (expandAll σ' (segments rest)).1.html.toList
    have hwoven : Woven Unannounced
        (renderBody span.kind (span.idAfter σ.drawn) span.body σ.preferred).toList :=
      woven_renderBody fun c hc => h c (List.mem_append_right _ (List.mem_append_left _
        (Option.mem_toList.2 hc)))
    have hleaf : ∀ x, Unannounced x → ∀ z, Passes span? x ('<' :: z) :=
      fun x hx z => hx.passes fun c hc => (Option.some.inj hc).symm
    -- an opening marker in the gap ends in the gap, so the page had a span where it stands
    have hgap : Passes span? gap
        ((renderBody span.kind (span.idAfter σ.drawn) span.body σ.preferred).toList ++
          (expandAll σ' (segments rest)).1.html.toList) := by
      intro u v huv hv
      refine span?_eq_none.2 ?_
      rintro ⟨kind, id, o, b, c, r, ho, hc, he⟩
      obtain ⟨v', rfl, hafter⟩ := ho.ends (x := b ++ c ++ r) hv hdiv
        (by rw [he]; simp only [List.append_assoc])
      by_cases hclosing : NoClosing kind.keyword (v' ++ t)
      · have hexpanded := hclosing.span hat (noClosing_expandAll hcut
          (hclosing.mono (hat.body_in.2.trans (List.suffix_append v' t).isInfix)) σ')
            (span.idAfter σ.drawn) σ.preferred
        exact hexpanded c hc ⟨b, r, hafter⟩
      · simp only [NoClosing, not_forall, not_not] at hclosing
        obtain ⟨m, hm, b', r', hin⟩ := hclosing
        have hopens : o ++ v' ++ t = o ++ b' ++ m ++ r' := by
          rw [List.append_assoc, ← hin]
          simp only [List.append_assoc]
        refine hleast u (o ++ v' ++ t) (by rw [huv, List.append_assoc]) ?_
          ⟨kind, id, o, b', m, r', ho, hm, hopens⟩
        rw [huv, List.length_append]
        have := List.length_pos_of_ne_nil hv
        omega
    have hpass := hgap.append (hwoven.passes commented_span? hleaf _)
    rw [String.toList_append, String.toList_append, String.toList_ofList, hpass.first, hrest]
    rfl

/-- Expanding an expanded page finds no container: where no leaf of a container that was built
announces a container, the HTML comes out as it went in, whatever markers the page left open and
whatever session it is expanded in. -/
theorem expand_again (page : String) (s : Session)
    (h : ∀ c ∈ built s page, ∀ content ∈ c.leaves, Unannounced content.toList) (s' : Session) :
    expand (expand page s).1.html s' = (⟨(expand page s).1.html, 0, []⟩, s') := by
  obtain ⟨parts, last, hcut⟩ := exists_cut page.toList
  have hnone : first span? (expand page s).1.html.toList = none := first_span?_expandAll hcut h
  rw [expand.eq_def (expand page s).1.html, (cut_done hnone).segments]
  show expandAll s' [.text (expand page s).1.html.toList] = _
  rw [expandAll_text, String.ofList_toList]

/-- A page that leaves an opening marker open in its id. Behind it there is a container, and a leaf
of the container has the closing marker for the one that is open. -/
def danglingPage : String :=
  "<!--codesample id=\"<!--platformtabs--><!--platform:A-->x<!--/codesample--><!--/platform-->" ++
    "<!--/platformtabs-->\"--><!--/platformtabs-->"

theorem expand_again_danglingPage :
    (∀ c ∈ built {} danglingPage, ∀ content ∈ c.leaves, Unannounced content.toList) ∧
      (built {} danglingPage).map Container.leaves = [["x<!--/codesample-->"]] ∧
      ∀ s', expand (expand danglingPage {}).1.html s' =
        (⟨(expand danglingPage {}).1.html, 0, []⟩, s') := by
  have h : ∀ c ∈ built {} danglingPage, ∀ content ∈ c.leaves, Unannounced content.toList := by
    decide +kernel
  exact ⟨h, by decide +kernel, fun s' => expand_again danglingPage {} h s'⟩

end DocTabs.Page
