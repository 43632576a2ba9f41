/-
The HTML of a container as tags woven around its leaves. Names and ids are escaped and the tags are
fixed, so no comment starts outside the leaves, and behind every leaf there is a tag, so no comment
start in a leaf goes on behind it. The leaves themselves are parts of the container's body.
-/
import DocTabs.Proofs.Html.Balance
import DocTabs.Proofs.Html.Escape
import DocTabs.Proofs.Tabs.Scan
import DocTabs.Proofs.Tabs.Markup

namespace DocTabs.Tabs

open Html Text

/-! ## Sealed text -/

/-- Behind every tag sign of the text there is a character, and it does not make a comment of the
tag. -/
def isSealed : List Char → Bool
  | [] => true
  | c :: r => (c ≠ '<' || r.head?.any (· ≠ '!')) && isSealed r

theorem isSealed_append {a b : List Char} (ha : isSealed a = true) (hb : isSealed b = true) :
    isSealed (a ++ b) = true := by
  induction a with
  | nil => exact hb
  | cons c a ih =>
    rw [isSealed, Bool.and_eq_true, Bool.or_eq_true] at ha
    rw [List.cons_append, isSealed, ih ha.2, Bool.and_true, Bool.or_eq_true]
    refine ha.1.imp_right fun h => ?_
    cases a with
    | nil => cases h
    | cons d a => exact h

theorem isSealed_of_noTag {t : List Char} (h : '<' ∉ t) : isSealed t = true := by
  induction t with
  | nil => rfl
  | cons c t ih =>
    rw [List.mem_cons, not_or] at h
    rw [isSealed, ih h.2, Bool.and_true, Bool.or_eq_true]
    exact .inl (decide_eq_true (Ne.symm h.1))

/-- No comment starts in the string, nor is one begun at its end. -/
def Sealed (s : String) : Prop := isSealed s.toList = true

instance (s : String) : Decidable (Sealed s) := inferInstanceAs (Decidable (_ = true))

theorem Sealed.append {a b : String} (ha : Sealed a) (hb : Sealed b) : Sealed (a ++ b) := by
  rw [Sealed, String.toList_append]
  exact isSealed_append ha hb

theorem sealed_of_noTag {s : String} (h : '<' ∉ s.toList) : Sealed s :=
  isSealed_of_noTag h

theorem sealed_join {xs : List String} (h : ∀ x ∈ xs, Sealed x) : Sealed (String.join xs) := by
  induction xs with
  | nil => decide
  | cons x xs ih =>
    rw [String.join_cons]
    exact (h x (List.mem_cons_self ..)).append (ih fun y hy => h y (List.mem_cons_of_mem x hy))

/-- A search for a comment passes over sealed text. -/
theorem passes_of_isSealed {α : Type} {f : List Char → Option α} (hf : Commented f) {t : List Char}
    (h : isSealed t = true) (y : List Char) : Passes f t y := by
  intro u v huv hv
  subst huv
  induction u with
  | nil =>
    obtain ⟨c, v, rfl⟩ := List.exists_cons_of_ne_nil hv
    cases ha : f (c :: v ++ y) with
    | none => rfl
    | some a =>
      -- the second character of a comment start would be the one behind the tag sign
      obtain ⟨r, hr⟩ := hf _ _ ha
      rw [comment_eq] at hr
      obtain ⟨rfl, htail⟩ := List.cons.inj hr
      rw [List.nil_append, isSealed, Bool.and_eq_true] at h
      cases v with
      | nil => exact absurd h.1 (by decide)
      | cons d v =>
        obtain ⟨rfl, -⟩ := List.cons.inj htail
        simp at h
  | cons c u ih =>
    rw [List.cons_append, isSealed, Bool.and_eq_true] at h
    exact ih h.2

/-! ## Woven text -/

/-- Sealed text around texts that satisfy `P`, with a tag behind each of these. -/
inductive Woven (P : List Char → Prop) : List Char → Prop
  | sealed {t : List Char} : isSealed t = true → Woven P t
  | slot {x r : List Char} : P x → Woven P ('<' :: r) → Woven P (x ++ '<' :: r)
  | append {a b : List Char} : Woven P a → Woven P b → Woven P (a ++ b)

/-- A search for a comment that passes over the texts in the slots passes over the whole. -/
theorem Woven.passes {α : Type} {f : List Char → Option α} (hf : Commented f)
    {P : List Char → Prop} (hP : ∀ x, P x → ∀ z, Passes f x ('<' :: z)) {r : List Char}
    (h : Woven P r) (y : List Char) : Passes f r y := by
  induction h generalizing y with
  | sealed ht => exact passes_of_isSealed hf ht y
  | slot hx _ ih => exact (hP _ hx _).append (ih y)
  | append _ _ iha ihb => exact (iha _).append (ihb y)

theorem Woven.mono {P Q : List Char → Prop} (hPQ : ∀ x, P x → Q x) {r : List Char}
    (h : Woven P r) : Woven Q r := by
  induction h with
  | sealed ht => exact .sealed ht
  | slot hx _ ih => exact .slot (hPQ _ hx) ih
  | append _ _ iha ihb => exact .append iha ihb

/-! ## Tags -/

theorem noTag_escape (s : String) : '<' ∉ (escape s).toList := not_mem_escape (by decide) s

theorem noTag_attr {name : String} (hn : '<' ∉ name.toList) (value : String) :
    '<' ∉ (attr name value).toList := by
  simp [attr, hn, noTag_escape value]

theorem noTag_active (active : Bool) : '<' ∉ (if active then " " ++ activeClass else "").toList := by
  cases active <;> decide

theorem isDivTag_divOpen {cls : String} (hc : '<' ∉ cls.toList) (active : Bool) {attrs : String}
    (ha : '<' ∉ attrs.toList) : IsDivTag (divOpen cls active attrs).toList := by
  have hopen : "<div class=\"" = "<div" ++ " class=\"" := by decide
  refine ⟨(" class=\"" ++ cls ++ (if active then " " ++ activeClass else "") ++ "\"" ++ attrs).toList,
    ?_, ?_⟩
  · rw [divOpen, hopen, divStart]
    simp only [String.toList_append, List.append_assoc]
    rfl
  · simp only [String.toList_append, List.mem_append, not_or]
    exact ⟨⟨⟨⟨by decide, hc⟩, by simpa only [String.toList_append] using noTag_active active⟩,
      by decide⟩, ha⟩

theorem isSealed_divTag {t : List Char} (h : IsDivTag t) : isSealed t = true := by
  obtain ⟨r, rfl, hr⟩ := h
  exact isSealed_append (isSealed_append (by decide) (isSealed_of_noTag hr)) (by decide)

theorem PaneHead.isDivTag (level : Level) (h : PaneHead) : IsDivTag (h.toHtml level).toList := by
  have hclass : '<' ∉ level.paneClass.toList := by cases level <;> decide
  have hname : '<' ∉ level.nameAttribute.toList := by cases level <;> decide
  have hid : '<' ∉ ((h.id.map (attr "id")).getD "").toList := by
    cases h.id with
    | none => decide
    | some id => exact noTag_attr (by decide) id
  refine isDivTag_divOpen hclass h.active ?_
  rw [String.toList_append, List.mem_append, not_or]
  exact ⟨noTag_attr hname h.name, hid⟩

theorem Container.isDivTag (c : Container) :
    IsDivTag (divOpen c.kind.rootClass false (attr "id" c.id)).toList :=
  isDivTag_divOpen (by cases c.kind <;> decide) false (noTag_attr (by decide) c.id)

theorem isDivTag_header (level : Level) : IsDivTag (divOpen level.headerClass false "").toList :=
  isDivTag_divOpen (by cases level <;> decide) false (by decide)

theorem isDivTag_body (level : Level) : IsDivTag (divOpen level.bodyClass false "").toList :=
  isDivTag_divOpen (by cases level <;> decide) false (by decide)

/-! ## Buttons -/

/-- No icon of the tabs holds a tag sign. -/
def TaglessIcons (tabs : List Tab) : Prop := ∀ t ∈ tabs, ∀ icon ∈ t.icon, '<' ∉ icon.toList

theorem noTag_icon (name : String) : '<' ∉ (icon name).toList :=
  have hicon : ∀ i ∈ defaultIcon :: icons.map (·.2), '<' ∉ i.toList := by decide
  hicon _ (icon_mem name)

theorem isSealed_icon {icon : Option String} (h : ∀ i ∈ icon, '<' ∉ i.toList) :
    isSealed (iconHtml icon).toList = true := by
  cases icon with
  | none => rfl
  | some i =>
    rw [iconHtml, String.toList_append, String.toList_append]
    exact isSealed_append (isSealed_append (by decide) (isSealed_of_noTag (h i rfl))) (by decide)

/-- The start tag of a button behind its first sign, up to its end. -/
def Tab.inside (level : Level) (t : Tab) : String :=
  level.tabClass ++ (if t.active then " " ++ activeClass else "") ++ "\"" ++
    attr level.nameAttribute t.name ++ attr level.scopeAttribute t.scope

theorem Tab.toHtml_inside (level : Level) (t : Tab) : t.toHtml level =
    "<button class=\"" ++ t.inside level ++ ">" ++ iconHtml t.icon ++ escape t.name ++ "</button>" := by
  simp only [Tab.toHtml_eq, Tab.inside, String.append_assoc]

theorem Tab.noTag_inside (level : Level) (t : Tab) : '<' ∉ (t.inside level).toList := by
  have hclass : '<' ∉ level.tabClass.toList := by cases level <;> decide
  have hname : '<' ∉ level.nameAttribute.toList := by cases level <;> decide
  have hscope : '<' ∉ level.scopeAttribute.toList := by cases level <;> decide
  rw [Tab.inside]
  simp only [String.toList_append, List.mem_append, not_or]
  exact ⟨⟨⟨⟨hclass, by simpa only [String.toList_append] using noTag_active t.active⟩, by decide⟩,
    noTag_attr hname t.name⟩, noTag_attr hscope t.scope⟩

theorem isSealed_tab (level : Level) {t : Tab} (hicon : ∀ icon ∈ t.icon, '<' ∉ icon.toList) :
    isSealed (t.toHtml level).toList = true := by
  rw [Tab.toHtml_inside]
  simp only [String.toList_append, List.append_assoc]
  -- the fixed tags and the texts in the order in which they stand
  exact isSealed_append (by decide) <|
    isSealed_append (isSealed_of_noTag (t.noTag_inside level)) <| isSealed_append (by decide) <|
    isSealed_append (isSealed_icon hicon) <|
    isSealed_append (isSealed_of_noTag (noTag_escape t.name)) (by decide)

/-! ## Containers -/

section Containers

variable {P : List Char → Prop}

theorem woven_tabSet (level : Level) {tabs : List Tab} (hicons : TaglessIcons tabs) {panes : String}
    (hp : Woven P panes.toList) : Woven P (tabSetHtml level tabs panes).toList := by
  have htabs : Sealed (String.join (tabs.map (Tab.toHtml level))) :=
    sealed_join (List.forall_mem_map.2 fun t ht => isSealed_tab level (hicons t ht))
  unfold tabSetHtml
  simp only [String.toList_append, List.append_assoc]
  exact .append (.sealed (isSealed_divTag (isDivTag_header level))) <|
    .append (.sealed htabs) <| .append (.sealed (by decide)) <|
    .append (.sealed (isSealed_divTag (isDivTag_body level))) <|
    .append hp (.sealed (by decide))

theorem woven_leaf (level : Level) (h : PaneHead) {content : String} (hc : P content.toList) :
    Woven P ((Pane.leaf h content).toHtml level).toList := by
  rw [Pane.toHtml, String.toList_append, String.toList_append, List.append_assoc]
  exact .append (.sealed (isSealed_divTag (h.isDivTag level)))
    (.slot (r := "/div>".toList) hc (.sealed (by decide)))

theorem woven_panes {level : Level} {panes : List Pane}
    (h : ∀ p ∈ panes, Woven P (p.toHtml level).toList) :
    Woven P (panesHtml level panes).toList := by
  induction panes with
  | nil => exact .sealed rfl
  | cons p panes ih =>
    rw [panesHtml, String.toList_append]
    exact .append (h p List.mem_cons_self) (ih fun q hq => h q (List.mem_cons_of_mem _ hq))

theorem woven_paneOf {kind : Kind} {id : String} {b : Branch} {p : Pane} (h : PaneOf kind id b p)
    (hP : ∀ head content, .leaf head content ∈ p.within → P content.toList) (level : Level) :
    Woven P (p.toHtml level).toList := by
  rcases h with ⟨-, -, -, tabs, panes, hp, hf, hicons, hleaf⟩ | ⟨-, hl⟩
  · have htagless : TaglessIcons tabs := fun t ht icon hi => by rw [hicons t ht] at hi; cases hi
    have hpanes : ∀ q ∈ panes, Woven P (q.toHtml .language).toList := fun q hq => by
      obtain ⟨i, l, hl, hi⟩ := hf.exists_branch hq
      have hlq := hleaf i l q hl hi
      have hmem : .leaf q.head (Leaf.normalize l.content) ∈ p.within := by
        rw [hp, Pane.within, panesWithin_eq]
        refine List.mem_cons_of_mem _ (List.mem_flatMap.2 ⟨q, hq, ?_⟩)
        rw [hlq.within.1, ← hlq.2]
        exact List.mem_singleton_self q
      rw [hlq.2]
      exact woven_leaf .language _ (hP _ _ hmem)
    rw [hp, Pane.toHtml]
    simp only [String.toList_append]
    exact .append (.append (.sealed (isSealed_divTag (PaneHead.isDivTag level _)))
      (woven_tabSet .language htagless (woven_panes hpanes))) (.sealed (by decide))
  · have hmem : .leaf p.head (Leaf.normalize b.content) ∈ p.within := by
      rw [hl.within.1, ← hl.2]
      exact List.mem_singleton_self p
    rw [hl.2]
    exact woven_leaf level _ (hP _ _ hmem)

end Containers

variable {kind : Kind} {id preferred : String} {body : List Char} {c : Container}

/-- The HTML of a built container is woven around its leaves. -/
theorem woven_ofBody? (h : Container.ofBody? kind id body preferred = some c) :
    Woven (fun x => ∃ content ∈ c.leaves, x = content.toList) c.toHtml.toList := by
  obtain ⟨-, htree⟩ := treeOf_ofBody? h
  obtain ⟨chosen, -, hf⟩ := htree.follows
  have htagless : TaglessIcons c.tabs.tabs := fun t ht icon hi => by
    rw [icon_ofBody? h t ht] at hi
    cases hi
    exact noTag_icon t.name
  have hpanes : Woven (fun x => ∃ content ∈ c.leaves, x = content.toList)
      (panesHtml c.tabs.level c.tabs.panes).toList := by
    refine woven_panes fun p hp => ?_
    obtain ⟨i, b, hb, hi⟩ := hf.exists_branch hp
    refine woven_paneOf (htree.panes i b p hb hi) (fun head content hl => ?_) _
    refine ⟨content, Container.mem_leaves.2 ⟨head, ?_⟩, rfl⟩
    rw [Container.allPanes, panesWithin_eq]
    exact List.mem_flatMap.2 ⟨p, hp, hl⟩
  unfold Container.toHtml TabSet.toHtml
  simp only [String.toList_append]
  exact .append (.append (.sealed (isSealed_divTag c.isDivTag))
    (woven_tabSet c.tabs.level htagless hpanes)) (.sealed (by decide))

/-! ## Leaves in the body -/

theorem infix_normalize (s : String) : (Leaf.normalize s).toList <:+: s.toList := by
  have unwrapped : ∀ {whole inside : List Char}, inside <:+: whole →
      Leaf.unwrapped whole inside <:+: whole := by
    intro whole inside hin
    unfold Leaf.unwrapped
    cases hb : before? "</p>" inside with
    | none =>
      dsimp only
      split
      · exact List.infix_refl _
      · exact (infix_trim inside).trans hin
    | some inner =>
      have hinner : inner <:+: inside := by
        obtain ⟨r, hr, rfl⟩ := Option.map_eq_some_iff.1 hb
        have hpre := List.isPrefixOf?_eq_some_iff_append_eq.1 hr
        rw [← List.reverse_reverse inside, ← hpre, List.reverse_append]
        exact (List.prefix_append ..).isInfix
      dsimp only
      split
      · exact List.infix_refl _
      · exact ((infix_trim inner).trans hinner).trans hin
  rw [Leaf.normalize, String.toList_ofList]
  unfold Leaf.ofContent
  dsimp only
  cases ha : after? "<p>" (trim s.toList) with
  | none => exact infix_trim _
  | some inside =>
    refine (unwrapped ?_).trans (infix_trim _)
    rw [after?_eq_some.1 ha]
    exact (List.suffix_append ..).isInfix

theorem Branches.content_in {level : Level} {s : List Char} {bs : List Branch}
    (h : Branches level s bs) {b : Branch} (hb : b ∈ bs) : b.content.toList <:+: s := by
  induction h with
  | done _ => cases hb
  | @next s gap t rest b' bs hs _ hat _ ih =>
    obtain ⟨o, x, c, -, -, rfl, hcontent, -⟩ := hat
    rw [hs]
    rcases List.mem_cons.1 hb with rfl | hb
    · rw [hcontent]
      exact (infix_trim x).trans ⟨gap ++ o, c ++ rest, by simp only [List.append_assoc]⟩
    · refine (ih hb).trans ⟨gap ++ (o ++ x ++ c), [], ?_⟩
      simp only [List.append_assoc, List.append_nil]

/-- The leaves of a built container are parts of its body. -/
theorem leaf_in_body (h : Container.ofBody? kind id body preferred = some c) {content : String}
    (hc : content ∈ c.leaves) : content.toList <:+: body := by
  obtain ⟨head, hl⟩ := Container.mem_leaves.1 hc
  obtain ⟨-, htree⟩ := treeOf_ofBody? h
  obtain ⟨chosen, -, hf⟩ := htree.follows
  have leaf : ∀ {b p}, IsLeafOf b p → Pane.leaf head content ∈ p.within →
      content.toList <:+: b.content.toList := by
    intro b p hp hmem
    rw [hp.within.1, List.mem_singleton, hp.2] at hmem
    obtain ⟨-, rfl⟩ := Pane.leaf.inj hmem
    exact infix_normalize _
  rw [Container.allPanes, panesWithin_eq] at hl
  obtain ⟨p, hp, hl⟩ := List.mem_flatMap.1 hl
  obtain ⟨i, b, hb, hi⟩ := hf.exists_branch hp
  have hbody := (branches_scan .platform body).content_in (List.mem_of_getElem? hb)
  rcases htree.panes i b p hb hi with ⟨-, -, -, tabs, panes, he, hfl, -, hleaf⟩ | ⟨-, hpl⟩
  · rw [he, Pane.within, panesWithin_eq] at hl
    rcases List.mem_cons.1 hl with hl | hl
    · cases hl
    · obtain ⟨q, hq, hl⟩ := List.mem_flatMap.1 hl
      obtain ⟨j, l, hj, hqj⟩ := hfl.exists_branch hq
      have hlanguage := (branches_scan .language _).content_in (List.mem_of_getElem? hj)
      exact ((leaf (hleaf j l q hj hqj) hl).trans hlanguage).trans hbody
  · exact (leaf hpl hl).trans hbody

end DocTabs.Tabs
