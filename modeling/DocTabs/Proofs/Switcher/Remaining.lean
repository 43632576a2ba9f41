/-
What is left of a page while a reader clicks and scripts remove elements. Removals shift the panes
of a tab set against its tabs, so a tab may come to show a pane in another place than its own, but
the pane that it shows always has its name.
-/
import DocTabs.Proofs.Switcher.Independence
import DocTabs.Proofs.Switcher.Page
import DocTabs.Proofs.Switcher.Removal

namespace DocTabs.Switcher

open Tabs Element

/-! ## Runs -/

/-- What happens to a page in the browser. -/
inductive Act where
  | click (target : Path)
  | remove (path : Path)

/-- The page after one more act. -/
def View.act (v : View) : Act → View
  | .click target => v.click target
  | .remove path => { v with root := v.root.remove path }

/-- Whether the element at a path has a class. -/
def isOf (root : Element) (cls : String) (q : Path) : Bool :=
  (root.at? q).any (·.hasClass cls)

/-- The name of the branch that the element at a path stands for. -/
def nameAt (root : Element) (level : Level) (q : Path) : Option String :=
  root.at? q >>= (·.attr? level.nameAttribute)

/-- Of the children of the class `part` in an element of the class `region` one is active at most. -/
def OneActive (root : Element) (region part : String) : Prop :=
  ∀ q i j, isOf root region q = true → isOf root part (q ++ [i]) = true →
    isOf root part (q ++ [j]) = true → isActive root (q ++ [i]) = true →
      isActive root (q ++ [j]) = true → i = j

/-- Headers have one active tab at most and bodies one active pane, and the active tab and the active
pane of a tab set have the same name. -/
structure Agrees (root : Element) : Prop where
  tab : ∀ level : Level, OneActive root level.headerClass level.tabClass
  pane : ∀ level : Level, OneActive root level.bodyClass level.paneClass
  name : ∀ (level : Level) s a b i j, isOf root level.headerClass (s ++ [a]) = true →
    isOf root level.bodyClass (s ++ [b]) = true →
      isOf root level.tabClass (s ++ [a] ++ [i]) = true →
        isOf root level.paneClass (s ++ [b] ++ [j]) = true →
          isActive root (s ++ [a] ++ [i]) = true → isActive root (s ++ [b] ++ [j]) = true →
            nameAt root level (s ++ [a] ++ [i]) = nameAt root level (s ++ [b] ++ [j])

/-- The pane at `p` is in a body beside the header of the tab at `q` and has the tab's name. -/
def PaneFor (root : Element) (level : Level) (q p : Path) : Prop :=
  ∃ s a i b j, q = s ++ [a] ++ [i] ∧ p = s ++ [b] ++ [j] ∧
    isOf root level.bodyClass (s ++ [b]) = true ∧ isOf root level.paneClass p = true ∧
      nameAt root level p = nameAt root level q

/-! ## What removals keep -/

theorem isOf_iff {root : Element} {cls : String} {q : Path} :
    isOf root cls q = true ↔ ∃ x, root.at? q = some x ∧ x.hasClass cls = true :=
  Option.any_eq_true ..

theorem isOf_eq {root x : Element} {cls : String} {q : Path} (hx : root.at? q = some x) :
    isOf root cls q = x.hasClass cls := by
  rw [isOf, hx, Option.any_some]

theorem nameAt_eq {root x : Element} {level : Level} {q : Path} (hx : root.at? q = some x) :
    nameAt root level q = x.attr? level.nameAttribute := by
  rw [nameAt, hx, Option.bind_eq_bind, Option.bind_some]

theorem lt_of_isOf {root : Element} {cls : String} {p : Path} {i n : Nat}
    (h : isOf root cls (p ++ [i]) = true)
    (hn : (root.at? p).map (·.children.length) = some n) : i < n := by
  obtain ⟨e, he, rfl⟩ := Option.map_eq_some_iff.1 hn
  obtain ⟨x, hx, -⟩ := isOf_iff.1 h
  rw [at?_child he] at hx
  exact (List.getElem?_eq_some_iff.1 hx).1

/-- A tab stands in the header of an element that confines its switches. -/
structure InHeader (root : Element) (level : Level) (s : Path) (a i : Nat) (e x : Element) :
    Prop where
  scope : root.at? s = some e
  scopeRoot : isScopeRoot level e = true
  header : isOf root level.headerClass (s ++ [a]) = true
  tab : root.at? (s ++ [a] ++ [i]) = some x
  id : x.attr? level.scopeAttribute = some e.id

/-- The tree is regular: its elements play one part each, no element has two headers or two bodies of
a level, and every tab is in a header of its scope and in no other tab. -/
structure Regular (root : Element) : Prop where
  plays : ∀ q x cls, root.at? q = some x → cls ∈ switcherClasses → x.hasClass cls = true →
    Plays cls x
  region : ∀ (level : Level) cls s i j, cls = level.headerClass ∨ cls = level.bodyClass →
    isOf root cls (s ++ [i]) = true → isOf root cls (s ++ [j]) = true → i = j
  tab : ∀ level q, isTab root level q = true →
    ∃ s a i e x, q = s ++ [a] ++ [i] ∧ InHeader root level s a i e x
  separate : ∀ l l' q q', isTab root l q = true → isTab root l' q' = true → q <+: q' → q' = q

theorem regionClass_mem {level : Level} {cls : String}
    (h : cls = level.headerClass ∨ cls = level.bodyClass) : cls ∈ switcherClasses := by
  rcases h with rfl | rfl
  · exact headerClass_mem level
  · exact bodyClass_mem level

theorem exists_above {root x : Element} {q r : Path} (h : root.at? (q ++ r) = some x) :
    ∃ y, root.at? q = some y := by
  rw [at?_append] at h
  obtain ⟨y, hy, -⟩ := Option.bind_eq_some_iff.1 h
  exact ⟨y, hy⟩

theorem Resembles.plays {a b : Element} (h : Resembles a b) {cls : String} (ha : Plays cls a) :
    Plays cls b := fun c hc => by
  rw [h.hasClass c hc]
  exact ha c hc

section Remains

variable {t t' : Element} {origin : Path → Path}

theorem Remains.isOf (h : Remains t t' origin) {cls : String} (hc : cls ∈ switcherClasses) {q : Path}
    (hq : Switcher.isOf t' cls q = true) : Switcher.isOf t cls (origin q) = true := by
  obtain ⟨x, hx, hcls⟩ := isOf_iff.1 hq
  obtain ⟨y, hy, hyx⟩ := h.found q x hx
  exact isOf_iff.2 ⟨y, hy, (hyx.hasClass cls hc).symm.trans hcls⟩

/-- What is left of a regular tree is regular. -/
theorem Regular.remains (hr : Regular t) (h : Remains t t' origin) : Regular t' where
  plays q x cls hx hc hcls := by
    obtain ⟨y, hy, hyx⟩ := h.found q x hx
    exact hyx.plays (hr.plays _ y cls hy hc ((hyx.hasClass cls hc).symm.trans hcls))
  region level cls s i j hcls hi hj := by
    have hc := regionClass_mem hcls
    obtain ⟨k, hk⟩ := h.child s i
    obtain ⟨l, hl⟩ := h.child s j
    have hki := h.isOf hc hi
    have hlj := h.isOf hc hj
    rw [hk] at hki
    rw [hl] at hlj
    have hkl := hr.region level cls _ k l hcls hki hlj
    have hpath := h.injective (hk.trans (hkl ▸ hl.symm))
    exact (List.cons.inj (List.append_cancel_left hpath)).1
  tab level q hq := by
    obtain ⟨x, hx, -⟩ := isOf_iff.1 hq
    obtain ⟨y, hy, hyx⟩ := h.found q x hx
    obtain ⟨s, a, i, e, y', he, hin⟩ := hr.tab level _ (h.isOf (tabClass_mem level) hq)
    -- the tab, its header and its scope have been left together
    obtain ⟨r, i', rfl, hr₁⟩ := h.parent he
    obtain ⟨r, a', rfl, rfl⟩ := h.parent hr₁
    obtain ⟨h', hh'⟩ := exists_above hx
    obtain ⟨e', he'⟩ := exists_above hh'
    obtain ⟨z, hz, hze⟩ := h.found _ _ he'
    obtain ⟨w, hw, hwh⟩ := h.found _ _ hh'
    obtain rfl := Option.some.inj (hz.symm.trans hin.scope)
    obtain rfl := Option.some.inj (hy.symm.trans (he ▸ hin.tab))
    refine ⟨r, a', i', e', x, rfl, he', ?_, ?_, hx, ?_⟩
    · rw [hze.isScopeRoot]
      exact hin.scopeRoot
    · have hheader := hin.header
      rw [← hr₁, isOf_eq hw] at hheader
      rw [isOf_eq hh', hwh.hasClass _ (headerClass_mem level)]
      exact hheader
    · rw [hyx.attr _ (scopeAttribute_ne level), hze.id]
      exact hin.id
  separate l l' q q' hq hq' hp :=
    h.injective (hr.separate l l' _ _ (h.isOf (tabClass_mem l) hq) (h.isOf (tabClass_mem l') hq')
      (h.around hp))

end Remains

/-- A tree of assigned elements is regular. -/
theorem Assigned.regular {root : Element} (ha : Assigned root) : Regular root where
  plays q x cls hx hc hcls := by
    rcases ha q x hx with hfree | ⟨kind, hplays⟩ | ⟨part, level, scope, -, hplays, -⟩
    · rw [hfree cls hc] at hcls
      cases hcls
    · rw [(hplays cls hc).1 hcls]
      exact hplays
    · rw [(hplays cls hc).1 hcls]
      exact hplays
  region level cls s i j hcls hi hj := by
    -- headers come first in their tab sets and bodies second
    have place : ∃ n, ∀ k, isOf root cls (s ++ [k]) = true → k = n := by
      rcases hcls with rfl | rfl
      · refine ⟨0, fun k hk => ?_⟩
        obtain ⟨x, hx, hc⟩ := isOf_iff.1 hk
        have hheader : x.hasClass (Part.header.cls level) = true := hc
        obtain ⟨scope, hat, -⟩ := ha.part hx hheader
        exact (List.cons.inj (List.append_inj' hat rfl).2).1
      · refine ⟨1, fun k hk => ?_⟩
        obtain ⟨x, hx, hc⟩ := isOf_iff.1 hk
        have hbody : x.hasClass (Part.body.cls level) = true := hc
        obtain ⟨scope, hat, -⟩ := ha.part hx hbody
        exact (List.cons.inj (List.append_inj' hat rfl).2).1
    obtain ⟨n, hn⟩ := place
    rw [hn i hi, hn j hj]
  tab level q hq := by
    obtain ⟨x, hx, hc⟩ := isOf_iff.1 hq
    have htab : x.hasClass (Part.tab.cls level) = true := hc
    obtain ⟨scope, ⟨i, rfl⟩, -, names, e, h, b, k, hs, ht, -⟩ := ha.part hx htab
    have hhead := ht.at?_header hs
    have hi : h.children[i]? = some x := (at?_child hhead i).symm.trans hx
    refine ⟨scope, 0, i, e, x, rfl, hs, ht.scopeRoot, ?_, hx, (ht.tab i x hi).2.2.1⟩
    rw [isOf_eq hhead]
    exact ht.header.hasClass (headerClass_mem level)
  separate l l' q q' hq hq' hp := ha.wellTabbed.unique hp (List.prefix_refl q') hq hq'

/-! ## Removals and agreement -/

theorem isOf_remove {root : Element} {cls : String} {p q : Path}
    (h : isOf (root.remove p) cls q = true) : isOf root cls (before p q) = true := by
  obtain ⟨x, hx, hc⟩ := isOf_iff.1 h
  obtain ⟨y, hy, he⟩ := at?_remove hx
  exact isOf_iff.2 ⟨y, hy, (hasClass_congr (attr?_congr he "class") cls).symm.trans hc⟩

theorem nameAt_remove {root : Element} {cls : String} {p q : Path} (level : Level)
    (h : isOf (root.remove p) cls q = true) :
    nameAt (root.remove p) level q = nameAt root level (before p q) := by
  obtain ⟨x, hx, -⟩ := isOf_iff.1 h
  obtain ⟨y, hy, he⟩ := at?_remove hx
  rw [nameAt_eq hx, nameAt_eq hy, attr?_congr he]

theorem OneActive.remove {root : Element} {region part : String} (h : OneActive root region part)
    (p : Path) : OneActive (root.remove p) region part := by
  intro q i j hq hi hj hai haj
  obtain ⟨k, hk⟩ := before_child p q i
  obtain ⟨l, hl⟩ := before_child p q j
  have hkl : k = l := h (before p q) k l (isOf_remove hq) (hk ▸ isOf_remove hi)
    (hl ▸ isOf_remove hj) (hk ▸ isOf_remove hai) (hl ▸ isOf_remove haj)
  have hpath := before_injective p (hk.trans (hkl ▸ hl.symm))
  exact (List.cons.inj (List.append_cancel_left hpath)).1

/-- Removed elements take nothing from the agreement of those that are left. -/
theorem Agrees.remove {root : Element} (h : Agrees root) (p : Path) : Agrees (root.remove p) where
  tab level := (h.tab level).remove p
  pane level := (h.pane level).remove p
  name level s a b i j hheader hbody htab hpane hatab hapane := by
    obtain ⟨a', ha'⟩ := before_child p s a
    obtain ⟨b', hb'⟩ := before_child p s b
    obtain ⟨i', hi'⟩ := before_child p (s ++ [a]) i
    obtain ⟨j', hj'⟩ := before_child p (s ++ [b]) j
    rw [nameAt_remove level htab, nameAt_remove level hpane]
    rw [ha'] at hi'
    rw [hb'] at hj'
    rw [hi', hj']
    exact h.name level (before p s) a' b' i' j' (ha' ▸ isOf_remove hheader)
      (hb' ▸ isOf_remove hbody) (hi' ▸ isOf_remove htab) (hj' ▸ isOf_remove hpane)
      (hi' ▸ isOf_remove hatab) (hj' ▸ isOf_remove hapane)

theorem Shows.active_eq {root : Element} {scope : Path} {k i : Nat} (h : Shows root scope k) :
    (isActive root (scope ++ [0] ++ [i]) = true → i = k) ∧
      (isActive root (scope ++ [1] ++ [i]) = true → i = k) := by
  rw [List.append_assoc, List.append_assoc]
  exact ⟨fun ht => beq_iff_eq.1 ((h i).1.symm.trans ht),
    fun hp => beq_iff_eq.1 ((h i).2.symm.trans hp)⟩

/-- The header and the body of a tab set that shows an index agree. -/
theorem Assigned.agrees {root : Element} (ha : Assigned root) : Agrees root where
  tab level q i j hq _ _ hai haj := by
    obtain ⟨x, hx, hc⟩ := isOf_iff.1 hq
    have hheader : x.hasClass (Part.header.cls level) = true := hc
    obtain ⟨scope, rfl, -, names, e, h, b, k, hs, ht, hk⟩ := ha.part hx hheader
    rw [hk.active_eq.1 hai, hk.active_eq.1 haj]
  pane level q i j hq _ _ hai haj := by
    obtain ⟨x, hx, hc⟩ := isOf_iff.1 hq
    have hbody : x.hasClass (Part.body.cls level) = true := hc
    obtain ⟨scope, rfl, -, names, e, h, b, k, hs, ht, hk⟩ := ha.part hx hbody
    rw [hk.active_eq.2 hai, hk.active_eq.2 haj]
  name level s a b i j hheader hbody htab hpane hatab hapane := by
    obtain ⟨x, hx, hc⟩ := isOf_iff.1 hheader
    have hheader' : x.hasClass (Part.header.cls level) = true := hc
    obtain ⟨scope, hat, -, names, e, h, body, k, hs, ht, hk⟩ := ha.part hx hheader'
    obtain ⟨rfl, h0⟩ := List.append_inj' hat rfl
    obtain ⟨rfl, -⟩ := List.cons.inj h0
    -- the second region of the element with this header is its body
    have hb : b = 1 := by
      refine ha.regular.region level _ s b 1 (.inr rfl) hbody ?_
      rw [isOf_eq (ht.at?_body hs)]
      exact ht.body.hasClass (bodyClass_mem level)
    subst hb
    obtain rfl := hk.active_eq.1 hatab
    obtain rfl := hk.active_eq.2 hapane
    obtain ⟨t, htj, -⟩ := isOf_iff.1 htab
    obtain ⟨p, hpj, -⟩ := isOf_iff.1 hpane
    rw [nameAt_eq htj, nameAt_eq hpj]
    rw [List.append_assoc] at htj hpj
    rw [(ht.tab j t ((ht.at?_tab hs j).symm.trans htj)).2.1,
      (ht.pane j p ((ht.at?_pane hs j).symm.trans hpj)).2]

/-! ## Clicks -/

section Click

variable {root : Element} {target : Path} {s : Switch}

theorem isTab_of_button? {level : Level} {q : Path} (h : button? root target = some (level, q)) :
    q <+: target ∧ isTab root level q = true := by
  have found : ∀ {l : Level}, root.closest (·.hasClass l.tabClass) target = some q →
      q <+: target ∧ isTab root l q = true := fun hl =>
    have ⟨hp, ht, _⟩ := closest_eq_some.1 hl
    ⟨hp, ht⟩
  rw [button?, Option.orElse_eq_orElse, Option.orElse_eq_or, Option.or_eq_some_iff] at h
  rcases h with h | ⟨-, h⟩ <;>
    obtain ⟨q', hq', heq⟩ := Option.map_eq_some_iff.1 h <;>
    obtain ⟨rfl, rfl⟩ := Prod.mk.inj heq <;>
    exact found hq'

theorem mem_positions {e : Element} {cls : String} {p : Path} (he : root.at? p = some e) {i : Nat} :
    i ∈ positions cls e ↔ isOf root cls (p ++ [i]) = true := by
  rw [isOf, at?_child he, positions, List.mem_filter, List.mem_range, and_iff_right_iff_imp]
  intro h
  obtain ⟨c, hc, -⟩ := (Option.any_eq_true ..).1 h
  exact (List.getElem?_eq_some_iff.1 hc).1

/-- The first region of a class is the only one. -/
theorem Regular.head?_positions (hr : Regular root) {e : Element} {p : Path}
    (he : root.at? p = some e) {level : Level} {cls : String}
    (hcls : cls = level.headerClass ∨ cls = level.bodyClass) {a : Nat} :
    (positions cls e).head? = some a ↔ isOf root cls (p ++ [a]) = true := by
  constructor
  · exact fun h => (mem_positions he).1 (List.mem_of_mem_head? h)
  · intro ha
    have hmem := (mem_positions he).2 ha
    cases hp : positions cls e with
    | nil => rw [hp] at hmem; cases hmem
    | cons b _ =>
      have hb : b ∈ positions cls e := by rw [hp]; exact List.mem_cons_self
      rw [hr.region level cls p a b hcls ha ((mem_positions he).1 hb)]
      rfl

theorem pane?_eq_some {level : Level} {place : Option Nat} {name : Option String} {c : Element}
    {j : Nat} (h : pane? level place name c = some j) :
    j ∈ positions level.paneClass c ∧
      (c.children[j]?).any (·.attr? level.nameAttribute == name) = true := by
  dsimp only [pane?] at h
  rw [Option.orElse_eq_orElse, Option.orElse_eq_or, Option.or_eq_some_iff] at h
  rcases h with h | ⟨-, h⟩
  · obtain ⟨hj, hname⟩ := Option.filter_eq_some_iff.1 h
    obtain ⟨i, -, hi⟩ := Option.bind_eq_some_iff.1 hj
    exact ⟨List.mem_of_getElem? hi, hname⟩
  · have hname := List.find?_some h
    exact ⟨List.mem_of_find?_eq_some h, hname⟩

theorem exists_pane? {level : Level} (place : Option Nat) {name : Option String} {c : Element}
    {j : Nat} (hj : j ∈ positions level.paneClass c)
    (hname : (c.children[j]?).any (·.attr? level.nameAttribute == name) = true) :
    ∃ k, pane? level place name c = some k := by
  refine Option.isSome_iff_exists.1 ?_
  dsimp only [pane?]
  rw [Option.orElse_eq_orElse, Option.orElse_eq_or, Option.isSome_or, Bool.or_eq_true]
  exact .inr (List.find?_isSome.2 ⟨j, hj, hname⟩)

/-- A switch has found its tab in its header and a pane of the tab's name in its body. -/
structure Switch.Fits (s : Switch) (root : Element) (h i : Nat) : Prop where
  button : s.button = s.scope ++ [h] ++ [i]
  header : s.header = some h
  isHeader : isOf root s.level.headerClass (s.scope ++ [h]) = true
  isTab : Switcher.isTab root s.level s.button = true
  isBody : isOf root s.level.bodyClass (s.scope ++ [s.body]) = true
  isPane : isOf root s.level.paneClass (s.scope ++ [s.body] ++ [s.pane]) = true
  name : nameAt root s.level (s.scope ++ [s.body] ++ [s.pane]) = nameAt root s.level s.button

theorem InHeader.scope? (hr : Regular root) {level : Level} {p : Path} {a i : Nat} {e x : Element}
    (hin : InHeader root level p a i e x) (htab : isTab root level (p ++ [a] ++ [i]) = true) :
    Switcher.scope? root level (p ++ [a] ++ [i]) = some p := by
  obtain ⟨y, hy, hc⟩ := isOf_iff.1 hin.header
  have hx := hin.tab
  have hxc := (isOf_eq hx).symm.trans htab
  rw [List.append_assoc] at hx ⊢
  exact scope?_of_tab hin.scope hy hx hin.scopeRoot (hr.plays _ y _ hy (headerClass_mem level) hc)
    (hr.plays _ x _ hx (tabClass_mem level) hxc) hin.id

/-- A switch of a regular tree fits. -/
theorem Regular.fits (hr : Regular root) (h : switch? root target = some s) :
    ∃ a i, s.Fits root a i := by
  obtain ⟨hbutton, hscope, b, e, c, place, hb, he, hheader, hbody, hc, hpane⟩ := switch?_spec h
  obtain ⟨-, htab⟩ := isTab_of_button? hbutton
  obtain ⟨p, a, i, e', x, hpath, hin⟩ := hr.tab _ _ htab
  rw [hpath] at htab hscope
  obtain rfl := Option.some.inj (hscope.symm.trans (hin.scope? hr htab))
  obtain ⟨hj, hname⟩ := pane?_eq_some hpane
  have hcat := (at?_child he s.body).trans hc
  rw [← at?_child hcat] at hname
  obtain ⟨y, hy, hyname⟩ := (Option.any_eq_true ..).1 hname
  refine ⟨a, i, hpath, ?_, hin.header, hpath ▸ htab, (hr.head?_positions he (.inr rfl)).1 hbody,
    (mem_positions hcat).1 hj, ?_⟩
  · rw [hheader]
    exact (hr.head?_positions he (.inl rfl)).2 hin.header
  · rw [nameAt_eq hy, nameAt_eq hb]
    exact beq_iff_eq.1 hyname

theorem tabClass_ne_paneClass (level level' : Level) : level.tabClass ≠ level'.paneClass := by
  cases level <;> cases level' <;> decide

theorem Regular.class_unique (hr : Regular root) {q : Path} {cls cls' : String}
    (hc : cls ∈ switcherClasses) (hc' : cls' ∈ switcherClasses) (h : isOf root cls q = true)
    (h' : isOf root cls' q = true) : cls' = cls := by
  obtain ⟨x, hx, hcls⟩ := isOf_iff.1 h
  rw [isOf_eq hx] at h'
  exact (hr.plays q x cls hx hc hcls cls' hc').1 h'

/-- Of the tabs in its header a switch leaves its button active, and it leaves the tabs of other
headers as they were. -/
theorem Switch.Fits.isActive_tab {a i : Nat} (hf : s.Fits root a i) (hr : Regular root)
    {level : Level} {q : Path} {k : Nat} (hk : isOf root level.tabClass (q ++ [k]) = true) :
    isActive (s.apply root) (q ++ [k]) =
      if level = s.level ∧ q = s.scope ++ [a] then k == i else isActive root (q ++ [k]) := by
  have not_pane : isOf root s.level.paneClass (q ++ [k]) = false := Bool.eq_false_iff.2 fun hp =>
    tabClass_ne_paneClass level s.level
      (hr.class_unique (paneClass_mem _) (tabClass_mem _) hp hk)
  split
  · next hcond =>
    obtain ⟨rfl, rfl⟩ := hcond
    rw [isActive_apply_tab_of_not_pane hf.header hk fun _ => not_pane, hf.button, Bool.eq_iff_iff,
      beq_iff_eq, beq_iff_eq]
    simp
  · next hcond =>
    refine isActive_apply_of_not_touches ?_
    rintro (⟨h, j, hh, hq, hc⟩ | ⟨j, -, hc⟩)
    · obtain rfl := Option.some.inj (hf.header.symm.trans hh)
      have hlevel := tabClass_inj (hr.class_unique (tabClass_mem _) (tabClass_mem _) hc hk)
      exact hcond ⟨hlevel, (List.append_inj' hq rfl).1⟩
    · exact Bool.eq_false_iff.1 not_pane hc

/-- Of the panes in its body a switch leaves its pane active, and it leaves the panes of other bodies
as they were. -/
theorem Regular.isActive_pane (hr : Regular root) {level : Level} {q : Path} {k : Nat}
    (hk : isOf root level.paneClass (q ++ [k]) = true) :
    isActive (s.apply root) (q ++ [k]) =
      if level = s.level ∧ q = s.scope ++ [s.body] then k == s.pane
      else isActive root (q ++ [k]) := by
  split
  · next hcond =>
    obtain ⟨rfl, rfl⟩ := hcond
    rw [List.append_assoc] at hk ⊢
    exact isActive_apply_pane k hk
  · next hcond =>
    refine isActive_apply_of_not_touches ?_
    rintro (⟨h, j, -, -, hc⟩ | ⟨j, hq, hc⟩)
    · exact tabClass_ne_paneClass s.level level
        (hr.class_unique (paneClass_mem _) (tabClass_mem _) hk hc)
    · have hlevel : level = s.level := by
        have hcls := hr.class_unique (paneClass_mem _) (paneClass_mem _) hc hk
        exact (Part.cls_inj (show Part.pane.cls level = Part.pane.cls s.level from hcls)).2
      exact hcond ⟨hlevel, (List.append_inj' hq rfl).1⟩

theorem Wired.isOf {t t' : Element} (h : Wired t t') {cls : String} (hc : cls ∈ switcherClasses)
    (q : Path) : Switcher.isOf t' cls q = Switcher.isOf t cls q :=
  h.any_at? (fun _ _ hab => hab.hasClass cls hc) q

theorem Wired.nameAt {t t' : Element} (h : Wired t t') (level : Level) (q : Path) :
    Switcher.nameAt t' level q = Switcher.nameAt t level q := by
  cases hx : t.at? q with
  | none => rw [Switcher.nameAt, Switcher.nameAt, hx, h.at?_none hx]
  | some x =>
    obtain ⟨x', hx', ha⟩ := h.at?_some hx
    rw [nameAt_eq hx, nameAt_eq hx', ha.attr _ (nameAttribute_ne level)]

/-- One child at most stays active where one region is set to one child and the others stay. -/
theorem OneActive.set {root' : Element} {region part : String} (h : OneActive root region part)
    (hw : Wired root root') (hr : region ∈ switcherClasses) (hp : part ∈ switcherClasses)
    {chosen : Path → Prop} [DecidablePred chosen] {x : Nat}
    (hset : ∀ q k, Switcher.isOf root part (q ++ [k]) = true → isActive root' (q ++ [k]) =
      if chosen q then k == x else isActive root (q ++ [k])) : OneActive root' region part := by
  intro q i j hq hi hj hai haj
  rw [hw.isOf hr] at hq
  rw [hw.isOf hp] at hi hj
  rw [hset q i hi] at hai
  rw [hset q j hj] at haj
  split at hai
  · next hq' =>
    rw [if_pos hq'] at haj
    rw [beq_iff_eq.1 hai, beq_iff_eq.1 haj]
  · next hq' =>
    rw [if_neg hq'] at haj
    exact h q i j hq hi hj hai haj

/-- A switch of a regular tree keeps the agreement. -/
theorem Agrees.apply (h : Agrees root) (hr : Regular root) {a i : Nat} (hf : s.Fits root a i) :
    Agrees (s.apply root) where
  tab level := (h.tab level).set (wired_apply s root) (headerClass_mem level) (tabClass_mem level)
    fun _ _ hk => hf.isActive_tab hr hk
  pane level := (h.pane level).set (wired_apply s root) (bodyClass_mem level) (paneClass_mem level)
    fun _ _ hk => hr.isActive_pane hk
  name level p x b k l hheader hbody htab hpane hatab hapane := by
    have hw := wired_apply s root
    rw [hw.isOf (headerClass_mem level)] at hheader
    rw [hw.isOf (bodyClass_mem level)] at hbody
    rw [hw.isOf (tabClass_mem level)] at htab
    rw [hw.isOf (paneClass_mem level)] at hpane
    rw [hw.nameAt, hw.nameAt]
    rw [hf.isActive_tab hr htab] at hatab
    rw [hr.isActive_pane hpane] at hapane
    -- the header and the body of an element are switched together
    have together : (level = s.level ∧ p ++ [x] = s.scope ++ [a]) ↔
        (level = s.level ∧ p ++ [b] = s.scope ++ [s.body]) := by
      refine and_congr_right fun hlevel => ⟨fun hp => ?_, fun hp => ?_⟩ <;>
        obtain ⟨rfl, -⟩ := List.append_inj' hp rfl <;> subst hlevel
      · rw [hr.region _ _ _ _ _ (.inr rfl) hbody hf.isBody]
      · rw [hr.region _ _ _ _ _ (.inl rfl) hheader hf.isHeader]
    split at hatab
    · next hcond =>
      rw [if_pos (together.1 hcond)] at hapane
      obtain ⟨rfl, hx⟩ := hcond
      rw [hx, (together.1 ⟨rfl, hx⟩).2, beq_iff_eq.1 hatab, beq_iff_eq.1 hapane, hf.name, hf.button]
    · next hcond =>
      rw [if_neg fun hc => hcond (together.2 hc)] at hapane
      exact h.name level p x b k l hheader hbody htab hpane hatab hapane

theorem Regular.button? (hr : Regular root) {level : Level} {q : Path} (hq : q <+: target)
    (ht : isTab root level q = true) : Switcher.button? root target = some (level, q) :=
  button?_of_unique hq ht fun l q' hq' ht' => by
    have heq : q' = q := by
      rcases List.prefix_or_prefix_of_prefix hq hq' with h | h
      · exact hr.separate _ _ _ _ ht ht' h
      · exact (hr.separate _ _ _ _ ht' ht h).symm
    subst heq
    exact ⟨tabClass_inj (hr.class_unique (tabClass_mem _) (tabClass_mem _) ht ht'), rfl⟩

/-- A click on or inside a tab switches if a pane of the tab's name is left beside it. -/
theorem Regular.exists_switch (hr : Regular root) {level : Level} {q p : Path} (hq : q <+: target)
    (ht : isTab root level q = true) (hp : PaneFor root level q p) :
    ∃ s, switch? root target = some s := by
  obtain ⟨r, a, i, b, j, rfl, rfl, hbody, hpane, hname⟩ := hp
  obtain ⟨r', a', i', e, x, hpath, hin⟩ := hr.tab level _ ht
  obtain ⟨hpath', hi⟩ := List.append_inj' hpath rfl
  obtain ⟨rfl, ha⟩ := List.append_inj' hpath' rfl
  obtain ⟨rfl, -⟩ := List.cons.inj ha
  obtain ⟨rfl, -⟩ := List.cons.inj hi
  obtain ⟨c, hc, -⟩ := isOf_iff.1 hbody
  obtain ⟨y, hy, -⟩ := isOf_iff.1 hpane
  have hplace := (mem_positions hc).2 hpane
  have hnamed : (c.children[j]?).any (·.attr? level.nameAttribute == x.attr? level.nameAttribute) =
      true := by
    rw [← at?_child hc, hy, Option.any_some, beq_iff_eq, ← nameAt_eq hy, hname, nameAt_eq hin.tab]
  have hchild := (at?_child hin.scope b).symm.trans hc
  unfold switch?
  simp only [hr.button? hq ht, hin.scope? hr ht, hin.tab, hin.scope,
    (hr.head?_positions hin.scope (.inr rfl)).2 hbody, hchild, Option.bind_eq_bind, Option.bind_some]
  obtain ⟨k, hk⟩ := exists_pane? _ hplace hnamed
  exact ⟨_, by rw [hk]; rfl⟩

end Click

/-- A click on or inside a tab does nothing where no pane of the tab's name is left beside it. Where
one is left, the tab and a pane of its name are active after the click, and the layout is measured
once. -/
theorem Regular.click {v : View} (hr : Regular v.root) {level : Level} {q target : Path}
    (hq : q <+: target) (ht : isTab v.root level q = true) :
    ((∀ p, ¬ PaneFor v.root level q p) → v.click target = v) ∧
      ∀ p, PaneFor v.root level q p → (v.click target).resizes = v.resizes + 1 ∧
        isActive (v.click target).root q = true ∧
        ∃ p', PaneFor v.root level q p' ∧ isActive (v.click target).root p' = true := by
  have chosen : ∀ s, switch? v.root target = some s → PaneFor v.root level q
      (s.scope ++ [s.body] ++ [s.pane]) ∧ isActive (s.apply v.root) q = true ∧
        isActive (s.apply v.root) (s.scope ++ [s.body] ++ [s.pane]) = true := by
    intro s hs
    obtain ⟨a, i, hf⟩ := hr.fits hs
    obtain ⟨rfl, rfl⟩ := Prod.mk.inj
      (Option.some.inj ((hr.button? hq ht).symm.trans (switch?_spec hs).1))
    refine ⟨⟨s.scope, a, i, s.body, s.pane, hf.button, rfl, hf.isBody, hf.isPane, hf.name⟩, ?_, ?_⟩
    · have htab := hf.isTab
      rw [hf.button] at htab ⊢
      rw [hf.isActive_tab hr htab, if_pos ⟨rfl, rfl⟩, beq_self_eq_true]
    · rw [hr.isActive_pane hf.isPane, if_pos ⟨rfl, rfl⟩, beq_self_eq_true]
  constructor
  · intro hnone
    cases hs : switch? v.root target with
    | none => exact click_of_none hs
    | some s => exact absurd (chosen s hs).1 (hnone _)
  · intro p hp
    obtain ⟨s, hs⟩ := hr.exists_switch hq ht hp
    obtain ⟨hpane, htab, hactive⟩ := chosen s hs
    rw [click_of_some hs]
    exact ⟨rfl, htab, _, hpane, hactive⟩

/-! ## Many acts -/

/-- An act keeps a regular tree regular and the agreement of its tab sets. -/
theorem act_keeps {v : View} (hr : Regular v.root) (ha : Agrees v.root) (act : Act) :
    Regular (v.act act).root ∧ Agrees (v.act act).root := by
  cases act with
  | remove p => exact ⟨hr.remains (remains_remove v.root p), ha.remove p⟩
  | click target =>
    refine ⟨hr.remains (wired_click v target).remains, ?_⟩
    rw [View.act]
    cases hs : switch? v.root target with
    | none => rw [click_of_none hs]; exact ha
    | some s =>
      obtain ⟨a, i, hf⟩ := hr.fits hs
      rw [click_of_some hs]
      exact ha.apply hr hf

theorem acts_keep {v : View} (hr : Regular v.root) (ha : Agrees v.root) (acts : List Act) :
    Regular (acts.foldl View.act v).root ∧ Agrees (acts.foldl View.act v).root := by
  induction acts generalizing v with
  | nil => exact ⟨hr, ha⟩
  | cons act acts ih =>
    obtain ⟨hr', ha'⟩ := act_keeps hr ha act
    exact ih hr' ha'

/-- Whatever is clicked and whatever is removed on a page, and in whatever order, each header that is
left has one active tab at most, each body that is left has one active pane at most, and the two of a
tab set have the same name. A click on or inside a tab shows a pane of the tab's name if one is left
in the tab set; if none is left, the click changes nothing and the layout is not measured. -/
theorem acts_agree {parse : String → List Element} {place : Path → Option Container}
    {root : Element} (hp : IsPage parse place root) (acts : List Act) :
    let v := acts.foldl View.act ⟨root, 0⟩
    Agrees v.root ∧ ∀ level q target, isTab v.root level q = true → q <+: target →
      ((∀ p, ¬ PaneFor v.root level q p) → v.click target = v) ∧
        ∀ p, PaneFor v.root level q p → (v.click target).resizes = v.resizes + 1 ∧
          isActive (v.click target).root q = true ∧
          ∃ p', PaneFor v.root level q p' ∧ isActive (v.click target).root p' = true := by
  intro v
  have ha := hp.assigned
  obtain ⟨hr, hagrees⟩ := acts_keep (v := ⟨root, 0⟩) ha.regular ha.agrees acts
  exact ⟨hagrees, fun level q target ht hq => hr.click hq ht⟩

theorem acts_agree_twins :
    IsPage (fun _ => []) (siblingPlace twins) (siblings (fun _ => []) [] twins) ∧
      let root := siblings (fun _ => []) [] twins
      let acts : List Act := [.remove [2, 1, 0, 1, 0], .click [2, 1, 0, 0, 1], .click [0, 0, 1],
        .remove [0, 1, 0]]
      let v := acts.foldl View.act ⟨root, 0⟩
      Agrees v.root ∧ isTab v.root .language [2, 1, 0, 0, 0] = true ∧
        (∀ p, ¬ PaneFor v.root .language [2, 1, 0, 0, 0] p) ∧ v.click [2, 1, 0, 0, 0] = v ∧
        isTab v.root .platform [0, 0, 0] = true ∧ PaneFor v.root .platform [0, 0, 0] [0, 1, 0] ∧
        (v.click [0, 0, 0, 0]).resizes = v.resizes + 1 := by
  refine ⟨twins_isPage, ?_⟩
  intro root acts v
  obtain ⟨hagrees, hclick⟩ := acts_agree twins_isPage acts
  have swift : isTab v.root .language [2, 1, 0, 0, 0] = true := by decide
  have ios : isTab v.root .platform [0, 0, 0] = true := by decide
  have none_left : ∀ p, ¬ PaneFor v.root .language [2, 1, 0, 0, 0] p := by
    rintro _ ⟨s, a, i, b, j, hq, rfl, hbody, hpane, hname⟩
    obtain ⟨hq', -⟩ := List.append_inj' (show [2, 1, 0] ++ [0] ++ [0] = s ++ [a] ++ [i] from hq) rfl
    obtain ⟨rfl, -⟩ := List.append_inj' hq' rfl
    -- the body of these tabs has one pane left, which has the other name
    have hb : b < 2 := lt_of_isOf hbody (by decide)
    obtain rfl | rfl : b = 0 ∨ b = 1 := by omega
    · exact absurd hbody (by decide)
    · have hj : j < 1 := lt_of_isOf hpane (by decide)
      obtain rfl := Nat.lt_one_iff.1 hj
      exact absurd hname (by decide)
  have left : PaneFor v.root .platform [0, 0, 0] [0, 1, 0] :=
    ⟨[0], 0, 0, 1, 0, rfl, rfl, by decide, by decide, by decide⟩
  exact ⟨hagrees, swift, none_left, (hclick _ _ _ swift (List.prefix_refl _)).1 none_left, ios, left,
    ((hclick _ _ [0, 0, 0, 0] ios ⟨[0], rfl⟩).2 _ left).1⟩

end DocTabs.Switcher
