/-
Pages in the browser: an element tree with built containers at some places and free elements
everywhere else. Over every run of clicks each tab set of such a page shows one button and the pane
in its place.
-/
import DocTabs.Proofs.Switcher.Rendered

namespace DocTabs.Switcher

open Tabs Element

/-! ## Pages -/

/-- The tree `root` has at each place the element of a built container's markup, and no element
outside the containers and none in a leaf has a class of the switcher. `parse` gives the elements of
a leaf's HTML. -/
structure IsPage (parse : String → List Element) (place : Path → Option Container) (root : Element) :
    Prop where
  built : ∀ p c, place p = some c → ∃ kind id body preferred,
    Container.ofBody? kind id body preferred = some c
  placed : ∀ p c, place p = some c → ∃ e, c.markup.elements parse = [e] ∧ root.at? p = some e
  leaves : ∀ p c content, place p = some c → HasLeaf c content → ∀ e ∈ parse content, Foreign e
  around : ∀ q e, root.at? q = some e → (∀ p, p <+: q → place p = none) → Free e

/-- The tab sets of a page: the platforms of each container and the languages of each nested pane.
The buttons of a tab set with the scope `s` stand at `s ++ [0, i]` and its panes at `s ++ [1, i]`. -/
inductive TabSetIn (place : Path → Option Container) :
    Level → Path → List Tab → List Pane → Prop
  | platforms {p : Path} {c : Container} : place p = some c →
      TabSetIn place c.tabs.level p c.tabs.tabs c.tabs.panes
  | languages {p : Path} {c : Container} {i : Nat} {h : PaneHead} {level : Level} {tabs : List Tab}
      {panes : List Pane} : place p = some c → c.tabs.panes[i]? = some (.nested h level tabs panes) →
      TabSetIn place level (p ++ [1, i]) tabs panes

variable {parse : String → List Element} {place : Path → Option Container} {root : Element}

theorem IsPage.at?_place (hp : IsPage parse place root) {p : Path} {c : Container}
    (hc : place p = some c) : root.at? p = some (containerElement parse c) := by
  obtain ⟨e, he, hat⟩ := hp.placed p c hc
  obtain ⟨rfl, -⟩ := List.cons.inj ((elements_markup parse c).symm.trans he)
  exact hat

/-- A tab set of a page is held by the element at its scope. -/
theorem TabSetIn.holdsTabs (hp : IsPage parse place root) {level : Level} {scope : Path}
    {tabs : List Tab} {panes : List Pane} (ht : TabSetIn place level scope tabs panes) :
    ∃ names e k, names.length = tabs.length ∧ root.at? scope = some e ∧
      HoldsTabs level names e (headerElement parse level tabs) (bodyElement parse level panes) ∧
      RenderedAt tabs panes k := by
  cases ht with
  | @platforms _ c hc =>
    obtain ⟨kind, id, body, preferred, hbuilt⟩ := hp.built _ c hc
    obtain ⟨hlevel, names, k, hlen, hh, hk⟩ := holdsTabs_container parse hbuilt
    rw [hlevel]
    exact ⟨names, _, k, hlen, hp.at?_place hc, hh, hk⟩
  | @languages p c i h level tabs panes hc hi =>
    obtain ⟨kind, id, body, preferred, hbuilt⟩ := hp.built _ c hc
    obtain ⟨-, _, -, -, hh, -⟩ := holdsTabs_container parse hbuilt
    rcases pane_container parse hbuilt (List.mem_of_getElem? hi) with
      ⟨_, _, he⟩ | ⟨h', tabs', panes', names', he, hlen, hh', hk, -⟩
    · cases he
    · obtain ⟨rfl, rfl, rfl, rfl⟩ := Pane.nested.inj he
      refine ⟨names', _, 0, hlen, ?_, hh', hk⟩
      rw [hh.at?_pane (hp.at?_place hc), bodyElement, Element.children, List.getElem?_map, hi]
      rfl

theorem RenderedAt.eq {tabs : List Tab} {panes : List Pane} {k i : Nat} (h : RenderedAt tabs panes k)
    (hi : (tabs[i]?).any (·.active) = true) : i = k := by
  rw [(h i).1] at hi
  exact beq_iff_eq.1 hi

/-- A page shows what is rendered active. -/
theorem RenderedAt.shows {level : Level} {scope : Path} {names : List String} {e : Element}
    {tabs : List Tab} {panes : List Pane} {k : Nat} (hk : RenderedAt tabs panes k)
    (ht : HoldsTabs level names e (headerElement parse level tabs) (bodyElement parse level panes))
    (hs : root.at? scope = some e) : Shows root scope k := by
  intro i
  obtain ⟨htab, hpane⟩ := hk i
  rw [isActive, isActive, ht.at?_tab hs, ht.at?_pane hs, headerElement, bodyElement,
    Element.children, Element.children, List.getElem?_map, List.getElem?_map, Option.any_map,
    Option.any_map]
  refine ⟨Eq.trans ?_ htab, Eq.trans ?_ hpane⟩
  · congr 1
    funext t
    exact (plays_tabElement parse level t).2
  · congr 1
    funext p
    exact (plays_paneElement parse level p).2

theorem TabSetIn.hasSet (hp : IsPage parse place root) {level : Level} {scope : Path}
    {tabs : List Tab} {panes : List Pane} (ht : TabSetIn place level scope tabs panes) :
    HasSet root level scope := by
  obtain ⟨names, e, k, -, hs, hh, hk⟩ := ht.holdsTabs hp
  exact ⟨names, e, _, _, k, hs, hh, hk.shows hh hs⟩

/-- On a page every element is free, the root of a container, or a part of a tab set. -/
theorem IsPage.assigned (hp : IsPage parse place root) : Assigned root := by
  intro q x hx
  by_cases hc : ∃ p c, p <+: q ∧ place p = some c
  · obtain ⟨p, c, ⟨r, rfl⟩, hc⟩ := hc
    obtain ⟨kind, id, body, preferred, hbuilt⟩ := hp.built p c hc
    obtain ⟨hlevel, names, k, -, ht, -⟩ := holdsTabs_container parse hbuilt
    have hset := (TabSetIn.platforms hc).hasSet hp
    rw [hlevel] at hset
    have hcontainer := hp.at?_place hc
    rw [at?_append, hcontainer] at hx
    rcases ht.at?_cases hx with ⟨rfl, rfl⟩ | hfree | ⟨part, hat, hplays⟩ | ⟨i, y, j, r, hy, rfl, hx⟩
    · exact .inr (.inl ⟨_, plays_container parse c⟩)
    · exact .inl hfree
    · exact .inr (.inr ⟨part, _, p, hat.append p, hplays, hset⟩)
    obtain ⟨pane, hpane, rfl⟩ := bodyElement_child hy
    have hmem := List.mem_of_getElem? hpane
    rcases pane_container parse hbuilt hmem with
      ⟨h, content, rfl⟩ | ⟨h, tabs, panes, names', rfl, -, ht', -, hleaf⟩
    · exact .inl (leaf_free (hp.leaves p c content hc (.inl ⟨h, hmem⟩)) hx)
    have hset' := (TabSetIn.languages hc hpane).hasSet hp
    rcases ht'.at?_cases hx with ⟨hnil, -⟩ | hfree | ⟨part, hat, hplays⟩ | ⟨i', y, j', r', hy, he, hx⟩
    · cases hnil
    · exact .inl hfree
    · refine .inr (.inr ⟨part, _, p ++ [1, i], ?_, hplays, hset'⟩)
      rw [← List.append_assoc]
      exact hat.append _
    · -- the panes of languages are leaves
      obtain ⟨leaf, hl, rfl⟩ := bodyElement_child hy
      have hmem' := List.mem_of_getElem? hl
      obtain ⟨h', content, rfl⟩ := hleaf leaf hmem'
      exact .inl (leaf_free (hp.leaves p c content hc (.inr ⟨h, _, tabs, panes, h', hmem, hmem'⟩)) hx)
  · refine .inl (hp.around q x hx fun p hpre => ?_)
    cases h : place p with
    | none => rfl
    | some c => exact absurd ⟨p, c, hpre, h⟩ hc

/-! ## Siblings -/

/-- A page of containers and other elements side by side. -/
def siblings (parse : String → List Element) (attributes : List (String × String))
    (pieces : List (Element ⊕ Container)) : Element :=
  .node attributes (pieces.map (Sum.elim (fun e => e) (containerElement parse)))

/-- The places of the containers among siblings. -/
def siblingPlace (pieces : List (Element ⊕ Container)) : Path → Option Container
  | [i] => pieces[i]? >>= Sum.getRight?
  | _ => none

theorem siblingPlace_eq_some {pieces : List (Element ⊕ Container)} {p : Path} {c : Container} :
    siblingPlace pieces p = some c ↔ ∃ i : Nat, p = [i] ∧ pieces[i]? = some (.inr c) := by
  constructor
  · intro h
    unfold siblingPlace at h
    split at h
    · rename_i i
      obtain ⟨x, hi, hx⟩ := Option.bind_eq_some_iff.1 h
      exact ⟨i, rfl, by rw [hi, Sum.getRight?_eq_some_iff.1 hx]⟩
    · cases h
  · rintro ⟨i, rfl, hi⟩
    exact Option.bind_eq_some_iff.2 ⟨_, hi, rfl⟩

theorem isPage_siblings {attributes : List (String × String)}
    {pieces : List (Element ⊕ Container)} (hroot : Free (.node attributes []))
    (hother : ∀ e, .inl e ∈ pieces → Foreign e)
    (hbuilt : ∀ c, .inr c ∈ pieces → ∃ kind id body preferred,
      Container.ofBody? kind id body preferred = some c)
    (hleaf : ∀ c content, .inr c ∈ pieces → HasLeaf c content → ∀ e ∈ parse content, Foreign e) :
    IsPage parse (siblingPlace pieces) (siblings parse attributes pieces) where
  built p c hc := by
    obtain ⟨i, rfl, hi⟩ := siblingPlace_eq_some.1 hc
    exact hbuilt c (List.mem_of_getElem? hi)
  placed p c hc := by
    obtain ⟨i, rfl, hi⟩ := siblingPlace_eq_some.1 hc
    refine ⟨_, elements_markup parse c, ?_⟩
    rw [at?_cons, siblings, Element.children, List.getElem?_map, hi]
    rfl
  leaves p c content hc := by
    obtain ⟨i, rfl, hi⟩ := siblingPlace_eq_some.1 hc
    exact hleaf c content (List.mem_of_getElem? hi)
  around q e he hnone := by
    rcases q with _ | ⟨i, q⟩
    · obtain rfl := Option.some.inj he
      exact hroot
    · rw [at?_cons, siblings, Element.children, List.getElem?_map] at he
      cases hi : pieces[i]? with
      | none => rw [hi] at he; cases he
      | some x =>
        rw [hi] at he
        cases x with
        | inl x => exact hother x (List.mem_of_getElem? hi) q e he
        | inr c =>
          have := hnone [i] ⟨q, rfl⟩
          rw [siblingPlace_eq_some.2 ⟨i, rfl, hi⟩] at this; cases this

/-! ## Runs -/

/-- The renderer and the switcher agree over every run of clicks. On a page with any containers and
whatever is clicked, exactly one button and the pane in its place are active in each tab set: those
at the index of the last click on or inside a button of this very tab set, or the rendered ones
before there was any. The layout is measured once for each click on or inside a button. -/
theorem clicks_agree (hp : IsPage parse place root) (clicks : List Path) :
    let v := clicks.foldl View.click ⟨root, 0⟩
    v.resizes = clicks.countP (onTab root) ∧
      ∀ level scope tabs panes, TabSetIn place level scope tabs panes →
        ∃ initial, RenderedAt tabs panes initial ∧
          Shows v.root scope (shown scope tabs.length initial clicks) := by
  intro v
  have hw := hp.assigned.wellTabbed
  refine ⟨(clicks_count hw clicks (.refl root)).trans (Nat.zero_add _), ?_⟩
  intro level scope tabs panes hin
  obtain ⟨names, e, k, hlen, hs, ht, hk⟩ := hin.holdsTabs hp
  refine ⟨k, hk, ?_⟩
  rw [← hlen]
  exact (hk.shows ht hs).clicks hw ht hs clicks (.refl root)

/-- Two containers with the same id, names and languages, and an element between them. -/
def twins : List (Element ⊕ Container) :=
  [.inr (twoLevel.container "Android"), .inl (.node [("class", "note active")] []),
    .inr (twoLevel.container "Android")]

theorem twins_isPage :
    IsPage (fun _ => []) (siblingPlace twins) (siblings (fun _ => []) [] twins) := by
  refine isPage_siblings (by decide) (fun e he => ?_) (fun c hc => ?_) fun _ _ _ _ e he => by cases he
  · obtain rfl : e = .node [("class", "note active")] [] := by simpa [twins] using he
    exact Free.foreign (by decide)
  · obtain rfl : c = twoLevel.container "Android" := by simpa [twins] using hc
    exact ⟨_, _, _, _, ofBody?_written twoLevel twoLevel.printBody_written "Android"⟩

theorem clicks_agree_twins :
    IsPage (fun _ => []) (siblingPlace twins) (siblings (fun _ => []) [] twins) ∧
      let root := siblings (fun _ => []) [] twins
      let clicks := [[0, 0, 1, 0], [2, 1, 0, 0, 1], [2, 1, 0]]
      let v := clicks.foldl View.click ⟨root, 0⟩
      v.resizes = 2 ∧ Shows v.root [0] 1 ∧ Shows v.root [0, 1, 0] 0 ∧ Shows v.root [2] 0 ∧
        Shows v.root [2, 1, 0] 1 := by
  refine ⟨twins_isPage, ?_⟩
  intro root clicks v
  obtain ⟨hcount, hsets⟩ := clicks_agree twins_isPage clicks
  have first : siblingPlace twins [0] = some (twoLevel.container "Android") := rfl
  have second : siblingPlace twins [2] = some (twoLevel.container "Android") := rfl
  have languages : ∃ h tabs panes, (twoLevel.container "Android").tabs.panes[0]? =
      some (.nested h .language tabs panes) ∧ tabs.length = 2 ∧ (tabs[0]?).any (·.active) = true :=
    ⟨_, _, _, rfl, rfl, rfl⟩
  obtain ⟨h, tabs, panes, hpane, hlen, hactive⟩ := languages
  obtain ⟨k₁, hk₁, h₁⟩ := hsets _ _ _ _ (.platforms first)
  obtain ⟨k₂, hk₂, h₂⟩ := hsets _ _ _ _ (.languages first hpane)
  obtain ⟨k₃, hk₃, h₃⟩ := hsets _ _ _ _ (.platforms second)
  obtain ⟨k₄, hk₄, h₄⟩ := hsets _ _ _ _ (.languages second hpane)
  rw [← hk₁.eq (i := 0) rfl] at h₁
  rw [← hk₂.eq hactive, hlen] at h₂
  rw [← hk₃.eq (i := 0) rfl] at h₃
  rw [← hk₄.eq hactive, hlen] at h₄
  exact ⟨hcount.trans (by decide), h₁, h₂, h₃, h₄⟩

end DocTabs.Switcher
