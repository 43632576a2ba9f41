/-
The shape of a built container: at each level one tab and one pane for each branch, in order and
under its name, with one index active on both sides; and which panes hold inner tabs.
-/
import DocTabs.Proofs.Tabs.Marker
import DocTabs.Tabs.Build

namespace DocTabs.Tabs

open Text

/-! ## What a tab set must look like -/

/-- The tabs and panes of one level follow its branches: one of each for every branch, in order and
under its name, every tab confined to `scope`, and on both sides the one at `chosen` active. -/
structure Follows (branches : List Branch) (scope : String) (chosen : Nat) (tabs : List Tab)
    (panes : List Pane) : Prop where
  tabNames : tabs.map (·.name) = branches.map (·.name)
  paneNames : panes.map (·.head.name) = branches.map (·.name)
  scopes : ∀ t ∈ tabs, t.scope = scope
  chosen_lt : chosen < branches.length
  tabActive : ∀ i t, tabs[i]? = some t → (t.active = true ↔ i = chosen)
  paneActive : ∀ i p, panes[i]? = some p → (p.head.active = true ↔ i = chosen)

/-- The least index at which the preferred name stands, or the first one if it stands nowhere. -/
def IsChosen (preferred : String) (names : List String) (chosen : Nat) : Prop :=
  (names[chosen]? = some preferred ∧ ∀ i < chosen, names[i]? ≠ some preferred) ∨
    (preferred ∉ names ∧ chosen = 0)

/-- A pane without inner tabs: the normalised content of its branch, and no id. -/
def IsLeafOf (b : Branch) (p : Pane) : Prop :=
  p.head.id = none ∧ p = .leaf p.head (Leaf.normalize b.content)

/-- The pane of a platform branch: inner tabs that follow its language branches, the first of them
active and all confined to the pane, or a leaf. It has inner tabs exactly when the container is a
sample and the content has a language branch. -/
def PaneOf (kind : Kind) (id : String) (b : Branch) (p : Pane) : Prop :=
  let languages := Branch.scan .language b.content.toList
  (kind = .sample ∧ languages ≠ [] ∧ p.head.id = some (paneId id b.name) ∧
    ∃ tabs panes, p = .nested p.head .language tabs panes ∧
      Follows languages (paneId id b.name) 0 tabs panes ∧ (∀ t ∈ tabs, t.icon = none) ∧
      ∀ (i : Nat) l q, languages[i]? = some l → panes[i]? = some q → IsLeafOf l q) ∨
  ((kind = .plain ∨ languages = []) ∧ IsLeafOf b p)

/-- The container of a kind and id whose platform branches are `branches`. -/
structure TreeOf (kind : Kind) (id preferred : String) (branches : List Branch) (c : Container) :
    Prop where
  kind_eq : c.kind = kind
  id_eq : c.id = id
  level_eq : c.tabs.level = .platform
  follows : ∃ chosen, IsChosen preferred (branches.map (·.name)) chosen ∧
    Follows branches id chosen c.tabs.tabs c.tabs.panes
  panes : ∀ (i : Nat) b p, branches[i]? = some b → c.tabs.panes[i]? = some p → PaneOf kind id b p

/-! ## One level -/

theorem findIdx?_isChosen (preferred : String) (names : List String) :
    IsChosen preferred names ((names.findIdx? (· == preferred)).getD 0) := by
  cases h : names.findIdx? (· == preferred) with
  | none =>
    refine .inr ⟨fun hm => ?_, rfl⟩
    have := List.findIdx?_eq_none_iff.1 h preferred hm
    simp at this
  | some i =>
    obtain ⟨hi, he, hl⟩ := List.findIdx?_eq_some_iff_getElem.1 h
    refine .inl ⟨?_, fun j hj hj' => ?_⟩
    · rw [Option.getD_some, List.getElem?_eq_getElem hi]
      simpa using he
    · rw [Option.getD_some] at hj
      have := hl j hj
      rw [List.getElem?_eq_getElem (Nat.lt_trans hj hi), Option.some.injEq] at hj'
      simp [hj'] at this

/-- Tabs and panes that are made branch by branch follow the branches. -/
theorem follows_mapIdx {branches : List Branch} {scope : String} {chosen : Nat}
    (hc : chosen < branches.length) (tab : Nat → Branch → Tab) (pane : Nat → Branch → Pane)
    (ht : ∀ i b, (tab i b).name = b.name ∧ (tab i b).scope = scope ∧ (tab i b).active = (i == chosen))
    (hp : ∀ i b, (pane i b).head.name = b.name ∧ (pane i b).head.active = (i == chosen)) :
    Follows branches scope chosen (branches.mapIdx tab) (branches.mapIdx pane) where
  tabNames := by
    refine List.ext_getElem? fun i => ?_
    simp only [List.getElem?_map, List.getElem?_mapIdx, Option.map_map]
    congr 1
    funext b; exact (ht i b).1
  paneNames := by
    refine List.ext_getElem? fun i => ?_
    simp only [List.getElem?_map, List.getElem?_mapIdx, Option.map_map]
    congr 1
    funext b; exact (hp i b).1
  scopes := by
    intro t hm
    obtain ⟨i, hi, rfl⟩ := List.mem_mapIdx.1 hm
    exact (ht i _).2.1
  chosen_lt := hc
  tabActive := by
    intro i t h
    obtain ⟨b, -, rfl⟩ := Option.map_eq_some_iff.1 (List.getElem?_mapIdx ▸ h)
    rw [(ht i b).2.2, beq_iff_eq]
  paneActive := by
    intro i p h
    obtain ⟨b, -, rfl⟩ := Option.map_eq_some_iff.1 (List.getElem?_mapIdx ▸ h)
    rw [(hp i b).2, beq_iff_eq]

theorem Follows.length_tabs {branches : List Branch} {scope : String} {chosen : Nat}
    {tabs : List Tab} {panes : List Pane} (h : Follows branches scope chosen tabs panes) :
    tabs.length = branches.length := by
  simpa using congrArg List.length h.tabNames

theorem Follows.length_panes {branches : List Branch} {scope : String} {chosen : Nat}
    {tabs : List Tab} {panes : List Pane} (h : Follows branches scope chosen tabs panes) :
    panes.length = branches.length := by
  simpa using congrArg List.length h.paneNames

/-- Every pane is the pane of a branch. -/
theorem Follows.exists_branch {branches : List Branch} {scope : String} {chosen : Nat}
    {tabs : List Tab} {panes : List Pane} (h : Follows branches scope chosen tabs panes) {p : Pane}
    (hp : p ∈ panes) : ∃ (i : Nat) (b : Branch), branches[i]? = some b ∧ panes[i]? = some p := by
  obtain ⟨i, hi⟩ := List.mem_iff_getElem?.1 hp
  obtain ⟨hlt, -⟩ := List.getElem?_eq_some_iff.1 hi
  exact ⟨i, _, List.getElem?_eq_getElem (h.length_panes ▸ hlt), hi⟩

theorem withLanguages_languages (b : Branch) :
    b.withLanguages.languages = Branch.scan .language b.content.toList := rfl

theorem leafPane_isLeafOf (b : Branch) (active : Bool) : IsLeafOf b (leafPane b active) :=
  ⟨rfl, rfl⟩

theorem platformPane_head (kind : Kind) (id : String) (b : Branch) (active : Bool) :
    (platformPane kind id b active).head.name = b.name ∧
      (platformPane kind id b active).head.active = active := by
  unfold platformPane
  split <;> exact ⟨rfl, rfl⟩

/-- The pane of language branches holds one tab and one leaf for each of them. -/
theorem languagePane_spec (id : String) (b : Branch) {languages : List Branch} (h : languages ≠ [])
    (active : Bool) :
    ∃ tabs panes, languagePane id b languages active = .nested ⟨b.name, some id, active⟩ .language
        tabs panes ∧ Follows languages id 0 tabs panes ∧ (∀ t ∈ tabs, t.icon = none) ∧
      ∀ (i : Nat) l q, languages[i]? = some l → panes[i]? = some q → IsLeafOf l q := by
  have hchosen : (Preference.first.choose (languages.map (·.name))).getD 0 = 0 := by
    cases languages <;> rfl
  refine ⟨_, _, by rw [languagePane, hchosen], follows_mapIdx (List.length_pos_iff.2 h) _ _
    (fun i l => ⟨rfl, rfl, rfl⟩) (fun i l => ⟨rfl, rfl⟩), fun t ht => ?_, fun i l q hl hq => ?_⟩
  · obtain ⟨i, hi, rfl⟩ := List.mem_mapIdx.1 ht
    rfl
  · rw [List.getElem?_mapIdx, hl, Option.map_some, Option.some.injEq] at hq
    exact hq ▸ leafPane_isLeafOf l _

theorem platformPane_paneOf (kind : Kind) (id : String) (b : Branch) (active : Bool) :
    PaneOf kind id b (platformPane kind id b active) := by
  unfold PaneOf
  cases kind with
  | plain => exact .inr ⟨.inl rfl, leafPane_isLeafOf b active⟩
  | sample =>
    by_cases hl : Branch.scan .language b.content.toList = []
    · have hp : platformPane .sample id b active = leafPane b active := by
        simp only [platformPane, withLanguages_languages, hl]
      rw [hp]
      exact .inr ⟨.inr hl, leafPane_isLeafOf b active⟩
    · have hp : platformPane .sample id b active =
          languagePane (paneId id b.name) b (Branch.scan .language b.content.toList) active := by
        obtain ⟨l, ls, hls⟩ := List.exists_cons_of_ne_nil hl
        simp only [platformPane, withLanguages_languages, hls]
      obtain ⟨tabs, panes, he, hf⟩ := languagePane_spec (paneId id b.name) b hl active
      rw [hp, he]
      exact .inl ⟨rfl, hl, rfl, tabs, panes, rfl, hf⟩

/-! ## Panes at any depth -/

mutual

/-- A pane and the panes in it. -/
def Pane.within : Pane → List Pane
  | .leaf h content => [.leaf h content]
  | .nested h level tabs panes => .nested h level tabs panes :: panesWithin panes

/-- Panes and the panes in them. -/
def panesWithin : List Pane → List Pane
  | [] => []
  | p :: ps => p.within ++ panesWithin ps

end

theorem panesWithin_eq (ps : List Pane) : panesWithin ps = ps.flatMap Pane.within := by
  induction ps with
  | nil => rfl
  | cons p ps ih => rw [panesWithin, ih, List.flatMap_cons]

/-- All panes of a container. -/
def Container.allPanes (c : Container) : List Pane := panesWithin c.tabs.panes

/-- The HTML that a leaf embeds. -/
def Pane.content? : Pane → Option String
  | .leaf _ content => some content
  | .nested .. => none

/-- What the leaves of a container embed. -/
def Container.leaves (c : Container) : List String := c.allPanes.filterMap (·.content?)

theorem Container.mem_leaves {c : Container} {content : String} :
    content ∈ c.leaves ↔ ∃ head, .leaf head content ∈ c.allPanes := by
  rw [Container.leaves, List.mem_filterMap]
  constructor
  · rintro ⟨_ | _, hp, h⟩
    · obtain rfl := Option.some.inj h
      exact ⟨_, hp⟩
    · cases h
  · exact fun ⟨head, h⟩ => ⟨_, h, rfl⟩

theorem IsLeafOf.within {b : Branch} {p : Pane} (h : IsLeafOf b p) :
    p.within = [p] ∧ p.head.id = none := by
  refine ⟨?_, h.1⟩
  rw [h.2]
  rfl

/-! ## Containers -/

theorem ofBody?_eq_none {kind : Kind} {id preferred : String} {body : List Char} :
    Container.ofBody? kind id body preferred = none ↔ Branch.scan .platform body = [] := by
  unfold Container.ofBody?
  cases Branch.scan .platform body <;> simp [Preference.choose]

/-- A built container is the tree of its body's platform branches, of which there is one. -/
theorem treeOf_ofBody? {kind : Kind} {id preferred : String} {body : List Char} {c : Container}
    (h : Container.ofBody? kind id body preferred = some c) :
    Branch.scan .platform body ≠ [] ∧ TreeOf kind id preferred (Branch.scan .platform body) c := by
  unfold Container.ofBody? at h
  cases hs : Branch.scan .platform body with
  | nil => rw [hs] at h; cases h
  | cons b bs =>
    rw [hs] at h
    obtain rfl := Option.some.inj h
    have hc := findIdx?_isChosen preferred ((b :: bs).map (·.name))
    have hlt : (((b :: bs).map (·.name)).findIdx? (· == preferred)).getD 0 < (b :: bs).length := by
      -- the preferred name stands among the branches, or the first of them is chosen
      rcases hc with ⟨h, -⟩ | ⟨-, h⟩
      · obtain ⟨hlt, -⟩ := List.getElem?_eq_some_iff.1 h
        simpa using hlt
      · rw [h]; simp
    refine ⟨by simp, rfl, rfl, rfl, ⟨_, hc, ?_⟩, fun i b' p hb hp => ?_⟩
    · exact follows_mapIdx hlt _ _ (fun i b => ⟨rfl, rfl, rfl⟩) fun i b => platformPane_head ..
    · rw [List.getElem?_mapIdx, hb, Option.map_some, Option.some.injEq] at hp
      exact hp ▸ platformPane_paneOf ..

/-- Every platform button of a built container shows the icon of its platform. -/
theorem icon_ofBody? {kind : Kind} {id preferred : String} {body : List Char} {c : Container}
    (h : Container.ofBody? kind id body preferred = some c) :
    ∀ t ∈ c.tabs.tabs, t.icon = some (icon t.name) := by
  obtain ⟨chosen, -, h⟩ := Option.bind_eq_some_iff.1 h
  obtain rfl := Option.some.inj h
  intro t ht
  obtain ⟨i, hi, rfl⟩ := List.mem_mapIdx.1 ht
  rfl

/-- There is no container exactly when the body has no platform branch. Otherwise the container's
tabs and panes are the body's platform branches, and each pane of a sample holds the language
branches of its content: no branch is lost, doubled, merged or moved at either level. -/
theorem ofBody?_tree (kind : Kind) (id : String) (body : List Char) (preferred : String) :
    match Container.ofBody? kind id body preferred with
    | none => Branch.scan .platform body = []
    | some c => Branch.scan .platform body ≠ [] ∧
        TreeOf kind id preferred (Branch.scan .platform body) c := by
  cases h : Container.ofBody? kind id body preferred with
  | none => exact ofBody?_eq_none.1 h
  | some c => exact treeOf_ofBody? h

end DocTabs.Tabs
