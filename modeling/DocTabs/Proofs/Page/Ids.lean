/-
The element ids of expanded pages. A container without an id of its own gets a numbered one, and a
pane with inner tabs gets the container's id with the slug of its platform behind it. A number ends
where the dash before a slug starts, so no two of these ids are the same, and the scope of each
language tab is the id of one pane only.
-/
import DocTabs.Proofs.Page.Built
import DocTabs.Proofs.Page.Numbering
import Mathlib.Data.List.Flatten
import Mathlib.Data.List.Nodup

namespace DocTabs.Tabs

/-! ## Ids of markup -/

namespace Markup

mutual

/-- The element ids of a piece. What embedded HTML holds is not among them. -/
def ids : Markup → List String
  | .text _ => []
  | .embedded _ => []
  | .element _ as cs => (as.lookup "id").toList ++ idsAll cs

/-- The element ids of pieces in order. -/
def idsAll : List Markup → List String
  | [] => []
  | m :: ms => ids m ++ idsAll ms

end

theorem idsAll_eq_nil {ms : List Markup} (h : ∀ m ∈ ms, m.ids = []) : idsAll ms = [] := by
  induction ms with
  | nil => rfl
  | cons m ms ih =>
    rw [idsAll, h m List.mem_cons_self, ih fun m' hm => h m' (List.mem_cons_of_mem _ hm)]
    rfl

end Markup

/-- The element ids of a container: its own and those of its panes. -/
def Container.ids (c : Container) : List String :=
  c.id :: c.allPanes.filterMap (·.head.id)

theorem Tab.ids_markup (level : Level) (t : Tab) : (t.markup level).ids = [] := by
  obtain ⟨name, icon, scope, active⟩ := t
  cases level <;> cases icon <;> rfl

theorem ids_tabSetMarkup (level : Level) (tabs : List Tab) (panes : List Markup) :
    Markup.idsAll (tabSetMarkup level tabs panes) = Markup.idsAll panes := by
  have htabs : Markup.idsAll (tabs.map (Tab.markup level)) = [] :=
    Markup.idsAll_eq_nil fun m hm => by
      obtain ⟨t, -, rfl⟩ := List.mem_map.1 hm
      exact t.ids_markup level
  simp [tabSetMarkup, Markup.idsAll, Markup.ids, htabs]

theorem PaneHead.lookup_id (level : Level) (h : PaneHead) :
    (h.attributes level).lookup "id" = h.id := by
  obtain ⟨name, id, active⟩ := h
  cases level <;> cases id <;> rfl

mutual

theorem Pane.ids_markup (level : Level) : ∀ p : Pane,
    (p.markup level).ids = p.within.filterMap (·.head.id)
  | .leaf h content => by
    rw [Pane.markup, Markup.ids, PaneHead.lookup_id]
    cases hid : h.id <;> simp [Markup.idsAll, Markup.ids, Pane.within, Pane.head, hid]
  | .nested h inner tabs panes => by
    rw [Pane.markup, Markup.ids, PaneHead.lookup_id, ids_tabSetMarkup, ids_panesMarkup inner panes,
      Pane.within, List.filterMap_cons, Pane.head]
    cases h.id <;> rfl

theorem ids_panesMarkup (level : Level) : ∀ ps : List Pane,
    Markup.idsAll (panesMarkup level ps) = (panesWithin ps).filterMap (·.head.id)
  | [] => rfl
  | p :: ps => by
    rw [panesMarkup, Markup.idsAll, Pane.ids_markup level p, ids_panesMarkup level ps, panesWithin,
      List.filterMap_append]

end

theorem Container.ids_markup (c : Container) : c.markup.ids = c.ids := by
  rw [Container.markup, Markup.ids, ids_tabSetMarkup, ids_panesMarkup]
  rfl

/-! ## Slugs -/

/-- The words of the lowercased name of a platform, joined by dashes. -/
def slug (platform : String) : String :=
  String.intercalate "-" ((Text.words (Text.lowerCase platform.toList)).map String.ofList)

theorem paneId_eq (container platform : String) :
    paneId container platform = container ++ "-" ++ slug platform := rfl

/-- The slugs of the platforms in a body that have language tabs. -/
def ownerSlugs (body : List Char) : List String :=
  ((Branch.scan .platform body).filter fun b => b.withLanguages.languages ≠ []).map fun b =>
    slug b.name

/-- The ids of the panes of a container with this id and body. -/
def paneIds (kind : Kind) (id : String) (body : List Char) : List String :=
  match kind with
  | .plain => []
  | .sample => (ownerSlugs body).map (id ++ "-" ++ ·)

/-- Of the panes of a platform only the one around inner tabs has an id. -/
theorem PaneOf.ids {kind : Kind} {id : String} {b : Branch} {p : Pane} (h : PaneOf kind id b p) :
    p.within.filterMap (·.head.id) =
      if kind = .sample ∧ b.withLanguages.languages ≠ [] then [paneId id b.name] else [] := by
  rcases h with ⟨hkind, hne, hid, tabs, panes, hp, hf, -, hleaf⟩ | ⟨hplain, hl⟩
  · have inner : (panesWithin panes).filterMap (·.head.id) = [] := by
      rw [panesWithin_eq, List.filterMap_eq_nil_iff]
      intro q' hq'
      obtain ⟨q, hq, hq'⟩ := List.mem_flatMap.1 hq'
      obtain ⟨i, l, hl, hi⟩ := hf.exists_branch hq
      obtain ⟨hself, hnone⟩ := (hleaf i l q hl hi).within
      rw [hself, List.mem_singleton] at hq'
      rw [hq', hnone]
    rw [if_pos ⟨hkind, hne⟩, hp, Pane.within, List.filterMap_cons, inner, Pane.head, hid]
  · have hnot : ¬ (kind = .sample ∧ b.withLanguages.languages ≠ []) := by
      rintro ⟨rfl, hne⟩
      exact hplain.elim (fun h => by cases h) hne
    obtain ⟨hself, hnone⟩ := hl.within
    rw [if_neg hnot, hself, List.filterMap_cons, hnone]
    rfl

theorem flatten_map_ite {α β : Type} (q : α → Prop) [DecidablePred q] (f : α → β) (xs : List α) :
    (xs.map fun x => if q x then [f x] else []).flatten = (xs.filter fun x => q x).map f := by
  induction xs with
  | nil => rfl
  | cons x xs ih =>
    rw [List.map_cons, List.flatten_cons, ih, List.filter_cons]
    by_cases hx : q x <;> simp [hx]

/-- The ids in a container are its own and, in a sample, one for each platform with languages. -/
theorem ids_ofBody? {kind : Kind} {id preferred : String} {body : List Char} {c : Container}
    (h : Container.ofBody? kind id body preferred = some c) :
    c.kind = kind ∧ c.id = id ∧ c.ids = id :: paneIds kind id body := by
  obtain ⟨-, htree⟩ := treeOf_ofBody? h
  obtain ⟨chosen, -, hf⟩ := htree.follows
  have hpanes : c.tabs.panes.map (fun p => p.within.filterMap (·.head.id)) =
      (Branch.scan .platform body).map fun b =>
        if kind = .sample ∧ b.withLanguages.languages ≠ [] then [paneId id b.name] else [] := by
    refine List.ext_getElem (by simp [hf.length_panes]) fun i hi hi' => ?_
    rw [List.getElem_map, List.getElem_map]
    rw [List.length_map] at hi hi'
    exact (htree.panes i _ _ (List.getElem?_eq_getElem hi') (List.getElem?_eq_getElem hi)).ids
  refine ⟨htree.kind_eq, htree.id_eq, ?_⟩
  rw [Container.ids, htree.id_eq, Container.allPanes, panesWithin_eq, List.filterMap_flatMap,
    List.flatMap_def, hpanes, flatten_map_ite]
  cases kind with
  | plain => simp [paneIds]
  | sample => simp [paneIds, ownerSlugs, paneId_eq, Function.comp_def]

end DocTabs.Tabs

namespace DocTabs.Page

open Tabs

/-! ## Numbered containers -/

theorem startsWithId_of_mem {kind : Kind} {id preferred : String} {body : List Char} {c : Container}
    (h : Container.ofBody? kind id body preferred = some c) {x : String} (hx : x ∈ c.ids) :
    StartsWithId c.id x := by
  obtain ⟨-, hid, hids⟩ := ids_ofBody? h
  rw [hids] at hx
  rw [hid]
  rcases List.mem_cons.1 hx with rfl | hx
  · exact ⟨[], by simp, fun c hc => by cases hc⟩
  · cases kind with
    | plain => cases hx
    | sample =>
      obtain ⟨slug, -, rfl⟩ := List.mem_map.1 hx
      exact ⟨'-' :: slug.toList, by simp, fun c hc => by cases hc; decide⟩

/-- The segment is text, or a container without an id of its own in which the platforms that have
language tabs have different slugs. -/
def Segment.HasClearIds : Segment → Prop
  | .text _ => True
  | .span kind id body => id = none ∧ (kind = .sample → (ownerSlugs body).Nodup)

instance (g : Segment) : Decidable g.HasClearIds :=
  match g with
  | .text _ => inferInstanceAs (Decidable True)
  | .span kind id body =>
    inferInstanceAs (Decidable (id = none ∧ (kind = .sample → (ownerSlugs body).Nodup)))

/-- The containers that are built have some of the ids that are drawn, in their order. -/
theorem builtAll_sublist {s : Session} {gs : List Segment} (h : ∀ g ∈ gs, g.HasClearIds) :
    ((builtAll s gs).map fun c => (⟨c.kind, c.id⟩ : DrawnId)).Sublist (drawsAll s gs) := by
  induction gs generalizing s with
  | nil => exact List.Sublist.refl _
  | cons g gs ih =>
    rw [builtAll, drawsAll, List.map_append]
    refine List.Sublist.append ?_ (ih fun g' hg => h g' (List.mem_cons_of_mem _ hg))
    rcases g with t | ⟨kind, own, body⟩
    · exact List.Sublist.refl _
    · obtain ⟨rfl, -⟩ := h _ List.mem_cons_self
      rw [Segment.container?, Segment.draws]
      cases hc : Container.ofBody? kind (s.draw kind).1 body s.preferred with
      | none => exact List.nil_sublist _
      | some c =>
        obtain ⟨hkind, hid, -⟩ := ids_ofBody? hc
        rw [Option.toList_some, List.map_singleton, hkind, hid]

/-- On all pages together, too. -/
theorem exists_counted {s : Session} {pages : List String}
    (h : ∀ page ∈ pages, ∀ g ∈ segments page.toList, g.HasClearIds) :
    ∃ ids, Counted s.drawn ids ∧
      ((inTurn built s pages).flatten.map fun c => (⟨c.kind, c.id⟩ : DrawnId)).Sublist ids := by
  induction pages generalizing s with
  | nil => exact ⟨[], counted_nil _, List.Sublist.refl _⟩
  | cons page pages ih =>
    obtain ⟨hsession, hcounted⟩ := expandAll_session s (segments page.toList)
    obtain ⟨ids, hids, hsub⟩ :=
      ih (s := (expand page s).2) fun p hp => h p (List.mem_cons_of_mem _ hp)
    have hdrawn : (expand page s).2.drawn =
        s.drawn + (drawsAll s (segments page.toList)).length := congrArg (·.drawn) hsession
    rw [hdrawn] at hids
    refine ⟨_, hcounted.append hids, ?_⟩
    rw [inTurn, List.flatten_cons, List.map_append]
    exact (builtAll_sublist (h page List.mem_cons_self)).append hsub

/-! ## Language tabs -/

theorem filter_eq_singleton {α β : Type} [DecidableEq β] {f : α → Option β} {xs : List α}
    (h : (xs.filterMap f).Nodup) {a : α} {b : β} (ha : a ∈ xs) (hb : f a = some b) :
    xs.filter (f · == some b) = [a] := by
  induction xs with
  | nil => cases ha
  | cons x xs ih =>
    have hmem : a ∈ xs → b ∈ xs.filterMap f := fun h => List.mem_filterMap.2 ⟨a, h, hb⟩
    cases hx : f x with
    | none =>
      rw [List.filterMap_cons, hx] at h
      have hne : a ≠ x := by
        rintro rfl
        rw [hx] at hb
        cases hb
      rw [List.filter_cons_of_neg (by simp [hx]), ih h ((List.mem_cons.1 ha).resolve_left hne)]
    | some y =>
      rw [List.filterMap_cons, hx, List.nodup_cons] at h
      rcases List.mem_cons.1 ha with rfl | ha
      · obtain rfl := Option.some.inj (hx.symm.trans hb)
        rw [List.filter_cons_of_pos (by simp [hx]), List.filter_eq_nil_iff.2]
        intro z hz hzb
        exact h.1 (List.mem_filterMap.2 ⟨z, hz, beq_iff_eq.1 hzb⟩)
      · have hne : y ≠ b := fun he => h.1 (he ▸ hmem ha)
        rw [List.filter_cons_of_neg (by simp [hx, hne]), ih h.2 ha]

/-- The inner tabs of a built container are language tabs, and their scope is the id of the pane that
they are in. -/
theorem scope_ofBody? {kind : Kind} {id preferred : String} {body : List Char} {c : Container}
    (hc : Container.ofBody? kind id body preferred = some c) {h : PaneHead} {level : Level}
    {tabs : List Tab} {panes : List Pane} (hp : .nested h level tabs panes ∈ c.allPanes) :
    level = .language ∧ ∀ t ∈ tabs, h.id = some t.scope := by
  obtain ⟨-, htree⟩ := treeOf_ofBody? hc
  obtain ⟨chosen, -, hf⟩ := htree.follows
  rw [Container.allPanes, panesWithin_eq] at hp
  obtain ⟨q, hq, hp⟩ := List.mem_flatMap.1 hp
  obtain ⟨i, b, hb, hi⟩ := hf.exists_branch hq
  have leaf : ∀ {b q}, IsLeafOf b q → Pane.nested h level tabs panes ∉ q.within := by
    intro b q hl hp
    rw [hl.within.1, List.mem_singleton] at hp
    rw [hl.2] at hp
    cases hp
  rcases htree.panes i b q hb hi with ⟨-, -, hid, tabs', panes', hq, hl, -, hleaf⟩ | ⟨-, hl⟩
  · rw [hq, Pane.within] at hp
    rcases List.mem_cons.1 hp with he | hp
    · obtain ⟨rfl, rfl, rfl, -⟩ := Pane.nested.inj he
      exact ⟨rfl, fun t ht => by rw [hid, hl.scopes t ht]⟩
    · -- the panes of languages are leaves
      rw [panesWithin_eq] at hp
      obtain ⟨r, hr, hp⟩ := List.mem_flatMap.1 hp
      obtain ⟨j, l, hj, hr⟩ := hl.exists_branch hr
      exact absurd hp (leaf (hleaf j l r hj hr))
  · exact absurd hp (leaf hl)

/-! ## All ids -/

theorem ids_segment (s : Session) (g : Segment) :
    (g.markup s).ids = (g.container? s).toList.flatMap Container.ids := by
  rcases g with t | ⟨kind, own, body⟩
  · rfl
  · rw [Segment.markup]
    cases Segment.container? s (.span kind own body) with
    | none => rfl
    | some c => simp [c.ids_markup]

theorem idsAll_markupAll (s : Session) (gs : List Segment) :
    Markup.idsAll (markupAll s gs) = (builtAll s gs).flatMap Container.ids := by
  induction gs generalizing s with
  | nil => rfl
  | cons g gs ih => rw [markupAll, Markup.idsAll, builtAll, List.flatMap_append, ids_segment, ih]

theorem nodup_ids {s : Session} {pages : List String}
    (h : ∀ page ∈ pages, ∀ g ∈ segments page.toList, g.HasClearIds) :
    ((inTurn built s pages).flatten.flatMap Container.ids).Nodup := by
  have spanned : ∀ c ∈ (inTurn built s pages).flatten, ∃ kind own id body preferred,
      (Segment.span kind own body).HasClearIds ∧
        Container.ofBody? kind id body preferred = some c := by
    intro c hc
    obtain ⟨cs, hcs, hc⟩ := List.mem_flatten.1 hc
    obtain ⟨page, hp, s', rfl⟩ := mem_inTurn hcs
    obtain ⟨kind, own, id, body, preferred, hg, hbuilt⟩ := mem_builtAll hc
    exact ⟨kind, own, id, body, preferred, h page hp _ hg, hbuilt⟩
  obtain ⟨ids, hcounted, hsub⟩ := exists_counted h
  refine List.nodup_flatMap.2 ⟨fun c hc => ?_, ?_⟩
  · obtain ⟨kind, own, id, body, preferred, ⟨-, hslugs⟩, hbuilt⟩ := spanned c hc
    rw [(ids_ofBody? hbuilt).2.2]
    cases kind with
    | plain => simp [paneIds]
    | sample =>
      refine List.nodup_cons.2 ⟨fun hmem => ?_, (hslugs rfl).map fun a b hab => ?_⟩
      · obtain ⟨slug, -, he⟩ := List.mem_map.1 hmem
        have := congrArg (·.toList.length) he
        simp at this
      · have := congrArg String.toList hab
        exact String.toList_injective (by simpa using this)
  · -- an id in two containers would start with the numbers of both
    have hapart := List.pairwise_map.1 (hcounted.pairwise.sublist hsub)
    refine hapart.imp_of_mem fun {a b} ha hb hab => ?_
    obtain ⟨_, _, _, _, _, -, hbuilt⟩ := spanned a ha
    obtain ⟨_, _, _, _, _, -, hbuilt'⟩ := spanned b hb
    exact fun x hx hx' =>
      hab x (startsWithId_of_mem hbuilt hx) (startsWithId_of_mem hbuilt' hx')

/-- On pages that are expanded one after another, whose containers have no ids of their own and no
two platforms with languages and the same slug, all ids of the expanded HTML are different. The inner
tabs are the language tabs, and the scope of each is the id of one pane on all pages, the one that
the tab is in. -/
theorem ids_distinct (s : Session) (pages : List String)
    (h : ∀ page ∈ pages, ∀ g ∈ segments page.toList, g.HasClearIds) :
    let containers := (inTurn built s pages).flatten
    let panes := containers.flatMap Container.allPanes
    let ids := (inTurn markup s pages).flatMap Markup.idsAll
    (inTurn markup s pages).map Markup.printAll =
        inTurn (fun s page => (expand page s).1.html) s pages ∧
      ids = containers.flatMap Container.ids ∧ ids.Nodup ∧
      ∀ c ∈ containers, c.tabs.level = .platform ∧
        ∀ head level tabs inner, .nested head level tabs inner ∈ c.allPanes →
          level = .language ∧ ∀ t ∈ tabs,
            panes.filter (·.head.id == some t.scope) = [.nested head level tabs inner] := by
  intro containers panes ids
  have hids : ids = containers.flatMap Container.ids := by
    simp only [ids, containers, List.flatMap_def, map_inTurn, List.map_flatten, List.flatten_flatten]
    congr 1
    refine congrArg (fun f => inTurn f s pages) (funext fun s => funext fun page => ?_)
    exact idsAll_markupAll s _
  have hnodup : (containers.flatMap Container.ids).Nodup := nodup_ids h
  refine ⟨?_, hids, hids ▸ hnodup, fun c hc => ?_⟩
  · rw [map_inTurn]
    exact congrArg (fun f => inTurn f s pages)
      (funext fun s => funext fun page => print_markup s page)
  · obtain ⟨cs, hcs, hin⟩ := List.mem_flatten.1 hc
    obtain ⟨page, hp, s', rfl⟩ := mem_inTurn hcs
    obtain ⟨kind, own, id, body, preferred, hg, hbuilt⟩ := mem_builtAll hin
    refine ⟨(treeOf_ofBody? hbuilt).2.level_eq, fun head level tabs inner hpane => ?_⟩
    obtain ⟨hlevel, hscope⟩ := scope_ofBody? hbuilt hpane
    refine ⟨hlevel, fun t ht => ?_⟩
    have hpanes : (panes.filterMap (·.head.id)).Nodup := by
      refine hnodup.sublist ?_
      simp only [panes, List.filterMap_flatMap]
      exact List.Sublist.flatMap_right _ fun c _ => List.sublist_cons_self ..
    exact filter_eq_singleton hpanes (List.mem_flatMap.2 ⟨c, hc, hpane⟩) (hscope t ht)

/-- A page with a container in which two platforms have languages. The name of one of them is a
number. -/
def numberedPage : String :=
  "<!--codesample--><!--platform:1--><!--lang:C-->a<!--/lang--><!--/platform-->" ++
    "<!--platform:Mac OS--><!--lang:C-->b<!--/lang--><!--/platform--><!--/codesample-->"

theorem ids_distinct_numberedPage :
    let pages := [numberedPage, numberedPage]
    let ids := (inTurn markup { preferred := "1" } pages).flatMap Markup.idsAll
    (∀ page ∈ pages, ∀ g ∈ segments page.toList, g.HasClearIds) ∧
      ids = ["code-sample-1", "code-sample-1-1", "code-sample-1-mac-os", "code-sample-2",
        "code-sample-2-1", "code-sample-2-mac-os"] ∧
      ids.Nodup := by
  intro pages ids
  have hclear : ∀ g ∈ segments numberedPage.toList, g.HasClearIds := by decide +kernel
  have hpages : ∀ page ∈ pages, ∀ g ∈ segments page.toList, g.HasClearIds := by
    simpa [pages] using hclear
  obtain ⟨-, hids, hnodup, -⟩ := ids_distinct { preferred := "1" } pages hpages
  exact ⟨hpages, hids.trans (by decide +kernel), hnodup⟩

end DocTabs.Page
