/-
What expanding a page builds: the containers of its spans, in order, and the markup of which the
expanded HTML is the print. Between the containers the markup is the text of the page, embedded as
it is.
-/
import DocTabs.Page.Expand
import DocTabs.Proofs.Tabs.Markup

namespace DocTabs.Page

open Tabs

/-! ## Containers and markup -/

/-- The container that expanding a segment builds, if it builds one. -/
def Segment.container? (s : Session) : Segment → Option Container
  | .text _ => none
  | .span kind (some id) body => Container.ofBody? kind id body s.preferred
  | .span kind none body => Container.ofBody? kind (s.draw kind).1 body s.preferred

/-- The containers that expanding segments in order builds. -/
def builtAll (s : Session) : List Segment → List Container
  | [] => []
  | g :: gs => (g.container? s).toList ++ builtAll (g.expand s).2 gs

/-- The containers that expanding a page builds. -/
def built (s : Session) (page : String) : List Container :=
  builtAll s (segments page.toList)

/-- The markup of the fragment that stands for a container without branches. -/
def emptyMarkup : Markup :=
  .element "div" [("class", errorClass)] [.text "No platform blocks found"]

/-- The markup that a segment becomes. -/
def Segment.markup (s : Session) : Segment → Markup
  | .text t => .embedded (String.ofList t)
  | .span kind id body =>
    ((Segment.container? s (.span kind id body)).map Container.markup).getD emptyMarkup

/-- The markup that segments become in order. -/
def markupAll (s : Session) : List Segment → List Markup
  | [] => []
  | g :: gs => g.markup s :: markupAll (g.expand s).2 gs

/-- The markup that a page becomes. -/
def markup (s : Session) (page : String) : List Markup :=
  markupAll s (segments page.toList)

/-! ## Printing -/

theorem print_emptyMarkup : emptyMarkup.print = emptyContainerHtml := by
  decide

theorem print_expandSpan (kind : Kind) (id : String) (body : List Char) (preferred : String) :
    (((Container.ofBody? kind id body preferred).map Container.markup).getD emptyMarkup).print =
      (expandSpan kind id body preferred).html := by
  unfold expandSpan
  cases h : Container.ofBody? kind id body preferred with
  | none => exact print_emptyMarkup
  | some c => exact print_ofBody? h

theorem print_segment (s : Session) (g : Segment) : (g.markup s).print = (g.expand s).1.html := by
  rcases g with t | ⟨kind, id, body⟩
  · rw [Segment.markup, Markup.print]; rfl
  · cases id <;> exact print_expandSpan ..

theorem print_markupAll (s : Session) (gs : List Segment) :
    Markup.printAll (markupAll s gs) = (expandAll s gs).1.html := by
  induction gs generalizing s with
  | nil => rfl
  | cons g gs ih =>
    rw [markupAll, Markup.printAll, print_segment, ih]
    rfl

/-- The HTML of an expanded page is the print of its markup. -/
theorem print_markup (s : Session) (page : String) :
    Markup.printAll (markup s page) = (expand page s).1.html :=
  print_markupAll s _

/-! ## Pages one after another -/

/-- What `f` gives for pages that are expanded one after another. -/
def inTurn {α : Type} (f : Session → String → α) (s : Session) : List String → List α
  | [] => []
  | page :: pages => f s page :: inTurn f (expand page s).2 pages

theorem map_inTurn {α β : Type} (g : α → β) (f : Session → String → α) (s : Session)
    (pages : List String) :
    (inTurn f s pages).map g = inTurn (fun s page => g (f s page)) s pages := by
  induction pages generalizing s with
  | nil => rfl
  | cons page pages ih => rw [inTurn, inTurn, List.map_cons, ih]

theorem mem_inTurn {α : Type} {f : Session → String → α} {s : Session} {pages : List String} {x : α}
    (h : x ∈ inTurn f s pages) : ∃ page ∈ pages, ∃ s', x = f s' page := by
  induction pages generalizing s with
  | nil => cases h
  | cons page pages ih =>
    rcases List.mem_cons.1 h with rfl | h
    · exact ⟨page, List.mem_cons_self, s, rfl⟩
    · obtain ⟨page', hp, hx⟩ := ih h
      exact ⟨page', List.mem_cons_of_mem _ hp, hx⟩

/-- A container that is built has the kind and the body of a span. -/
theorem mem_builtAll {s : Session} {gs : List Segment} {c : Container} (h : c ∈ builtAll s gs) :
    ∃ kind own id body preferred, .span kind own body ∈ gs ∧
      Container.ofBody? kind id body preferred = some c := by
  induction gs generalizing s with
  | nil => cases h
  | cons g gs ih =>
    rcases List.mem_append.1 h with h | h
    · have hc := Option.mem_toList.1 h
      rcases g with t | ⟨kind, _ | own, body⟩
      · cases hc
      · exact ⟨kind, _, _, body, _, List.mem_cons_self, hc⟩
      · exact ⟨kind, _, _, body, _, List.mem_cons_self, hc⟩
    · obtain ⟨kind, own, id, body, preferred, hg, hc⟩ := ih h
      exact ⟨kind, own, id, body, preferred, List.mem_cons_of_mem _ hg, hc⟩

end DocTabs.Page
