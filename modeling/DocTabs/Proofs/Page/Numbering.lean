/-
The ids of a whole build session. Whatever is asked of a session, the ids drawn since they last
started over carry the numbers 1, 2, 3, ... in the order of drawing, for all kinds and pages
together, and the session counts them. A page draws one id for each of its spans without an id, and
for nothing else in it.
-/
import DocTabs.Page.Markdown
import DocTabs.Proofs.Page.Expansion
import Mathlib.Data.List.Induction

namespace DocTabs.Page

open Tabs Text Markdown

/-! ## Drawn ids -/

/-- An id that was drawn, and the kind of container that it is for. -/
structure DrawnId where
  kind : Kind
  id : String
  deriving DecidableEq, Repr

/-- Ids that are drawn one after another when `before` ids have been drawn. -/
def Counted (before : Nat) (ids : List DrawnId) : Prop :=
  ∀ j (hj : j < ids.length),
    ids[j].id = ids[j].kind.idStem ++ "-" ++ toString (before + j + 1)

theorem counted_nil (before : Nat) : Counted before [] := fun j hj => absurd hj (Nat.not_lt_zero j)

theorem counted_draw (s : Session) (kind : Kind) : Counted s.drawn [⟨kind, (s.draw kind).1⟩] := by
  intro j hj
  obtain rfl : j = 0 := by simpa using hj
  rfl

theorem Counted.append {before : Nat} {xs ys : List DrawnId} (hx : Counted before xs)
    (hy : Counted (before + xs.length) ys) : Counted before (xs ++ ys) := by
  intro j hj
  by_cases h : j < xs.length
  · rw [List.getElem_append_left h]
    exact hx j h
  · have hlen : j - xs.length < ys.length := by
      rw [List.length_append] at hj
      omega
    rw [List.getElem_append_right (Nat.le_of_not_lt h)]
    have hid := hy (j - xs.length) hlen
    rwa [show before + xs.length + (j - xs.length) + 1 = before + j + 1 by omega] at hid

/-- The digits at the head of a number with something else behind it are those of the number. -/
theorem takeWhile_isDigit {n : Nat} {t : List Char} (ht : ∀ c ∈ t.head?, c.isDigit = false) :
    (Nat.toDigits 10 n ++ t).takeWhile Char.isDigit = Nat.toDigits 10 n := by
  have hdigits : ∀ c ∈ Nat.toDigits 10 n, c.isDigit = true :=
    fun c hc => Nat.isDigit_of_mem_toDigits (by decide) (by decide) hc
  rw [List.takeWhile_append_of_pos hdigits]
  cases t with
  | nil => rw [List.takeWhile_nil, List.append_nil]
  | cons c t => rw [List.takeWhile_cons_of_neg (by simp [ht c rfl]), List.append_nil]

/-- Drawn ids with something behind them that is not a digit are the same only if their kinds, their
numbers and what is behind them are the same. -/
theorem drawnId_append_inj {k k' : Kind} {m n : Nat} {r r' : List Char}
    (hr : ∀ c ∈ r.head?, c.isDigit = false) (hr' : ∀ c ∈ r'.head?, c.isDigit = false)
    (h : (k.idStem ++ "-" ++ toString m).toList ++ r = (k'.idStem ++ "-" ++ toString n).toList ++ r') :
    k = k' ∧ m = n ∧ r = r' := by
  have hk : k = k' := by
    -- the stems of the two kinds differ in their first letter
    have hhead := congrArg List.head? h
    cases k <;> cases k' <;> simp [Kind.idStem] at hhead ⊢
  subst hk
  simp only [String.toList_append, List.append_assoc, List.append_cancel_left_eq,
    Nat.toString_eq_ofList_toDigits, String.toList_ofList] at h
  have hdigits := congrArg (List.takeWhile Char.isDigit) h
  rw [takeWhile_isDigit hr, takeWhile_isDigit hr'] at hdigits
  rw [hdigits] at h
  have hnumber := congrArg (Nat.ofDigitChars 10 · 0) hdigits
  exact ⟨rfl, by simpa using hnumber, List.append_cancel_left h⟩

/-- The text is an id, or an id with something behind it that does not start with a digit. -/
def StartsWithId (id text : String) : Prop :=
  ∃ r, text.toList = id.toList ++ r ∧ ∀ c ∈ r.head?, c.isDigit = false

/-- Ids that are drawn one after another are not the starts of one text. -/
theorem Counted.pairwise {before : Nat} {ids : List DrawnId} (h : Counted before ids) :
    ids.Pairwise fun a b => ∀ x, StartsWithId a.id x → ¬ StartsWithId b.id x := by
  rw [List.pairwise_iff_getElem]
  rintro i j hi hj hij x ⟨r, hx, hr⟩ ⟨r', hx', hr'⟩
  rw [h i hi] at hx
  rw [h j hj] at hx'
  have := (drawnId_append_inj hr hr' (hx.symm.trans hx')).2.1
  omega

theorem Counted.nodup {before : Nat} {ids : List DrawnId} (h : Counted before ids) :
    (ids.map (·.id)).Nodup := by
  have self : ∀ id, StartsWithId id id := fun id => ⟨[], by simp, fun c hc => by cases hc⟩
  refine List.pairwise_map.2 (h.pairwise.imp fun {a b} hab heq => hab a.id (self a.id) ?_)
  rw [heq]
  exact self b.id

/-! ## Pages -/

/-- The id that expanding a segment draws, if it draws one. -/
def Segment.draws (s : Session) : Segment → List DrawnId
  | .span kind none _ => [⟨kind, (s.draw kind).1⟩]
  | .span _ (some _) _ | .text _ => []

/-- The ids that expanding segments in order draws. -/
def drawsAll (s : Session) : List Segment → List DrawnId
  | [] => []
  | g :: gs => g.draws s ++ drawsAll (g.expand s).2 gs

/-- The spans without an id among some spans, each with the id that it is rendered under. -/
def drawnOf (spans : List Span) (ids : List String) : List DrawnId :=
  ((spans.zip ids).filter (·.1.isAnonymous)).map fun p => ⟨p.1.kind, p.2⟩

theorem expand_session (s : Session) (g : Segment) :
    (g.expand s).2 = { s with drawn := s.drawn + (g.draws s).length } := by
  rcases g with t | ⟨kind, id, body⟩
  · rfl
  · cases id <;> rfl

theorem counted_draws (s : Session) (g : Segment) : Counted s.drawn (g.draws s) := by
  rcases g with t | ⟨kind, id, body⟩
  · exact counted_nil _
  · cases id with
    | none => exact counted_draw s kind
    | some id => exact counted_nil _

theorem expandAll_session (s : Session) (gs : List Segment) :
    (expandAll s gs).2 = { s with drawn := s.drawn + (drawsAll s gs).length } ∧
      Counted s.drawn (drawsAll s gs) := by
  induction gs generalizing s with
  | nil => exact ⟨rfl, counted_nil _⟩
  | cons g gs ih =>
    obtain ⟨hsession, hcounted⟩ := ih (g.expand s).2
    constructor
    · show (expandAll (g.expand s).2 gs).2 = _
      rw [hsession, drawsAll, List.length_append, expand_session]
      simp only [Nat.add_assoc]
    · refine (counted_draws s g).append ?_
      rw [expand_session] at hcounted ⊢
      exact hcounted

theorem draws_segment (s : Session) (span : Span) :
    span.segment.draws s = drawnOf [span] [span.idAfter s.drawn] := by
  obtain ⟨kind, id, body⟩ := span
  cases id <;> rfl

theorem drawsAll_parts (s : Session) (parts : List (List Char × Span)) (last : List Char) :
    drawsAll s ((parts.flatMap fun p => [.text p.1, p.2.segment]) ++ [.text last]) =
      drawnOf (parts.map (·.2)) (spanIds s.drawn (parts.map (·.2))) := by
  induction parts generalizing s with
  | nil => rfl
  | cons p parts ih =>
    obtain ⟨gap, span⟩ := p
    rw [List.flatMap_cons, List.append_assoc, List.cons_append, List.cons_append, List.nil_append]
    show span.segment.draws s ++ drawsAll (span.segment.expand s).2 _ = _
    rw [ih, expand_segment, draws_segment, List.map_cons, spanIds_cons]
    simp only [drawnOf, List.zip_cons_cons, ← List.map_append, ← List.filter_append]
    rfl

/-! ## Uses of a session -/

/-- What can be done with a session. -/
inductive Use where
  | draw (kind : Kind)
  | page (html : String)
  | markdown (text : String)
  | reset
  /-- A new session takes its place. -/
  | renew (preferred : String)

namespace Use

/-- The session after a use. -/
def next (s : Session) : Use → Session
  | draw kind => (s.draw kind).2
  | page html => (expand html s).2
  | markdown text => (expandMarkdown text s).2
  | reset => s.reset
  | renew preferred => { preferred }

/-- The HTML in which a use looks for containers. -/
def html? : Use → Option String
  | page html => some html
  | markdown text => some (Document.ofText text).toHtml
  | draw _ | reset | renew _ => none

/-- The outcome of expanding that HTML. -/
def expansion? (s : Session) : Use → Option Expansion
  | page html => some (expand html s).1
  | markdown text => some (expandMarkdown text s).1.2
  | draw _ | reset | renew _ => none

/-- The ids that a use draws. -/
def draws (s : Session) : Use → List DrawnId
  | draw kind => [⟨kind, (s.draw kind).1⟩]
  | page html => drawsAll s (segments html.toList)
  | markdown text => drawsAll s (segments (Document.ofText text).toHtml.toList)
  | reset | renew _ => []

/-- Whether ids start over with a use. -/
def startsOver : Use → Bool
  | reset | renew _ => true
  | draw _ | page _ | markdown _ => false

/-- The preferred platform of a new session. -/
def renewed? : Use → Option String
  | renew preferred => some preferred
  | draw _ | page _ | markdown _ | reset => none

end Use

/-- A session, and the ids drawn since they last started over. -/
structure History where
  session : Session
  drawn : List DrawnId := []

namespace History

/-- The history after a use. -/
def use (h : History) (u : Use) : History :=
  ⟨u.next h.session, if u.startsOver then [] else h.drawn ++ u.draws h.session⟩

/-- The history of a new session after some uses. -/
def run (preferred : String) (uses : List Use) : History :=
  uses.foldl use { session := { preferred } }

/-- The session counts the ids drawn, and they are numbered from 1. -/
structure Numbered (h : History) : Prop where
  count : h.session.drawn = h.drawn.length
  counted : Counted 0 h.drawn

theorem run_concat (preferred : String) (uses : List Use) (u : Use) :
    run preferred (uses ++ [u]) = (run preferred uses).use u := by
  simp [run]

end History

theorem Use.next_of_not_startsOver {u : Use} (h : u.startsOver = false) (s : Session) :
    u.next s = { s with drawn := s.drawn + (u.draws s).length } ∧ Counted s.drawn (u.draws s) := by
  cases u with
  | draw kind => exact ⟨rfl, counted_draw s kind⟩
  | page html => exact expandAll_session s _
  | markdown text => exact expandAll_session s _
  | reset => cases h
  | renew preferred => cases h

theorem Use.next_of_startsOver {u : Use} (h : u.startsOver = true) (s : Session) :
    (u.next s).drawn = 0 := by
  cases u with
  | reset => rfl
  | renew preferred => rfl
  | draw kind => cases h
  | page html => cases h
  | markdown text => cases h

theorem History.Numbered.use {h : History} (hn : h.Numbered) (u : Use) : (h.use u).Numbered := by
  unfold History.use
  cases hu : u.startsOver with
  | true => exact ⟨u.next_of_startsOver hu h.session, counted_nil 0⟩
  | false =>
    obtain ⟨hnext, hcounted⟩ := u.next_of_not_startsOver hu h.session
    rw [hn.count] at hcounted
    refine ⟨?_, hn.counted.append (by rwa [Nat.zero_add])⟩
    rw [hnext, if_neg (by simp), List.length_append, hn.count]

theorem Use.preferred_next (u : Use) (s : Session) :
    (u.next s).preferred = u.renewed?.getD s.preferred := by
  cases u with
  | draw kind => rfl
  | page html => exact congrArg (·.preferred) (expandAll_session s _).1
  | markdown text => exact congrArg (·.preferred) (expandAll_session s _).1
  | reset => rfl
  | renew preferred => rfl

theorem History.numbered_run (preferred : String) (uses : List Use) :
    (History.run preferred uses).Numbered := by
  -- the last use is the one that changes the history, so the induction is from the end
  induction uses using List.reverseRecOn with
  | nil => exact ⟨rfl, counted_nil 0⟩
  | append_singleton uses u ih =>
    rw [History.run_concat]
    exact ih.use u

theorem History.preferred_run (preferred : String) (uses : List Use) :
    (History.run preferred uses).session.preferred =
      ((uses.filterMap (·.renewed?)).getLast?).getD preferred := by
  induction uses using List.reverseRecOn with
  | nil => rfl
  | append_singleton uses u ih =>
    rw [History.run_concat, List.filterMap_append]
    show (u.next (History.run preferred uses).session).preferred = _
    rw [u.preferred_next, ih]
    cases hu : u.renewed? <;> simp [hu]

/-- A page that a use expands is rendered with the ids of its spans, and draws those of the spans
without one. -/
theorem Use.expands {u : Use} {html : String} {parts : List (List Char × Span)} {last : List Char}
    (hu : u.html? = some html) (hcut : Cut html.toList parts last) (s : Session) :
    let ids := spanIds s.drawn (parts.map (·.2))
    u.startsOver = false ∧ u.draws s = drawnOf (parts.map (·.2)) ids ∧
      (u.expansion? s).map (·.html) = some (cutHtml s.preferred parts ids last) ∧
      (u.next s).drawn = s.drawn + parts.countP (·.2.isAnonymous) := by
  intro ids
  have hdraws : drawsAll s (segments html.toList) = drawnOf (parts.map (·.2)) ids := by
    rw [hcut.segments, drawsAll_parts]
  have hexpand := expandAll_parts s parts last
  rw [← hcut.segments] at hexpand
  have hhtml := congrArg (fun p : Expansion × Session => p.1.html) hexpand
  have hdrawn := congrArg (fun p : Expansion × Session => p.2.drawn) hexpand
  cases u with
  | page text =>
    cases hu
    exact ⟨rfl, hdraws, congrArg some hhtml, hdrawn⟩
  | markdown text =>
    cases hu
    exact ⟨rfl, hdraws, congrArg some hhtml, hdrawn⟩
  | draw kind => cases hu
  | reset => cases hu
  | renew preferred => cases hu

/-- After every run of a session: it counts the ids drawn since they last started over; the j-th of
them is the stem of its kind with the number j, so none of them comes twice; the preferred platform
is that of the latest session; and the next page, HTML or markdown, draws an id for each span of its
only cut that has none, empty or not, and for nothing else. -/
theorem run_draws_in_order (preferred : String) (uses : List Use) :
    let h := History.run preferred uses
    h.session.drawn = h.drawn.length ∧
      (∀ j (hj : j < h.drawn.length),
        h.drawn[j].id = h.drawn[j].kind.idStem ++ "-" ++ toString (j + 1)) ∧
      (h.drawn.map (·.id)).Nodup ∧
      h.session.preferred = ((uses.filterMap (·.renewed?)).getLast?).getD preferred ∧
      ∀ (u : Use) (html : String), u.html? = some html →
        ∃ parts last, Cut html.toList parts last ∧
          (∀ parts' last', Cut html.toList parts' last' → parts' = parts ∧ last' = last) ∧
          let ids := spanIds h.session.drawn (parts.map (·.2))
          (h.use u).drawn = h.drawn ++ drawnOf (parts.map (·.2)) ids ∧
          (u.expansion? h.session).map (·.html) =
            some (cutHtml h.session.preferred parts ids last) ∧
          (h.use u).session.drawn = h.session.drawn + parts.countP (·.2.isAnonymous) := by
  intro h
  have hn := History.numbered_run preferred uses
  refine ⟨hn.count, fun j hj => ?_, hn.counted.nodup, History.preferred_run preferred uses, ?_⟩
  · have := hn.counted j hj
    rwa [Nat.zero_add] at this
  · intro u html hu
    obtain ⟨parts, last, hcut⟩ := exists_cut html.toList
    refine ⟨parts, last, hcut, fun _ _ h' => hcut.unique h', ?_⟩
    intro ids
    obtain ⟨hover, hdraws, hhtml, hdrawn⟩ := u.expands hu hcut h.session
    refine ⟨?_, hhtml, hdrawn⟩
    rw [History.use, hover, if_neg (by simp), hdraws]

example : (History.run "iOS" [.draw .plain, .reset, .draw .plain, .draw .sample]).drawn.map (·.id) =
    ["platform-tabs-1", "code-sample-2"] := by
  decide +kernel

end DocTabs.Page
