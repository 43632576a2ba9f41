/-
What becomes of each source file. A page is cut into text and spans, and its spans are rendered
under their own ids or under drawn ones, which are numbered through all pages of a build; any other
file is a copy. Treating a file is delivering its work.
-/
import DocTabs.Proofs.Page.Expansion
import DocTabs.Proofs.Site.Source
import DocTabs.Proofs.Site.Frame

namespace DocTabs.Site

open Disk FilePath Page

/-! ## Pages -/

/-- The HTML of a page file in which containers are looked for. -/
def pageHtml (form : Form) (text : String) : String :=
  match form with
  | .markdown => (Markdown.Document.ofText text).toHtml
  | _ => text

/-- The document that a page file becomes, from its expanded HTML. -/
def pageDocument (form : Form) (file : Location) (text html : String) : String :=
  match form with
  | .markdown =>
    (Standalone.mk ((Markdown.Document.ofText text).title?.getD (stem (fileName file))) html
      (file.length - 1)).toHtml
  | _ => html

/-- A page file: its text, the cut of its HTML, and the ids that its spans are rendered under. -/
structure PageCut where
  text : String
  parts : List (List Char × Span)
  last : List Char
  ids : List String

namespace PageCut

/-- The containers of the page. -/
def spans (c : PageCut) : List Span := c.parts.map (·.2)

/-- The outcome of expanding the page file. -/
def expansion (c : PageCut) (file : Location) (preferred : String) : Expansion :=
  ⟨pageDocument (Form.ofName (fileName file)) file c.text (cutHtml preferred c.parts c.ids c.last),
    c.parts.length, (c.parts.zip c.ids).filterMap fun p => spanWarning? p.1.2 p.2⟩

end PageCut

/-- A page file expands to its cut, with the ids that the session draws. -/
theorem expandPage_eq {file : Location} {c : PageCut} {s : Session}
    (hcut : Cut (pageHtml (Form.ofName (fileName file)) c.text).toList c.parts c.last)
    (hids : c.ids = spanIds s.drawn c.spans) :
    expandPage (Form.ofName (fileName file)) file c.text s = (c.expansion file s.preferred,
      { s with drawn := s.drawn + c.spans.countP (·.isAnonymous) }) := by
  have hexpand : expand (pageHtml (Form.ofName (fileName file)) c.text) s =
      (⟨cutHtml s.preferred c.parts c.ids c.last, c.parts.length,
        (c.parts.zip c.ids).filterMap fun p => spanWarning? p.1.2 p.2⟩,
        { s with drawn := s.drawn + c.spans.countP (·.isAnonymous) }) := by
    rw [expand, hcut.segments, hids, PageCut.spans, List.countP_map]
    exact expandAll_parts s c.parts c.last
  unfold PageCut.expansion
  cases hform : Form.ofName (fileName file) with
  | markdown =>
    rw [hform] at hexpand
    simp only [pageHtml] at hexpand
    simp only [expandPage, expandMarkdown, hexpand, pageDocument]
  | html => rw [hform] at hexpand; exact hexpand
  | verbatim => rw [hform] at hexpand; exact hexpand

/-! ## Works -/

/-- What becomes of one source file. -/
inductive Work where
  | page (file : Location) (cut : PageCut)
  | copy (file : Location) (f : RegularFile)

namespace Work

def file : Work → Location
  | page file _ | copy file _ => file

def isPage : Work → Bool
  | page .. => true
  | copy .. => false

/-- The containers of a page. -/
def spans : Work → List Span
  | page _ cut => cut.spans
  | copy .. => []

def ids : Work → List String
  | page _ cut => cut.ids
  | copy .. => []

/-- The number of ids that are drawn for it. -/
def drawn (work : Work) : Nat := work.spans.countP (·.isAnonymous)

/-- The bytes of the result: the document of a page, or those of the file. -/
def result (preferred : String) : Work → ByteArray
  | page file cut => (cut.expansion file preferred).html.toUTF8
  | copy _ f => f.content

/-- The mode of the result: a copy has that of the file. -/
def mode : Work → Mode
  | page .. => .readWrite
  | copy _ f => f.mode

/-- The result, as it is put at its destination. -/
def resultFile (preferred : String) (work : Work) : RegularFile :=
  ⟨work.result preferred, work.mode⟩

/-- The number of containers of a page. -/
def containers : Work → Nat
  | page _ cut => cut.parts.length
  | copy .. => 0

/-- The warnings of a page, with its path in front of each. -/
def warnings : Work → List String
  | page file cut => ((cut.parts.zip cut.ids).filterMap fun p => spanWarning? p.1.2 p.2).map
      ((relativePath file).text ++ ": " ++ ·)
  | copy .. => []

/-- What is told of it. -/
def events (preferred : String) : Work → List Event
  | page file cut => Step.pageEvents (relativePath file) (cut.expansion file preferred)
  | copy .. => []

/-- A report with the work counted in. -/
def count : Work → Report → Report
  | work@(page ..), r => { r with
      pages := r.pages + 1
      containers := r.containers + work.containers
      warnings := r.warnings ++ work.warnings }
  | copy .., r => { r with copied := r.copied + 1 }

/-- The work is that of a file on the disk, whose name tells whether it is a page. -/
inductive OfFile (d : Disk) (root : Location) : Work → Prop
  | page {file : Location} {cut : PageCut} : Form.ofName (fileName file) ≠ .verbatim →
      d.textAt (root ++ file) = .ok cut.text →
      Cut (pageHtml (Form.ofName (fileName file)) cut.text).toList cut.parts cut.last →
      OfFile d root (page file cut)
  | copy {file : Location} {f : RegularFile} : Form.ofName (fileName file) = .verbatim →
      d.get? (root ++ file) = some (.file f) → OfFile d root (copy file f)

end Work

/-- Each span has its own id or the next drawn one, where `drawn` ids have been drawn before. -/
def Numbered : Nat → List Work → Prop
  | _, [] => True
  | drawn, work :: works => work.ids = spanIds drawn work.spans ∧ Numbered (drawn + work.drawn) works

theorem Numbered.flatMap_ids {drawn : Nat} {works : List Work} (h : Numbered drawn works) :
    works.flatMap (·.ids) = spanIds drawn (works.flatMap (·.spans)) := by
  induction works generalizing drawn with
  | nil => rfl
  | cons work works ih =>
    rw [List.flatMap_cons, List.flatMap_cons, spanIds_append, ← h.1, ih h.2]
    rfl

/-- The works of all source files, in order. -/
structure Plan.Works (plan : Plan) (d : Disk) (works : List Work) : Prop where
  sources : Sources d (d.target plan.source) (d.target plan.output) (works.map (·.file))
  ofFile : ∀ work ∈ works, work.OfFile d (d.target plan.source)
  numbered : Numbered 0 works

/-- A file that is a text where it is a page has a work, whatever ids have been drawn before. -/
theorem exists_work {d : Disk} {root file : Location}
    (hfile : ∃ f, d.get? (root ++ file) = some (.file f))
    (htext : Form.ofName (fileName file) ≠ .verbatim → ∃ text, d.textAt (root ++ file) = .ok text)
    (drawn : Nat) :
    ∃ work : Work, work.file = file ∧ work.OfFile d root ∧ work.ids = spanIds drawn work.spans := by
  by_cases hform : Form.ofName (fileName file) = .verbatim
  · obtain ⟨f, hf⟩ := hfile
    exact ⟨.copy file f, rfl, .copy hform hf, rfl⟩
  · obtain ⟨text, ht⟩ := htext hform
    obtain ⟨parts, last, hcut⟩ := exists_cut (pageHtml (Form.ofName (fileName file)) text).toList
    exact ⟨.page file ⟨text, parts, last, spanIds drawn (parts.map Prod.snd)⟩, rfl,
      .page hform ht hcut, rfl⟩

theorem exists_works {d : Disk} {root : Location} {files : List Location}
    (hfile : ∀ file ∈ files, ∃ f, d.get? (root ++ file) = some (.file f))
    (htext : ∀ file ∈ files, Form.ofName (fileName file) ≠ .verbatim →
      ∃ text, d.textAt (root ++ file) = .ok text) (drawn : Nat) :
    ∃ works : List Work, works.map (·.file) = files ∧ (∀ work ∈ works, work.OfFile d root) ∧
      Numbered drawn works := by
  induction files generalizing drawn with
  | nil => exact ⟨[], rfl, nofun, trivial⟩
  | cons file files ih =>
    obtain ⟨hfile, hfile'⟩ := List.forall_mem_cons.1 hfile
    obtain ⟨htext, htext'⟩ := List.forall_mem_cons.1 htext
    obtain ⟨work, rfl, hof, hids⟩ := exists_work hfile htext drawn
    -- the files after it start from the ids that it has drawn
    obtain ⟨works, rfl, hall, hnum⟩ := ih hfile' htext' (drawn + work.drawn)
    exact ⟨work :: works, rfl, List.forall_mem_cons.2 ⟨hof, hall⟩, hids, hnum⟩

/-! ## Delivering -/

/-- Delivers a work: its ids are taken, its result is put, and it is counted. -/
def Plan.deliver (plan : Plan) (work : Work) : Step Unit := do
  Step.onSession fun s => ((), { s with drawn := s.drawn + work.drawn })
  Step.putFile (plan.destination work.file) (work.resultFile plan.preferred)
  modify fun w => { w with
    report := work.count w.report
    events := w.events ++ work.events plan.preferred }

theorem deliver_eq (plan : Plan) (work : Work) (w : Progress) :
    plan.deliver work w = match Step.putFile (plan.destination work.file) (work.resultFile plan.preferred)
        { w with session.drawn := w.session.drawn + work.drawn } with
      | .ok _ u => .ok () { u with
          report := work.count u.report
          events := u.events ++ work.events plan.preferred }
      | .error e u => .error e u := by
  unfold Plan.deliver
  rw [Step.bind_eq, show Step.onSession (fun s => ((), { s with drawn := s.drawn + work.drawn })) w =
    .ok () { w with session.drawn := w.session.drawn + work.drawn } from rfl]
  dsimp only
  rw [Step.bind_eq]
  cases Step.putFile (plan.destination work.file) (work.resultFile plan.preferred)
    { w with session.drawn := w.session.drawn + work.drawn } <;> rfl

theorem deliver_of_putFile {plan : Plan} {work : Work} {w u : Progress}
    (h : Step.putFile (plan.destination work.file) (work.resultFile plan.preferred)
      { w with session.drawn := w.session.drawn + work.drawn } = .ok () u) :
    plan.deliver work w = .ok () { u with
      report := work.count u.report
      events := u.events ++ work.events plan.preferred } := by
  rw [deliver_eq, h]

/-- On a disk that reads as `d` outside the output, treating a file is delivering its work. -/
theorem treat_eq_deliver {plan : Plan} {d : Disk} {root out : Location} {work : Work}
    (hp : d.Leads plan.output out) (hof : work.OfFile d root) (hne : work.file ≠ [])
    (hnames : ∀ s ∈ work.file, IsName s) (hout : ¬ out <+: root ++ work.file) {w : Progress}
    (hw : Outside out d w.disk) (hpreferred : w.session.preferred = plan.preferred)
    (hids : work.ids = spanIds w.session.drawn work.spans) :
    plan.treat root work.file w = plan.deliver work w := by
  -- the file lies outside the output, so it reads as it did at first
  have hsame := hw.same _ hout
  rw [deliver_eq]
  cases hof with
  | @page file cut hform htext hcut =>
    have hlook : Step.look (Location.toPath (root ++ file)) (·.textAt (root ++ file)) w =
        .ok cut.text w := by
      have htext' : w.disk.textAt (root ++ file) = .ok cut.text := by
        rwa [textAt_congr (show w.disk.get? (root ++ file) = d.get? (root ++ file) from hsame)]
      rw [Step.look, htext']
    have hexpand : Step.onSession (expandPage (Form.ofName (fileName file)) file cut.text) w =
        .ok (cut.expansion file plan.preferred)
          { w with session.drawn := w.session.drawn + (Work.page file cut).drawn } := by
      rw [Step.onSession, expandPage_eq hcut hids, ← hpreferred]
      rfl
    have hwrite : Step.write (plan.destination file) (cut.expansion file plan.preferred).html.toUTF8 =
        Step.putFile (plan.destination file) ((Work.page file cut).resultFile plan.preferred) := rfl
    rw [show (Work.page file cut).file = file from rfl, treat_of_page plan root hform]
    simp only [Step.bind_eq, hlook, hexpand, Step.record_eq, hwrite]
    cases Step.putFile (plan.destination file) ((Work.page file cut).resultFile plan.preferred)
      { w with session.drawn := w.session.drawn + (Work.page file cut).drawn } <;> rfl
  | @copy file f hform hf =>
    have hcopy := Step.copy_eq_putFile (w := w) hw.tree (hw.leads hp)
      (destination_extends plan hne hnames) (hsame.trans hf) hout
    rw [Work.file, treat_of_verbatim plan root hform, Step.bind_eq]
    rw [show Step.copy (root ++ file) (plan.destination file) w = _ from hcopy]
    have hsession : { w with session.drawn := w.session.drawn + (Work.copy file f).drawn } = w :=
      rfl
    have hresult : (Work.copy file f).resultFile plan.preferred = f := rfl
    simp only [hsession, hresult, Work.file, Work.events, List.append_nil]
    cases Step.putFile (plan.destination file) f w <;> rfl

end DocTabs.Site
