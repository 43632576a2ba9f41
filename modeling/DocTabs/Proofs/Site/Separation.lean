/-
Pages do not touch one another. Two builds whose source files differ in the text of one page, but not
in how many of its containers have no id, write the same bytes for every other file: of all that a
page does, only the number of ids that it draws reaches the files after it.
-/
import DocTabs.Proofs.Site.Sequence

namespace DocTabs.Page

/-- Whether a piece of a page is a container without an id. -/
def Segment.isAnonymous : Segment → Bool
  | .span _ none _ => true
  | .span _ (some _) _ | .text _ => false

theorem Cut.countP_segments {s last : List Char} {parts : List (List Char × Span)}
    (h : Cut s parts last) :
    (Page.segments s).countP (·.isAnonymous) = parts.countP (·.2.isAnonymous) := by
  have hspan : ∀ span : Span, span.segment.isAnonymous = span.isAnonymous := by
    rintro ⟨kind, _ | id, body⟩ <;> rfl
  rw [h.segments]
  clear h
  induction parts with
  | nil => rfl
  | cons p parts ih =>
    rw [List.flatMap_cons, List.append_assoc, List.countP_append, ih, List.countP_cons, Nat.add_comm]
    rw [List.countP_cons, List.countP_cons, hspan]
    simp [Segment.isAnonymous]

end DocTabs.Page

namespace DocTabs.Site

open Disk Page

/-- The number of containers without an id in the HTML of a page file. -/
def anonymousIn (form : Form) (text : String) : Nat :=
  (segments (pageHtml form text).toList).countP (·.isAnonymous)

/-- Two builds of the same source files, that at `page` apart, for the same platform and into output
directories with the same files. Where the directories lie, and what lies elsewhere, may differ. -/
structure SameBut (page : Location) (plan plan' : Plan) (d d' : Disk) : Prop where
  preferred : plan'.preferred = plan.preferred
  isSource : ∀ file, IsSource d' (d'.target plan'.source) (d'.target plan'.output) file ↔
    IsSource d (d.target plan.source) (d.target plan.output) file
  source : ∀ file, IsSource d (d.target plan.source) (d.target plan.output) file → file ≠ page →
    d'.bytes? (d'.target plan'.source ++ file) = d.bytes? (d.target plan.source ++ file)
  output : ∀ l, d'.bytes? (d'.target plan'.output ++ l) = d.bytes? (d.target plan.output ++ l)

variable {plan plan' : Plan} {d d' : Disk} {root root' out page : Location} {work work' : Work}
  {works works' : List Work} {text text' : String} {drawn : Nat}

/-! ## Works of the same files -/

/-- A page draws as many ids as it has containers without one. -/
theorem Work.OfFile.drawn_eq (h : work.OfFile d root) (hpage : work.isPage = true)
    (htext : d.textAt (root ++ work.file) = .ok text) :
    work.drawn = anonymousIn (Form.ofName (fileName work.file)) text := by
  cases h with
  | copy => cases hpage
  | @page file cut _ hcut hparts =>
    obtain rfl : cut.text = text := Except.ok.inj (hcut.symm.trans htext)
    rw [Work.drawn, Work.file, Work.spans, PageCut.spans, List.countP_map, anonymousIn,
      hparts.countP_segments]
    rfl

theorem Work.drawn_of_not_isPage (h : work.isPage = false) : work.drawn = 0 := by
  cases work with
  | page => cases h
  | copy => rfl

/-- What a work draws and results in is known by the bytes of its file and by how many ids have been
drawn before. -/
theorem Work.OfFile.result_eq (h : work.OfFile d root) (h' : work'.OfFile d' root')
    (hfile : work'.file = work.file)
    (hbytes : d'.bytes? (root' ++ work.file) = d.bytes? (root ++ work.file))
    (hids : work.ids = spanIds drawn work.spans) (hids' : work'.ids = spanIds drawn work'.spans) :
    work'.drawn = work.drawn ∧ ∀ preferred, work'.result preferred = work.result preferred := by
  cases h with
  | @page file cut hform htext hcut =>
    cases h' with
    | @copy file' f hform' =>
      obtain rfl : file' = file := hfile
      exact absurd hform' hform
    | @page file' cut' hform' htext' hcut' =>
      obtain rfl : file' = file := hfile
      obtain ⟨f, hf, hdecode⟩ := textAt_eq_ok.1 htext
      obtain ⟨f', hf', hdecode'⟩ := textAt_eq_ok.1 htext'
      rw [Work.file, bytes?_of_file hf, bytes?_of_file hf', Option.some.injEq] at hbytes
      rw [hbytes] at hdecode'
      obtain ⟨text, parts, last, ids⟩ := cut
      obtain ⟨text', parts', last', ids'⟩ := cut'
      obtain rfl : text = text' := Except.ok.inj (hdecode.symm.trans hdecode')
      obtain ⟨rfl, rfl⟩ := hcut.unique hcut'
      obtain rfl : ids' = ids := hids'.trans hids.symm
      exact ⟨rfl, fun _ => rfl⟩
  | @copy file f hform hf =>
    cases h' with
    | @page file' cut' hform' =>
      obtain rfl : file' = file := hfile
      exact absurd hform hform'
    | @copy file' f' _ hf' =>
      obtain rfl : file' = file := hfile
      rw [Work.file, bytes?_of_file hf, bytes?_of_file hf', Option.some.injEq] at hbytes
      exact ⟨rfl, fun _ => hbytes⟩

/-- Works of one file that draw as many ids, and have the same result unless it is the page. -/
def Work.Agrees (page : Location) (work work' : Work) : Prop :=
  work'.file = work.file ∧ work'.drawn = work.drawn ∧
    (work.file ≠ page → ∀ preferred, work'.result preferred = work.result preferred)

theorem Work.OfFile.agrees (h : work.OfFile d root) (h' : work'.OfFile d' root')
    (hfile : work'.file = work.file)
    (hbytes : work.file ≠ page → d'.bytes? (root' ++ work.file) = d.bytes? (root ++ work.file))
    (htext : d.textAt (root ++ page) = .ok text) (htext' : d'.textAt (root' ++ page) = .ok text')
    (hcount : anonymousIn (Form.ofName (fileName page)) text' =
      anonymousIn (Form.ofName (fileName page)) text)
    (hids : work.ids = spanIds drawn work.spans) (hids' : work'.ids = spanIds drawn work'.spans) :
    work.Agrees page work' := by
  by_cases hpage : work.file = page
  · refine ⟨hfile, ?_, fun hne => absurd hpage hne⟩
    have hsame : work'.isPage = work.isPage := by rw [h.isPage_eq, h'.isPage_eq, hfile]
    cases hform : work.isPage with
    | true =>
      rw [h.drawn_eq hform (hpage ▸ htext), h'.drawn_eq (hsame.trans hform)
        (by rwa [hfile, hpage]), hfile, hpage, hcount]
    | false => rw [drawn_of_not_isPage hform, drawn_of_not_isPage (hsame.trans hform)]
  · obtain ⟨hdrawn, hresult⟩ := h.result_eq h' hfile (hbytes hpage) hids hids'
    exact ⟨hfile, hdrawn, fun _ => hresult⟩

/-- Along both walks, as many ids have been drawn before each file, so the works agree. -/
theorem forall₂_agrees (hfiles : works'.map (·.file) = works.map (·.file))
    (hof : ∀ work ∈ works, work.OfFile d root) (hof' : ∀ work ∈ works', work.OfFile d' root')
    (hbytes : ∀ work ∈ works, work.file ≠ page →
      d'.bytes? (root' ++ work.file) = d.bytes? (root ++ work.file))
    (htext : d.textAt (root ++ page) = .ok text) (htext' : d'.textAt (root' ++ page) = .ok text')
    (hcount : anonymousIn (Form.ofName (fileName page)) text' =
      anonymousIn (Form.ofName (fileName page)) text)
    (hnum : Numbered drawn works) (hnum' : Numbered drawn works') :
    List.Forall₂ (Work.Agrees page) works works' := by
  induction works generalizing works' drawn with
  | nil =>
    obtain rfl : works' = [] := List.map_eq_nil_iff.1 hfiles
    exact .nil
  | cons work works ih =>
    obtain ⟨work', works', rfl, hfile, hfiles⟩ := List.map_eq_cons_iff.1 hfiles
    obtain ⟨hof, hofs⟩ := List.forall_mem_cons.1 hof
    obtain ⟨hof', hofs'⟩ := List.forall_mem_cons.1 hof'
    obtain ⟨hbytes, hbytes'⟩ := List.forall_mem_cons.1 hbytes
    have hagrees := hof.agrees hof' hfile hbytes htext htext' hcount hnum.1 hnum'.1
    -- both have drawn the same number of ids, from which the works after them go on
    refine .cons hagrees (ih hfiles hofs hofs' hbytes' hnum.2 ?_)
    rw [← hagrees.2.1]
    exact hnum'.2

/-! ## What they write -/

/-- Writes below a directory, seen from it. -/
theorem latest_below (out : Location) (writes : List (Location × RegularFile)) (l : Location) :
    latest (writes.map fun p => (out ++ p.1, p.2)) (out ++ l) = latest writes l := by
  induction writes with
  | nil => rfl
  | cons p writes ih => simp only [List.map_cons, latest_cons, ih, List.append_cancel_left_eq]

theorem writes_eq_below (plan : Plan) (out : Location) (works : List Work) :
    plan.writes out works = (plan.writes [] works).map fun p => (out ++ p.1, p.2) := by
  have hwork : plan.writeOf out = (fun p => (out ++ p.1, p.2)) ∘ plan.writeOf [] := rfl
  have hasset : (·.writeOf out) = (fun p => (out ++ p.1, p.2)) ∘ fun a : Asset => a.writeOf [] := rfl
  rw [Plan.writes, Plan.writes, List.map_append, List.map_map, List.map_map, hwork, hasset]

/-- Works that agree off a page write the same bytes, except where the result of the page goes. -/
theorem latest_writes_congr (h : List.Forall₂ (Work.Agrees page) works works')
    (hpreferred : plan'.preferred = plan.preferred) {l : Location} (hl : l ≠ outputOf page) :
    (latest (plan'.writes [] works') l).map (·.content) =
      (latest (plan.writes [] works) l).map (·.content) := by
  have hworks : (latest (works'.map (plan'.writeOf [])) l).map (·.content) =
      (latest (works.map (plan.writeOf [])) l).map (·.content) := by
    induction h with
    | nil => rw [List.map_nil, List.map_nil]
    | @cons work work' works works' hagrees _ ih =>
      obtain ⟨hfile, -, hsame⟩ := hagrees
      rw [List.map_cons, List.map_cons, latest_cons, latest_cons, Option.map_or, Option.map_or, ih]
      by_cases hpage : work.file = page
      · simp [Plan.writeOf, hfile, hpage, hl]
      · by_cases hplace : l = outputOf work.file <;>
          simp [Plan.writeOf, Work.resultFile, hfile, hpreferred, hplace, hsame hpage]
  rw [Plan.writes, Plan.writes, latest_append, latest_append, Option.map_or, Option.map_or, hworks]

/-! ## Both builds -/

variable {r r' : Report}

/-- The files below the output directory hold what those from before do, with the writes over them. -/
theorem bytes?_of_built (hd : d.IsTree) (hout : ¬ d.target plan.output <+: d.target plan.source)
    (hw : plan.Works d works) (h : (build plan d).result = .ok r) (l : Location) :
    (build plan d).disk.bytes? (d.target plan.output ++ l) =
      ((latest (plan.writes [] works) l).map (·.content)).or (d.bytes? (d.target plan.output ++ l)) := by
  obtain ⟨m, hm, -, hwrote, -⟩ := built hd hout hw h
  rw [bytes?, hwrote, writes_eq_below, latest_below, hm.grown.file?_eq, Option.map_or]
  rfl

/-- Replace the text of one page by another with as many containers without an id, and let all else
about them, the title and the other containers differ: builds of both sites that succeed leave the
same bytes in every file of the output directory, except at the destination of the page. -/
theorem build_separates {page : Location} {text text' : String} (hd : d.IsTree) (hd' : d'.IsTree)
    (hout : ¬ d.target plan.output <+: d.target plan.source)
    (hout' : ¬ d'.target plan'.output <+: d'.target plan'.source)
    (hsame : SameBut page plan plan' d d')
    (htext : d.textAt (d.target plan.source ++ page) = .ok text)
    (htext' : d'.textAt (d'.target plan'.source ++ page) = .ok text')
    (hcount : anonymousIn (Form.ofName (fileName page)) text' =
      anonymousIn (Form.ofName (fileName page)) text)
    (h : (build plan d).result = .ok r) (h' : (build plan' d').result = .ok r') (l : Location)
    (hl : l ≠ outputOf page) :
    (build plan' d').disk.bytes? (d'.target plan'.output ++ l) =
      (build plan d).disk.bytes? (d.target plan.output ++ l) := by
  obtain ⟨w, hsteps, -⟩ := build_ok h
  obtain ⟨w', hsteps', -⟩ := build_ok h'
  obtain ⟨works, hw⟩ := exists_works_of_ok hd hout hsteps
  obtain ⟨works', hw'⟩ := exists_works_of_ok hd' hout' hsteps'
  have hfiles : works'.map (·.file) = works.map (·.file) :=
    Sources.unique ⟨hw'.sources.ordered, fun file => (hw'.sources.mem file).trans (hsame.isSource file)⟩
      hw.sources
  have hagree : List.Forall₂ (Work.Agrees page) works works' :=
    forall₂_agrees hfiles hw.ofFile hw'.ofFile (fun work hwork => hsame.source _ (hw.isSource hwork))
      htext htext' hcount hw.numbered hw'.numbered
  rw [bytes?_of_built hd hout hw h, bytes?_of_built hd' hout' hw' h', hsame.output,
    latest_writes_congr hagree hsame.preferred hl]

/-! ## Two pages -/

/-- A source directory with two pages, and an output directory beside it. -/
def twoPages (text : String) : Disk where
  nodes := [
    (["docs"], .directory),
    (["docs", "intro.html"], .file { content := text.toUTF8 }),
    (["docs", "setup.html"], .file { content := "<!-- codesample --><!-- /codesample -->".toUTF8 }),
    (["site"], .directory),
    (["site", "assets"], .directory)]

/-- A build from `docs` to `site`. -/
def besidePlan : Plan := ⟨⟨"docs"⟩, ⟨"site"⟩, "Android"⟩

theorem twoPages_isTree (text : String) : (twoPages text).IsTree := of_decide_eq_true rfl

theorem twoPages_outside (text : String) :
    ¬ (twoPages text).target besidePlan.output <+: (twoPages text).target besidePlan.source :=
  of_decide_eq_true rfl

theorem twoPages_sources (text : String) :
    sourcesFrom (twoPages text) ["docs"] ["site"] (twoPages text).height [] =
      [["intro.html"], ["setup.html"]] := by
  have hnames : (twoPages text).nodes.filterMap (fun e => nameIn? (["docs"] ++ []) e.1) =
    ["intro.html", "setup.html"] := rfl
  rw [show (twoPages text).height = 3 from rfl, sourcesFrom, shown_of_ordered hnames (by decide)]
  rfl

theorem twoPages_builds (text : String) : ∃ r works, (build besidePlan (twoPages text)).result = .ok r ∧
    besidePlan.Works (twoPages text) works ∧ works.map (·.file) = [["intro.html"], ["setup.html"]] :=
  build_of_listed (twoPages_isTree text) (leads_iff.2 (of_decide_eq_true rfl))
    (leads_iff.2 (of_decide_eq_true rfl)) (twoPages_outside text) (twoPages_sources text)
    (fun file hfile _ => by
      simp only [List.mem_cons, List.not_mem_nil, or_false] at hfile
      rcases hfile with rfl | rfl <;> exact ⟨_, textAt_of_toUTF8 rfl⟩)
    (of_decide_eq_true rfl) (of_decide_eq_true rfl)
    (fun a => by cases a <;> exact of_decide_eq_true rfl)

/-- A page with one container. -/
def oneTabs : String := "<!-- platformtabs --><!-- /platformtabs -->"

/-- A page with one container without an id, of the other kind, behind a heading and a container with
an id. -/
def twoTabs : String :=
  "<h1>Intro</h1><!-- platformtabs id=\"x\" --><!-- /platformtabs --><!-- codesample --><!-- /codesample -->"

theorem anonymousIn_twoTabs : anonymousIn .html twoTabs = anonymousIn .html oneTabs := by
  decide +kernel

theorem sameBut_twoPages (text text' : String) :
    SameBut ["intro.html"] besidePlan besidePlan (twoPages text) (twoPages text') where
  preferred := rfl
  isSource file := by
    obtain ⟨-, works, -, hw, hfiles⟩ := twoPages_builds text
    obtain ⟨-, works', -, hw', hfiles'⟩ := twoPages_builds text'
    rw [← hw.sources.mem, ← hw'.sources.mem, hfiles, hfiles']
  source file hfile hne := by
    obtain ⟨-, works, -, hw, hfiles⟩ := twoPages_builds text
    have := (hw.sources.mem file).2 hfile
    rw [hfiles] at this
    simp only [List.mem_cons, List.not_mem_nil, or_false] at this
    rcases this with rfl | rfl
    · exact absurd rfl hne
    · rfl
  output l := by
    show (twoPages text').bytes? (["site"] ++ l) = (twoPages text).bytes? (["site"] ++ l)
    simp [bytes?, file?, get?, twoPages, List.lookup_cons]

theorem build_separates_twoPages :
    (twoPages oneTabs).IsTree ∧ (twoPages twoTabs).IsTree ∧
    SameBut ["intro.html"] besidePlan besidePlan (twoPages oneTabs) (twoPages twoTabs) ∧
    anonymousIn .html twoTabs = anonymousIn .html oneTabs ∧
    (∃ r, (build besidePlan (twoPages oneTabs)).result = .ok r) ∧
    (∃ r, (build besidePlan (twoPages twoTabs)).result = .ok r) ∧
    (build besidePlan (twoPages twoTabs)).disk.bytes? ["site", "setup.html"] =
      (build besidePlan (twoPages oneTabs)).disk.bytes? ["site", "setup.html"] := by
  obtain ⟨r, -, h, -⟩ := twoPages_builds oneTabs
  obtain ⟨r', -, h', -⟩ := twoPages_builds twoTabs
  have hsame := sameBut_twoPages oneTabs twoTabs
  exact ⟨twoPages_isTree _, twoPages_isTree _, hsame, anonymousIn_twoTabs, ⟨r, h⟩, ⟨r', h'⟩,
    build_separates (twoPages_isTree _) (twoPages_isTree _) (twoPages_outside _) (twoPages_outside _)
      hsame (textAt_of_toUTF8 rfl) (textAt_of_toUTF8 rfl) anonymousIn_twoTabs h h' ["setup.html"]
      (by decide)⟩

end DocTabs.Site
