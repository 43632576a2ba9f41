/-
Pages that find the assets. A build that succeeds leaves, at the destination of every markdown page that
it visits, a document around HTML whose depth is that of the page; so from the directory of the document
its two addresses denote the stylesheet and the script that the build writes. This also holds where the
output directory holds the source directory: what is treated later either goes elsewhere, or is a
markdown page of the same directory and stem.
-/
import DocTabs.Proofs.Site.Address
import DocTabs.Proofs.Site.Partial
import DocTabs.Proofs.Site.Success

namespace DocTabs.Disk.FilePath

/-! ## Extensions -/

/-- A name is its stem and its extension with a dot between them. -/
theorem stem_extension {name extension : String} (h : extension? name = some extension) :
    stem name ++ "." ++ extension = name := by
  have hname : ".".intercalate ((name.toList.splitOn '.').map String.ofList) = name := by
    apply String.toList_inj.1
    rw [String.toList_intercalate, List.map_map,
      show String.toList ∘ String.ofList = id from funext fun _ => String.toList_ofList, List.map_id]
    exact List.intercalate_splitOn '.'
  unfold extension? stem cutName at *
  rw [splitOn_eq] at *
  split at h
  · rename_i last first more hpieces
    split at h
    · cases h
    · rename_i hcut
      obtain rfl := Option.some.inj h
      rw [if_neg hcut]
      have hsplit : (name.toList.splitOn '.').map String.ofList = (first :: more).reverse ++ [last] := by
        rw [← List.reverse_inj, ← List.map_reverse, hpieces]
        simp
      rw [hsplit, String.intercalate_append_of_ne_nil (by simp) (by simp),
        String.intercalate_singleton] at hname
      exact hname
  · cases h

end DocTabs.Disk.FilePath

namespace DocTabs.Site

open Disk FilePath Step

variable {plan : Plan} {d e m : Disk} {root out excluded l dir file later : Location} {name next : String}
  {P : RegularFile → Prop} {f : RegularFile} {w w' : Progress}

/-! ## Results at one place -/

theorem extension_of_markdown (h : Form.ofName name = .markdown) :
    ∃ extension ∈ ["md", "markdown"], extension? name = some extension := by
  unfold Form.ofName at h
  split at h
  · rename_i extension hextension
    split at h
    · rename_i hmem
      exact ⟨extension, hmem, hextension⟩
    · split at h <;> cases h
  · cases h

theorem outputName_markdown (h : Form.ofName name = .markdown) :
    outputName name = stem name ++ "." ++ "html" := by
  rw [outputName, h]

/-- What comes after a markdown page in order, and has a result of the same name, is a markdown page:
an HTML page of the same stem comes before it. -/
theorem markdown_of_outputName (hname : Form.ofName name = .markdown) (hlt : name < next)
    (h : outputName next = outputName name) : Form.ofName next = .markdown := by
  by_contra hnext
  have hself : outputName next = next := by
    unfold outputName
    split
    · contradiction
    · rfl
  obtain ⟨extension, hmem, hextension⟩ := extension_of_markdown hname
  have hbefore : "html".toList < extension.toList := by
    simp only [List.mem_cons, List.not_mem_nil, or_false] at hmem
    rcases hmem with rfl | rfl <;> decide
  have hresult : next = stem name ++ "." ++ "html" := by
    rw [← hself, h, outputName_markdown hname]
  have htext : ∀ s, (stem name ++ "." ++ s).toList = (stem name ++ ".").toList ++ s.toList :=
    fun _ => String.toList_append
  rw [hresult] at hlt
  refine lt_asymm hlt ?_
  nth_rewrite 2 [← stem_extension hextension]
  rw [String.lt_iff, htext, htext]
  exact List.append_left_lt hbefore

/-- The file of a document as deep as the result of a file. -/
def IsDocument (file : Location) (f : RegularFile) : Prop :=
  ∃ p : Standalone, p.depth = file.dropLast.length ∧ f = { content := p.toHtml.toUTF8 }

theorem MayPut.isDocument (h : MayPut file f)
    (hform : Form.ofName (fileName file) = .markdown) : IsDocument file f := by
  obtain ⟨text, s, rfl⟩ := h (by rw [hform]; nofun)
  rw [hform]
  exact ⟨_, (List.length_dropLast ..).symm, rfl⟩

/-- A file that is treated after a markdown page, in the same directory or below another name, puts a
document as deep where its result goes to the same place. -/
theorem MayPut.of_later {more : Location} (hform : Form.ofName (fileName (dir ++ name :: more)) = .markdown)
    (hlater : dir ++ [next] <+: later) (hlt : name < next)
    (hsame : outputOf later = outputOf (dir ++ name :: more)) (h : MayPut later f) :
    IsDocument (dir ++ name :: more) f := by
  obtain ⟨rest, rfl⟩ := hlater
  rw [List.append_assoc, List.singleton_append] at hsame h
  obtain ⟨hdir, hnames⟩ := List.append_inj' hsame rfl
  rw [List.dropLast_append_of_ne_nil (by simp), List.dropLast_append_of_ne_nil (by simp),
    List.append_cancel_left_eq] at hdir
  -- the results lie in one directory, so both files lie in `dir` itself
  rcases rest with _ | ⟨s, rest⟩ <;> rcases more with _ | ⟨t, more⟩
  · have hlast : ∀ name, fileName (dir ++ [name]) = name := fun name => by simp [fileName]
    rw [hlast, hlast, List.singleton_inj] at hnames
    rw [hlast] at hform
    obtain ⟨p, hp, rfl⟩ := h.isDocument (by rw [hlast]; exact markdown_of_outputName hform hlt hnames)
    exact ⟨p, by simpa using hp, rfl⟩
  · simp at hdir
  · simp at hdir
  · rw [List.dropLast_cons_cons, List.dropLast_cons_cons] at hdir
    exact absurd (List.cons.inj hdir).1 hlt.ne'

/-! ## A page is reached -/

/-- The treatment of a markdown page that succeeds leaves its document. -/
theorem treat_markdown (hp : d.Leads plan.output out) (hne : file ≠ []) (hnames : ∀ s ∈ file, IsName s)
    (hform : Form.ofName (fileName file) = .markdown) (hw : Outside out d w.disk)
    (h : plan.treat root file w = .ok () w') :
    Holds out d (out ++ outputOf file) (IsDocument file) w'.disk := by
  have hdest := destination_extends plan hne hnames
  have hpage : Form.ofName (fileName file) ≠ .verbatim := by rw [hform]; nofun
  rw [treat_of_page plan root hpage] at h
  obtain ⟨text, v, hlook, h⟩ := bind_ok h
  have hv := (keeps_look _ _).ok hw hlook
  obtain ⟨e, u, hexpand, h⟩ := bind_ok h
  obtain ⟨he, hu⟩ := onSession_ok hexpand
  rw [← hu] at hv
  have hresult : MayPut file { content := e.html.toUTF8 } := fun _ => ⟨text, v.session, by rw [he]⟩
  obtain ⟨_, u', hput, hrecord⟩ := bind_ok h
  obtain ⟨m, htree, hgrown, hdir, hfree, rfl⟩ := putFile_ok hv.tree (hv.leads hp) hdest hput
  rw [record_eq] at hrecord
  obtain rfl := (EStateM.Result.ok.inj hrecord).2
  have hname : IsName (outputName (fileName file)) := hdest.isName _ (by simp [outputOf])
  refine ⟨(hv.grown htree hgrown).put hdir hname hfree, _, hresult.isDocument hform, ?_⟩
  rw [outputOf, ← List.append_assoc]
  exact get?_put_self m _ (by simp)

/-- What lies at the first name on the way to a file: the file itself, or a directory. -/
theorem entry_cases {more : Location} (he : e.IsTree)
    (h : e.get? (root ++ (dir ++ name :: more)) = some (.file f)) :
    more = [] ∧ e.get? (root ++ (dir ++ [name])) = some (.file f) ∨
      more ≠ [] ∧ e.get? (root ++ (dir ++ [name])) = some .directory := by
  by_cases hmore : more = []
  · exact .inl ⟨hmore, by rwa [hmore] at h⟩
  · rw [List.append_cons, ← List.append_assoc root] at h
    exact .inr ⟨hmore, he.get?_above h hmore⟩

theorem mem_names_of_file {more : Location} (he : e.IsTree)
    (h : e.get? (root ++ (dir ++ name :: more)) = some (.file f)) :
    name ∈ e.names (root ++ dir) := by
  rw [mem_names he, List.append_assoc]
  rcases entry_cases he h with ⟨-, hentry⟩ | ⟨-, hentry⟩ <;> rw [hentry] <;> nofun

/-- The listing of a directory on the way to a file: the next name on the way, and the names before it
and behind it. -/
theorem exists_listing {more : Location} (he : e.IsTree) (hdir : ∀ s ∈ dir, IsName s)
    (hshown : Plan.isHidden name = false)
    (h : e.get? (root ++ (dir ++ name :: more)) = some (.file f)) :
    ∃ before after, (e.names (root ++ dir)).filter (!Plan.isHidden ·) = before ++ name :: after ∧
      (∀ next ∈ after, name < next) ∧ ∀ next ∈ before ++ after, ∀ s ∈ dir ++ [next], IsName s := by
  have hmem : name ∈ (e.names (root ++ dir)).filter (!Plan.isHidden ·) :=
    List.mem_filter.2 ⟨mem_names_of_file he h, by simp [hshown]⟩
  obtain ⟨before, after, hnames⟩ := List.append_of_mem hmem
  have hordered := (pairwise_names he (root ++ dir)).filter (!Plan.isHidden ·)
  rw [hnames, List.pairwise_append, List.pairwise_cons] at hordered
  refine ⟨before, after, hnames, hordered.2.1.1, fun next hnext => ?_⟩
  have hlisted : next ∈ (e.names (root ++ dir)).filter (!Plan.isHidden ·) := by
    rw [hnames]
    exact ((List.sublist_cons_self name after).append_left before).subset hnext
  exact he.isName_of_entry hdir (List.mem_filter.1 hlisted).1

/-- The turn of the next name on the way leaves the document of the page, if it treats the page, or if
the visit of the directory of that name leaves it. -/
theorem turn_reaches (hp : d.Leads plan.output out) {depth : Nat} {more : Location}
    (hnames : ∀ s ∈ dir ++ name :: more, IsName s) (hfree : root ++ (dir ++ [name]) ≠ excluded)
    (hform : Form.ofName (fileName (dir ++ name :: more)) = .markdown)
    (hw : Holds out d (root ++ (dir ++ name :: more)) (fun _ => True) w.disk)
    (hvisit : more ≠ [] → plan.visit root excluded depth (dir ++ [name]) w = .ok () w' →
      Holds out d (out ++ outputOf (dir ++ name :: more)) (IsDocument (dir ++ name :: more)) w'.disk)
    (h : plan.turn root excluded depth dir name w = .ok () w') :
    Holds out d (out ++ outputOf (dir ++ name :: more)) (IsDocument (dir ++ name :: more)) w'.disk := by
  obtain ⟨f, -, hf⟩ := hw.file
  rw [turn_eq hfree] at h
  rcases entry_cases hw.outside.tree hf with ⟨rfl, hentry⟩ | ⟨hmore, hentry⟩ <;> rw [hentry] at h
  · exact treat_markdown hp (by simp) hnames hform hw.outside h
  · exact hvisit hmore h

/-- A visit that succeeds leaves the document of a markdown page on its way: the turns before that of the
page keep the page a file, and those after it write to the place of its result only documents as deep. -/
theorem visit_reaches (hp : d.Leads plan.output out) {depth : Nat} {rest : Location}
    (hrest : rest ≠ []) (hdepth : rest.length ≤ depth) (hnames : ∀ s ∈ dir ++ rest, IsName s)
    (hshown : ∀ s ∈ rest, Plan.isHidden s = false)
    (hfree : ∀ names, names ≠ [] → names <+: rest → root ++ (dir ++ names) ≠ excluded)
    (hform : Form.ofName (fileName (dir ++ rest)) = .markdown)
    (hw : Holds out d (root ++ (dir ++ rest)) (fun _ => True) w.disk)
    (h : plan.visit root excluded depth dir w = .ok () w') :
    Holds out d (out ++ outputOf (dir ++ rest)) (IsDocument (dir ++ rest)) w'.disk := by
  induction rest generalizing dir depth w w' with
  | nil => exact absurd rfl hrest
  | cons name more ih =>
    obtain ⟨depth, rfl⟩ : ∃ k, depth = k + 1 := Nat.exists_eq_succ_of_ne_zero (by simp at hdepth; omega)
    rw [visit_succ, get_bind] at h
    obtain ⟨f, -, hf⟩ := hw.file
    obtain ⟨before, after, hlisting, hlt, hentries⟩ := exists_listing hw.outside.tree
      (fun s hs => hnames s (List.mem_append_left _ hs)) (hshown name (by simp)) hf
    rw [hlisting] at h
    rw [forM_append, forM_cons] at h
    obtain ⟨_, u, hbefore, h⟩ := bind_ok h
    obtain ⟨_, v, hturn, hafter⟩ := bind_ok h
    have hu : Holds out d (root ++ (dir ++ name :: more)) (fun _ => True) u.disk :=
      (Keeps.forM fun s hs => keeps_turn (stable_holds ..) hp depth (hentries s (by simp [hs]))
        fun _ _ _ _ _ => trivial).ok hw hbefore
    have hv : Holds out d (out ++ outputOf (dir ++ name :: more)) (IsDocument (dir ++ name :: more))
        v.disk := by
      refine turn_reaches hp hnames (hfree [name] (by simp) (by simp)) hform hu (fun hmore hvisit => ?_)
        hturn
      rw [List.append_cons] at hnames hform hu ⊢
      refine ih hmore (by simpa using hdepth) hnames (fun s hs => hshown s (List.mem_cons_of_mem _ hs))
        (fun names hne hpre => ?_) hform hu hvisit
      rw [List.append_assoc dir]
      exact hfree (name :: names) (by simp) (by simpa using hpre)
    refine (Keeps.forM fun next hnext => keeps_turn (stable_holds ..) hp depth
      (hentries next (by simp [hnext])) ?_).ok hv hafter
    intro later hlater f hput hsame
    exact hput.of_later hform hlater (hlt next hnext) (List.append_cancel_left hsame)

/-! ## The whole build -/

/-- A markdown page that a build visits: a regular file below the source directory under shown names,
with no name on the way to it that leads to the output directory. -/
structure Plan.Visits (plan : Plan) (d : Disk) (page : Location) : Prop where
  isFile : ∃ f, d.get? (d.target plan.source ++ page) = some (.file f)
  markdown : Form.ofName (fileName page) = .markdown
  shown : ∀ name ∈ page, Plan.isHidden name = false
  free : ∀ names, names ≠ [] → names <+: page →
    d.target plan.source ++ names ≠ d.target plan.output

/-- The markdown pages among the source files are visited. -/
theorem IsSource.visits (h : IsSource d (d.target plan.source) (d.target plan.output) file)
    (hform : Form.ofName (fileName file) = .markdown) : plan.Visits d file where
  isFile := h.isFile
  markdown := hform
  shown := h.shown
  free names _ hpre he := by
    obtain ⟨rest, rfl⟩ := hpre
    exact h.outside ⟨rest, by rw [← he, List.append_assoc]⟩

/-- The page lies below the source directory also when the output directory is made. -/
theorem Plan.Visits.exists_file (h : plan.Visits d file) (hm : plan.Ready d m) :
    ∃ f, m.get? (d.target plan.source ++ file) = some (.file f) :=
  h.isFile.imp fun _ hf => hm.grown.kept hf

theorem Plan.Visits.names (h : plan.Visits d file) (hm : plan.Ready d m) :
    file ≠ [] ∧ ∀ s ∈ file, IsName s := by
  obtain ⟨f, hf⟩ := h.exists_file hm
  refine ⟨?_, fun s hs => hm.tree.isName hf s (List.mem_append_right _ hs)⟩
  rintro rfl
  rw [List.append_nil, hm.source.2] at hf
  cases hf

/-- The document of a markdown page is no asset. -/
theorem outputOf_ne_asset (hform : Form.ofName (fileName file) = .markdown) (a : Asset) :
    outputOf file ≠ [Asset.directory, a.name] := by
  intro he
  have hsplit : file.dropLast ++ [outputName (fileName file)] = [Asset.directory] ++ [a.name] := he
  have hname := List.singleton_inj.1 (List.append_inj' hsplit rfl).2
  rw [outputName_markdown hform] at hname
  have hlast : (stem (fileName file) ++ "." ++ "html").toList.getLast? = some 'l' := by
    rw [String.toList_append, List.getLast?_append]
    rfl
  rw [hname] at hlast
  cases a <;> exact absurd hlast (by decide)

theorem latest_assets (out : Location) (a : Asset) :
    latest (Asset.all.map (·.writeOf out)) (out ++ [Asset.directory, a.name]) =
      some { content := a.content } := by
  have hne : out ++ [Asset.directory, Asset.script.name] ≠
      out ++ [Asset.directory, Asset.stylesheet.name] := fun he =>
    absurd (List.append_cancel_left he) (by decide)
  cases a with
  | stylesheet =>
    refine @latest_of_last [] [Asset.script.writeOf out] (Asset.stylesheet.writeOf out) fun q hq => ?_
    exact List.mem_singleton.1 hq ▸ hne
  | script => exact @latest_of_last [Asset.stylesheet.writeOf out] [] (Asset.script.writeOf out) nofun

/-- What a successful build leaves of a markdown page that it visits, and of the assets. -/
theorem build_leaves {r : Report} (hd : d.IsTree) (h : (build plan d).result = .ok r)
    (hpage : plan.Visits d file) : ∃ m, plan.Ready d m ∧
      Holds (d.target plan.output) m (d.target plan.output ++ outputOf file) (IsDocument file)
        (build plan d).disk ∧
      ∀ a : Asset, (build plan d).disk.get? (d.target plan.output ++ [Asset.directory, a.name]) =
        some (.file { content := a.content }) := by
  obtain ⟨w, hsteps, -⟩ := build_ok h
  rcases steps_cases plan hd with ⟨e, u, he, -⟩ | ⟨m, hm, he⟩
  · rw [hsteps] at he; cases he
  rw [hsteps, Plan.treatAll] at he
  obtain ⟨_, u, hvisit, he⟩ := bind_ok he.symm
  obtain ⟨_, v, hassets, htell⟩ := bind_ok he
  have hdisk : (build plan d).disk = v.disk := by
    rw [build_eq, Plan.outcome, hsteps]
    cases htell
    rfl
  obtain ⟨f, hf⟩ := hpage.exists_file hm
  obtain ⟨hne, hnames⟩ := hpage.names hm
  have hdepth : file.length ≤ m.height := by
    have hlt := length_lt_height hm.tree hf
    rw [List.length_append] at hlt
    omega
  have hstart : Holds (d.target plan.output) m (d.target plan.source ++ ([] ++ file)) (fun _ => True)
      (plan.ready m).disk := ⟨.refl hm.tree, f, trivial, hf⟩
  have hreached : Holds (d.target plan.output) m (d.target plan.output ++ outputOf ([] ++ file))
      (IsDocument ([] ++ file)) u.disk :=
    visit_reaches hm.output hne hdepth hnames hpage.shown hpage.free hpage.markdown hstart hvisit
  rw [List.nil_append] at hreached
  have hkept := (keeps_writeAssets (stable_holds ..) hm.output fun a he =>
    absurd (List.append_cancel_left he).symm (outputOf_ne_asset hpage.markdown a)).ok hreached hassets
  obtain ⟨-, hwrote, -⟩ := writeAssets_ok hreached.outside.tree (hreached.outside.leads hm.output) hassets
  rw [hdisk]
  refine ⟨m, hm, hkept, fun a => ?_⟩
  rw [← file?_eq_some, hwrote, latest_assets, Option.some_or]

/-- A build that succeeds leaves, at the destination of each markdown page that it visits, a document
that links one stylesheet beside the icon font and loads one script; from the directory that the document
lies in, their addresses denote the two assets, which the build has written below the output directory. -/
theorem build_links_assets {page : Location} {r : Report} (hd : d.IsTree)
    (h : (build plan d).result = .ok r) (hpage : plan.Visits d page) :
    let out := d.target plan.output
    let site := (build plan d).disk
    (∃ (document html : String) (address : Asset → String),
      site.text (plan.destination page) = .ok document ∧
      Around document html [Standalone.iconStylesheet, address .stylesheet] [address .script] ∧
      ∀ a, resolve (out ++ outputOf page).dropLast (address a) = out ++ [Asset.directory, a.name]) ∧
    site.locate (plan.destination page) = .ok (out ++ outputOf page) ∧
    ∀ a, site.locate (plan.assetPath a) = .ok (out ++ [Asset.directory, a.name]) ∧
      site.get? (out ++ [Asset.directory, a.name]) = some (.file { content := a.content }) := by
  intro out site
  obtain ⟨m, hm, ⟨houtside, f, ⟨p, hdepth, rfl⟩, hf⟩, hassets⟩ := build_leaves hd h hpage
  have hlead := houtside.leads hm.output
  obtain ⟨hne, hnames⟩ := hpage.names hm
  have hlocate := locate_destination houtside.tree hlead hne hnames (file?_eq_some.2 hf)
  have hdir : (out ++ outputOf page).dropLast = out ++ page.dropLast := by
    rw [outputOf, ← List.append_assoc, List.dropLast_concat]
  refine ⟨⟨p.toHtml, p.html, Standalone.assetAddress p.depth, ?_, p.toHtml_around, fun a => ?_⟩, hlocate,
    fun a => ⟨locate_assetPath houtside.tree hlead (file?_eq_some.2 (hassets a)), hassets a⟩⟩
  · exact text_eq_ok.2 ⟨_, hlocate, textAt_of_toUTF8 hf⟩
  · rw [hdir, hdepth]
    exact Standalone.resolve_assetAddress out page.dropLast a

theorem build_links_assets_smallSite : smallSite.IsTree ∧
    (∃ r, (build smallPlan smallSite).result = .ok r) ∧ smallPlan.Visits smallSite ["guide", "setup.md"] ∧
    ∃ (document html : String) (address : Asset → String),
      (build smallPlan smallSite).disk.text (smallPlan.destination ["guide", "setup.md"]) = .ok document ∧
      Around document html [Standalone.iconStylesheet, address .stylesheet] [address .script] ∧
      ∀ a, resolve ["docs", "site", "guide"] (address a) = ["docs", "site", "assets", a.name] := by
  obtain ⟨r, works, h, hw, hfiles⟩ := smallSite_builds
  have hsource := (hw.sources.mem ["guide", "setup.md"]).1 (by rw [hfiles]; simp)
  have hpage := hsource.visits (by decide)
  obtain ⟨hdocument, -⟩ := build_links_assets smallSite_isTree h hpage
  exact ⟨smallSite_isTree, ⟨r, h⟩, hpage, hdocument⟩

end DocTabs.Site
