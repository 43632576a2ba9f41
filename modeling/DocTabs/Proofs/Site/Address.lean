/-
The addresses of the assets in the document around a markdown page. Read as HTML, the document links
one stylesheet and loads one script of the site, and from the directory of a page with as many
directories above it as its depth says, their addresses denote the assets below the root of the site.
-/
import DocTabs.Proofs.Html.Escape
import DocTabs.Proofs.Html.Reader
import DocTabs.Proofs.Site.Destination

namespace DocTabs.Site

open Disk FilePath Html

/-! ## Relative addresses -/

/-- The location that an address without a host denotes from a directory: one that starts with a slash
is taken from the root, and from there on `..` goes up one level, and a name goes into what it names. -/
def resolve (dir : Location) (address : String) : Location :=
  let path := FilePath.mk address
  walk (if path.isAbsolute then [] else dir) path.parts.2

theorem walk_append (l : Location) (parts more : List String) :
    walk l (parts ++ more) = walk (walk l parts) more := List.foldl_append

/-- As many steps up as there are names lead above the names. -/
theorem walk_up (dir names : Location) :
    walk (dir ++ names) (List.replicate names.length "..") = dir := by
  -- the induction is on the names from their end, since each step up leaves the last one
  induction names using List.reverseRecOn with
  | nil => exact List.append_nil dir
  | append_singleton names s ih =>
    have hstep : step (dir ++ (names ++ [s])) ".." = dir ++ names := by
      rw [step, if_pos rfl, ← List.append_assoc, List.dropLast_concat]
    rw [List.length_append, List.length_singleton, List.replicate_succ, walk, List.foldl_cons, hstep]
    exact ih

theorem walk_names (dir : Location) {names : List String} (h : ∀ s ∈ names, IsName s) :
    walk dir names = dir ++ names := by
  induction names generalizing dir with
  | nil => exact (List.append_nil dir).symm
  | cons s names ih =>
    obtain ⟨hs, hnames⟩ := List.forall_mem_cons.1 h
    rw [walk, List.foldl_cons, step, if_neg hs.ne_dotDot]
    exact (ih (dir ++ [s]) hnames).trans (List.append_cons dir s names).symm

namespace Standalone

theorem assetAddress_succ (depth : Nat) (a : Asset) :
    assetAddress (depth + 1) a = ".." ++ "/" ++ assetAddress depth a := by
  have hup : "../" = ".." ++ "/" := by decide
  rw [assetAddress, assetAddress, List.replicate_succ, String.join_cons, ← hup]
  simp only [String.append_assoc]

theorem segments_assetAddress (depth : Nat) (a : Asset) : (FilePath.mk (assetAddress depth a)).segments =
    List.replicate depth ".." ++ [Asset.directory, a.name] := by
  induction depth with
  | zero => cases a <;> decide
  | succ depth ih =>
    have hup : (FilePath.mk "..").segments = [".."] := by decide
    rw [assetAddress_succ, segments_append, ih, hup, List.replicate_succ, List.singleton_append,
      List.cons_append]

theorem isAbsolute_assetAddress (depth : Nat) (a : Asset) :
    (FilePath.mk (assetAddress depth a)).isAbsolute = false := by
  have hhead : (FilePath.mk (assetAddress depth a)).segments.head? ≠ some "" := by
    rw [segments_assetAddress]
    cases depth <;> simp [List.replicate_succ, Asset.directory]
  rw [Bool.eq_false_iff, Ne, isAbsolute_iff, parts_fst, split_fst, if_neg fun h => hhead h.1]
  split <;> nofun

/-- From a directory that lies as deep as the page, the address of an asset denotes the asset. -/
theorem resolve_assetAddress (out dir : Location) (a : Asset) :
    resolve (out ++ dir) (assetAddress dir.length a) = out ++ [Asset.directory, a.name] := by
  have hnames : ∀ s ∈ [Asset.directory, a.name], IsName s := by cases a <;> decide
  have hparts : (FilePath.mk (assetAddress dir.length a)).parts.2 =
      List.replicate dir.length ".." ++ [Asset.directory, a.name] := by
    rw [parts_snd, segments_assetAddress, List.filter_append, filter_names hnames]
    refine congrArg (· ++ _) (List.filter_eq_self.2 fun s hs => ?_)
    rw [(List.mem_replicate.1 hs).2]
    decide
  rw [resolve, isAbsolute_assetAddress, if_neg (by decide), hparts, walk_append, walk_up,
    walk_names out hnames]

end Standalone

/-! ## The addresses in a document -/

/-- The values of an attribute in the start tags of a name, in order. -/
def valuesOf (tag name : String) (ts : List Token) : List String :=
  ts.flatMap fun t => match t.tag with
    | .start s as => if s = tag then (as.filter (·.1 = name)).map (·.2) else []
    | .stop _ => []

/-- A document around some HTML that links stylesheets and loads scripts: up to the HTML and behind
it, the tags read with their attributes have these addresses, in order. -/
def Around (document html : String) (stylesheets scripts : List String) : Prop :=
  ∃ opening closing before after last last',
    document = "<!DOCTYPE html>\n" ++ opening ++ html ++ closing ∧
    tokens? opening = some (before, last) ∧ tokens? closing = some (after, last') ∧
    valuesOf "link" "href" (before ++ after) = stylesheets ∧
    valuesOf "script" "src" (before ++ after) = scripts

namespace Standalone

variable (p : Standalone)

/-- The tags of the document up to its HTML. -/
def openingTokens : List Token := [
  ⟨"", .start "html" []⟩,
  ⟨"\n", .start "head" []⟩,
  ⟨"\n", .start "meta" [("charset", "utf-8")]⟩,
  ⟨"\n", .start "title" []⟩,
  ⟨escape p.title, .stop "title"⟩,
  ⟨"\n", .start "link" [("rel", "stylesheet"), ("href", iconStylesheet)]⟩,
  ⟨"\n", .start "link" [("rel", "stylesheet"), ("href", assetAddress p.depth .stylesheet)]⟩,
  ⟨"\n", .stop "head"⟩,
  ⟨"\n", .start "body" []⟩,
  ⟨"\n", .start "article" []⟩]

/-- The tags of the document behind its HTML. -/
def closingTokens : List Token := [
  ⟨"\n", .stop "article"⟩,
  ⟨"\n", .start "script" [("src", assetAddress p.depth .script)]⟩,
  ⟨"", .stop "script"⟩,
  ⟨"\n", .stop "body"⟩,
  ⟨"\n", .stop "html"⟩]

theorem stylesheetLink_eq (address : String) : stylesheetLink address =
    Tag.print (.start "link" [("rel", "stylesheet"), ("href", address)]) ++ "\n" := by
  have hstart : "<link rel=\"stylesheet\" href=\"" = "<" ++ ("link" ++ (" " ++ ("rel" ++ ("=\"" ++
      ("stylesheet" ++ ("\"" ++ (" " ++ ("href" ++ "=\"")))))))) := by decide
  have hend : "\">\n" = "\"" ++ (">" ++ "\n") := by decide
  unfold stylesheetLink
  simp only [hstart, hend, Tag.print, rawAttribute, List.map_cons, List.map_nil, String.join_cons,
    String.join_nil, String.append_assoc, String.empty_append]

theorem scriptElement_eq (address : String) : "<script src=\"" ++ address ++ "\"></script>\n" =
    Tag.print (.start "script" [("src", address)]) ++ (Tag.print (.stop "script") ++ "\n") := by
  have hstart : "<script src=\"" = "<" ++ ("script" ++ (" " ++ ("src" ++ "=\""))) := by decide
  have hend : "\"></script>\n" = "\"" ++ (">" ++ ("</" ++ ("script" ++ (">" ++ "\n")))) := by decide
  simp only [hstart, hend, Tag.print, rawAttribute, List.map_cons, List.map_nil, String.join_cons,
    String.join_nil, String.append_assoc, String.empty_append]

/-- The document is its tags, with the HTML between them. -/
theorem toHtml_eq : p.toHtml = "<!DOCTYPE html>\n" ++
    (String.join (p.openingTokens.map Token.print) ++ "\n") ++ p.html ++
    (String.join (p.closingTokens.map Token.print) ++ "\n") := by
  have hstart : "<!DOCTYPE html>\n<html>\n<head>\n<meta charset=\"utf-8\">\n" = "<!DOCTYPE html>\n" ++
      (Tag.print (.start "html" []) ++ ("\n" ++ (Tag.print (.start "head" []) ++
        ("\n" ++ (Tag.print (.start "meta" [("charset", "utf-8")]) ++ "\n"))))) := by decide
  have htitle : "<title>" = Tag.print (.start "title" []) := by decide
  have htitle' : "</title>\n" = Tag.print (.stop "title") ++ "\n" := by decide
  have harticle : "</head>\n<body>\n<article>\n" = Tag.print (.stop "head") ++ ("\n" ++
      (Tag.print (.start "body" []) ++ ("\n" ++ (Tag.print (.start "article" []) ++ "\n")))) := by decide
  have harticle' : "\n</article>\n" = "\n" ++ (Tag.print (.stop "article") ++ "\n") := by decide
  have hend : "</body>\n</html>\n" =
      Tag.print (.stop "body") ++ ("\n" ++ (Tag.print (.stop "html") ++ "\n")) := by decide
  have hscript : ∀ rest, "<script src=\"" ++ (assetAddress p.depth .script ++ ("\"></script>\n" ++ rest)) =
      Tag.print (.start "script" [("src", assetAddress p.depth .script)]) ++
        (Tag.print (.stop "script") ++ ("\n" ++ rest)) := fun rest => by
    have h := congrArg (· ++ rest) (scriptElement_eq (assetAddress p.depth .script))
    simpa only [String.append_assoc] using h
  unfold toHtml
  simp only [openingTokens, closingTokens, List.map_cons, List.map_nil, String.join_cons,
    String.join_nil, Token.print, String.append_assoc, String.empty_append, hstart, htitle, htitle',
    harticle, harticle', hend, stylesheetLink_eq, hscript]

/-! ## Reading them -/

theorem not_mem_assetAddress (depth : Nat) (a : Asset) : '"' ∉ (assetAddress depth a).toList := by
  induction depth with
  | zero => cases a <;> decide
  | succ depth ih =>
    rw [assetAddress_succ, String.toList_append, List.mem_append, not_or]
    exact ⟨by decide, ih⟩

theorem isPlain_link {address : String} (h : '"' ∉ address.toList) :
    (Tag.start "link" [("rel", "stylesheet"), ("href", address)]).IsPlain := by
  refine ⟨⟨_, _, rfl, by decide, by decide, by decide⟩, ?_⟩
  simp only [List.forall_mem_cons, List.not_mem_nil, false_implies, implies_true, and_true]
  exact ⟨by decide, show '=' ∉ "href".toList by decide, h⟩

theorem isPlain_openingTokens : ∀ t ∈ p.openingTokens, t.IsPlain := by
  have hstart : ∀ tag ∈ ["html", "head", "title", "body", "article"],
      (Tag.start tag []).IsPlain := by
    intro tag htag
    simp only [List.mem_cons, List.not_mem_nil, or_false] at htag
    rcases htag with rfl | rfl | rfl | rfl | rfl <;>
      exact ⟨⟨_, _, rfl, by decide, by decide, by decide⟩, nofun⟩
  have hmeta : (Tag.start "meta" [("charset", "utf-8")]).IsPlain :=
    ⟨⟨_, _, rfl, by decide, by decide, by decide⟩, by decide⟩
  have hstop : ∀ tag ∈ ["title", "head"], '>' ∉ tag.toList := by decide
  have hbreak : '<' ∉ "\n".toList := by decide
  simp only [openingTokens, List.forall_mem_cons, List.not_mem_nil, false_implies, implies_true, and_true]
  exact ⟨⟨by decide, hstart _ (by decide)⟩, ⟨hbreak, hstart _ (by decide)⟩, ⟨hbreak, hmeta⟩,
    ⟨hbreak, hstart _ (by decide)⟩, ⟨not_mem_escape (by decide) _, hstop _ (by decide)⟩,
    ⟨hbreak, isPlain_link (by decide)⟩, ⟨hbreak, isPlain_link (not_mem_assetAddress _ _)⟩,
    ⟨hbreak, hstop _ (by decide)⟩, ⟨hbreak, hstart _ (by decide)⟩, ⟨hbreak, hstart _ (by decide)⟩⟩

theorem isPlain_closingTokens : ∀ t ∈ p.closingTokens, t.IsPlain := by
  have hstop : ∀ tag ∈ ["article", "script", "body", "html"], '>' ∉ tag.toList := by decide
  have hbreak : '<' ∉ "\n".toList := by decide
  have hscript : (Tag.start "script" [("src", assetAddress p.depth .script)]).IsPlain := by
    refine ⟨⟨_, _, rfl, by decide, by decide, by decide⟩, ?_⟩
    rw [List.forall_mem_singleton]
    exact ⟨show '=' ∉ "src".toList by decide, not_mem_assetAddress _ _⟩
  simp only [closingTokens, List.forall_mem_cons, List.not_mem_nil, false_implies, implies_true, and_true]
  exact ⟨⟨hbreak, hstop _ (by decide)⟩, ⟨hbreak, hscript⟩, ⟨by decide, hstop _ (by decide)⟩,
    ⟨hbreak, hstop _ (by decide)⟩, ⟨hbreak, hstop _ (by decide)⟩⟩

/-- The document links the icon font and the stylesheet of the site, and loads its script. -/
theorem toHtml_around : Around p.toHtml p.html
    [iconStylesheet, assetAddress p.depth .stylesheet] [assetAddress p.depth .script] := by
  have hbreak : '<' ∉ "\n".toList := by decide
  exact ⟨_, _, _, _, _, _, p.toHtml_eq, tokens?_print p.isPlain_openingTokens hbreak,
    tokens?_print p.isPlain_closingTokens hbreak, rfl, rfl⟩

end Standalone

end DocTabs.Site
