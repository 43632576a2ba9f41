/-
Plain pages: comments on lines of their own, phrases with a blank line behind them, and further blank
lines. Each step of the outline reads one line of such a page; a comment becomes raw HTML that ends with
its line, and a phrase becomes a paragraph.
-/
import DocTabs.Proofs.Markdown.Phrase
import DocTabs.Proofs.Text.Search

namespace DocTabs.Markdown

open Html Line Opening Text

/-! ## Lines of a page -/

theorem body_append {t : List Char} (h : t.any isEnd = false) (r : List Char) :
    body (t ++ '\n' :: r) = t := by
  rw [body, List.takeWhile_append_of_pos fun c hc => by simp [List.any_eq_false.1 h c hc],
    List.takeWhile_cons_of_neg (by decide), List.append_nil]

theorem behind_append {t : List Char} (h : t.any isEnd = false) (r : List Char) :
    behind (t ++ '\n' :: r) = r := by
  have hrest : (t ++ '\n' :: r).dropWhile (!isEnd ·) = '\n' :: r := by
    rw [List.dropWhile_append_of_pos fun c hc => by simp [List.any_eq_false.1 h c hc],
      List.dropWhile_cons_of_neg (by decide)]
  have hending : ending (t ++ '\n' :: r) = ['\n'] := by rw [ending, hrest]; rfl
  have hlen : t.length + ['\n'].length = (t ++ ['\n']).length := by simp
  rw [behind, body_append h, hending, hlen, List.append_cons t '\n' r, List.drop_left]

theorem throughFeed_append {t : List Char} (h : '\n' ∉ t) (r : List Char) :
    throughFeed (t ++ '\n' :: r) = (t ++ ['\n'], r) := by
  have hline : (t ++ '\n' :: r).takeWhile (· ≠ '\n') = t := by
    rw [List.takeWhile_append_of_pos fun c hc => by simpa using fun e : c = '\n' => h (e ▸ hc),
      List.takeWhile_cons_of_neg (by simp), List.append_nil]
  have hlen : t.length + 1 = (t ++ ['\n']).length := by simp
  simp only [throughFeed, hline]
  rw [hlen, List.append_cons t '\n' r, List.take_left, List.drop_left]

theorem withoutReturn_concat {t : List Char} (h : '\x0d' ∉ t) :
    withoutReturn (t ++ ['\n']) = t ++ ['\n'] := by
  unfold withoutReturn
  split
  · rename_i heq
    have hmem : '\x0d' ∈ (t ++ ['\n']).reverse := by simp [heq]
    simp [h] at hmem
  · rfl

theorem afterBlank?_cons {c : Char} (h : isGap c = false) (r : List Char) : afterBlank? (c :: r) = none := by
  obtain ⟨hspace, hend⟩ := Bool.or_eq_false_iff.1 h
  rw [afterBlank?, List.dropWhile_cons_of_neg (by simp [hspace]), afterEnd?]
  · rw [if_neg (by simp [hend])]
  · rintro _ rfl; cases hend

/-! ## Tables -/

theorem split_eq {t : List Char} (hslash : '\\' ∉ t) (hpipe : '|' ∉ t) :
    Row.split t = [Source.ofChars t] := by
  induction t with
  | nil => rfl
  | cons c t ih =>
    rw [List.mem_cons, not_or] at hslash hpipe
    rw [Row.split, ih hslash.2 hpipe.2]
    · rfl
    · rintro _ rfl; exact absurd rfl hslash.1
    · rintro _ rfl; exact absurd rfl hslash.1
    · rintro _ _ rfl; exact absurd rfl hslash.1
    · rintro rfl; exact absurd rfl hpipe.1

/-- A line without pipes is no header. -/
theorem heads?_eq_none {before : Option Char} {s : List Char} (hslash : '\\' ∉ body s) (hpipe : '|' ∉ body s) :
    Row.heads? [] before s = none := by
  have hcount : (Source.ofChars (body s)).count (.pipe 2) = 0 := by
    rw [List.count_eq_zero, Source.ofChars]
    simp
  have hpipes : Row.pipes (body s) = 0 := by simp [Row.pipes, split_eq hslash hpipe, hcount]
  simp [Row.heads?, hpipes]

/-! ## Steps -/

namespace Outline

theorem beginBlock_eq {o : Outline} (ho : o.frames = []) :
    o.beginBlock = { o with bare := false, blank := false } := by
  obtain ⟨blocks, frames, blank, bare, links, footnotes⟩ := o
  obtain rfl : frames = [] := ho
  cases blank <;> rfl

/-- The characters that indent a line, open a container or a rule. -/
def openers : List Char := [' ', '\t', '[', '>', '*', '-', '_', '+']

section Start

variable {c : Char} (h : c ∉ openers) (hdigit : c.isDigit = false) (r : List Char)
include h

theorem skip_cons (n : Nat) : (Cursor.ofLine (c :: r)).skip (n + 1) = (.ofLine (c :: r), n + 1) := by
  have hspace : c ≠ ' ' := fun e => h (e ▸ by decide)
  have htab : c ≠ '\t' := fun e => h (e ▸ by decide)
  simp [Cursor.skip, Cursor.ofLine, Cursor.skip.go, hspace, htab]

theorem footnote?_cons : footnote? (c :: r) = none := by
  unfold footnote?
  split
  · rename_i heq
    exact absurd (by decide) ((List.cons.inj heq).1 ▸ h)
  · rfl

theorem afterRule?_cons : afterRule? (c :: r) = none := by
  unfold afterRule?
  dsimp only
  split
  · rename_i d _ heq
    have hd : d = c := by
      unfold body at heq
      rw [List.takeWhile_cons] at heq
      split at heq
      · exact (List.cons.inj heq).1.symm
      · cases heq
    refine if_neg fun hrule => h ?_
    rcases hrule.1 with rfl | rfl | rfl <;> exact hd ▸ by decide
  · rfl

include hdigit

theorem marker?_cons : Marker.read? (c :: r) = none := by
  have hbullet : ¬ (c = '-' ∨ c = '+' ∨ c = '*') := by
    rintro (rfl | rfl | rfl) <;> exact h (by decide)
  have hdigits : (c :: r).takeWhile Char.isDigit = [] := List.takeWhile_cons_of_neg (by simp [hdigit])
  simp only [Marker.read?, hdigits, if_neg hbullet]
  rfl

variable {o : Outline} (ho : o.frames = [])
include ho

/-- Outside all containers, a line that opens none is a block of text. -/
theorem step_cons : o.step (c :: r) = o.addLeaf (c :: r) (.ofLine (c :: r)) := by
  have hkeep : o.keep 0 = o := by rw [keep, ho]; rfl
  have hquote : c ≠ '>' := fun e => h (e ▸ by decide)
  have hrest : (Cursor.ofLine (c :: r)).rest = c :: r := rfl
  simp [step, ho, continued, hkeep, start, skip_cons h, hrest, footnote?_cons h, afterRule?_cons h,
    marker?_cons h hdigit, hquote]

theorem step_html (hgap : isGap c = false) {rest html : List Char} {extent : Tag.Extent}
    (hblock : Tag.block? (c :: r) = some extent)
    (hhtml : Leaf.html [] extent 0 (c :: r) = (html, rest)) :
    o.step (c :: r) = ({ o with
      blocks := .html (String.ofList html) :: o.blocks, bare := false, blank := false }, rest) := by
  have hrest : (Cursor.ofLine (c :: r)).rest = c :: r := rfl
  have hpending : (Cursor.ofLine (c :: r)).pending = 0 := rfl
  rw [step_cons h hdigit r ho, addLeaf]
  simp [hrest, hpending, afterBlank?_cons hgap, beginBlock_eq ho, skip_cons h, margins, ho, hblock,
    hhtml, add]

theorem step_text (hgap : isGap c = false) (hblock : Tag.block? (c :: r) = none)
    (hheading : heading? (c :: r) = none) (hfence : Fence.read? (c :: r) = none) :
    o.step (c :: r) = addText ((c :: r).length + 1) (.ofPage [] none (c :: r))
      { o with bare := false, blank := false } := by
  have hrest : (Cursor.ofLine (c :: r)).rest = c :: r := rfl
  have hprevious : previous? (c :: r) (c :: r) = none := by simp [previous?]
  rw [step_cons h hdigit r ho, addLeaf]
  simp [hrest, hprevious, afterBlank?_cons hgap, beginBlock_eq ho, skip_cons h, margins, ho, hblock, hheading,
    hfence, afterRule?_cons h]

end Start

theorem step_blank {o : Outline} (ho : o.frames = []) (r : List Char) :
    o.step ('\n' :: r) = ({ o with blank := true }, r) := by
  rw [step_cons (by decide) (by decide) r ho, addLeaf]
  have hblank : afterBlank? (Cursor.ofLine ('\n' :: r)).rest = some r := rfl
  rw [hblank, addBlank, ho]

end Outline

/-! ## Chunks -/

/-- A comment that can stand on a line of its own. -/
structure Comment where
  text : List Char
  start : "<!--".toList <+: text := by decide
  stop : "-->".toList <:+: text := by decide
  oneLine : text.any isEnd = false := by decide

/-- A part of a plain page. -/
inductive Chunk where
  | blank
  | comment (c : Comment)
  | line (p : Phrase Char.isAlpha)

namespace Chunk

/-- The text of a chunk. A phrase has a blank line behind it. -/
def source : Chunk → List Char
  | blank => ['\n']
  | comment c => c.text ++ ['\n']
  | line p => p.text.toList ++ ['\n', '\n']

/-- The block that a chunk becomes, with the content `f` of a paragraph. -/
def block? {α : Type} (f : Phrase Char.isAlpha → α) : Chunk → Option (Block α)
  | blank => none
  | comment c => some (.html (String.ofList (c.text ++ ['\n'])))
  | line p => some (.paragraph (f p))

/-- The block of a chunk on the finished page. -/
def finished? : Chunk → Option (Block (List Inline)) :=
  block? fun p => [.text p.text]

/-- The HTML of a chunk. -/
def html : Chunk → List Char
  | blank => []
  | comment c => c.text ++ ['\n']
  | line p => "<p>".toList ++ p.text.toList ++ "</p>".toList ++ ['\n']

/-- The text of a plain page. -/
def page (cs : List Chunk) : String :=
  String.ofList (cs.flatMap source)

/-- The HTML of a plain page. -/
def markup (cs : List Chunk) : List Char :=
  cs.flatMap html

theorem markup_append (cs ds : List Chunk) : markup (cs ++ ds) = markup cs ++ markup ds :=
  List.flatMap_append

theorem markup_comment (c : Comment) (cs : List Chunk) :
    markup (.comment c :: cs) = c.text ++ '\n' :: markup cs := by
  simp [markup, html]

end Chunk

/-! ## Comments -/

namespace Outline

/-- A comment is a block of raw HTML that ends with its line. -/
theorem step_comment {o : Outline} (ho : o.frames = []) (c : Comment) (r : List Char) :
    o.step (c.text ++ '\n' :: r) = ({ o with
      blocks := .html (String.ofList (c.text ++ ['\n'])) :: o.blocks, bare := false, blank := false },
      r) := by
  have hend : ∀ e, isEnd e = true → e ∉ c.text := fun e he hm => List.any_eq_false.1 c.oneLine e hm he
  have hwhole : (⟨0, 0, c.text ++ '\n' :: r⟩ : Cursor).wholeLine = (c.text ++ ['\n'], r) := by
    simp only [Cursor.wholeLine, throughFeed_append (hend '\n' rfl),
      withoutReturn_concat (hend '\x0d' rfl)]
    rfl
  have hstop : contains "-->" (c.text ++ ['\n']) = true :=
    contains_iff.2 (c.stop.trans (List.prefix_append _ _).isInfix)
  have hhtml : Leaf.html [] (.through "-->") 0 (c.text ++ '\n' :: r) = (c.text ++ ['\n'], r) := by
    simp only [Leaf.html, hwhole, hstop, if_true]
  obtain ⟨t, ht⟩ := c.start
  have hblock : Tag.block? ("<!--".toList ++ (t ++ '\n' :: r)) = some (.through "-->") := rfl
  rw [← ht, List.append_assoc] at hhtml ⊢
  exact step_html (by decide) (by decide) _ ho (by decide) hblock hhtml

/-! ## Paragraphs -/

section Letter

variable {c : Char} (hc : c.isAlpha = true) (r : List Char)
include hc

theorem block?_letter : Tag.block? (c :: r) = none := by
  rw [Tag.block?]
  rintro _ heq
  cases heq
  cases hc

theorem heading?_letter : heading? (c :: r) = none := by
  have hsign : c ≠ '#' := by rintro rfl; cases hc
  simp [heading?, hsign]

theorem fence?_letter : Fence.read? (c :: r) = none := by
  refine if_neg ?_
  rintro ⟨⟨rfl, -⟩ | rfl, -⟩ <;> cases hc

/-- A letter starts no block but a paragraph. -/
theorem step_letter {o : Outline} (ho : o.frames = []) :
    o.step (c :: r) = addText ((c :: r).length + 1) (.ofPage [] none (c :: r))
      { o with bare := false, blank := false } :=
  step_text (not_mem_of_isAlpha (by decide) hc) (isDigit_of_isAlpha hc) r ho (isGap_of_isAlpha hc)
    (block?_letter hc r) (heading?_letter hc r) (fence?_letter hc r)

theorem definition?_letter : Link.definition? (Source.ofChars (c :: r)) = none := by
  rw [Source.ofChars, List.map_cons, Link.definition?]
  rintro _ heq
  cases heq
  cases hc

end Letter

/-- A phrase is a paragraph, which the blank line behind it ends. -/
theorem step_phrase {o : Outline} (ho : o.frames = []) (p : Phrase Char.isAlpha) (r : List Char) :
    o.step (p.text.toList ++ '\n' :: '\n' :: r) = ({ o with
      blocks := .paragraph (Source.ofChars p.text.toList) :: o.blocks, bare := false, blank := false },
      '\n' :: r) := by
  have hline := p.oneLine rfl rfl
  have hbody := body_append hline ('\n' :: r)
  have hpage : Leaf.Paragraph.ofPage [] none (p.text.toList ++ '\n' :: '\n' :: r) =
      ⟨none, p.text.toList ++ '\n' :: '\n' :: r, [], ⟨none, '\n' :: r, '\n' :: r⟩⟩ := by
    rw [Leaf.Paragraph.ofPage, behind_append hline]
    rfl
  have hsource : Leaf.source (p.text.toList ++ '\n' :: '\n' :: r) [] = Source.ofChars p.text.toList := by
    rw [Leaf.source, hbody, p.stripEnd_eq]
  have hheads : Row.heads? [] none (p.text.toList ++ '\n' :: '\n' :: r) = none := by
    apply heads?_eq_none
    · rw [hbody]; exact p.not_mem (by decide) (by decide)
    · rw [hbody]; exact p.not_mem (by decide) (by decide)
  obtain ⟨c, t, ht, hc⟩ := p.exists_cons
  have hdefinition : Link.definition? (Source.ofChars p.text.toList) = none := by
    rw [ht]; exact definition?_letter hc t
  have hstep := step_letter hc (t ++ '\n' :: '\n' :: r) ho
  rw [← List.cons_append, ← ht, hpage] at hstep
  rw [hstep, addText]
  simp [Leaf.Paragraph.definition?, Leaf.Paragraph.source, hsource, hdefinition, Leaf.read, hheads,
    Source.behind, addRead, margins, ho, add]

/-! ## Runs -/

/-- The block of a chunk, before inline content is read. -/
abbrev chunkBlock? : Chunk → Option (Block Source) :=
  Chunk.block? fun p => Source.ofChars p.text.toList

theorem run_step {o o' : Outline} {s r : List Char} (h : o.step s = (o', r)) (hs : s ≠ []) (fuel : Nat) :
    run (fuel + 1) o s = run fuel o' r := by
  rw [run, h]
  exact hs

/-- A run passes a chunk: it adds the block of the chunk, opens no container and goes on behind it. -/
theorem run_chunk (c : Chunk) {o : Outline} (ho : o.frames = []) {fuel : Nat} {r : List Char}
    (hfuel : (c.source ++ r).length ≤ fuel) :
    ∃ o' fuel', run fuel o (c.source ++ r) = run fuel' o' r ∧ r.length ≤ fuel' ∧ o'.frames = [] ∧
      o'.blocks = (chunkBlock? c).toList ++ o.blocks := by
  cases c with
  | blank =>
    obtain ⟨fuel, rfl⟩ : ∃ n, fuel = n + 1 := ⟨fuel - 1, by simp [Chunk.source] at hfuel; omega⟩
    refine ⟨_, fuel, run_step (step_blank ho r) (by simp) fuel, ?_, ho, rfl⟩
    simpa [Chunk.source] using hfuel
  | comment c =>
    have hsource : (Chunk.comment c).source ++ r = c.text ++ '\n' :: r := by simp [Chunk.source]
    rw [hsource, List.length_append, List.length_cons] at hfuel
    obtain ⟨fuel, rfl⟩ : ∃ n, fuel = n + 1 := ⟨fuel - 1, by omega⟩
    rw [hsource]
    exact ⟨_, fuel, run_step (step_comment ho c r) (by simp) fuel, by omega, ho, rfl⟩
  | line p =>
    have hsource : (Chunk.line p).source ++ r = p.text.toList ++ '\n' :: '\n' :: r := by simp [Chunk.source]
    rw [hsource, List.length_append, List.length_cons, List.length_cons] at hfuel
    -- the phrase and the blank line behind it are a step each
    obtain ⟨fuel, rfl⟩ : ∃ n, fuel = n + 1 + 1 := ⟨fuel - 2, by omega⟩
    rw [hsource, run_step (step_phrase ho p r) (by simp)]
    exact ⟨_, fuel, run_step (step_blank (by exact ho) r) (by simp) fuel, by omega, ho, rfl⟩

/-- A run over a plain page adds the blocks of its chunks in order. -/
theorem run_chunks (cs : List Chunk) {o : Outline} (ho : o.frames = []) {fuel : Nat}
    (hfuel : (cs.flatMap Chunk.source).length ≤ fuel) :
    (run fuel o (cs.flatMap Chunk.source)).frames = [] ∧
      (run fuel o (cs.flatMap Chunk.source)).blocks = (cs.filterMap chunkBlock?).reverse ++ o.blocks := by
  induction cs generalizing o fuel with
  | nil => cases fuel <;> exact ⟨ho, rfl⟩
  | cons c cs ih =>
    rw [List.flatMap_cons] at hfuel ⊢
    obtain ⟨o', fuel', hrun, hfuel', ho', hblocks⟩ := run_chunk c ho hfuel
    rw [hrun]
    obtain ⟨hframes, hlater⟩ := ih ho' hfuel'
    refine ⟨hframes, ?_⟩
    rw [hlater, hblocks, List.filterMap_cons]
    cases chunkBlock? c <;> simp

/-- The blocks of a plain page are those of its chunks. -/
theorem ofPage_chunks (cs : List Chunk) :
    (ofPage (cs.flatMap Chunk.source)).blocks.reverse = cs.filterMap chunkBlock? := by
  obtain ⟨hframes, hblocks⟩ := run_chunks cs (o := {}) rfl (Nat.le_refl _)
  have hkeep : ofPage (cs.flatMap Chunk.source) =
      run (cs.flatMap Chunk.source).length {} (cs.flatMap Chunk.source) := by
    rw [ofPage, keep, hframes]; rfl
  rw [hkeep, hblocks]
  simp

end Outline

/-! ## Documents -/

namespace Document

theorem mapAll_chunks {α β : Type} (f : Phrase Char.isAlpha → α) (g : α → β) (cs : List Chunk) :
    Block.mapAll g (cs.filterMap (Chunk.block? f)) = cs.filterMap (Chunk.block? (g ∘ f)) := by
  induction cs with
  | nil => rfl
  | cons c cs ih =>
    cases c with
    | blank => exact ih
    | comment c => exact congrArg (_ :: ·) ih
    | line p => exact congrArg (_ :: ·) ih

theorem ofText_page (cs : List Chunk) :
    ofText (Chunk.page cs) = cs.filterMap Chunk.finished? := by
  have hread (refs : References) :
      (Inline.ofSource refs ∘ fun p : Phrase Char.isAlpha => Source.ofChars p.text.toList) =
        fun p => [.text p.text] := funext (ofSource_phrase refs)
  simp only [ofText, Chunk.page, String.toList_ofList, Outline.ofPage_chunks, mapAll_chunks, hread]
  rfl

/-- A plain page has no heading. -/
theorem title?_page (cs : List Chunk) : (ofText (Chunk.page cs)).title? = none := by
  have hheading : Block.mainHeadingIn? (ofText (Chunk.page cs)) = none := by
    rw [ofText_page]
    induction cs with
    | nil => rfl
    | cons c cs ih => cases c <;> exact ih
  rw [title?, hheading]
  rfl

theorem freshAfter_lineEnd (fresh : Bool) (s : List Char) :
    Block.freshAfter fresh (String.ofList (s ++ ['\n'])) = true := by
  simp [Block.freshAfter]

/-- The HTML of a paragraph that is one phrase. -/
theorem toHtml_phrase (number : String → Nat) (p : Phrase Char.isAlpha) :
    Block.toHtml number true (.paragraph [.text p.text]) = String.ofList (Chunk.line p).html := by
  have htext : Inline.toHtml number (.text p.text) = p.text := p.escapeText_eq
  rw [← String.toList_inj, String.toList_ofList, Block.toHtml, Inline.toHtmlAll, Inline.toHtmlAll, htext]
  simp [Block.freshLine, Chunk.html]

/-- Behind a block that ends with its line the next one starts on a new line. -/
theorem toHtmlAll_cons {number : String → Nat} {b : Block (List Inline)} {s : List Char}
    (h : b.toHtml number true = String.ofList (s ++ ['\n'])) (bs : List (Block (List Inline))) :
    Block.toHtmlAll number true (b :: bs) =
      String.ofList (s ++ ['\n']) ++ Block.toHtmlAll number true bs := by
  rw [Block.toHtmlAll, h, freshAfter_lineEnd]

theorem toHtmlAll_chunks (number : String → Nat) (cs : List Chunk) :
    Block.toHtmlAll number true (cs.filterMap Chunk.finished?) = String.ofList (Chunk.markup cs) := by
  induction cs with
  | nil => rfl
  | cons c cs ih =>
    cases c with
    | blank => exact ih
    | comment c =>
      refine (toHtmlAll_cons (b := .html (String.ofList (c.text ++ ['\n']))) rfl _).trans ?_
      rw [ih, ← String.ofList_append]
      rfl
    | line p =>
      refine (toHtmlAll_cons (toHtml_phrase number p) _).trans ?_
      rw [ih, ← String.ofList_append]
      rfl

/-- The HTML of a plain page is that of its chunks in order. -/
theorem toHtml_page (cs : List Chunk) :
    (ofText (Chunk.page cs)).toHtml = String.ofList (Chunk.markup cs) := by
  rw [toHtml, ofText_page, toHtmlAll_chunks]

end Document

end DocTabs.Markdown
