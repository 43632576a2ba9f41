/-
Markdown pages without raw HTML. Every tag of their HTML is the renderer's own, and texts, code,
destinations, titles and labels are escaped, so no comment starts in it: whatever markers the page
shows, it holds no container.
-/
import DocTabs.Page.Markdown
import DocTabs.Proofs.Page.Idempotence

namespace DocTabs.Markdown

open Html Tabs Text

/-! ## Raw HTML in a page -/

namespace Inline

mutual

/-- Whether a piece writes raw HTML. In the description of an image it is text. -/
def writesRaw : Inline → Bool
  | .html _ => true
  | .emphasis xs => writesRawAll xs
  | .strong xs => writesRawAll xs
  | .strikethrough xs => writesRawAll xs
  | .link _ _ xs => writesRawAll xs
  | .image _ _ _ => false
  | .text _ => false
  | .code _ => false
  | .softBreak => false
  | .hardBreak => false
  | .footnote _ => false
  | .checkBox _ => false

def writesRawAll : List Inline → Bool
  | [] => false
  | x :: xs => x.writesRaw || writesRawAll xs

end

end Inline

namespace Block

mutual

/-- Whether a block is raw HTML or holds some. -/
def writesRaw : Block (List Inline) → Bool
  | .paragraph xs => Inline.writesRawAll xs
  | .tight xs => Inline.writesRawAll xs
  | .heading _ xs => Inline.writesRawAll xs
  | .rule => false
  | .code _ _ => false
  | .html _ => true
  | .quote bs => writesRawAll bs
  | .list _ items => writesRawItems items
  | .table _ header rows =>
    header.any Inline.writesRawAll || rows.any fun row => row.any Inline.writesRawAll
  | .footnote _ bs => writesRawAll bs

def writesRawAll : List (Block (List Inline)) → Bool
  | [] => false
  | b :: bs => b.writesRaw || writesRawAll bs

def writesRawItems : List (List (Block (List Inline))) → Bool
  | [] => false
  | bs :: items => writesRawAll bs || writesRawItems items

end

end Block

/-! ## Sealed strings -/

theorem sealed_number (n : Nat) : Sealed (toString n) :=
  sealed_of_noTag (not_mem_number rfl n)

theorem sealed_escape (s : String) : Sealed (escape s) :=
  sealed_of_noTag (not_mem_escape (by decide) s)

theorem sealed_escapeText (s : String) : Sealed (escapeText s) :=
  sealed_of_noTag (not_mem_escapeText (by decide) s)

theorem sealed_escapeLink (s : String) : Sealed (escapeLink s) :=
  sealed_of_noTag (not_mem_escapeLink (by decide) s)

/-! ## The HTML of inline content -/

namespace Inline

variable (number : String → Nat)

theorem sealed_titleAttr (title : String) : Sealed (titleAttr title) := by
  unfold titleAttr
  split
  · decide
  · exact sealed_of_noTag (noTag_attr (by decide) title)

theorem sealed_checkHtml (checked : Bool) : Sealed (checkHtml checked) := by
  cases checked <;> decide

mutual

/-- The description of an image has no tags of its own. -/
theorem sealed_alt : ∀ x : Inline, Sealed (x.alt number)
  | .text s => sealed_escape s
  | .code s => sealed_escape s
  | .html s => sealed_escape s
  | .softBreak => (by decide : Sealed " ")
  | .hardBreak => (by decide : Sealed " ")
  | .emphasis xs => sealed_altAll xs
  | .strong xs => sealed_altAll xs
  | .strikethrough xs => sealed_altAll xs
  | .link _ _ xs => sealed_altAll xs
  | .image _ _ xs => sealed_altAll xs
  | .footnote label => Sealed.append (by decide) (sealed_number _) |>.append (by decide)
  | .checkBox true => (by decide : Sealed "[x]")
  | .checkBox false => (by decide : Sealed "[ ]")

theorem sealed_altAll : ∀ xs : List Inline, Sealed (altAll number xs)
  | [] => (by decide : Sealed "")
  | x :: xs => (sealed_alt x).append (sealed_altAll xs)

end

/-- An element is sealed if its tags and its content are. -/
theorem sealed_element {start inner stop : String} (hstart : Sealed start) (hinner : Sealed inner)
    (hstop : Sealed stop) : Sealed (start ++ inner ++ stop) :=
  (hstart.append hinner).append hstop

mutual

/-- Only raw HTML can start a comment. -/
theorem sealed_toHtml : ∀ x : Inline, x.writesRaw = false → Sealed (x.toHtml number)
  | .text s, _ => sealed_escapeText s
  | .code s, _ => sealed_element (by decide) (sealed_escapeText s) (by decide)
  | .softBreak, _ => (by decide : Sealed "\n")
  | .hardBreak, _ => (by decide : Sealed "<br />\n")
  | .emphasis xs, h => sealed_element (by decide) (sealed_toHtmlAll xs h) (by decide)
  | .strong xs, h => sealed_element (by decide) (sealed_toHtmlAll xs h) (by decide)
  | .strikethrough xs, h => sealed_element (by decide) (sealed_toHtmlAll xs h) (by decide)
  | .link destination title xs, h =>
    Sealed.append (by decide) (sealed_escapeLink destination)
      |>.append (by decide) |>.append (sealed_titleAttr title) |>.append (by decide)
      |>.append (sealed_toHtmlAll xs h) |>.append (by decide)
  | .image destination title xs, _ =>
    Sealed.append (by decide) (sealed_escapeLink destination)
      |>.append (by decide) |>.append (sealed_altAll number xs) |>.append (by decide)
      |>.append (sealed_titleAttr title) |>.append (by decide)
  | .footnote label, _ =>
    Sealed.append (by decide) (sealed_escape label)
      |>.append (by decide) |>.append (sealed_number _) |>.append (by decide)
  | .checkBox checked, _ => sealed_checkHtml checked

theorem sealed_toHtmlAll : ∀ xs : List Inline, writesRawAll xs = false → Sealed (toHtmlAll number xs)
  | [], _ => (by decide : Sealed "")
  | x :: xs, h => by
    obtain ⟨hx, hxs⟩ := Bool.or_eq_false_iff.1 h
    exact (sealed_toHtml x hx).append (sealed_toHtmlAll xs hxs)

end

end Inline

/-! ## The HTML of blocks -/

namespace Block

variable (number : String → Nat)

theorem sealed_freshLine (fresh : Bool) : Sealed (freshLine fresh) := by
  cases fresh <;> decide

theorem sealed_codeOpen (info : String) : Sealed (codeOpen info) := by
  unfold codeOpen
  dsimp only
  split
  · decide
  · exact Inline.sealed_element (by decide) (sealed_escape _) (by decide)

theorem sealed_listTags (start : Option Nat) :
    Sealed (listTags start).1 ∧ Sealed (listTags start).2 := by
  unfold listTags
  split
  · decide
  · decide
  · exact ⟨(by decide : Sealed "ol"), Inline.sealed_element (by decide) (sealed_number _) (by decide)⟩

theorem sealed_alignAttr (a : Alignment) : Sealed (alignAttr a) := by
  cases a <;> decide

theorem sealed_rowHtml {element : String} (he : element = "th" ∨ element = "td")
    (columns : List Alignment) {cells : List (List Inline)}
    (h : cells.any Inline.writesRawAll = false) : Sealed (rowHtml number element columns cells) := by
  refine Inline.sealed_element (by decide) (sealed_join fun cell hcell => ?_) (by decide)
  obtain ⟨⟨a, xs⟩, hmem, rfl⟩ := List.mem_map.1 hcell
  have hraw : Inline.writesRawAll xs = false := by
    simpa using List.any_eq_false.1 h xs (List.of_mem_zip hmem).2
  have hstart : Sealed ("<" ++ element ++ alignAttr a ++ ">") := by
    refine Sealed.append (Sealed.append ?_ (sealed_alignAttr a)) (by decide)
    rcases he with rfl | rfl <;> decide
  have hname : Sealed element := by rcases he with rfl | rfl <;> decide
  exact hstart.append (Inline.sealed_toHtmlAll number xs hraw)
    |>.append (by decide) |>.append hname |>.append (by decide)

theorem sealed_tableHtml (columns : List Alignment) {header : List (List Inline)}
    {rows : List (List (List Inline))} (hheader : header.any Inline.writesRawAll = false)
    (hrows : (rows.any fun row => row.any Inline.writesRawAll) = false) :
    Sealed (tableHtml number columns header rows) := by
  have hbody : Sealed (String.join (rows.map fun row => rowHtml number "td" columns row ++ "\n")) := by
    refine sealed_join fun line hline => ?_
    obtain ⟨row, hrow, rfl⟩ := List.mem_map.1 hline
    have hraw : row.any Inline.writesRawAll = false := by
      simpa using List.any_eq_false.1 hrows row hrow
    exact (sealed_rowHtml number (.inr rfl) columns hraw).append (by decide)
  exact Sealed.append (by decide) (sealed_rowHtml number (.inl rfl) columns hheader)
    |>.append (by decide) |>.append hbody |>.append (by decide)

mutual

theorem sealed_toHtml : ∀ (b : Block (List Inline)) (fresh : Bool), b.writesRaw = false →
    Sealed (b.toHtml number fresh)
  | .paragraph xs, fresh, h =>
    (sealed_freshLine fresh).append (by decide)
      |>.append (Inline.sealed_toHtmlAll number xs h) |>.append (by decide)
  | .tight xs, _, h => Inline.sealed_toHtmlAll number xs h
  | .heading level xs, fresh, h =>
    (sealed_freshLine fresh).append (by decide)
      |>.append (sealed_number level) |>.append (by decide)
      |>.append (Inline.sealed_toHtmlAll number xs h) |>.append (by decide)
      |>.append (sealed_number level) |>.append (by decide)
  | .rule, fresh, _ => (sealed_freshLine fresh).append (by decide)
  | .code info s, fresh, _ =>
    (sealed_freshLine fresh).append (sealed_codeOpen info)
      |>.append (sealed_escapeText s) |>.append (by decide)
  | .quote bs, fresh, h =>
    (sealed_freshLine fresh).append (by decide)
      |>.append (sealed_toHtmlAll bs true h) |>.append (by decide)
  | .list start items, fresh, h =>
    (sealed_freshLine fresh).append (sealed_listTags start).2
      |>.append (by decide) |>.append (sealed_toHtmlItems items h) |>.append (by decide)
      |>.append (sealed_listTags start).1 |>.append (by decide)
  | .table columns header rows, _, h =>
    sealed_tableHtml number columns (Bool.or_eq_false_iff.1 h).1 (Bool.or_eq_false_iff.1 h).2
  | .footnote label bs, fresh, h =>
    (sealed_freshLine fresh).append (by decide)
      |>.append (sealed_escape label) |>.append (by decide)
      |>.append (sealed_number _) |>.append (by decide)
      |>.append (sealed_toHtmlAll bs false h) |>.append (by decide)

theorem sealed_toHtmlAll : ∀ (bs : List (Block (List Inline))) (fresh : Bool),
    writesRawAll bs = false → Sealed (toHtmlAll number fresh bs)
  | [], _, _ => (by decide : Sealed "")
  | b :: bs, fresh, h => by
    obtain ⟨hb, hbs⟩ := Bool.or_eq_false_iff.1 h
    exact (sealed_toHtml b fresh hb).append (sealed_toHtmlAll bs _ hbs)

theorem sealed_toHtmlItems : ∀ items : List (List (Block (List Inline))),
    writesRawItems items = false → Sealed (toHtmlItems number items)
  | [], _ => (by decide : Sealed "")
  | bs :: items, h => by
    obtain ⟨hbs, hitems⟩ := Bool.or_eq_false_iff.1 h
    exact Sealed.append (by decide) (sealed_toHtmlAll bs false hbs)
      |>.append (by decide) |>.append (sealed_toHtmlItems items hitems)

end

end Block

/-! ## Pages -/

theorem segments_of_sealed {s : String} (h : Sealed s) :
    Page.segments s.toList = [.text s.toList] := by
  have hfirst := (passes_of_isSealed Page.commented_span? h []).first
  rw [List.append_nil, first_nil] at hfirst
  exact Page.segments_done fun u v huv => Page.span?_eq_none.1 (first_eq_none.1 hfirst u v huv)

/-- A page that writes no raw HTML holds no container: it is rendered without a warning and stays as
rendered, and no id is drawn. -/
theorem expandMarkdown_of_no_raw (markdown : String) (s : Page.Session)
    (h : Block.writesRawAll (Document.ofText markdown) = false) :
    let d := Document.ofText markdown
    Page.expandMarkdown markdown s = ((d.title?, ⟨d.toHtml, 0, []⟩), s) := by
  intro d
  have hsealed : Sealed d.toHtml := Block.sealed_toHtmlAll _ d true h
  rw [Page.expandMarkdown, Page.expand, segments_of_sealed hsealed, Page.expandAll_text,
    String.ofList_toList]

/-- A page that shows markers in code, in an escaped text, in a link and in an image. -/
def manual : String :=
  "\x60\x60\x60\n<!-- platformtabs -->\n<!-- /platformtabs -->\n\x60\x60\x60\n\n" ++
    "\\<!-- codesample --> \x60<!-- codesample -->\x60 " ++
    "[a](b \"<!-- /codesample -->\") ![<!-- /codesample -->](c)\n"

theorem expandMarkdown_of_no_raw_manual :
    Block.writesRawAll (Document.ofText manual) = false ∧
      (Page.expandMarkdown manual {}).1.2 = ⟨(Document.ofText manual).toHtml, 0, []⟩ := by
  have h : Block.writesRawAll (Document.ofText manual) = false := by decide +kernel
  refine ⟨h, ?_⟩
  rw [expandMarkdown_of_no_raw manual {} h]

end DocTabs.Markdown
