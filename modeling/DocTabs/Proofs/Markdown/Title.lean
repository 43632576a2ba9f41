/-
The title of a markdown page against its heading. Both are written from the same inline content: the HTML
spells a break as a line end, and the title drops it. So the title has the characters of the heading, and
it has the words of the heading where no break stands between two words.
-/
import DocTabs.Page.Markdown
import DocTabs.Proofs.Html.TextContent
import DocTabs.Proofs.Text.Words

namespace DocTabs.Markdown

open Html Text

/-! ## Prose -/

namespace Inline

mutual

/-- Whether a piece is built from texts, code spans, emphasis, links and breaks alone. -/
def isProse : Inline → Bool
  | .text _ => true
  | .code _ => true
  | .softBreak => true
  | .hardBreak => true
  | .emphasis xs => isProseAll xs
  | .strong xs => isProseAll xs
  | .strikethrough xs => isProseAll xs
  | .link _ _ xs => isProseAll xs
  | .image _ _ _ => false
  | .html _ => false
  | .footnote _ => false
  | .checkBox _ => false

def isProseAll : List Inline → Bool
  | [] => true
  | x :: xs => x.isProse && isProseAll xs

end

mutual

/-- The characters of a piece, with `none` for a break. -/
def signs : Inline → List (Option Char)
  | .text s => s.toList.map some
  | .code s => s.toList.map some
  | .softBreak => [none]
  | .hardBreak => [none]
  | .emphasis xs => signsAll xs
  | .strong xs => signsAll xs
  | .strikethrough xs => signsAll xs
  | .link _ _ xs => signsAll xs
  | .image _ _ xs => signsAll xs
  | .html _ => []
  | .footnote _ => []
  | .checkBox _ => []

def signsAll : List Inline → List (Option Char)
  | [] => []
  | x :: xs => x.signs ++ signsAll xs

end

mutual

/-- The text without markup drops the breaks. -/
theorem toList_plain : ∀ x : Inline, x.plain.toList = x.signs.reduceOption
  | .text s => by rw [plain, signs, List.reduceOption, List.filterMap_map]; exact List.filterMap_some.symm
  | .code s => by rw [plain, signs, List.reduceOption, List.filterMap_map]; exact List.filterMap_some.symm
  | .emphasis xs => by rw [plain, signs, toList_plainAll]
  | .strong xs => by rw [plain, signs, toList_plainAll]
  | .strikethrough xs => by rw [plain, signs, toList_plainAll]
  | .link _ _ xs => by rw [plain, signs, toList_plainAll]
  | .image _ _ xs => by rw [plain, signs, toList_plainAll]
  | .html _ => rfl
  | .softBreak => rfl
  | .hardBreak => rfl
  | .footnote _ => rfl
  | .checkBox _ => rfl

theorem toList_plainAll : ∀ xs : List Inline, (plainAll xs).toList = (signsAll xs).reduceOption
  | [] => rfl
  | x :: xs => by
    rw [plainAll, signsAll, String.toList_append, List.reduceOption_append, toList_plain,
      toList_plainAll]

end

/-! ## The text of the HTML -/

theorem textless_tag : ∀ tag ∈ ["<code>", "</code>", "<em>", "</em>", "<strong>", "</strong>", "<del>",
    "</del>", "</a>"], Textless tag.toList := by
  simp only [List.forall_mem_cons]
  exact ⟨fun _ => rfl, fun _ => rfl, fun _ => rfl, fun _ => rfl, fun _ => rfl, fun _ => rfl,
    fun _ => rfl, fun _ => rfl, fun _ => rfl, nofun⟩

theorem textless_link (destination title : String) :
    Textless ("<a href=\"" ++ escapeLink destination ++ "\"" ++ titleAttr title ++ ">").toList := by
  have htitle : Inside (titleAttr title).toList := by
    unfold titleAttr
    split
    · exact fun _ => rfl
    · have hattr : Inside (" title=".toList ++ '"' :: ((escape title).toList ++ ['"'])) :=
        inside_attribute (by decide) (by decide) (not_mem_escape (by decide) title)
      simpa [attr] using hattr
  have href : Inside ("a href=".toList ++ '"' :: ((escapeLink destination).toList ++ ['"'])) :=
    inside_attribute (by decide) (by decide) (not_mem_escapeLink (by decide) destination)
  have htag := (href.append htitle).textless
  simpa using htag

/-- An element has the text that is in it. -/
theorem textChars_element {start stop inner : String} {text : List Char}
    (hstart : Textless start.toList) (hstop : Textless stop.toList)
    (hinner : ∀ s, textChars .text (inner.toList ++ s) = text ++ textChars .text s) (s : List Char) :
    textChars .text ((start ++ inner ++ stop).toList ++ s) = text ++ textChars .text s := by
  rw [String.toList_append, String.toList_append, List.append_assoc, List.append_assoc, hstart, hinner,
    hstop]

theorem textChars_lineEnd (s : List Char) : textChars .text ("\n".toList ++ s) = '\n' :: textChars .text s :=
  rfl

theorem textChars_br (s : List Char) :
    textChars .text ("<br />\n".toList ++ s) = '\n' :: textChars .text s :=
  rfl

theorem textChars_written (t : String) (s : List Char) :
    textChars .text ((escapeText t).toList ++ s) =
      (t.toList.map some).map (·.getD '\n') ++ textChars .text s := by
  rw [textChars_escapeText, List.map_map]
  exact congrArg (· ++ _) (List.map_id _).symm

variable (number : String → Nat)

mutual

/-- The text of the HTML spells a break as a line end. -/
theorem textChars_toHtml : ∀ x : Inline, x.isProse = true → ∀ s,
    textChars .text ((x.toHtml number).toList ++ s) =
      x.signs.map (·.getD '\n') ++ textChars .text s
  | .text t, _ => textChars_written t
  | .code t, _ =>
    textChars_element (textless_tag _ (by decide)) (textless_tag _ (by decide)) (textChars_written t)
  | .softBreak, _ => textChars_lineEnd
  | .hardBreak, _ => textChars_br
  | .emphasis xs, h => textChars_element (textless_tag _ (by decide)) (textless_tag _ (by decide))
    (textChars_toHtmlAll xs h)
  | .strong xs, h => textChars_element (textless_tag _ (by decide)) (textless_tag _ (by decide))
    (textChars_toHtmlAll xs h)
  | .strikethrough xs, h => textChars_element (textless_tag _ (by decide)) (textless_tag _ (by decide))
    (textChars_toHtmlAll xs h)
  | .link destination title xs, h => textChars_element (textless_link destination title)
    (textless_tag _ (by decide)) (textChars_toHtmlAll xs h)

theorem textChars_toHtmlAll : ∀ xs : List Inline, isProseAll xs = true → ∀ s,
    textChars .text ((toHtmlAll number xs).toList ++ s) =
      (signsAll xs).map (·.getD '\n') ++ textChars .text s
  | [], _ => fun _ => rfl
  | x :: xs, h => fun s => by
    obtain ⟨hx, hxs⟩ := Bool.and_eq_true_iff.1 h
    rw [toHtmlAll, String.toList_append, List.append_assoc, textChars_toHtml x hx,
      textChars_toHtmlAll xs hxs, signsAll, List.map_append, List.append_assoc]

end

theorem textContent_toHtmlAll {xs : List Inline} (h : isProseAll xs = true) :
    (textContent (toHtmlAll number xs)).toList = (signsAll xs).map (·.getD '\n') := by
  have hall := textChars_toHtmlAll number xs h []
  rw [List.append_nil, textChars, List.append_nil] at hall
  rw [textContent, String.toList_ofList, hall]

end Inline

/-! ## The heading -/

namespace Block

/-- The HTML of a heading of level 1. -/
def mainHeadingHtml (number : String → Nat) (xs : List Inline) : String :=
  "<h1>" ++ Inline.toHtmlAll number xs ++ "</h1>\n"

theorem infix_between {p a b c : List Char} (h : p <:+: b) : p <:+: a ++ b ++ c :=
  h.trans (List.infix_append a b c)

variable {number : String → Nat} {xs : List Inline}

mutual

/-- The main heading of a block is in the HTML of the block. -/
theorem infix_mainHeading : ∀ (b : Block (List Inline)) (fresh : Bool), b.mainHeading? = some xs →
    (mainHeadingHtml number xs).toList <:+: (b.toHtml number fresh).toList
  | .heading level ys, fresh, h => by
    rw [mainHeading?] at h
    split at h
    · next hlevel =>
      obtain rfl := Option.some.inj h
      have hdigit : toString 1 = "1" := rfl
      rw [hlevel, toHtml, hdigit]
      refine ⟨(freshLine fresh).toList, [], ?_⟩
      simp [mainHeadingHtml]
    · cases h
  | .quote bs, fresh, h => by
    rw [toHtml, String.toList_append, String.toList_append]
    exact infix_between (infix_mainHeadingIn bs true h)
  | .list start items, fresh, h => by
    simp only [toHtml, String.toList_append, List.append_assoc]
    rw [← List.append_assoc, ← List.append_assoc, ← List.append_assoc]
    exact infix_between (infix_mainHeadingInItems items h)
  | .footnote label bs, fresh, h => by
    rw [toHtml, String.toList_append, String.toList_append]
    exact infix_between (infix_mainHeadingIn bs false h)

theorem infix_mainHeadingIn : ∀ (bs : List (Block (List Inline))) (fresh : Bool),
    mainHeadingIn? bs = some xs →
      (mainHeadingHtml number xs).toList <:+: (toHtmlAll number fresh bs).toList
  | b :: bs, fresh, h => by
    rw [mainHeadingIn?, Option.orElse_eq_orElse, Option.orElse_eq_or, Option.or_eq_some_iff] at h
    rw [toHtmlAll, String.toList_append]
    rcases h with h | ⟨-, h⟩
    · exact (infix_mainHeading b fresh h).trans (List.prefix_append ..).isInfix
    · exact (infix_mainHeadingIn bs _ h).trans (List.suffix_append ..).isInfix

theorem infix_mainHeadingInItems : ∀ items : List (List (Block (List Inline))),
    mainHeadingInItems? items = some xs →
      (mainHeadingHtml number xs).toList <:+: (toHtmlItems number items).toList
  | bs :: items, h => by
    rw [mainHeadingInItems?, Option.orElse_eq_orElse, Option.orElse_eq_or, Option.or_eq_some_iff] at h
    simp only [toHtmlItems, String.toList_append]
    rcases h with h | ⟨-, h⟩
    · exact ((infix_between (infix_mainHeadingIn bs false h)).trans (List.prefix_append ..).isInfix)
    · exact (infix_mainHeadingInItems items h).trans (List.suffix_append ..).isInfix

end

end Block

/-! ## The title -/

theorem title?_eq {d : Document} {xs : List Inline} (h : Block.mainHeadingIn? d = some xs) :
    d.title? = if trim (Inline.plainAll xs).toList = [] then none
      else some (trimmed (Inline.plainAll xs)) := by
  have hempty : (trimmed (Inline.plainAll xs)).isEmpty = true ↔ trim (Inline.plainAll xs).toList = [] := by
    rw [String.isEmpty_iff, ← String.toList_eq_nil_iff, trimmed, String.toList_ofList]
  simp only [Document.title?, h, Option.bind_eq_bind, Option.bind_some, hempty]

/-- The main heading of a page is rendered as it is, and there is a title exactly if it has a word. The
title has the characters of the heading that are not blank. It has the words of the heading exactly if
there are no two words with nothing but breaks between them. -/
theorem title_words (markdown : String) (s : Page.Session) {xs : List Inline}
    (hxs : Block.mainHeadingIn? (Document.ofText markdown) = some xs)
    (hprose : Inline.isProseAll xs = true) :
    let d := Document.ofText markdown
    let heading := Inline.toHtmlAll (footnoteNumber (Block.labelsAll d)) xs
    let title := (Page.expandMarkdown markdown s).1.1
    ("<h1>" ++ heading ++ "</h1>\n").toList <:+: d.toHtml.toList ∧
      (title.isSome = true ↔ words (textContent heading).toList ≠ []) ∧
      ∀ t, title = some t →
        (words t.toList).flatten = (words (textContent heading).toList).flatten ∧
        (words t.toList = words (textContent heading).toList ↔ ¬ Glued (Inline.signsAll xs)) := by
  intro d heading title
  have htext : (textContent heading).toList = (Inline.signsAll xs).map (·.getD '\n') :=
    Inline.textContent_toHtmlAll _ hprose
  have hplain := Inline.toList_plainAll xs
  have htitle : title = d.title? := rfl
  have hblank : trim (Inline.plainAll xs).toList = [] ↔ words (textContent heading).toList = [] := by
    rw [trim_eq_nil_iff, words_eq_nil_iff, words_eq_nil_iff, hplain, htext, filter_reduceOption]
  rw [htitle, title?_eq hxs]
  refine ⟨Block.infix_mainHeadingIn d true hxs, ?_, fun t ht => ?_⟩
  · split
    · next h => simp [hblank.1 h]
    · next h => simpa using fun hw => h (hblank.2 hw)
  · obtain ⟨-, rfl⟩ := by simpa using ht
    have hwords : words (trimmed (Inline.plainAll xs)).toList =
        words (Inline.signsAll xs).reduceOption := by
      rw [trimmed, String.toList_ofList, words_trim, hplain]
    rw [hwords, htext]
    exact ⟨by rw [flatten_words, flatten_words, filter_reduceOption], words_reduceOption_iff⟩

/-- A page with a heading of one line. -/
def oneLine : String := "# Use *the* `tabs` &amp; [more](x \"y\")\n"

theorem title_words_oneLine : ∃ xs, Block.mainHeadingIn? (Document.ofText oneLine) = some xs ∧
    Inline.isProseAll xs = true ∧
    (Page.expandMarkdown oneLine {}).1.1 = some "Use the tabs & more" ∧
    words "Use the tabs & more".toList = words (textContent (Inline.toHtmlAll
      (footnoteNumber (Block.labelsAll (Document.ofText oneLine))) xs)).toList := by
  have hread : (Block.mainHeadingIn? (Document.ofText oneLine)).map
      (fun xs => (Inline.isProseAll xs, Inline.signsAll xs)) =
        some (true, "Use the tabs & more".toList.map some) := by decide +kernel
  obtain ⟨xs, hxs, hpair⟩ := Option.map_eq_some_iff.1 hread
  obtain ⟨hprose, hsigns⟩ := Prod.mk.inj hpair
  have htitle : (Page.expandMarkdown oneLine {}).1.1 = some "Use the tabs & more" := by decide +kernel
  refine ⟨xs, hxs, hprose, htitle, ?_⟩
  refine (((title_words oneLine {} hxs hprose).2.2 _ htitle).2).2 (not_glued_of_not_mem ?_)
  rw [hsigns]
  simp

/-- In a heading over two lines the words around the line end are one word of the title. -/
theorem title_glues_lines : let markdown := "Hello\nworld\n=====\n"
    ∃ xs, Block.mainHeadingIn? (Document.ofText markdown) = some xs ∧
      Inline.isProseAll xs = true ∧
      (Document.ofText markdown).toHtml = "<h1>Hello\nworld</h1>\n" ∧
      (Page.expandMarkdown markdown {}).1.1 = some "Helloworld" ∧
      words (textContent (Inline.toHtmlAll
        (footnoteNumber (Block.labelsAll (Document.ofText markdown))) xs)).toList =
          ["Hello".toList, "world".toList] ∧
      words "Helloworld".toList = ["Helloworld".toList] := by
  intro markdown
  have hread : (Block.mainHeadingIn? (Document.ofText markdown)).map
      (fun xs => (Inline.isProseAll xs, Inline.signsAll xs)) =
        some (true, "Hello".toList.map some ++ none :: "world".toList.map some) := by decide +kernel
  obtain ⟨xs, hxs, hpair⟩ := Option.map_eq_some_iff.1 hread
  obtain ⟨hprose, hsigns⟩ := Prod.mk.inj hpair
  refine ⟨xs, hxs, hprose, by decide +kernel, by decide +kernel, ?_, by decide⟩
  rw [Inline.textContent_toHtmlAll _ hprose, hsigns]
  decide

end DocTabs.Markdown
