/-
Markdown pages: reading, the title, and the HTML. HTML is written piece by piece; `fresh` tells
whether a piece starts on a new line, and block tags start one where they do not.
-/
import DocTabs.Html.Escape
import DocTabs.Markdown.Inline.Read
import DocTabs.Markdown.Outline

namespace DocTabs.Markdown

/-- A page that has been read. -/
abbrev Document := List (Block (List Inline))

/-! ## Footnote numbers -/

namespace Block

mutual

/-- The footnote labels that a block refers to or defines, in document order. -/
def labels : Block (List Inline) → List String
  | .paragraph xs => Inline.footnotesAll xs
  | .tight xs => Inline.footnotesAll xs
  | .heading _ xs => Inline.footnotesAll xs
  | .quote bs => labelsAll bs
  | .list _ items => labelsItems items
  | .table _ header rows =>
    header.flatMap Inline.footnotesAll ++ rows.flatten.flatMap Inline.footnotesAll
  | .footnote label bs => label :: labelsAll bs
  | .rule => []
  | .code _ _ => []
  | .html _ => []

/-- The footnote labels of blocks, in document order. -/
def labelsAll : List (Block (List Inline)) → List String
  | [] => []
  | b :: bs => b.labels ++ labelsAll bs

/-- The footnote labels of list items, in document order. -/
def labelsItems : List (List (Block (List Inline))) → List String
  | [] => []
  | bs :: items => labelsAll bs ++ labelsItems items

end

end Block

/-- The number of a footnote: its place in the order in which labels appear first. -/
def footnoteNumber (labels : List String) (label : String) : Nat :=
  labels.eraseDups.idxOf label + 1

/-! ## Inline HTML -/

namespace Inline

open Html

mutual

/-- The description of an image, without markup. -/
def alt (number : String → Nat) : Inline → String
  | .text s => escape s
  | .code s => escape s
  | .html s => escape s
  | .softBreak => " "
  | .hardBreak => " "
  | .emphasis xs => altAll number xs
  | .strong xs => altAll number xs
  | .strikethrough xs => altAll number xs
  | .link _ _ xs => altAll number xs
  | .image _ _ xs => altAll number xs
  | .footnote label => "[" ++ toString (number label) ++ "]"
  | .checkBox checked => if checked then "[x]" else "[ ]"

/-- The description that inline content makes, without markup. -/
def altAll (number : String → Nat) : List Inline → String
  | [] => ""
  | x :: xs => x.alt number ++ altAll number xs

end

/-- A check box, with a line end behind it. -/
def checkHtml (checked : Bool) : String :=
  "<input disabled=\"\" type=\"checkbox\"" ++ (if checked then " checked=\"\"" else "") ++ "/>\n"

/-- The title attribute of a link or an image, where there is a title. -/
def titleAttr (title : String) : String :=
  if title.isEmpty then "" else attr "title" title

mutual

/-- The HTML of a piece of inline content. -/
def toHtml (number : String → Nat) : Inline → String
  | .text s => escapeText s
  | .code s => "<code>" ++ escapeText s ++ "</code>"
  | .html s => s
  | .softBreak => "\n"
  | .hardBreak => "<br />\n"
  | .emphasis xs => "<em>" ++ toHtmlAll number xs ++ "</em>"
  | .strong xs => "<strong>" ++ toHtmlAll number xs ++ "</strong>"
  | .strikethrough xs => "<del>" ++ toHtmlAll number xs ++ "</del>"
  | .link destination title xs =>
    "<a href=\"" ++ escapeLink destination ++ "\"" ++ titleAttr title ++ ">" ++
      toHtmlAll number xs ++ "</a>"
  | .image destination title xs =>
    "<img src=\"" ++ escapeLink destination ++ "\" alt=\"" ++ altAll number xs ++ "\"" ++
      titleAttr title ++ " />"
  | .footnote label =>
    "<sup class=\"footnote-reference\"><a href=\"#" ++ escape label ++ "\">" ++
      toString (number label) ++ "</a></sup>"
  | .checkBox checked => checkHtml checked

/-- The HTML of inline content. -/
def toHtmlAll (number : String → Nat) : List Inline → String
  | [] => ""
  | x :: xs => x.toHtml number ++ toHtmlAll number xs

end

end Inline

/-! ## Block HTML -/

namespace Block

open Html

/-- A line end where the output is not at the start of a line. -/
def freshLine (fresh : Bool) : String :=
  if fresh then "" else "\n"

/-- Whether the output is at the start of a line behind a piece. -/
def freshAfter (fresh : Bool) (piece : String) : Bool :=
  match piece.toList.getLast? with
  | some c => c = '\n'
  | none => fresh

/-- The start tag of a code block. The language is the info string up to its first blank. -/
def codeOpen (info : String) : String :=
  let language := String.ofList (info.toList.takeWhile (· ≠ ' '))
  if language.isEmpty then "<pre><code>"
  else "<pre><code class=\"language-" ++ escape language ++ "\">"

/-- The name of a list's element, and its start tag. -/
def listTags : Option Nat → String × String
  | none => ("ul", "<ul>")
  | some 1 => ("ol", "<ol>")
  | some n => ("ol", "<ol start=\"" ++ toString n ++ "\">")

/-- The style attribute of a table cell. -/
def alignAttr : Alignment → String
  | .none => ""
  | .left => " style=\"text-align: left\""
  | .center => " style=\"text-align: center\""
  | .right => " style=\"text-align: right\""

/-- The cells of a row as elements of a name. -/
def rowHtml (number : String → Nat) (element : String) (columns : List Alignment)
    (cells : List (List Inline)) : String :=
  "<tr>" ++ String.join ((columns.zip cells).map fun (a, xs) =>
    "<" ++ element ++ alignAttr a ++ ">" ++ Inline.toHtmlAll number xs ++ "</" ++ element ++ ">") ++
    "</tr>"

/-- The HTML of a table. -/
def tableHtml (number : String → Nat) (columns : List Alignment) (header : List (List Inline))
    (rows : List (List (List Inline))) : String :=
  "<table><thead>" ++ rowHtml number "th" columns header ++ "</thead><tbody>\n" ++
    String.join (rows.map fun row => rowHtml number "td" columns row ++ "\n") ++
    "</tbody></table>\n"

mutual

/-- The HTML of a block. -/
def toHtml (number : String → Nat) (fresh : Bool) : Block (List Inline) → String
  | .paragraph xs => freshLine fresh ++ "<p>" ++ Inline.toHtmlAll number xs ++ "</p>\n"
  | .tight xs => Inline.toHtmlAll number xs
  | .heading level xs =>
    freshLine fresh ++ "<h" ++ toString level ++ ">" ++ Inline.toHtmlAll number xs ++ "</h" ++
      toString level ++ ">\n"
  | .rule => freshLine fresh ++ "<hr />\n"
  | .code info s => freshLine fresh ++ codeOpen info ++ escapeText s ++ "</code></pre>\n"
  | .html s => s
  | .quote bs =>
    freshLine fresh ++ "<blockquote>\n" ++ toHtmlAll number true bs ++ "</blockquote>\n"
  | .list start items =>
    freshLine fresh ++ (listTags start).2 ++ "\n" ++ toHtmlItems number items ++ "</" ++
      (listTags start).1 ++ ">\n"
  | .table columns header rows => tableHtml number columns header rows
  | .footnote label bs =>
    freshLine fresh ++ "<div class=\"footnote-definition\" id=\"" ++ escape label ++
      "\"><sup class=\"footnote-definition-label\">" ++ toString (number label) ++ "</sup>" ++
      toHtmlAll number false bs ++ "</div>\n"

/-- The HTML of blocks in order. -/
def toHtmlAll (number : String → Nat) (fresh : Bool) : List (Block (List Inline)) → String
  | [] => ""
  | b :: bs =>
    let piece := b.toHtml number fresh
    piece ++ toHtmlAll number (freshAfter fresh piece) bs

/-- The HTML of list items; each starts on a new line. -/
def toHtmlItems (number : String → Nat) : List (List (Block (List Inline))) → String
  | [] => ""
  | bs :: items =>
    "<li>" ++ toHtmlAll number false bs ++ "</li>\n" ++ toHtmlItems number items

end

end Block

/-! ## Pages -/

namespace Document

/-- Reads a page. -/
def ofText (s : String) : Document :=
  let o := Outline.ofPage s.toList
  Block.mapAll (Inline.ofSource ⟨o.links, o.footnotes⟩) o.blocks.reverse

/-- The HTML of a page. -/
def toHtml (d : Document) : String :=
  Block.toHtmlAll (footnoteNumber (Block.labelsAll d)) true d

/-- The text of the first heading of level 1, if it is not blank. -/
def title? (d : Document) : Option String := do
  let heading ← Block.mainHeadingIn? d
  let text := Text.trimmed (Inline.plainAll heading)
  if text.isEmpty then none else some text

end Document

end DocTabs.Markdown
