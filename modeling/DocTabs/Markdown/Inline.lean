/-
Inline content of a markdown page: what stands inside a paragraph, a heading or a table cell.
-/
namespace DocTabs.Markdown

/-- A piece of inline content. -/
inductive Inline where
  | text (content : String)
  | code (content : String)
  /-- Raw HTML, passed through as it is. -/
  | html (content : String)
  | softBreak
  | hardBreak
  | emphasis (content : List Inline)
  | strong (content : List Inline)
  | strikethrough (content : List Inline)
  | link (destination title : String) (content : List Inline)
  | image (destination title : String) (content : List Inline)
  /-- A reference to the footnote of this label. -/
  | footnote (label : String)
  | checkBox (checked : Bool)
  deriving Repr

namespace Inline

mutual

/-- The text of a piece without its markup: its texts and code spans, those of an image's
description included. Breaks, check boxes and raw HTML contribute nothing. -/
def plain : Inline → String
  | .text s => s
  | .code s => s
  | .emphasis xs => plainAll xs
  | .strong xs => plainAll xs
  | .strikethrough xs => plainAll xs
  | .link _ _ xs => plainAll xs
  | .image _ _ xs => plainAll xs
  | .html _ => ""
  | .softBreak => ""
  | .hardBreak => ""
  | .footnote _ => ""
  | .checkBox _ => ""

/-- The text of inline content without its markup. -/
def plainAll : List Inline → String
  | [] => ""
  | x :: xs => x.plain ++ plainAll xs

/-- The footnote labels that a piece refers to, in order. -/
def footnotes : Inline → List String
  | .footnote label => [label]
  | .emphasis xs => footnotesAll xs
  | .strong xs => footnotesAll xs
  | .strikethrough xs => footnotesAll xs
  | .link _ _ xs => footnotesAll xs
  | .image _ _ xs => footnotesAll xs
  | .text _ => []
  | .code _ => []
  | .html _ => []
  | .softBreak => []
  | .hardBreak => []
  | .checkBox _ => []

/-- The footnote labels that inline content refers to, in order. -/
def footnotesAll : List Inline → List String
  | [] => []
  | x :: xs => x.footnotes ++ footnotesAll xs

end

end Inline

end DocTabs.Markdown
