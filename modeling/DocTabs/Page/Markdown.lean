/-
Markdown pages: the page is rendered, and then its containers are expanded. Markers are HTML
comments, so rendering passes them through.
-/
import DocTabs.Markdown.Document
import DocTabs.Page.Expand

namespace DocTabs.Page

open Markdown

/-- The title of a markdown page, if it has one, and its expanded HTML. -/
def expandMarkdown (markdown : String) (s : Session) : (Option String × Expansion) × Session :=
  let d := Document.ofText markdown
  let (e, s) := expand d.toHtml s
  ((d.title?, e), s)

end DocTabs.Page
