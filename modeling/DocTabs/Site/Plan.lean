/-
What a build is asked to do: where the sources are, where the site goes, and what becomes of each
kind of source file.
-/
import DocTabs.Page.Markdown
import DocTabs.Site.Standalone

namespace DocTabs.Site

open Disk

/-- The request for a build. -/
structure Plan where
  /-- Directory of the source files. -/
  source : FilePath
  /-- Directory of the site. -/
  output : FilePath
  /-- The platform that starts active. -/
  preferred : String
  deriving DecidableEq, Repr

/-- What a source file is treated as. -/
inductive Form where
  /-- A markdown page, rendered as a document of its own. -/
  | markdown
  /-- An HTML page, whose containers are expanded. -/
  | html
  /-- A file that is copied. -/
  | verbatim
  deriving DecidableEq, Repr

/-- The form of a file by the extension of its name, in exact case. -/
def Form.ofName (name : String) : Form :=
  match FilePath.extension? name with
  | some extension =>
    if extension ∈ ["md", "markdown"] then .markdown
    else if extension ∈ ["html", "htm"] then .html
    else .verbatim
  | none => .verbatim

/-- The last name of a file below the source directory. -/
def fileName (file : Location) : String :=
  file.getLast?.getD ""

/-- The spelling of a file below the source directory. -/
def relativePath (file : Location) : FilePath :=
  ⟨"/".intercalate file⟩

/-- Where the result of a source file goes. -/
def Plan.destination (plan : Plan) (file : Location) : FilePath :=
  let path := plan.output.join (relativePath file)
  match Form.ofName (fileName file) with
  | .markdown => path.withExtension "html"
  | _ => path

/-- The expansion of a page file. A markdown page becomes a whole document, whose title is the
name of the file where the page has none. -/
def expandPage (form : Form) (file : Location) (text : String) (s : Page.Session) :
    Page.Expansion × Page.Session :=
  match form with
  | .markdown =>
    let ((title, e), s) := Page.expandMarkdown text s
    let page := Standalone.mk (title.getD (FilePath.stem (fileName file))) e.html (file.length - 1)
    ({ e with html := page.toHtml }, s)
  | _ => Page.expand text s

end DocTabs.Site
