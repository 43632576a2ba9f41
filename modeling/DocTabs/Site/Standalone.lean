/-
The HTML document around a rendered markdown page. It links the assets by a way up from the page
to the root of the site.
-/
import DocTabs.Html.Escape
import DocTabs.Site.Asset

namespace DocTabs.Site

/-- A page that stands on its own. -/
structure Standalone where
  title : String
  /-- HTML of the page itself. -/
  html : String
  /-- Number of directories between the root of the site and the page. -/
  depth : Nat
  deriving Repr

namespace Standalone

/-- Where the icon font of the tab buttons comes from. -/
def iconStylesheet : String :=
  "https://cdnjs.cloudflare.com/ajax/libs/font-awesome/4.7.0/css/font-awesome.min.css"

/-- The relative address of an asset, seen from a page below `depth` directories. -/
def assetAddress (depth : Nat) (a : Asset) : String :=
  String.join (List.replicate depth "../") ++ Asset.directory ++ "/" ++ a.name

/-- The element that links a stylesheet. -/
def stylesheetLink (address : String) : String :=
  "<link rel=\"stylesheet\" href=\"" ++ address ++ "\">\n"

/-- The whole document. -/
def toHtml (p : Standalone) : String :=
  "<!DOCTYPE html>\n<html>\n<head>\n<meta charset=\"utf-8\">\n" ++
  "<title>" ++ Html.escape p.title ++ "</title>\n" ++
  stylesheetLink iconStylesheet ++ stylesheetLink (assetAddress p.depth .stylesheet) ++
  "</head>\n<body>\n<article>\n" ++ p.html ++ "\n</article>\n" ++
  "<script src=\"" ++ assetAddress p.depth .script ++ "\"></script>\n" ++
  "</body>\n</html>\n"

end Standalone

end DocTabs.Site
