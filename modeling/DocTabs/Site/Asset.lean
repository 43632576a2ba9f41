/-
The files that every site carries beside its pages: the stylesheet and the script of the tabs.
-/
import DocTabs.Disk.Access
import DocTabs.Site.Asset.Script
import DocTabs.Site.Asset.Stylesheet

namespace DocTabs.Site

open Disk

/-- A file that every site carries. -/
inductive Asset where
  | stylesheet
  | script
  deriving DecidableEq, Repr

namespace Asset

/-- Directory of the assets in a site. -/
def directory : String := "assets"

/-- File name in that directory. -/
def name : Asset → String
  | stylesheet => "platform-tabs.css"
  | script => "platform-tabs.js"

/-- The assets in the order of their names. -/
def all : List Asset := [.stylesheet, .script]

/-- Text of an asset: its lines, each with its line end. -/
def text : Asset → String
  | stylesheet => "\n".intercalate stylesheetLines ++ "\n"
  | script => "\n".intercalate scriptLines ++ "\n"

/-- Bytes of an asset. -/
def content (a : Asset) : ByteArray :=
  a.text.toUTF8

/-- The directory that holds the assets on a disk of their own. -/
def home : Location := ["tabs", directory]

/-- The assets on a disk of their own. -/
def disk : Disk :=
  let nodes := all.map fun a => (home ++ [a.name], Node.file { content := a.content })
  ⟨(home.take 1, .directory) :: (home, .directory) :: nodes, home⟩

/-- The bytes of the asset that a path leads to from the directory of the assets. -/
def find? (path : FilePath) : Option ByteArray :=
  (disk.content (FilePath.join (Location.toPath disk.here) path)).toOption

end Asset

end DocTabs.Site
