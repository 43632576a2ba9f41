/-
The settings file. Two tables of it count, `docs` with the directories and `tabs` with the platform;
all else in it is ignored. The entries of such a table may also come as an array in the order of
their keys, and a date counts as a table without entries.
-/
import DocTabs.Toml.Document

namespace DocTabs.Settings

open Toml

/-- What a settings file sets. -/
structure File where
  /-- Directory of the source files, `source_dir` in `docs`. -/
  source : Option String := none
  /-- Directory of the site, `output_dir` in `docs`. -/
  output : Option String := none
  /-- The platform that starts active, `default_platform` in `tabs`. -/
  preferred : Option String := none
  deriving DecidableEq, Repr

namespace File

/-- The text that may stand somewhere. Fails where something else stands. -/
def text? : Option Value → Option (Option String)
  | none => some none
  | some (.text s) => some (some s)
  | some _ => none

/-- The texts under some keys of a table. -/
def texts? (keys : List String) : Option Value → Option (List (Option String))
  | none => some (keys.map fun _ => none)
  | some (.table _ entries) => keys.mapM fun key => text? (entries.lookup key)
  | some (.array items) => keys.zipIdx.mapM fun (_, i) => text? items[i]?
  | some (.moment _) => some (keys.map fun _ => none)
  | some _ => none

/-- What the root table of a document sets. -/
def ofTable? (t : Table) : Option File := do
  let docs ← texts? ["source_dir", "output_dir"] (t.lookup "docs")
  let tabs ← texts? ["default_platform"] (t.lookup "tabs")
  match docs, tabs with
  | [source, output], [preferred] => return ⟨source, output, preferred⟩
  | _, _ => none

/-- What a document sets. -/
def ofText? (document : String) : Option File :=
  Toml.read? document >>= ofTable?

end File

end DocTabs.Settings
