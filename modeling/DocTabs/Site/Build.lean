/-
Building a site: the files below the source directory are visited in byte order of their names,
directory by directory; pages are rendered with one session, other files are copied, and the assets
come last. A directory is listed when its turn comes, on the disk as it is then.
-/
import DocTabs.Site.Progress

namespace DocTabs.Site

open Disk

namespace Plan

/-- Whether a name is left out of a build. -/
def isHidden (name : String) : Bool :=
  name.startsWith "."

/-- Treats one source file. `root` is the location of the source directory. -/
def treat (plan : Plan) (root file : Location) : Step Unit := do
  let dest := plan.destination file
  match Form.ofName (fileName file) with
  | .verbatim =>
    Step.copy (root ++ file) dest
    modify fun w => { w with report.copied := w.report.copied + 1 }
  | form =>
    let text ← Step.look (Location.toPath (root ++ file)) (·.textAt (root ++ file))
    let e ← Step.onSession (expandPage form file text)
    Step.write dest e.html.toUTF8
    Step.record (relativePath file) e

/-- Treats the source files below `dir`, which lies below the source directory. Hidden entries and
the entry at `excluded` are left out; `depth` bounds how deep directories nest. -/
def visit (plan : Plan) (root excluded : Location) : Nat → Location → Step Unit
  | 0, _ => pure ()
  | depth + 1, dir => do
    let names := (← get).disk.names (root ++ dir)
    (names.filter (!isHidden ·)).forM fun name => do
      let entry := dir ++ [name]
      if root ++ entry = excluded then pure ()
      else match (← get).disk.get? (root ++ entry) with
        | some .directory => visit plan root excluded depth entry
        | some (.file _) => plan.treat root entry
        | none => throw (.walk (Location.toPath (root ++ entry)) .missing)

/-- Writes the assets, which are read from where they are kept. -/
def writeAssets (plan : Plan) : Step Unit := do
  let directory := plan.output.join ⟨Asset.directory⟩
  Step.makeDirectories directory
  Asset.all.forM fun a =>
    match Asset.find? ⟨a.name⟩ with
    | some content =>
      let dest := directory.join ⟨a.name⟩
      Step.change dest (·.write dest content)
    | none => throw (.missingAsset a.name)
  Step.tell (.wroteAssets directory)

/-- The steps of a build. -/
def steps (plan : Plan) : Step Unit := do
  if !(← get).disk.hasDirectory plan.source then throw (.sourceNotFound plan.source)
  Step.tell (.started plan.source plan.output)
  Step.makeDirectories plan.output
  let root ← Step.look plan.source (·.canonical plan.source)
  let excluded ← Step.look plan.output (·.canonical plan.output)
  plan.visit root excluded (← get).disk.height []
  plan.writeAssets
  Step.tell (.finished (← get).report)

end Plan

/-- Outcome of a build. -/
structure Outcome where
  result : Except BuildError Report
  /-- The disk afterwards, also after a failure. -/
  disk : Disk
  events : List Event

/-- Builds a site. -/
def build (plan : Plan) (d : Disk) : Outcome :=
  match plan.steps ⟨d, ⟨plan.preferred, 0⟩, {}, []⟩ with
  | .ok _ w => ⟨.ok w.report, w.disk, w.events⟩
  | .error e w => ⟨.error e, w.disk, w.events⟩

end DocTabs.Site
