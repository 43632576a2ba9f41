/-
The state of a running build and its elementary steps. A step that fails keeps what was done before
it: files that were written stay.
-/
import DocTabs.Site.Plan

namespace DocTabs.Site

open Disk

/-- Summary of a build. -/
structure Report where
  /-- Pages that were rendered or expanded. -/
  pages : Nat := 0
  /-- Containers on all pages. -/
  containers : Nat := 0
  /-- Files that were copied. -/
  copied : Nat := 0
  /-- Warnings, each with the path of its page in front. -/
  warnings : List String := []
  deriving DecidableEq, Repr

/-- Why a build fails. -/
inductive BuildError where
  /-- The source directory is missing or is no directory. -/
  | sourceNotFound (source : FilePath)
  /-- A file or a directory could not be read or made. -/
  | access (path : FilePath) (fault : Fault)
  /-- The walk below the source directory could not go on. -/
  | walk (path : FilePath) (fault : Fault)
  /-- An asset could not be loaded. -/
  | missingAsset (name : String)
  deriving DecidableEq, Repr

/-- The wording of a build error. -/
def BuildError.message : BuildError → String
  | sourceNotFound source => "Source directory not found: " ++ source.text
  | access path fault => "I/O error at " ++ path.text ++ ": " ++ fault.message
  | walk path fault => "Failed to walk source directory: " ++ path.text ++
      ": IO error for operation on " ++ path.text ++ ": " ++ fault.message
  | missingAsset name => "Asset not found: " ++ name

/-- What a build tells while it runs. -/
inductive Event where
  | started (source output : FilePath)
  | builtPage (page : FilePath) (containers : Nat)
  | warned (page : FilePath) (warning : String)
  | wroteAssets (directory : FilePath)
  | finished (report : Report)
  deriving DecidableEq, Repr

/-- State of a running build. -/
structure Progress where
  disk : Disk
  session : Page.Session
  report : Report := {}
  /-- Events so far, earliest first. -/
  events : List Event := []

/-- A step of a build. -/
abbrev Step := EStateM BuildError Progress

namespace Step

/-- Records an event. -/
def tell (e : Event) : Step Unit :=
  modify fun w => { w with events := w.events ++ [e] }

/-- The answer of a look at the disk. A fault is an error at the path `p`. -/
def look {α : Type} (p : FilePath) (f : Disk → Except Fault α) : Step α := fun w =>
  match f w.disk with
  | .ok a => .ok a w
  | .error fault => .error (.access p fault) w

/-- Changes the disk. A fault is an error at the path `p`. -/
def change (p : FilePath) (f : Disk → Except Fault Disk) : Step Unit := fun w =>
  match f w.disk with
  | .ok d => .ok () { w with disk := d }
  | .error fault => .error (.access p fault) w

/-- Makes a directory and those above it. -/
def makeDirectories (p : FilePath) : Step Unit := fun w =>
  match w.disk.makeDirectories p with
  | (none, d) => .ok () { w with disk := d }
  | (some fault, d) => .error (.access p fault) { w with disk := d }

/-- Makes the directory that a path lies in. -/
def makeParent (p : FilePath) : Step Unit :=
  match p.parent? with
  | some above => makeDirectories above
  | none => pure ()

/-- Puts a file, after the directory that it lies in. -/
def putFile (p : FilePath) (f : RegularFile) : Step Unit := do
  makeParent p
  change p (·.putFile p f)

/-- Writes a file, after the directory that it lies in. -/
def write (p : FilePath) (content : ByteArray) : Step Unit :=
  putFile p { content }

/-- Copies a file, after the directory that the copy lies in. -/
def copy (source : Location) (p : FilePath) : Step Unit := do
  makeParent p
  change p (·.copy source p)

/-- Runs a step on the session of the build. -/
def onSession {α : Type} (f : Page.Session → α × Page.Session) : Step α := fun w =>
  let (a, s) := f w.session
  .ok a { w with session := s }

/-- Counts a page into the report, and tells of its warnings. -/
def record (page : FilePath) (e : Page.Expansion) : Step Unit := do
  tell (.builtPage page e.containers)
  e.warnings.forM fun warning => do
    tell (.warned page warning)
    modify fun w => { w with report.warnings :=
      w.report.warnings ++ [page.text ++ ": " ++ warning] }
  modify fun w => { w with
    report.pages := w.report.pages + 1
    report.containers := w.report.containers + e.containers }

end Step

end DocTabs.Site
