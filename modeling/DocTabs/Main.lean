/-
The program. The parts of the real file system that a run can look at are carried into a disk, the
run is computed on it, and what it has changed is carried back.
-/
import DocTabs.Command.Run

namespace DocTabs.Main

open Disk

/-- The location of a real path. -/
def locationOf (real : String) : Location :=
  (FilePath.mk real).parts.2

/-- The mode of a real file: whether it can be opened for writing. -/
def modeOf (real : String) : IO Mode :=
  try
    let _ ← IO.FS.Handle.mk real .readWrite
    return .readWrite
  catch _ => return .readOnly

/-- The disk with everything at and below a real path. -/
partial def addTree (d : Disk) (real : String) : IO Disk := do
  let path ← IO.FS.realPath real
  if ← path.isDir then
    (← path.readDir).foldlM (fun d e => addTree d e.path.toString)
      (d.put (locationOf path.toString) .directory)
  else
    let f := RegularFile.mk (← IO.FS.readBinFile path) (← modeOf path.toString)
    return d.put (locationOf path.toString) (.file f)

/-- The disk with a directory at a location and at those above it. -/
def addAbove (d : Disk) (l : Location) : Disk :=
  ((Settings.above l).filter (· != [])).foldl (fun d l => d.put l .directory) d

/-- The disk with what a path leads to and what lies on the way there. Nothing is added for what is
missing. -/
def addPath (d : Disk) (p : FilePath) : IO Disk := do
  let mut d := d
  for q in p.ancestors.reverse do
    try
      let real ← IO.FS.realPath q.text
      d := addAbove d (locationOf real.toString).dropLast
      if ← real.isDir then d := addAbove d (locationOf real.toString)
    catch _ => pure ()
  try addTree d p.text catch _ => return d

/-- The variables of the process that are text. -/
def readEnvironment : IO Settings.Environment := do
  let bytes ← IO.FS.readBinFile "/proc/self/environ"
  let entries := (bytes.toList.splitBy fun a _ => a != 0).filterMap fun entry =>
    String.fromUTF8? ⟨(entry.filter (· != 0)).toArray⟩
  return ⟨entries.filterMap fun entry =>
    match entry.toList with
    | [] => none
    | c :: r => (Text.cut? "=" r).map fun e => (String.ofList (c :: e.1), String.ofList e.2)⟩

/-- The paths that decide on the settings of a run. -/
def settingsPaths (here : Location) : Option Command.Request → List FilePath
  | some (.build o) => o.file.toList ++
      (Settings.above here).map fun l => l.toPath.join ⟨Settings.fileName⟩
  | _ => []

/-- The directories that a run reads and writes. -/
def sitePaths (d : Disk) (env : Settings.Environment) : Option Command.Request → List FilePath
  | some (.build o) =>
    match Settings.load d env o.file (some (o.overrides env)) with
    | .ok s => [s.source, s.output]
    | .error _ => []
  | _ => []

/-- Whether the terminal, or else the environment, wants colors. -/
def readColored (env : Settings.Environment) : IO Bool := do
  let terminal := (← (← IO.getStdout).isTty) && (env.get? "NO_COLOR").isNone &&
    (env.get? "TERM").any (· != "dumb")
  return terminal && (env.get? "CLICOLOR").getD "1" != "0" ||
    (env.get? "CLICOLOR_FORCE").getD "0" != "0"

/-- What is said of every document that is refused. -/
def mistake (_ : String) : String :=
  "the document does not set what settings set"

/-- Carries back what has changed. -/
def store (before after : Disk) : IO Unit := do
  let changed := after.nodes.filter fun e => before.get? e.1 != some e.2
  for (l, n) in changed.mergeSort fun a b => decide (a.1.length ≤ b.1.length) do
    match n with
    | .directory => IO.FS.createDirAll l.toPath.text
    | .file f =>
      IO.FS.writeBinFile l.toPath.text f.content
      if f.mode = .readOnly then
        let right : IO.AccessRight := { read := true }
        IO.setAccessRights l.toPath.text { user := right, group := right, other := right }

end DocTabs.Main

open DocTabs in
/-- Runs the program on the real file system. -/
def main (arguments : List String) : IO UInt32 := do
  let env ← Main.readEnvironment
  let here := Main.locationOf (← IO.FS.realPath ".").toString
  let request := Command.Request.ofArguments? arguments
  let d ← (Main.settingsPaths here request).foldlM Main.addPath (Main.addAbove ⟨[], here⟩ here)
  let d ← (Main.sitePaths d env request).foldlM Main.addPath d
  let outcome := Command.run ⟨← Main.readColored env, Main.mistake⟩ arguments env d
  Main.store d outcome.disk
  IO.print outcome.stdout
  IO.eprint outcome.stderr
  return outcome.exitCode.toUInt32
