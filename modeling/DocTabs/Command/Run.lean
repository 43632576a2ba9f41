/-
One run of the program: from arguments, environment and disk to exit code, printed texts and the
disk afterwards. Two things come to it from outside: whether what it prints is colored, and how a
mistake in a settings file is worded.
-/
import DocTabs.Command.Arguments
import DocTabs.Command.Log

namespace DocTabs.Command

open Disk

/-- What a run takes over from the libraries that it stands on. -/
structure Host where
  /-- Whether printed lines are colored. -/
  colored : Bool
  /-- What the reader of settings files says of a document that it refuses. -/
  mistake : String → String

/-- What a run leaves. -/
structure Outcome where
  exitCode : Nat
  /-- What is printed as the answer. -/
  stdout : String := ""
  /-- What is printed beside it. -/
  stderr : String := ""
  /-- The disk afterwards. -/
  disk : Disk

/-! ## Printed lines -/

/-- The styles of printed texts. -/
inductive Style where
  | label
  | success
  | warning
  | error
  deriving DecidableEq, Repr

namespace Style

/-- What turns a style on: dim, green, yellow and red. -/
def code : Style → String
  | label => "\x1b[2m"
  | success => "\x1b[32m"
  | warning => "\x1b[33m"
  | error => "\x1b[31m"

/-- What turns all styles off. -/
def reset : String := "\x1b[0m"

/-- A text in a style, where texts are colored. -/
def paint (style : Style) (colored : Bool) (text : String) : String :=
  if colored then style.code ++ text ++ reset else text

end Style

/-- Lines, each with its line end. -/
def printed (lines : List String) : String :=
  String.join (lines.map (· ++ "\n"))

/-- Name and version of the program. -/
def versionText : String := "ptabs 0.1.0\n"

/-- How the program is called. -/
def usageText : String :=
  "Usage: ptabs build [-c FILE] [-s DIRECTORY] [-o DIRECTORY] [--default-platform PLATFORM] [-v]"

/-- A number with a noun. -/
def count (n : Nat) (noun : String) : String :=
  if n = 1 then "1 " ++ noun else toString n ++ " " ++ noun ++ "s"

/-- What sums up a build. -/
def summary (r : Site.Report) (output : FilePath) : String :=
  "Built " ++ count r.pages "page" ++ " with " ++ count r.containers "tab container" ++ " to " ++
    output.text

namespace Host

/-- The line of a path behind its label. -/
def pathLine (host : Host) (label : String) (p : FilePath) : String :=
  Style.label.paint host.colored (label ++ ":") ++ " " ++ p.text

/-- The lines that tell which paths a build uses. -/
def pathLines (host : Host) (s : Settings) : List String :=
  (s.file.map (host.pathLine "Config")).toList ++
    [host.pathLine "Source" s.source, host.pathLine "Output" s.output]

/-- The lines of a build that succeeded: its warnings, and what sums it up. -/
def reportLines (host : Host) (r : Site.Report) (output : FilePath) : List String :=
  r.warnings.map (fun warning => Style.warning.paint host.colored ("Warning: " ++ warning)) ++
    [Style.success.paint host.colored (summary r output)]

/-- The line of an error. -/
def errorLine (host : Host) (message : String) : String :=
  Style.error.paint host.colored ("Error: " ++ message)

end Host

/-! ## Building -/

/-- The variable that gives the platform where no option does. -/
def platformVariable : String := "PTABS_DEFAULT_PLATFORM"

/-- The values that replace loaded settings. -/
def BuildOptions.overrides (o : BuildOptions) (env : Settings.Environment) : Settings.Overrides :=
  ⟨o.source, o.output, o.preferred <|> env.get? platformVariable⟩

/-- The request for a build that settings make. -/
def planOf (s : Settings) : Site.Plan :=
  ⟨s.source, s.output, s.preferred⟩

/-- Loads the settings and builds the site. -/
def runBuild (host : Host) (o : BuildOptions) (env : Settings.Environment) (d : Disk) : Outcome :=
  let filter := Filter.choose o.verbose env
  match Settings.load d env o.file (some (o.overrides env)) with
  | .error e => { exitCode := 1, stderr := printed [host.errorLine (e.message host.mistake)], disk := d }
  | .ok s =>
    let built := Site.build (planOf s) d
    let before := filter.lines [entryOfSettings s] ++ host.pathLines s ++
      filter.lines (built.events.map entryOfEvent)
    match built.result with
    | .error e =>
      { exitCode := 1, stderr := printed (before ++ [host.errorLine e.message]), disk := built.disk }
    | .ok r =>
      { exitCode := 0, stderr := printed (before ++ host.reportLines r s.output), disk := built.disk }

/-- Runs the program. -/
def run (host : Host) (arguments : List String) (env : Settings.Environment) (d : Disk) : Outcome :=
  match Request.ofArguments? arguments with
  | none => { exitCode := 2, stderr := printed [usageText], disk := d }
  | some .version => { exitCode := 0, stdout := versionText, disk := d }
  | some .help => { exitCode := 0, stdout := usageText ++ "\n", disk := d }
  | some (.build o) => runBuild host o env d

end DocTabs.Command
