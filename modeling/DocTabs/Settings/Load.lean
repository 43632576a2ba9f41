/-
Loading the settings of a build. They come from the settings file that is named, or else from the
nearest one above the working directory, or else are the defaults; what the command line gives
replaces them. Relative directories of a file are taken from the directory of that file.
-/
import DocTabs.Disk.Access
import DocTabs.Settings.File
import DocTabs.Settings.Reference
import DocTabs.Tabs.Vocabulary
import DocTabs.Text.Blank

namespace DocTabs

open Disk

/-- The settings of a build. -/
structure Settings where
  /-- The platform that starts active. -/
  preferred : String
  /-- Directory of the source files. -/
  source : FilePath
  /-- Directory of the site. -/
  output : FilePath
  /-- The settings file that was read. -/
  file : Option FilePath
  deriving DecidableEq, Repr

namespace Settings

/-- Values that replace loaded ones. -/
structure Overrides where
  source : Option FilePath := none
  output : Option FilePath := none
  preferred : Option String := none
  deriving DecidableEq, Repr

/-- Why settings cannot be loaded. -/
inductive LoadError where
  /-- The settings file that was named is missing. -/
  | fileNotFound (file : FilePath)
  /-- The settings file cannot be read. -/
  | access (fault : Fault)
  /-- The text of the settings file is no TOML document, or sets a value of a wrong type. -/
  | malformed (document : String)
  /-- A variable is not set, and there is no fallback. -/
  | unset (name : String)
  /-- The platform is blank. -/
  | blankPlatform
  /-- Source and output are the same path. -/
  | sameDirectory
  deriving DecidableEq, Repr

/-- The wording of a settings error. What is wrong with a document is worded by `mistake`. -/
def LoadError.message (mistake : String → String) : LoadError → String
  | fileNotFound file => "Configuration file not found: " ++ file.text
  | access fault => "I/O error: " ++ fault.message
  | malformed document => "TOML parse error: " ++ mistake document
  | unset name => "Environment variable error in tabs.default_platform: $\x7b" ++ name ++
      "\x7d not set"
  | blankPlatform => "Configuration error: tabs.default_platform cannot be empty"
  | sameDirectory => "Configuration error: docs.output_dir must differ from docs.source_dir"

/-- File name of settings. -/
def fileName : String := "ptabs.toml"

/-- Name of the source directory where none is set. -/
def defaultSource : String := "docs"

/-- Name of the output directory where none is set. -/
def defaultOutput : String := "_site"

/-- Refuses settings that no build may use. -/
def check (s : Settings) : Except LoadError Settings :=
  if (Text.trim s.preferred.toList).isEmpty then .error .blankPlatform
  else if s.source.same s.output then .error .sameDirectory
  else .ok s

/-- The settings of a directory without a settings file. -/
def ofDirectory (directory : FilePath) : Settings :=
  ⟨Tabs.defaultPlatform, directory.join ⟨defaultSource⟩, directory.join ⟨defaultOutput⟩, none⟩

/-- The settings that a file at a path makes, with the platform already expanded. -/
def ofFile (path : FilePath) (f : File) (preferred : String) : Settings :=
  let directory := path.parent?.getD ⟨"."⟩
  ⟨preferred, directory.join ⟨f.source.getD defaultSource⟩,
    directory.join ⟨f.output.getD defaultOutput⟩, some path⟩

/-- Reads the settings file at a path. -/
def read (d : Disk) (env : Environment) (path : FilePath) : Except LoadError Settings := do
  let document ← (d.text path).mapError .access
  let f ← (File.ofText? document).elim (throw (.malformed document)) pure
  let preferred ← (expandReferences env (f.preferred.getD Tabs.defaultPlatform)).mapError .unset
  check (ofFile path f preferred)

/-- The locations of the working directory and of those above it. -/
def above (here : Location) : List Location :=
  (List.range (here.length + 1)).map fun n => here.take (here.length - n)

/-- The settings file that is nearest above the working directory. -/
def nearest? (d : Disk) : Option FilePath :=
  ((above d.here).map fun l => l.toPath.join ⟨fileName⟩).find? d.has

/-- The settings with some values replaced. -/
def replace (s : Settings) (o : Overrides) : Settings :=
  { s with
    preferred := o.preferred.getD s.preferred
    source := o.source.getD s.source
    output := o.output.getD s.output }

/-- The settings before any value is replaced. -/
def base (d : Disk) (env : Environment) : Option FilePath → Except LoadError Settings
  | some path => if d.has path then read d env path else .error (.fileNotFound path)
  | none =>
    match nearest? d with
    | some path => read d env path
    | none => .ok (ofDirectory d.here.toPath)

/-- Loads settings. -/
def load (d : Disk) (env : Environment) (path : Option FilePath) (overrides : Option Overrides) :
    Except LoadError Settings := do
  let s ← base d env path
  match overrides with
  | some o => check (s.replace o)
  | none => return s

end Settings

end DocTabs
