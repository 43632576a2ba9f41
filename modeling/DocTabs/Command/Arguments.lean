/-
The arguments of the command line. A value follows its option as the next argument, or behind `=`,
or directly behind a one-letter option; letters without a value may share one argument. No option
may come twice. Arguments are read in order, and the first that settles the outcome wins: a
mistake, or a wish for the version or for help.
-/
import DocTabs.Disk.FilePath
import DocTabs.Text.Seek

namespace DocTabs.Command

open Disk

/-- Options of a build. -/
structure BuildOptions where
  /-- The settings file. -/
  file : Option FilePath := none
  source : Option FilePath := none
  output : Option FilePath := none
  preferred : Option String := none
  verbose : Bool := false
  deriving DecidableEq, Repr

/-- What the command line asks for. -/
inductive Request where
  | build (options : BuildOptions)
  | version
  | help
  deriving DecidableEq, Repr

/-- An option with a value. -/
inductive Valued where
  | file
  | source
  | output
  | preferred
  deriving DecidableEq, Repr

/-- An option of a build. -/
inductive Flag where
  | valued (v : Valued)
  | verbose
  | help
  deriving DecidableEq, Repr

namespace Flag

/-- The options by their names. -/
def names : List (String × Flag) :=
  [("config", .valued .file), ("source-dir", .valued .source), ("output-dir", .valued .output),
    ("default-platform", .valued .preferred), ("verbose", .verbose), ("help", .help)]

/-- The options by their letters. -/
def letters : List (Char × Flag) :=
  [('c', .valued .file), ('s', .valued .source), ('o', .valued .output), ('v', .verbose),
    ('h', .help)]

end Flag

namespace BuildOptions

/-- The value of an option that takes none yet. -/
def once {α : Type} (old : Option α) (new : α) : Option (Option α) :=
  if old.isSome then none else some (some new)

/-- The path that a value spells. No path is empty. -/
def path? (value : String) : Option FilePath :=
  if value.isEmpty then none else some ⟨value⟩

/-- Gives an option its value. Fails where it has one, and where the value is no path. -/
def give? (o : BuildOptions) (v : Valued) (value : String) : Option BuildOptions :=
  match v with
  | .file => do return { o with file := ← once o.file (← path? value) }
  | .source => do return { o with source := ← once o.source (← path? value) }
  | .output => do return { o with output := ← once o.output (← path? value) }
  | .preferred => do return { o with preferred := ← once o.preferred value }

/-- Asks for verbose output, which can be done once. -/
def raise? (o : BuildOptions) : Option BuildOptions :=
  if o.verbose then none else some { o with verbose := true }

end BuildOptions

/-! ## Reading -/

/-- Whether an argument cannot be the value of the option before it. -/
def isOption (argument : String) : Bool :=
  argument.startsWith "-" && argument != "-"

/-- What reading one argument leads to. -/
inductive Reading where
  /-- Options so far. -/
  | options (o : BuildOptions)
  /-- Options so far; the value of one more is the next argument. -/
  | wanting (o : BuildOptions) (v : Valued)
  /-- Help is asked for. -/
  | help

/-- Reads letters behind a dash. -/
def readLetters? (o : BuildOptions) : List Char → Option Reading
  | [] => some (.options o)
  | c :: rest =>
    match Flag.letters.lookup c with
    | some (.valued v) =>
      match rest with
      | [] => some (.wanting o v)
      | '=' :: value => (o.give? v (String.ofList value)).map .options
      | value => (o.give? v (String.ofList value)).map .options
    | some .verbose => o.raise? >>= fun o => readLetters? o rest
    | some .help => some .help
    | none => none

/-- Reads a name behind two dashes. -/
def readName? (o : BuildOptions) (text : List Char) : Option Reading :=
  let (name, value) := match Text.cut? "=" text with
    | some (name, value) => (name, some (String.ofList value))
    | none => (text, none)
  match Flag.names.lookup (String.ofList name), value with
  | some (.valued v), some value => (o.give? v value).map .options
  | some (.valued v), none => some (.wanting o v)
  | some .verbose, none => o.raise?.map .options
  | some .help, none => some .help
  | _, _ => none

/-- Reads an argument where an option may stand. -/
def readArgument? (o : BuildOptions) (argument : String) : Option Reading :=
  match argument.toList with
  | '-' :: '-' :: name => readName? o name
  | '-' :: c :: rest => readLetters? o (c :: rest)
  | _ => none

namespace Request

/-- Reads the arguments of a build. -/
def ofBuild? (o : BuildOptions) : List String → Option Request
  | [] => some (.build o)
  | "--" :: rest => if rest.isEmpty then some (.build o) else none
  | argument :: rest =>
    match readArgument? o argument, rest with
    | none, _ => none
    | some .help, _ => some .help
    | some (.options o), rest => ofBuild? o rest
    | some (.wanting _ _), [] => none
    | some (.wanting o v), value :: rest =>
      if isOption value then none else o.give? v value >>= fun o => ofBuild? o rest

/-- Reads all arguments. There is none for a mistake in them. -/
def ofArguments? : List String → Option Request
  | [] => none
  | "build" :: rest => ofBuild? {} rest
  | "help" :: rest => if rest ∈ [[], ["build"], ["help"]] then some .help else none
  | "--version" :: _ => some .version
  | "--help" :: _ => some .help
  | argument :: _ =>
    match argument.toList with
    | '-' :: 'V' :: _ => some .version
    | '-' :: 'h' :: _ => some .help
    | _ => none

end Request

end DocTabs.Command
