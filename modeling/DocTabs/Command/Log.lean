/-
The log: what the steps of a run tell, at which severity and under which topic, and the filter that
decides which of it is shown.
-/
import DocTabs.Settings.Load
import DocTabs.Site.Build
import DocTabs.Text.Quotable

namespace DocTabs.Command

/-- Severity of a log entry, most severe first. -/
inductive Severity where
  | error
  | warn
  | info
  | debug
  | trace
  deriving DecidableEq, Repr

namespace Severity

/-- Its place, the most severe first. -/
def rank : Severity → Nat
  | error => 1
  | warn => 2
  | info => 3
  | debug => 4
  | trace => 5

/-- Its name in the log. -/
def name : Severity → String
  | error => "ERROR"
  | warn => "WARN"
  | info => "INFO"
  | debug => "DEBUG"
  | trace => "TRACE"

end Severity

/-- An entry of the log. -/
structure Entry where
  severity : Severity
  /-- The part of the program that tells it. -/
  topic : String
  message : String
  fields : List (String × String)
  deriving DecidableEq, Repr

namespace Entry

/-- The written form of a character of a message. Characters that steer a terminal are spelled
out. -/
def messageChar (c : Char) : List Char :=
  let n := c.toNat
  if n ∈ [0x07, 0x08, 0x0c, 0x1b, 0x7f] then
    '\\' :: 'x' :: [Nat.digitChar (n / 16), Nat.digitChar (n % 16)]
  else if 0x80 ≤ n ∧ n ≤ 0x9f then
    "\\u\x7b".toList ++ [Nat.digitChar (n / 16), Nat.digitChar (n % 16)] ++ "\x7d".toList
  else [c]

/-- The line of an entry, without the time in front and without colors. -/
def line (e : Entry) : String :=
  e.severity.name ++ " " ++ e.topic ++ ": " ++
    String.ofList (e.message.toList.flatMap messageChar) ++
    String.join (e.fields.map fun f => " " ++ f.1 ++ "=" ++ f.2)

end Entry

/-! ## What is told -/

/-- The topic of the site builder. -/
def siteTopic : String := "ptabs_site::builder"

/-- The topic of the build command. -/
def buildTopic : String := "ptabs::commands::build"

/-- The entry of an event of the site builder. -/
def entryOfEvent : Site.Event → Entry
  | .started source output =>
    ⟨.info, siteTopic, "Building site", [("source", source.text), ("output", output.text)]⟩
  | .builtPage page containers =>
    ⟨.debug, siteTopic, "Built page", [("path", page.text), ("containers", toString containers)]⟩
  | .warned page warning => ⟨.warn, siteTopic, warning, [("path", page.text)]⟩
  | .wroteAssets directory => ⟨.debug, siteTopic, "Wrote assets", [("dir", directory.text)]⟩
  | .finished r =>
    ⟨.info, siteTopic, "Site built", [("pages", toString r.pages),
      ("containers", toString r.containers), ("copied", toString r.copied),
      ("warnings", toString r.warnings.length)]⟩

/-- A character inside a quoted path. One that would not be seen is spelled by its number. -/
def quotedChar (c : Char) : List Char :=
  if c = '"' ∨ c = '\\' ∨ c = '\'' then ['\\', c]
  else if c = '\n' then ['\\', 'n']
  else if c = '\t' then ['\\', 't']
  else if c = '\r' then ['\\', 'r']
  else if Text.isQuotable c then [c]
  else "\\u\x7b".toList ++ Nat.toDigits 16 c.toNat ++ "\x7d".toList

/-- An optional path as it stands in the log. -/
def quotedPath : Option Disk.FilePath → String
  | none => "None"
  | some p => "Some(\"" ++ String.ofList (p.text.toList.flatMap quotedChar) ++ "\")"

/-- The entry for settings that were loaded. -/
def entryOfSettings (s : Settings) : Entry :=
  ⟨.debug, buildTopic, "Configuration loaded",
    [("config", quotedPath s.file), ("default_platform", s.preferred)]⟩

/-! ## Filters -/

/-- A rule of a filter: topics that start so are shown up to a rank. -/
structure Directive where
  topic : String := ""
  rank : Nat
  deriving DecidableEq, Repr

/-- Rules of which the one with the longest topic decides. -/
abbrev Filter := List Directive

namespace Filter

/-- Severities by name or number, and `off`. -/
def ranks : List (String × Nat) :=
  [("off", 0), ("error", 1), ("warn", 2), ("info", 3), ("debug", 4), ("trace", 5),
    ("0", 0), ("1", 1), ("2", 2), ("3", 3), ("4", 4), ("5", 5)]

/-- The rank that a text names, in any case. -/
def rank? (s : String) : Option Nat :=
  ranks.lookup (String.ofList (s.toList.map Char.toLower))

/-- The rule that a text spells: a severity, a topic, or both with `=` between them. -/
def directive? (s : String) : Option Directive :=
  match Text.cut? "=" s.toList with
  | some (topic, severity) => (rank? (String.ofList severity)).map (⟨String.ofList topic, ·⟩)
  | none => some (match rank? s with
    | some r => ⟨"", r⟩
    | none => ⟨s, Severity.trace.rank⟩)

/-- The filter that a text spells: rules with commas between them. A filter without rules shows
errors. -/
def ofText (s : String) : Filter :=
  let pieces := (Text.splitOn (· == ',') s.toList).filter (!·.isEmpty)
  match pieces.filterMap fun p => directive? (String.ofList p) with
  | [] => [⟨"", Severity.error.rank⟩]
  | rules => rules

/-- The filter of a run: verbose output, or what the environment says. -/
def choose (verbose : Bool) (env : Settings.Environment) : Filter :=
  if verbose then [⟨"", Severity.info.rank⟩] else ofText ((env.get? "RUST_LOG").getD "")

/-- The rule that decides on a topic: of those with the longest topic the last. -/
def decisive? (f : Filter) (topic : String) : Option Directive :=
  (f.filter fun r => topic.startsWith r.topic).foldl (fun best r =>
    match best with
    | some b => if b.topic.length ≤ r.topic.length then some r else some b
    | none => some r) none

/-- Whether an entry is shown. -/
def shows (f : Filter) (e : Entry) : Bool :=
  match f.decisive? e.topic with
  | some r => e.severity.rank ≤ r.rank
  | none => false

/-- The lines of the entries that are shown. -/
def lines (f : Filter) (entries : List Entry) : List String :=
  (entries.filter f.shows).map Entry.line

end Filter

end DocTabs.Command
