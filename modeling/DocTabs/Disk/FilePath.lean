/-
Path texts. A path is kept as it was spelled, because reports and error messages show it, and
taking it apart goes by its segments between slashes. Two spellings are the same path when their
parts agree: empty segments and `.` do not count, except a `.` that starts a relative path.
-/
import DocTabs.Text.Blank

namespace DocTabs.Disk

/-- A path as it is spelled. -/
structure FilePath where
  text : String
  deriving DecidableEq, Repr, Inhabited

/-- What a path starts from. -/
inductive Start where
  /-- The root: the text starts with a slash. -/
  | root
  /-- The working directory, spelled `.`. -/
  | here
  /-- The working directory, not spelled. -/
  | implied
  deriving DecidableEq, Repr

namespace FilePath

/-- The pieces of the text between slashes. -/
def segments (p : FilePath) : List String :=
  (Text.splitOn (· == '/') p.text.toList).map String.ofList

/-- Whether a segment leads nowhere. -/
def isIdle (segment : String) : Bool :=
  segment == "" || segment == "."

/-- Where the path starts, and the segments from there on. -/
def split (p : FilePath) : Start × List String :=
  match p.segments with
  | "" :: rest => if rest.isEmpty then (.implied, [""]) else (.root, rest)
  | "." :: rest => (.here, rest)
  | all => (.implied, all)

/-- Whether the path starts at the root. -/
def isAbsolute (p : FilePath) : Bool :=
  p.split.1 == .root

/-- The path with the given start and segments. -/
def ofSplit : Start → List String → FilePath
  | .root, segments => ⟨"/" ++ "/".intercalate segments⟩
  | .here, [] => ⟨"."⟩
  | .here, segments => ⟨"./" ++ "/".intercalate segments⟩
  | .implied, segments => ⟨"/".intercalate segments⟩

/-! ## Equality by parts -/

/-- What counts for equality: the start and the segments that lead somewhere. -/
def parts (p : FilePath) : Start × List String :=
  (p.split.1, p.split.2.filter (!isIdle ·))

/-- Whether two spellings are the same path. -/
def same (p q : FilePath) : Bool :=
  p.parts == q.parts

/-! ## Joining and parents -/

/-- The path `q` taken from `p`: `q` itself when it is absolute. -/
def join (p q : FilePath) : FilePath :=
  if q.isAbsolute then q
  else if p.text.isEmpty || p.text.endsWith "/" then ⟨p.text ++ q.text⟩
  else ⟨p.text ++ "/" ++ q.text⟩

/-- Segments without the idle ones at their end. -/
def dropIdle (segments : List String) : List String :=
  (segments.reverse.dropWhile isIdle).reverse

/-- The path without its last part; none for a path that has no last part. -/
def parent? (p : FilePath) : Option FilePath :=
  let (start, segments) := p.split
  match dropIdle segments, start with
  | [], .here => some ⟨""⟩
  | [], _ => none
  | segments, start => some (ofSplit start (dropIdle segments.dropLast))

/-- The path and the directories above it, each once, without the root and the empty path. -/
def ancestors (p : FilePath) : List FilePath :=
  go p.split.2.length.succ p
where
  /-- The first `n` of them. -/
  go : Nat → FilePath → List FilePath
    | 0, _ => []
    | n + 1, p =>
      match p.parent? with
      | some above => p :: go n above
      | none => []

/-! ## The last name -/

/-- A name cut at its last dot, if it has one that is not its first character. -/
def cutName (name : String) : String × Option String :=
  match (Text.splitOn (· == '.') name.toList).reverse.map String.ofList with
  | extension :: before@(first :: more) =>
    if name == ".." || (more.isEmpty && first == "") then (name, none)
    else (".".intercalate before.reverse, some extension)
  | _ => (name, none)

/-- The name before its last dot. -/
def stem (name : String) : String :=
  (cutName name).1

/-- What follows the last dot of a name. -/
def extension? (name : String) : Option String :=
  (cutName name).2

/-- The path with the extension of its last name replaced, or added where there is none. -/
def withExtension (p : FilePath) (extension : String) : FilePath :=
  let (start, segments) := p.split
  match (dropIdle segments).getLast? with
  | none => p
  | some name =>
    if name == ".." then p
    else ofSplit start ((dropIdle segments).dropLast ++ [stem name ++ "." ++ extension])

end FilePath

end DocTabs.Disk
