/-
Reading and changing a disk through paths. A path is followed name by name from the root or the
working directory; everything on the way has to be a directory that exists, also where `..`
follows. What goes wrong is a `Fault`, and a change that fails half way keeps what it has made.
-/
import DocTabs.Disk.Basic

namespace DocTabs.Disk

/-- Why an access fails. -/
inductive Fault where
  /-- Nothing lies there, or on the way there. -/
  | missing
  /-- Something lies where a directory is to be made. -/
  | taken
  /-- A file lies on the way. -/
  | notDirectory
  /-- A directory lies where a file is needed. -/
  | isDirectory
  /-- The file may only be read. -/
  | denied
  /-- The content is no UTF-8 text. -/
  | notText
  /-- The path holds U+0000. -/
  | nulInPath
  deriving DecidableEq, Repr

/-- The wording of a fault. -/
def Fault.message : Fault → String
  | missing => "No such file or directory (os error 2)"
  | taken => "File exists (os error 17)"
  | notDirectory => "Not a directory (os error 20)"
  | isDirectory => "Is a directory (os error 21)"
  | denied => "Permission denied (os error 13)"
  | notText => "stream did not contain valid UTF-8"
  | nulInPath => "file name contained an unexpected NUL byte"

/-! ## Following a path -/

/-- The location reached from `l` by following segments. Only the last one may be missing, and a
slash at the end wants a directory. -/
def follow (d : Disk) (l : Location) : List String → Except Fault Location
  | [] => .ok l
  | segment :: rest =>
    if segment == "" && !rest.isEmpty then follow d l rest
    else
      match d.get? l, segment == "" with
      | some (.file _), _ => .error .notDirectory
      | none, false => .error .missing
      | _, true => .ok l
      | some .directory, false =>
        follow d (if segment == "." then l else if segment == ".." then l.dropLast
          else l ++ [segment]) rest

/-- The location that a path leads to, whether something lies there or not. -/
def locate (d : Disk) (p : FilePath) : Except Fault Location :=
  if p.text.isEmpty then .error .missing
  else if p.text.contains '\x00' then .error .nulInPath
  else d.follow (if p.isAbsolute then [] else d.here) p.segments

/-- The location that a path leads to, where something lies there. -/
def canonical (d : Disk) (p : FilePath) : Except Fault Location := do
  let l ← d.locate p
  match d.get? l with
  | some _ => return l
  | none => throw .missing

/-- What lies at the end of a path. -/
def find? (d : Disk) (p : FilePath) : Option Node :=
  match d.locate p with
  | .ok l => d.get? l
  | .error _ => none

/-- Whether a path leads to something. -/
def has (d : Disk) (p : FilePath) : Bool :=
  (d.find? p).isSome

/-- Whether a path leads to a directory. -/
def hasDirectory (d : Disk) (p : FilePath) : Bool :=
  d.find? p == some .directory

/-! ## Reading -/

/-- The file at a location. -/
def fileAt (d : Disk) (l : Location) : Except Fault RegularFile :=
  match d.get? l with
  | some (.file f) => .ok f
  | some .directory => .error .isDirectory
  | none => .error .missing

/-- The content of the file at a location. -/
def contentAt (d : Disk) (l : Location) : Except Fault ByteArray :=
  (·.content) <$> d.fileAt l

/-- The text that bytes stand for. -/
def decode (content : ByteArray) : Except Fault String :=
  match String.fromUTF8? content with
  | some text => .ok text
  | none => .error .notText

/-- The text of the file at a location. -/
def textAt (d : Disk) (l : Location) : Except Fault String :=
  d.contentAt l >>= decode

/-- The content of the file that a path leads to. -/
def content (d : Disk) (p : FilePath) : Except Fault ByteArray :=
  d.locate p >>= d.contentAt

/-- The text of the file that a path leads to. -/
def text (d : Disk) (p : FilePath) : Except Fault String :=
  d.content p >>= decode

/-! ## Changing -/

/-- The location of a file that is to be written, where one may be. -/
def locateFile (d : Disk) (p : FilePath) : Except Fault Location := do
  let l ← d.locate p
  match d.get? l with
  | some .directory => throw .isDirectory
  | some (.file f) => if f.mode = .readOnly then throw .denied else return l
  | none => if p.text.endsWith "/" then throw .isDirectory else return l

/-- Puts a file where the path leads. -/
def putFile (d : Disk) (p : FilePath) (f : RegularFile) : Except Fault Disk := do
  return d.put (← d.locateFile p) (.file f)

/-- Puts a file with the given content where the path leads. -/
def write (d : Disk) (p : FilePath) (content : ByteArray) : Except Fault Disk :=
  d.putFile p { content }

/-- Puts the file at `source` with its mode where the path leads. A file that is put onto itself is
emptied before it is read. -/
def copy (d : Disk) (source : Location) (p : FilePath) : Except Fault Disk := do
  let f ← d.fileAt source
  let l ← d.locateFile p
  return d.put l (.file (if l = source then { f with content := .empty } else f))

/-- Makes one directory in a directory that exists. -/
def makeDirectory (d : Disk) (p : FilePath) : Except Fault Disk := do
  let l ← d.locate p
  match d.get? l with
  | some _ => throw .taken
  | none => return d.put l .directory

/-- Makes the first of these directories, after those behind it where they are missing. -/
def makeChain (d : Disk) : List FilePath → Option Fault × Disk
  | [] => (none, d)
  | p :: above =>
    match d.makeDirectory p with
    | .ok made => (none, made)
    | .error .missing =>
      match d.makeChain above with
      | (some fault, e) => (some fault, e)
      | (none, e) =>
        match e.makeDirectory p with
        | .ok made => (none, made)
        | .error fault => (if e.hasDirectory p then none else some fault, e)
    | .error fault => (if d.hasDirectory p then none else some fault, d)

/-- Makes a directory and those above it that are missing. -/
def makeDirectories (d : Disk) (p : FilePath) : Option Fault × Disk :=
  d.makeChain p.ancestors

end DocTabs.Disk
