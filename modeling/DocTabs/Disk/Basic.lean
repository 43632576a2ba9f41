/-
A disk: regular files and directories at locations below one root, and the working directory. The
view of a disk is `get?`; the laws at the end say what one change does to the view.
-/
import DocTabs.Disk.FilePath

namespace DocTabs.Disk

/-- Where something lies: the names from the root down. -/
abbrev Location := List String

/-- The absolute path of a location. -/
def Location.toPath (l : Location) : FilePath :=
  ⟨"/" ++ "/".intercalate l⟩

/-- What the mode of a file leaves to the user who runs the program. The files belong to this user,
who may read them all; the copy of a file has the mode of the file. For a user whom modes do not bind
all files are `readWrite`. -/
inductive Mode where
  | readWrite
  | readOnly
  deriving DecidableEq, Repr

/-- A regular file. -/
structure RegularFile where
  content : ByteArray
  mode : Mode := .readWrite

instance : DecidableEq RegularFile
  | ⟨a, m⟩, ⟨b, n⟩ =>
    match ByteArray.instDecidableEq a b, decEq m n with
    | isTrue h, isTrue h' => isTrue (congr (congrArg RegularFile.mk h) h')
    | isFalse h, _ => isFalse fun he => h (RegularFile.mk.inj he).1
    | _, isFalse h => isFalse fun he => h (RegularFile.mk.inj he).2

/-- What lies at a location. Directories may be read and changed. -/
inductive Node where
  | file (f : RegularFile)
  | directory
  deriving DecidableEq

end DocTabs.Disk

namespace DocTabs

/-- Files and directories, and the working directory. -/
structure Disk where
  /-- What lies below the root. A location has one entry. -/
  nodes : List (Disk.Location × Disk.Node) := []
  /-- The directory that relative paths start from. -/
  here : Disk.Location := []

namespace Disk

/-- What lies at a location. The root is always a directory. -/
def get? (d : Disk) (l : Location) : Option Node :=
  if l = [] then some .directory else d.nodes.lookup l

/-- The disk with a node in place of what lies at a location. -/
def put (d : Disk) (l : Location) (n : Node) : Disk :=
  { d with nodes := (l, n) :: d.nodes.filter (·.1 != l) }

/-- The name of the entry at `l`, if that lies directly in `dir`. -/
def nameIn? (dir l : Location) : Option String :=
  if l.dropLast = dir then l.getLast? else none

/-- The names in a directory, in byte order. -/
def names (d : Disk) (dir : Location) : List String :=
  (d.nodes.filterMap fun e => nameIn? dir e.1).mergeSort fun a b => decide (a ≤ b)

/-- One more than the number of names in the longest location. -/
def height (d : Disk) : Nat :=
  (d.nodes.map (·.1.length)).foldr max 0 + 1

/-! ## Laws of a change -/

theorem lookup_filter_ne (l k : Location) (nodes : List (Location × Node)) (h : k ≠ l) :
    (nodes.filter (·.1 != l)).lookup k = nodes.lookup k := by
  induction nodes with
  | nil => rfl
  | cons e rest ih =>
    obtain ⟨m, n⟩ := e
    by_cases hm : m = l
    · have hk : (k == m) = false := by simpa [hm] using h
      simp [hm, ih, List.lookup_cons, hm ▸ hk]
    · by_cases hk : k = m <;> simp [hm, hk, List.lookup_cons, ih]

/-- A node that was put is what lies there. -/
theorem get?_put_self (d : Disk) {l : Location} (n : Node) (h : l ≠ []) :
    (d.put l n).get? l = some n := by
  simp [get?, put, h]

/-- Elsewhere nothing changes. -/
theorem get?_put_of_ne (d : Disk) {l k : Location} (n : Node) (h : k ≠ l) :
    (d.put l n).get? k = d.get? k := by
  have hk : (k == l) = false := by simpa using h
  simp [get?, put, List.lookup_cons, hk, lookup_filter_ne l k d.nodes h]

@[simp] theorem here_put (d : Disk) (l : Location) (n : Node) : (d.put l n).here = d.here := rfl

end Disk

end DocTabs
