/-
Values of a TOML document, and tables that grow while it is read. Every table remembers how it
came about, because that decides what may still be added to it: a table in braces is complete, a
header may not come twice, and dotted keys add only to tables that dotted keys have made.
-/
namespace DocTabs.Toml

/-- How a table came about. -/
inductive Origin where
  /-- By a header of its own. -/
  | header
  /-- On the way to the table of a header. -/
  | implied
  /-- On the way to a value with a dotted key. -/
  | dotted
  /-- In braces. -/
  | inline
  deriving DecidableEq, Repr

/-- A TOML value. -/
inductive Value where
  | text (s : String)
  | integer (n : Int)
  | float (spelling : String)
  | boolean (b : Bool)
  /-- A date, a time, or both. -/
  | moment (spelling : String)
  | array (items : List Value)
  | table (origin : Origin) (entries : List (String × Value))
  /-- An array whose tables have a header each, the latest one first. -/
  | rows (tables : List (List (String × Value)))

/-- The keys of a table with their values, in the order of their first use. -/
abbrev Table := List (String × Value)

namespace Table

/-- The table with a value under a key, in place of an earlier one. -/
def set (t : Table) (key : String) (v : Value) : Table :=
  if (t.lookup key).isSome then t.map fun e => if e.1 == key then (key, v) else e
  else t ++ [(key, v)]

/-- Adds a value under a dotted key. Fails where the key is in use, and where it leads through
anything but tables that are open to dotted keys. -/
def add? (v : Value) : List String → Table → Option Table
  | [], _ => none
  | [key], t => if (t.lookup key).isSome then none else some (t ++ [(key, v)])
  | key :: rest, t =>
    match t.lookup key with
    | none => (add? v rest []).map fun inner => t.set key (.table .dotted inner)
    | some (.table .dotted inner) =>
      (add? v rest inner).map fun inner => t.set key (.table .dotted inner)
    | some (.table .implied inner) =>
      if rest.length == 1 then none
      else (add? v rest inner).map fun inner => t.set key (.table .implied inner)
    | some (.rows (row :: rows)) =>
      if rest.length == 1 then none
      else (add? v rest row).map fun row => t.set key (.rows (row :: rows))
    | _ => none

/-- Changes what stands at the end of the path of a header. Tables on the way are made where they
are missing; an array of tables is entered at its latest one. -/
def alter? (f : Option Value → Option Value) : List String → Table → Option Table
  | [], _ => none
  | [key], t => (f (t.lookup key)).map (t.set key)
  | key :: rest, t =>
    match t.lookup key with
    | none => (alter? f rest []).map fun inner => t.set key (.table .implied inner)
    | some (.table .inline _) => none
    | some (.table origin inner) =>
      (alter? f rest inner).map fun inner => t.set key (.table origin inner)
    | some (.rows (row :: rows)) =>
      (alter? f rest row).map fun row => t.set key (.rows (row :: rows))
    | _ => none

/-- Opens the table of a header. -/
def define? : List String → Table → Option Table :=
  alter? fun
    | none => some (.table .header [])
    | some (.table .implied inner) => some (.table .header inner)
    | some _ => none

/-- Opens another table in the array of a header. -/
def addRow? : List String → Table → Option Table :=
  alter? fun
    | none => some (.rows [[]])
    | some (.rows rows) => some (.rows ([] :: rows))
    | some _ => none

/-- Adds a value under a dotted key to the table of a header. No header stands for the root. -/
def addIn? (header key : List String) (v : Value) (t : Table) : Option Table :=
  if header.isEmpty then t.add? v key
  else
    let inner : Option Value → Option Value
      | some (.table origin inner) => (add? v key inner).map (.table origin ·)
      | some (.rows (row :: rows)) => (add? v key row).map fun row => .rows (row :: rows)
      | _ => none
    alter? inner header t

end Table

end DocTabs.Toml
