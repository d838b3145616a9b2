import Std.Data.TreeMap.Raw.Basic

/-!
Configuration values, and how keys and headers build up tables. A table remembers what defined it,
because each table may be defined only once: headers may complete a table that other headers only
passed through, and dotted keys may add to a table of dotted keys.
-/

namespace DualSlot

/-- What a table was defined by. -/
inductive Toml.Origin where
  | header
  | passage
  | dots
  | braces
  deriving DecidableEq, Repr

/-- A value as it is written. Numbers with a fraction, dates and times are no more than that. -/
inductive Toml where
  | string (value : String)
  | integer (value : Int)
  | boolean (value : Bool)
  | decimal
  | moment
  | array (items : List Toml)
  | table (origin : Toml.Origin) (members : Std.TreeMap.Raw String Toml)
  /-- The tables that headers have added to an array, the last one first. -/
  | tables (elements : List (Std.TreeMap.Raw String Toml))

namespace Toml

abbrev Members := Std.TreeMap.Raw String Toml

/-- Follows a path of headers to the table it leads to, and changes that table. -/
def Members.descend (change : Members → Option Members) : List String → Members → Option Members
  | [], members => change members
  | key :: path, members => do
    let below := Members.descend change path
    match members[key]? with
    | none => return members.insert key (.table .passage (← below ∅))
    | some (.table .braces _) => none
    | some (.table origin inner) => return members.insert key (.table origin (← below inner))
    | some (.tables (last :: earlier)) =>
      return members.insert key (.tables ((← below last) :: earlier))
    | some _ => none

/-- Opens the table of a header. -/
def Members.openTable (path : List String) (key : String) (members : Members) : Option Members :=
  members.descend (fun parent =>
    match parent[key]? with
    | none => some (parent.insert key (.table .header ∅))
    | some (.table .passage inner) => some (parent.insert key (.table .header inner))
    | some _ => none) path

/-- Adds a table to an array of tables. -/
def Members.openElement (path : List String) (key : String) (members : Members) : Option Members :=
  members.descend (fun parent =>
    match parent[key]? with
    | none => some (parent.insert key (.tables [∅]))
    | some (.tables elements) => some (parent.insert key (.tables (∅ :: elements)))
    | some _ => none) path

/-- Sets a key below a path of dotted keys. Only a table of dotted keys can be added to. -/
def Members.assign (value : Toml) (key : String) : (path : List String) → Members → Option Members
  | [], members => if members.contains key then none else some (members.insert key value)
  | first :: path, members => do
    let below := Members.assign value key path
    match members[first]? with
    | none => return members.insert first (.table .dots (← below ∅))
    | some (.table .dots inner) => return members.insert first (.table .dots (← below inner))
    | some (.table .passage inner) =>
      if path.isEmpty then none else return members.insert first (.table .passage (← below inner))
    | some _ => none

end Toml

end DualSlot
