-- SUMMARY: TOML values, and how tables grow by dotted names and headers.
import SdnZones.Number.Binary64

/-!
# TOML values

A table remembers how it came about, because that decides who may add to it: a table
under a header of its own is complete when the next header comes, one that only stands
in the names of others may still get its own header, and one made by dotted names may
only grow by dotted names.
-/

namespace SdnZones.Toml

/-- How a table came about. -/
inductive Origin where
  /-- By a header of its own. -/
  | header
  /-- By the header of a table inside it. -/
  | implied
  /-- By dotted names. -/
  | dotted
deriving DecidableEq

/-- A TOML value. -/
inductive Value where
  | text (s : String)
  | int (i : Int)
  | float (x : Binary64)
  | bool (b : Bool)
  /-- A date, a time, or both, in the standard spelling. -/
  | moment (s : String)
  | array (items : List Value)
  /-- A table in braces, to which nothing can be added. -/
  | inline (entries : List (String × Value))
  | table (origin : Origin) (entries : List (String × Value))
  /-- Tables under one repeated header: the last, and those before it in reverse order. -/
  | tables (last : List (String × Value)) (earlier : List (List (String × Value)))

/-- The entries of a table. -/
abbrev Entries := List (String × Value)

namespace Entries

/-- Change the entry of a name, or add it at the end. -/
def update (name : String) (f : Option Value → Option Value) : Entries → Option Entries
  | [] => (f none).map fun v => [(name, v)]
  | (key, v) :: rest =>
    if key = name then (f (some v)).map fun w => (key, w) :: rest
    else (update name f rest).map fun rest => (key, v) :: rest

/-- Add a new entry. -/
def add (name : String) (v : Value) : Entries → Option Entries :=
  update name fun
    | none => some v
    | some _ => none

/-- Add a value under a dotted name. The table that gets it was made by dotted names itself. -/
def put (v : Value) : List String → Entries → Option Entries
  | [], _ => none
  | [name], entries => add name v entries
  | key :: next :: path, entries =>
    let lastStep := path.isEmpty
    update key (fun
      | none => (put v (next :: path) []).map (.table .dotted)
      | some (.table .dotted sub) => (put v (next :: path) sub).map (.table .dotted)
      | some (.table .implied sub) =>
        if lastStep then none else (put v (next :: path) sub).map (.table .implied)
      | some (.tables last earlier) =>
        if lastStep then none else (put v (next :: path) last).map (.tables · earlier)
      | some _ => none) entries

/-- Change the table that the names of a header lead to. -/
def within (f : Entries → Option Entries) : List String → Entries → Option Entries
  | [], entries => f entries
  | key :: path, entries =>
    update key (fun
      | none => (within f path []).map (.table .implied)
      | some (.table origin sub) => (within f path sub).map (.table origin)
      | some (.tables last earlier) => (within f path last).map (.tables · earlier)
      | some _ => none) entries

/-- Start the table of a header. -/
def startTable (name : String) : Entries → Option Entries :=
  update name fun
    | none => some (.table .header [])
    | some (.table .implied sub) => some (.table .header sub)
    | some _ => none

/-- Start one more table of a repeated header. -/
def startElement (name : String) : Entries → Option Entries :=
  update name fun
    | none => some (.tables [] [])
    | some (.tables last earlier) => some (.tables [] (last :: earlier))
    | some _ => none

end Entries

end SdnZones.Toml
