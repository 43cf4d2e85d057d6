-- SUMMARY: The wire fields in which two zones differ.
import SdnZones.Json.Printer
import SdnZones.Zone.Conversion

/-!
# Changes

`Zone.changes` compares the encoded records of two zones field by field, in ascending
order of the field names. Values are compared as they are shown.
-/

namespace SdnZones

/-- A wire field that has another value before than after. -/
structure FieldChange where
  field : String
  before : Option String
  after : Option String
deriving DecidableEq

/-- A change as it is shown. -/
def FieldChange.text (c : FieldChange) : String :=
  match c.before, c.after with
  | none, some after => s!"+ {c.field} = {after}"
  | some before, none => s!"- {c.field} = {before}"
  | some before, some after => s!"~ {c.field}: {before} -> {after}"
  | none, none => s!"  {c.field}"

/-- A value as a change shows it: a text as it is, anything else as JSON. -/
def Json.shown : Json → String
  | .text s => s
  | v => v.compact

/-- The changes between two dictionaries of fields. -/
def FieldChange.between (before after : Dict Json) : List FieldChange :=
  (Dict.ofList (before.toList ++ after.toList)).names.filterMap fun field =>
    let old := (before.get? field).map Json.shown
    let new := (after.get? field).map Json.shown
    if old = new then none else some ⟨field, old, new⟩

/-- The wire fields of a zone that may not be there. -/
def Zone.fieldsOf : Option Zone → Dict Json
  | some z => z.toRecord.fields
  | none => .empty

/-- The changes from a zone, or from none, to another. -/
def Zone.changes (current : Option Zone) (desired : Zone) : List FieldChange :=
  FieldChange.between (Zone.fieldsOf current) desired.toRecord.fields

end SdnZones
