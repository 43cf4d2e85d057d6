-- SUMMARY: Lists of texts as one text with commas.
import SdnZones.Text.Split

/-!
# Comma lists

A list travels as one text with commas between its elements. An absent list, an empty
list and an empty text all count as absent, so joining and splitting undo each other
only where elements hold no comma and the text is not empty.
-/

namespace SdnZones.CommaList

/-- The text of a list; a list without elements has none. -/
def join (values : Option (List String)) : Option String :=
  match values with
  | some (v :: vs) => some (Text.joinWith "," (v :: vs))
  | _ => none

/-- The list of a text; the empty text has none. -/
def split (text : Option String) : Option (List String) :=
  match text with
  | some s => if s.isEmpty then none else some (Text.splitString ',' s)
  | none => none

end SdnZones.CommaList
