-- SUMMARY: Reading JSON text as a datum or as a value.
import SdnZones.Json.Token

/-!
# Reading JSON

The tokens of a text are put together one by one. Where they break the rules, or end
too early, the value that was being read becomes a broken one inside the containers
that are still open; a decoder meets it only if it gets that far. Containers may be
nested 127 deep.
-/

namespace SdnZones.Json

/-- A container that waits for a value. -/
inductive Waiting where
  | item (before : List Datum)
  | member (before : List (String × Datum)) (name : String)

/-- How far a text has been read; what was read stands in reverse order. -/
inductive Progress where
  /-- A value has to follow. -/
  | value (above : List Waiting)
  /-- Inside an array, where it may end. -/
  | items (before : List Datum) (above : List Waiting)
  /-- Inside an object, where it may end. -/
  | members (before : List (String × Datum)) (above : List Waiting)
  /-- Inside an object, where a name has to follow. -/
  | nextName (before : List (String × Datum)) (above : List Waiting)
  /-- After a name. -/
  | colon (before : List (String × Datum)) (name : String) (above : List Waiting)
  /-- The value is complete; `clean` as long as nothing follows it. -/
  | done (d : Datum) (clean : Bool)

namespace Progress

/-- The deepest nesting of containers. -/
def maxDepth : Nat := 127

/-- Go on after a value. -/
def place (d : Datum) : List Waiting → Progress
  | [] => .done d true
  | .item before :: above => .items (d :: before) above
  | .member before name :: above => .members ((name, d) :: before) above

/-- Stop at a datum that cannot be read to its end. -/
def stop (d : Datum) : List Waiting → Progress
  | [] => .done d true
  | .item before :: above => stop (.list (d :: before).reverse none) above
  | .member before name :: above => stop (.fields ((name, d) :: before).reverse none) above

/-- Stop inside an array, after its items. -/
def stopItems (fault : ReadFault) (before : List Datum) (above : List Waiting) : Progress :=
  stop (.list before.reverse (some fault)) above

/-- Stop inside an object, after its members. -/
def stopMembers (fault : ReadFault) (before : List (String × Datum)) (above : List Waiting) :
    Progress :=
  stop (.fields before.reverse (some fault)) above

/-- Open a container if it is not too deep. -/
def enter (above : List Waiting) (inside : Progress) : Progress :=
  if above.length < maxDepth then inside else stop (.broken .malformed) above

/-- A token where a value has to stand. -/
def stepValue (above : List Waiting) : Token → Progress
  | .scalar (.broken fault) => stop (.broken fault) above
  | .scalar d => place d above
  | .text (.ok s) => place (.text s) above
  | .text (.error fault) => stop (.broken fault) above
  | .openArray => enter above (.items [] above)
  | .openObject => enter above (.members [] above)
  | _ => stop (.broken .malformed) above

/-- A token where a name has to stand. -/
def stepName (before : List (String × Datum)) (above : List Waiting) : Token → Progress
  | .text (.ok s) => .colon before s above
  | .text (.error fault) => stopMembers fault before above
  | _ => stopMembers .malformed before above

/-- One token further. -/
def step : Progress → Token → Progress
  | .value above, token => stepValue above token
  | .items before above, .closeArray => place (.list before.reverse none) above
  | .items [] above, token => stepValue (.item [] :: above) token
  | .items before above, .comma => .value (.item before :: above)
  | .items before above, _ => stopItems .malformed before above
  | .members before above, .closeObject => place (.fields before.reverse none) above
  | .members [] above, token => stepName [] above token
  | .members before above, .comma => .nextName before above
  | .members before above, _ => stopMembers .malformed before above
  | .nextName before above, token => stepName before above token
  | .colon before name above, .colon => .value (.member before name :: above)
  | .colon before name above, _ => stop (.broken .malformed) (.member before name :: above)
  | .done d _, _ => .done d false

/-- What was read when the text ends. -/
def finish : Progress → Progress
  | .value above => stop (.broken .truncated) above
  | .items before above => stopItems .truncated before above
  | .members before above => stopMembers .truncated before above
  | .nextName before above => stopMembers .truncated before above
  | .colon before name above => stop (.broken .truncated) (.member before name :: above)
  | .done d clean => .done d clean

end Progress

/-- The datum at the start of a text, and whether nothing follows it. -/
def read (text : String) : Datum × Bool :=
  match ((Token.scan text.toList).foldl Progress.step (.value [])).finish with
  | .done d clean => (d, clean)
  | _ => (.broken .truncated, true)

/-- The value that a text writes. -/
def parse (text : String) : Except ReadFault Json :=
  let (d, clean) := read text
  match d.toJson with
  | .error fault => .error fault
  | .ok v => if clean then .ok v else .error .malformed

end SdnZones.Json
