-- SUMMARY: The calls about zones: list, get, create, update, delete, and their errors.
import SdnZones.Api.Procedure
import SdnZones.Text.Percent
import SdnZones.Zone.Record

/-!
# Calls about zones

Each call addresses the collection of zones or, by its percent-encoded name, one zone
in it. The API reports a missing zone with a generic error; `ApiError.meansMissing`
recognises it, for reading and deleting only.
-/

namespace SdnZones

/-! ## Paths -/

/-- The root of the API for software-defined networks. -/
def sdnRoot : String := "cluster/sdn"

/-- The root of the API for zones. -/
def zonesRoot : String := "cluster/sdn/zones"

/-- A path below a root; the empty path is the root. -/
def expandPath (root path : String) : String :=
  if path.isEmpty then root else s!"{root}/{path}"

/-- The path of a zone. -/
def zonePath (zone : String) : String := expandPath zonesRoot (Percent.encode zone)

/-! ## Errors -/

/-- Why a call about zones failed. -/
inductive ZonesError where
  | transport (action : String) (source : ApiError)
  /-- The answer holds no data. -/
  | noData
  | notFound (zone message : String)
  /-- The answer holds data of another shape. -/
  | decode (action : String) (fault : DecodeFault)
deriving DecidableEq

namespace ZonesError

/-- The message for an error. -/
def message : ZonesError → String
  | transport action source => s!"error {action}: {source.message}"
  | noData => "the server did not include a data object in the response"
  | notFound zone m => s!"SDN zone {zone} does not exist: {m}"
  | decode action fault => s!"error {action}: invalid response body: {fault.message}"

/-- The message and the texts of the failures below it. -/
def chain (e : ZonesError) : List String :=
  e.message :: match e with
    | transport _ source => source.chain
    | decode _ fault => [fault.message]
    | _ => []

/-- Whether the zone is not there. -/
def isNotFound : ZonesError → Bool
  | notFound _ _ => true
  | _ => false

end ZonesError

/-- What the message of a call about a missing zone contains. -/
def missingMarker : String := "does not exist"

/-- Whether an error means that the addressed zone is not there. -/
def ApiError.meansMissing : ApiError → Bool
  | .status code m => code == 404 || Text.containsText m missingMarker
  | _ => false

/-- The error of a call about a zone that may be missing. -/
def ZonesError.classify (action zone : String) (source : ApiError) : ZonesError :=
  match source with
  | .status code m =>
    if source.meansMissing then .notFound zone m else .transport action (.status code m)
  | source => .transport action source

/-! ## Calls -/

namespace Zones

/-- The request for all zones, or for those of a kind. -/
def listRequest (kind : Option ZoneKind) : Request :=
  match kind with
  | some k => (Request.get zonesRoot).withQuery "type" k.name
  | none => .get zonesRoot

/-- The order of listed records. -/
def byName (a b : Record) : Bool := a.zone ≤ b.zone

/-- The records of an answer to a list request, by name. -/
def listed (body : Json) : Except ZonesError (List Record) :=
  match Record.ofListAnswer body with
  | .error fault => .error (.decode "listing SDN zones" fault)
  | .ok none => .error .noData
  | .ok (some records) => .ok (records.mergeSort byName)

/-- List zones by name. -/
def list (kind : Option ZoneKind) : Procedure (Except ZonesError (List Record)) :=
  .call (listRequest kind) fun reply => .done <|
    match reply with
    | .error e => .error (.transport "listing SDN zones" e)
    | .ok response => listed response.body

/-- The record of an answer to a get request. -/
def gotten (body : Json) : Except ZonesError Record :=
  match Record.ofGetAnswer body with
  | .error fault => .error (.decode "reading SDN zone" fault)
  | .ok none => .error .noData
  | .ok (some record) => .ok record

/-- Get one zone. -/
def get (zone : String) : Procedure (Except ZonesError Record) :=
  .call (.get (zonePath zone)) fun reply => .done <|
    match reply with
    | .error e => .error (.classify "reading SDN zone" zone e)
    | .ok response => gotten response.body

/-- Create a zone. -/
def create (record : Record) : Procedure (Except ZonesError Unit) :=
  .call (.post zonesRoot (.ofDict record.fields)) fun reply => .done <|
    match reply with
    | .error e => .error (.transport "creating SDN zone" e)
    | .ok _ => .ok ()

/-- Update a zone in place. -/
def update (zone : String) (request : UpdateRequest) : Procedure (Except ZonesError Unit) :=
  .call (.put (zonePath zone) (.ofDict request.fields)) fun reply => .done <|
    match reply with
    | .error e => .error (.transport "updating SDN zone" e)
    | .ok _ => .ok ()

/-- Delete a zone. -/
def delete (zone : String) : Procedure (Except ZonesError Unit) :=
  .call (.delete (zonePath zone)) fun reply => .done <|
    match reply with
    | .error e => .error (.classify "deleting SDN zone" zone e)
    | .ok _ => .ok ()

end Zones

end SdnZones
