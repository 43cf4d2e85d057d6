-- SUMMARY: A cluster in memory that answers the calls about zones.
import SdnZones.Api.Zones

/-!
# A cluster in memory

The cluster stores the fields of each zone under its name and answers the calls about
zones as a real one does: a second zone of a name is refused, so is an update that gives
a kind, and a missing zone is a generic error. Replies to come may be queued for a
method; such a reply is given once and the cluster does nothing for that call.
-/

namespace SdnZones

/-- Stored zones by name. -/
abbrev Stored := Dict (Dict Json)

/-- A cluster, the replies that are queued, and the requests so far. -/
structure Cluster where
  zones : Stored
  queued : List (Method × Reply) := []
  requests : List Request := []

namespace Cluster

/-- What a cluster adds to the fields of a zone that it shows. -/
def digest : Json := .text "3f2c9a"

/-- The path of everything inside the collection of zones. -/
def itemRoot : List Char := (zonesRoot ++ "/").toList

/-- The name of the zone that a path addresses. -/
def zoneOfPath? (path : String) : Option String :=
  let cs := path.toList
  if itemRoot.isPrefixOf cs then
    Percent.decode? (String.ofList (cs.drop itemRoot.length))
  else none

/-- The path of the version of the API, which can always be got. -/
def versionPath : String := "version"

/-- The name in the fields of a zone. -/
def nameIn (fields : Dict Json) : String := ((fields.get? "zone").bind Json.text?).getD ""

/-- The error for a zone that is not there. -/
def missing (name : String) : ApiError := .status 500 s!"sdn '{name}' does not exist"

/-- The error for an update that gives a kind. -/
def kindGiven : ApiError := .status 400 "type: property is not defined in schema"

/-- Whether a stored zone has the kind asked for, if any is. -/
def matchesKind (query : Dict String) (fields : Dict Json) : Bool :=
  match query.get? "type" with
  | some kind => (fields.get? "type").bind Json.text? == some kind
  | none => true

/-- The stored zones that are listed, by descending name. This is the far side of a query for a
kind: like a real server, and unlike a stand-in that passes over queries and lists all it has, the
cluster lists the zones of that kind only. -/
def listing (zones : Stored) (query : Dict String) : List Json :=
  ((zones.toList.map (·.2)).filter (matchesKind query)).reverse.map Json.ofDict

/-- The fields after an update with a body. -/
def updated (fields body : Dict Json) : Dict Json :=
  let cleared := Text.splitString ',' (((body.get? "delete").bind Json.text?).getD "")
  let kept := cleared.foldl Dict.erase fields
  (body.erase "delete").toList.foldl (fun d e => d.insert e.1 e.2) kept

/-- What the cluster answers, and its zones after that. -/
def answer (zones : Stored) (r : Request) : Reply × Stored :=
  let body := (r.body.getD .null).toDict
  if r.path = zonesRoot then
    match r.method with
    | .get => (.ok (.ok (.object [("data", .array (listing zones r.query))])), zones)
    | .post =>
      let name := nameIn body
      if zones.contains name then (.error (.status 500 s!"sdn '{name}' already defined"), zones)
      else (.ok (.ok .null), zones.insert name body)
    | _ => (unsupported r, zones)
  else if r.path = versionPath ∧ r.method = .get then (.ok (.ok .null), zones)
  else
    match zoneOfPath? r.path with
    | none => (unsupported r, zones)
    | some name =>
      match r.method, zones.get? name with
      | .get, some fields =>
        (.ok (.ok (.object [("data", .ofDict (fields.insert "digest" digest))])), zones)
      | .put, some fields =>
        if body.contains "type" then (.error kindGiven, zones)
        else (.ok (.ok .null), zones.insert name (updated fields body))
      | .delete, some _ => (.ok (.ok .null), zones.erase name)
      | .get, none => (.error (missing name), zones)
      | .put, none => (.error (missing name), zones)
      | .delete, none => (.error (missing name), zones)
      | _, _ => (unsupported r, zones)
where
  /-- The answer to a call that the cluster does not know. -/
  unsupported (r : Request) : Reply :=
    .error (.status 501 s!"Method '{r.method.name} {r.path}' not implemented")

/-- The first queued reply for a method, and the queue without it. -/
def takeQueued (m : Method) : List (Method × Reply) → Option (Reply × List (Method × Reply))
  | [] => none
  | (k, reply) :: rest =>
    if k = m then some (reply, rest)
    else (takeQueued m rest).map fun (r, left) => (r, (k, reply) :: left)

/-- A call of the cluster. -/
def call (r : Request) (c : Cluster) : Reply × Cluster :=
  let c := { c with requests := c.requests ++ [r] }
  match takeQueued r.method c.queued with
  | some (reply, queued) => (reply, { c with queued := queued })
  | none =>
    let (reply, zones) := answer c.zones r
    (reply, { c with zones := zones })

/-- The state of health: whether the version can be got; a refused login is an error. -/
def health (c : Cluster) : Except ApiError Bool × Cluster :=
  match call (.get versionPath) c with
  | (.ok _, c) => (.ok true, c)
  | (.error (.authentication m), c) => (.error (.authentication m), c)
  | (.error _, c) => (.ok false, c)

/-- The transport. -/
def transport : Transport Cluster where
  call := call
  health := health

end Cluster

end SdnZones
