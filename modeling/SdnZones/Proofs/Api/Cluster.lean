-- SUMMARY: What comes of the calls about zones, and what a cluster in memory stores after them.
import SdnZones.Api.Cluster
import SdnZones.Proofs.Text.CommaList
import SdnZones.Proofs.Text.Occurrence
import SdnZones.Proofs.Text.Percent
import SdnZones.Proofs.Zone.Record

/-!
# Calls of a cluster

A cluster without queued replies answers from what it stores. For each call there is one law
that gives what comes of it and the cluster after it: `run_get_of_some` and `run_get_of_none`,
`run_create`, `run_update`, `run_delete`. Look-ups after an update are in `get?_updated`.
-/

namespace SdnZones

/-! ## Objects -/

/-- The object of a dictionary is read as that dictionary. -/
@[simp] theorem Json.toDict_ofDict (d : Dict Json) : (Json.ofDict d).toDict = d := d.ofList_toList

/-- Members of other names are passed over on the way to the data. -/
theorem visit_data_cons_of_ne {α : Type} {title : String} {decode : Json → Except DecodeFault α}
    {seen : List String} {x : Option α} {name : String} {v : Json} {members : List (String × Json)}
    (other : name ≠ "data") :
    (dataLayout title decode).visit none seen x ((name, v) :: members) =
      (dataLayout title decode).visit none seen x members := by
  have passed : (dataLayout title decode).readers.find? (·.name == name) = none := by
    simp [dataLayout, Ne.symm other]
  rw [Layout.visit, passed]
  rfl

theorem Zones.gotten_eq_ok_iff {v : Json} {r : Record} (object : v ≠ .null) :
    gotten (.object [("data", v)]) = .ok r ↔ Record.ofJson v = .ok r := by
  have data : Record.ofGetAnswer (.object [("data", v)]) = (Record.ofJson v).map some := by
    have present : Json.decodeOptional Record.ofJson v = (Record.ofJson v).map some := by
      cases v with
      | null => exact absurd rfl object
      | _ => rfl
    show (dataLayout "" Record.ofJson).visit none [] none [("data", v)] = _
    simp only [Layout.visit, dataLayout, List.find?_cons, beq_self_eq_true, present]
    cases Record.ofJson v <;> rfl
  rw [gotten, data]
  cases Record.ofJson v <;> simp [Except.map]

/-- Data that cannot be read is not taken for a missing zone. -/
theorem Zones.isNotFound_of_gotten {v : Json} {e : ZonesError} (h : gotten v = .error e) :
    e.isNotFound = false := by
  unfold gotten at h
  split at h <;> cases h <;> rfl

namespace Cluster

variable {c : Cluster} {name : String} {fields : Dict Json}

/-! ## Paths -/

theorem encode_ne_empty (named : name ≠ "") : Percent.encode name ≠ "" := by
  intro h
  have decoded := Percent.decode?_encode name
  have decodedEmpty : Percent.decode? "" = some "" := Percent.decode?_encode ""
  rw [h, decodedEmpty] at decoded
  exact named (Option.some.inj decoded).symm

theorem toList_zonePath (named : name ≠ "") :
    (zonePath name).toList = itemRoot ++ (Percent.encode name).toList := by
  have filled : (Percent.encode name).isEmpty = false := by simpa using encode_ne_empty named
  simp only [zonePath, expandPath, filled, Bool.false_eq_true, if_false]
  show (zonesRoot ++ "/" ++ Percent.encode name).toList = _
  rw [String.toList_append, itemRoot]

/-- The path of a zone addresses that zone. -/
theorem zoneOfPath?_zonePath (named : name ≠ "") : zoneOfPath? (zonePath name) = some name := by
  have below : itemRoot.isPrefixOf (itemRoot ++ (Percent.encode name).toList) = true :=
    List.isPrefixOf_iff_prefix.2 (List.prefix_append _ _)
  simp only [zoneOfPath?, toList_zonePath named, below, if_true, List.drop_left,
    String.ofList_toList, Percent.decode?_encode]

theorem zonePath_ne (named : name ≠ "") {path : String}
    (short : path.toList.length < itemRoot.length) : zonePath name ≠ path := by
  rintro rfl
  rw [toList_zonePath named, List.length_append] at short
  omega

theorem zonePath_ne_zonesRoot (named : name ≠ "") : zonePath name ≠ zonesRoot :=
  zonePath_ne named (by decide)

theorem zonePath_ne_versionPath (named : name ≠ "") : zonePath name ≠ versionPath :=
  zonePath_ne named (by decide)

/-! ## Answers -/

/-- What a cluster shows of a zone. -/
def shown (fields : Dict Json) : Json := .ofDict (fields.insert "digest" digest)

/-- What is shown besides the fields does not matter. -/
theorem ofJson_shown {r : Record} :
    Record.ofJson (shown fields) = .ok r ↔ Record.ofJson (.ofDict fields) = .ok r := by
  have other : ∀ key, key ≠ "digest" → (fields.insert "digest" digest).get? key = fields.get? key :=
    fun key ne => by rw [Dict.get?_insert, if_neg ne]
  rw [shown, Record.ofJson_ofDict_eq_ok_iff, Record.ofJson_ofDict_eq_ok_iff,
    other "zone" (by decide), other "type" (by decide)]
  simp only [other _ (Attribute.wireName_ne_digest _)]

theorem gotten_shown {r : Record} :
    Zones.gotten (.object [("data", shown fields)]) = .ok r ↔
      Record.ofJson (.ofDict fields) = .ok r := by
  have object : shown fields ≠ .null := by
    intro h
    cases h
  rw [Zones.gotten_eq_ok_iff object, ofJson_shown]

theorem answer_get (zones : Stored) (named : name ≠ "") :
    answer zones (.get (zonePath name)) =
      (match zones.get? name with
        | some fields => .ok (.ok (.object [("data", shown fields)]))
        | none => .error (missing name), zones) := by
  simp only [answer, Request.get, zonePath_ne_zonesRoot named, zonePath_ne_versionPath named,
    false_and, if_false, zoneOfPath?_zonePath named]
  cases zones.get? name <;> rfl

theorem answer_put {zones : Stored} (named : name ≠ "") (stored : zones.get? name = some fields)
    {body : Dict Json} (untyped : body.get? "type" = none) :
    answer zones (.put (zonePath name) (.ofDict body)) =
      (.ok (.ok .null), zones.insert name (updated fields body)) := by
  have untyped : body.contains "type" = false := by rw [Dict.contains, untyped]; rfl
  simp only [answer, Request.put, zonePath_ne_zonesRoot named, zonePath_ne_versionPath named,
    false_and, if_false, zoneOfPath?_zonePath named, stored, Option.getD_some, Json.toDict_ofDict,
    untyped, Bool.false_eq_true]

theorem answer_delete {zones : Stored} (named : name ≠ "")
    (stored : zones.get? name = some fields) :
    answer zones (.delete (zonePath name)) = (.ok (.ok .null), zones.erase name) := by
  simp only [answer, Request.delete, zonePath_ne_zonesRoot named, zonePath_ne_versionPath named,
    false_and, if_false, zoneOfPath?_zonePath named, stored]

theorem answer_post {zones : Stored} {body : Dict Json} (fresh : zones.get? (nameIn body) = none) :
    answer zones (.post zonesRoot (.ofDict body)) =
      (.ok (.ok .null), zones.insert (nameIn body) body) := by
  have fresh : zones.contains (nameIn body) = false := by rw [Dict.contains, fresh]; rfl
  simp only [answer, Request.post, if_true, Option.getD_some, Json.toDict_ofDict, fresh,
    Bool.false_eq_true, if_false]

/-! ## Calls -/

/-- A cluster after a request that left it with these zones. -/
def after (c : Cluster) (r : Request) (zones : Stored) : Cluster :=
  { c with zones := zones, requests := c.requests ++ [r] }

theorem call_of_calm (calm : c.queued = []) (r : Request) :
    transport.call r c = ((answer c.zones r).1, c.after r (answer c.zones r).2) := by
  have quiet : takeQueued r.method c.queued = none := by rw [calm]; rfl
  show call r c = _
  simp only [call, quiet]
  rfl

theorem classify_missing (action : String) :
    ZonesError.classify action name (missing name) =
      .notFound name s!"sdn '{name}' does not exist" := by
  have marked : Text.containsText s!"sdn '{name}' does not exist" missingMarker = true :=
    Text.containsText_iff.2
      ⟨("sdn '" ++ name ++ "' ").toList, [], by simp [missingMarker, toString]⟩
  simp only [missing, ZonesError.classify, ApiError.meansMissing, marked, Bool.or_true, if_true]

variable (calm : c.queued = []) (named : name ≠ "")
include calm named

theorem run_get_of_some (stored : c.zones.get? name = some fields) :
    (Zones.get name).run transport c =
      (Zones.gotten (.object [("data", shown fields)]),
        c.after (.get (zonePath name)) c.zones) := by
  rw [Zones.get, Procedure.run, call_of_calm calm, answer_get c.zones named, stored]
  rfl

theorem run_get_of_decoded (stored : c.zones.get? name = some fields) {r : Record}
    (decoded : Record.ofJson (.ofDict fields) = .ok r) :
    (Zones.get name).run transport c = (.ok r, c.after (.get (zonePath name)) c.zones) := by
  rw [run_get_of_some calm named stored, gotten_shown.2 decoded]

theorem run_get_of_none (absent : c.zones.get? name = none) :
    (Zones.get name).run transport c =
      (.error (.notFound name s!"sdn '{name}' does not exist"),
        c.after (.get (zonePath name)) c.zones) := by
  rw [Zones.get, Procedure.run, call_of_calm calm, answer_get c.zones named, absent]
  simp only [Procedure.run, classify_missing]

theorem run_update (stored : c.zones.get? name = some fields) {u : UpdateRequest}
    (untyped : u.fields.get? "type" = none) :
    (Zones.update name u).run transport c =
      (.ok (), c.after (.put (zonePath name) (.ofDict u.fields))
        (c.zones.insert name (updated fields u.fields))) := by
  rw [Zones.update, Procedure.run, call_of_calm calm, answer_put named stored untyped]
  rfl

theorem run_delete (stored : c.zones.get? name = some fields) :
    (Zones.delete name).run transport c =
      (.ok (), c.after (.delete (zonePath name)) (c.zones.erase name)) := by
  rw [Zones.delete, Procedure.run, call_of_calm calm, answer_delete named stored]
  rfl

omit named in
theorem run_create {r : Record} (fresh : c.zones.get? r.zone = none) :
    (Zones.create r).run transport c =
      (.ok (), c.after (.post zonesRoot (.ofDict r.fields)) (c.zones.insert r.zone r.fields)) := by
  have name : nameIn r.fields = r.zone := by rw [nameIn, r.get?_fields_zone]; rfl
  rw [Zones.create, Procedure.run, call_of_calm calm, answer_post (by rw [name]; exact fresh), name]
  rfl

end Cluster

end SdnZones
