-- SUMMARY: Each zone has a path of its own, and calls about a zone with a name address one item.
import SdnZones.Command.Zones
import SdnZones.Http.Client
import SdnZones.Proofs.Zone.Requests

/-!
# Paths of items

The path of a zone is that of an item of the collection, one segment that spells the name, unless
the name is empty: then it is the path of the collection itself. So no two names share a path
(`path_spells_name`). A call about one zone makes one request (`Zones.ItemCall.always`), to the path
of the zone (`Zones.item_call_inside_iff`).
-/

namespace SdnZones

/-- A path with one segment below the root of the zones, which stands for a name. -/
def IsItemPath (name path : String) : Prop :=
  ∃ segment : String, path = zonesRoot ++ "/" ++ segment ∧ segment ≠ "" ∧
    '/' ∉ segment.toList ∧ Percent.decode? segment = some name

theorem zonePath_empty : zonePath "" = zonesRoot := by decide

theorem zonePath_of_named {name : String} (named : name ≠ "") :
    zonePath name = zonesRoot ++ "/" ++ Percent.encode name := by
  rw [← String.toList_inj, Cluster.toList_zonePath named, String.toList_append]
  rfl

/-- An item has a path of its own, unless its name is empty. -/
theorem isItemPath_zonePath_iff {name : String} :
    IsItemPath name (zonePath name) ↔ name ≠ "" := by
  constructor
  · rintro ⟨segment, path, _⟩ rfl
    rw [zonePath_empty] at path
    have longer := congrArg String.length path
    rw [String.length_append, String.length_append] at longer
    have slash : "/".length = 1 := by decide
    omega
  · intro named
    exact ⟨Percent.encode name, zonePath_of_named named, Cluster.encode_ne_empty named,
      Percent.slash_not_mem_encode name, Percent.decode?_encode name⟩

theorem zonePath_eq_zonesRoot_iff {name : String} : zonePath name = zonesRoot ↔ name = "" := by
  constructor
  · intro path
    by_contra named
    exact Cluster.zonePath_ne_zonesRoot named path
  · rintro rfl
    exact zonePath_empty

/-- The root of the zones is the path of the empty name only, and below it there is one item for
each other name. -/
theorem zonePath_inj {name other : String} : zonePath name = zonePath other ↔ name = other := by
  constructor
  · intro path
    by_cases named : name = ""
    · rw [named, zonePath_empty] at path
      rw [named, zonePath_eq_zonesRoot_iff.1 path.symm]
    · have other_named : other ≠ "" := by
        rintro rfl
        exact named (zonePath_eq_zonesRoot_iff.1 (path.trans zonePath_empty))
      have read := Cluster.zoneOfPath?_zonePath named
      rw [path, Cluster.zoneOfPath?_zonePath other_named] at read
      exact (Option.some.inj read).symm
  · rintro rfl
    rfl

/-- Different names have different paths. The path of a name that is not empty has one segment below
the root, of plain characters and escapes: the bytes of the name, each plain or escaped. It is
decoded to the name again. -/
theorem path_spells_name (name : String) :
    (∀ other, other ≠ name → zonePath other ≠ zonePath name) ∧
      (name ≠ "" → ∃ segment : String, zonePath name = zonesRoot ++ "/" ++ segment ∧
        segment.toList = (Utf8.bytesOf name).flatMap Percent.spelling ∧
        Percent.Spelled segment.toList ∧ Percent.decode? segment = some name) := by
  refine ⟨fun other ne => mt zonePath_inj.1 ne, fun named => ?_⟩
  exact ⟨Percent.encode name, zonePath_of_named named, Percent.toList_encode name,
    Percent.spelled_encode name, Percent.decode?_encode name⟩

/-- A name with what looks like an escape, a separator and a letter of two bytes. -/
theorem escape_in_name_spelled :
    "a%2F/é" ≠ "" ∧ zonePath "a%2F/é" = "cluster/sdn/zones/a%252F%2F%C3%A9" ∧
      zonePath "a//é" ≠ zonePath "a%2F/é" ∧ Percent.Spelled "a%252F%2F%C3%A9".toList ∧
      Percent.decode? "a%252F%2F%C3%A9" = some "a%2F/é" := by
  have named : "a%2F/é" ≠ "" := by decide
  obtain ⟨apart, below⟩ := path_spells_name "a%2F/é"
  obtain ⟨segment, path, bytes, spelled, decoded⟩ := below named
  have written : segment = "a%252F%2F%C3%A9" := by
    rw [← String.toList_inj, bytes]
    decide
  subst written
  exact ⟨named, path, apart "a//é" (by decide), spelled, decoded⟩

@[simp] theorem Request.path_get (path : String) : (get path).path = path := rfl

@[simp] theorem Request.path_put (path : String) (body : Json) : (put path body).path = path := rfl

@[simp] theorem Request.path_delete (path : String) : (delete path).path = path := rfl

namespace Zones

/-- The calls about the zone of a name, with their methods, and the commands that make one. -/
inductive ItemCall (name : String) : {α : Type} → Method → Procedure α → Prop where
  | get : ItemCall name .get (get name)
  | update (u : UpdateRequest) : ItemCall name .put (update name u)
  | delete : ItemCall name .delete (delete name)
  | showing (format : Format) : ItemCall name .get (Command.showZone name format)
  | deleting : ItemCall name .delete (Command.deleteZone name)

variable {α σ : Type} {name : String} {method : Method} {p : Procedure α}

/-- Whatever the reply is, there is one request. -/
theorem ItemCall.always (call : ItemCall name method p) :
    p.Always fun es _ => ∃ e, es = [e] ∧ e.request.method = method ∧
      e.request.path = zonePath name := by
  cases call with
  | get =>
    exact (get_always name).mono fun es got ⟨reply, asked⟩ =>
      ⟨_, asked, rfl, Request.path_get _⟩
  | update u =>
    exact (writes_update name u).mono fun es done ⟨reply, asked, _⟩ =>
      ⟨_, asked, rfl, Request.path_put _ _⟩
  | delete =>
    exact (delete_always name).mono fun es done ⟨reply, asked, _⟩ =>
      ⟨_, asked, rfl, Request.path_delete _⟩
  | showing format =>
    refine .bind ((get_always name).mono fun es got ⟨reply, asked⟩ => ?_)
    rw [asked]
    cases got with
    | error e => exact .done ⟨_, rfl, rfl, Request.path_get _⟩
    | ok record =>
      simp only
      split <;> exact .done ⟨_, rfl, rfl, Request.path_get _⟩
  | deleting =>
    refine .bind ((Zone.delete_always (.named name)).mono fun es said ⟨reply, asked, _⟩ => ?_)
    rw [asked]
    simp only
    split <;> exact .done ⟨_, rfl, rfl, Request.path_delete _⟩

/-- The one request of a call about a zone stays inside the collection exactly if the zone has a
name. Without a name it is a request to the collection. -/
theorem item_call_inside_iff (t : Transport σ) (s : σ) (call : ItemCall name method p) :
    ∃ e, p.exchanges t s = [e] ∧ e.request.method = method ∧
      (IsItemPath name e.request.path ↔ name ≠ "") ∧
      (e.request.path = zonesRoot ↔ name = "") := by
  obtain ⟨e, made, same, path⟩ := call.always.run t s
  refine ⟨e, made, same, ?_, ?_⟩
  · rw [path]
    exact isItemPath_zonePath_iff
  · rw [path]
    exact zonePath_eq_zonesRoot_iff

/-- A name that looks like a path out of the collection stays inside. -/
theorem climbing_name_inside :
    ItemCall "../a b" .delete (Command.deleteZone "../a b") ∧
      ∃ e, (Command.deleteZone "../a b").exchanges Cluster.transport ⟨.empty, [], []⟩ = [e] ∧
        e.request.method = .delete ∧ IsItemPath "../a b" e.request.path ∧
        e.request.path ≠ zonesRoot := by
  have call : ItemCall "../a b" .delete (Command.deleteZone "../a b") := .deleting
  have named : "../a b" ≠ "" := by decide
  obtain ⟨e, made, same, inside, collection⟩ :=
    item_call_inside_iff Cluster.transport ⟨.empty, [], []⟩ call
  exact ⟨call, e, made, same, inside.2 named, mt collection.1 named⟩

/-- The calls about a zone without a name are requests to the collection, and the command that
deletes one says that it did if the collection answers. -/
theorem unnamed_addresses_collection :
    ((get "").replay []).1 = [.get "cluster/sdn/zones"] ∧
      ((update "" (.new (.named "") ["bridge"])).replay []).1.map (·.path) =
        ["cluster/sdn/zones"] ∧
      ((delete "").replay []).1 = [.delete "cluster/sdn/zones"] ∧
      ((Command.deleteZone "").replay [.ok (.ok .null)]).1 = [.delete "cluster/sdn/zones"] ∧
      ((Command.deleteZone "").replay [.ok (.ok .null)]).2.map (·.out) =
        some "SDN zone '' deleted\n" ∧
      ¬ IsItemPath "" "cluster/sdn/zones" := by
  refine ⟨by decide, by decide, by decide, by decide, by decide, fun inside => ?_⟩
  have unnamed : IsItemPath "" (zonePath "") := by
    rw [zonePath_empty]
    exact inside
  exact isItemPath_zonePath_iff.1 unnamed rfl

/-- The name of a dot has a path of its own, but the address that a client makes of this path is
that of the collection, with a slash. -/
theorem dot_resolves_to_collection :
    IsItemPath "." (zonePath ".") ∧
      (Client.message ⟨"https://pve1:8006/api2/json", none⟩ (.delete (zonePath "."))).toOption.map
        (·.url.target) = some "/api2/json/cluster/sdn/zones/" :=
  ⟨isItemPath_zonePath_iff.2 (by decide), by decide +kernel⟩

end Zones

end SdnZones
