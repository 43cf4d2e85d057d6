-- SUMMARY: The commands about zones: list, show, apply and delete.
import SdnZones.Command.Format
import SdnZones.Command.Outcome
import SdnZones.Command.Table
import SdnZones.Zone.Document
import SdnZones.Zone.Lifecycle

/-!
# Commands about zones

Each command calls the API, reports what there is to say and prints its result. What
`show` prints as JSON or YAML is a document that `apply` takes.
-/

namespace SdnZones.Command

/-! ## List -/

/-- A record as a row of the table of zones. -/
def row (r : Record) : List String := [
  r.zone, r.kind.getD "-", ((r.value .mtu).map fun n => n.toInt.repr).getD "-",
  (r.value .nodes).getD "-", (r.value .ipam).getD "-"]

/-- Records as a table or in a format. -/
def renderList (records : List Record) (format : Format) : String :=
  match format with
  | .text => Table.render ["Zone", "Type", "MTU", "Nodes", "IPAM"] (records.map row)
  | format => format.render (.array (records.map Record.toJson))

/-- The zones of the cluster by name. -/
def listed (kind : Option ZoneKind) : Procedure (Except Failure (List Record)) :=
  (Zones.list kind).bind fun
    | .ok records => .done (.ok records)
    | .error e => .done (.error (.ofChain "Failed to list SDN zones" e.chain))

/-- List zones. -/
def listZones (kind : Option ZoneKind) (format : Format) : Procedure (Printed Unit) :=
  (listed kind).bind fun
    | .ok records => .done (.sayLine (renderList records format))
    | .error f => .done (.fail f)

/-! ## Show -/

/-- The wire fields of a record, a line each. -/
def fieldLines (r : Record) : String :=
  Text.joinWith "\n" (r.fields.toList.map fun (name, v) => s!"{name}: {v.shown}")

/-- A record as plain text, or as a document in a format. -/
def renderShow (r : Record) (format : Format) : Printed String :=
  match format with
  | .text => { result := .ok (fieldLines r) }
  | format =>
    match Zone.ofRecord? r with
    | .error problem =>
      .fail (.ofChain s!"Cannot describe SDN zone '{r.zone}'" [problem.message])
    | .ok zone =>
      let reported := Diagnostics.report r.strayCommas
      match reported.result with
      | .error f => { reported with result := .error f }
      | .ok () => { reported with result := .ok (format.render zone.toJson) }

/-- Show a zone. -/
def showZone (zone : String) (format : Format) : Procedure (Printed Unit) :=
  (Zones.get zone).bind fun
    | .error e => .done (.fail (.ofChain s!"Failed to read SDN zone '{zone}'" e.chain))
    | .ok record =>
      let rendered := renderShow record format
      match rendered.result with
      | .error f => .done { rendered with result := .error f }
      | .ok text => .done (rendered.andThen (.sayLine text))

/-! ## Apply -/

/-- Report diagnostics in a context and hand out the result. -/
def concluded {α : Type} (context : String) (o : Outcome α) : Printed α :=
  let reported := Diagnostics.report o.diagnostics
  match reported.result, o.result with
  | .error f, _ => { reported with result := .error (f.within context) }
  | .ok (), some a => { reported with result := .ok a }
  | .ok (), none => { reported with result := .error { message := context } }

/-- Plan a zone against the cluster. -/
def planned (desired : Zone) : Procedure (Printed Plan) :=
  (desired.plan []).bind fun o => .done (concluded s!"Cannot plan SDN zone '{desired.name}'" o)

/-- Carry out a plan. -/
def applied (p : Plan) : Procedure (Printed Zone) :=
  (p.apply []).bind fun o => .done (concluded s!"Failed to apply SDN zone '{p.desired.name}'" o)

/-- What is said of a zone that was applied. -/
def appliedLine (z : Zone) : String :=
  let kind := (z.kind.map ZoneKind.name).getD "unknown"
  s!"✓ SDN zone '{z.name}' applied ({kind})"

/-- Bring the cluster to a configuration, or only say how. -/
def applyZone (desired : Zone) (dryRun : Bool) : Procedure (Printed Unit) :=
  (planned desired).bind fun first =>
    match first.result with
    | .error f => .done { first with result := .error f }
    | .ok plan =>
      let said := first.andThen (.sayLine plan.text)
      if dryRun then .done (said.andThen (.sayLine "Dry-run completed - no changes made"))
      else if plan.isNothing then .done said
      else
        (applied plan).bind fun second =>
          match second.result with
          | .error f => .done (said.andThen { second with result := .error f })
          | .ok zone => .done (said.andThen (second.andThen (.sayLine (appliedLine zone))))

/-! ## Delete -/

/-- Delete a zone. -/
def deleteZone (zone : String) : Procedure (Printed Unit) :=
  ((Zone.named zone).delete []).bind fun ds =>
    let reported := Diagnostics.report ds
    match reported.result with
    | .error f => .done { reported with result := .error f }
    | .ok () => .done (reported.andThen (.sayLine s!"SDN zone '{zone}' deleted"))

end SdnZones.Command
