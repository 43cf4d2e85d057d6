-- SUMMARY: Creating, reading, updating and deleting zones, and planning and applying changes.
import SdnZones.Api.Zones
import SdnZones.Zone.Change
import SdnZones.Zone.Rules

/-!
# The life of a zone

Every operation prepares what it is given, makes its calls and adds what it has to say
to the diagnostics so far. A result is there unless an error was added. Planning only
reads; applying a plan carries out what was planned, and a replacement deletes before
it creates.
-/

namespace SdnZones

/-- What comes of an operation. -/
structure Outcome (α : Type) where
  result : Option α
  diagnostics : Diagnostics
deriving DecidableEq

namespace Outcome

variable {α : Type}

/-- An operation that succeeded. -/
def success (a : α) (ds : Diagnostics) : Outcome α := ⟨some a, ds⟩

/-- An operation that came to nothing. -/
def failure (ds : Diagnostics) : Outcome α := ⟨none, ds⟩

/-- An operation that came to nothing for one more reason. -/
def failed (ds : Diagnostics) (summary detail : String) : Outcome α :=
  ⟨none, ds ++ [.error summary detail]⟩

end Outcome

/-! ## Steps that operations share -/

/-- The zone of a record that was read, with warnings about it. -/
def Zone.converted (r : Record) (ds : Diagnostics) : Outcome Zone :=
  let ds := ds ++ r.strayCommas
  match Zone.ofRecord? r with
  | .ok zone => .success zone ds
  | .error problem => .failed ds "Error Reading SDN Zone" problem.message

/-- Read a zone that was just written. -/
def Zone.readBack (name : String) (ds : Diagnostics) : Procedure (Outcome Zone) :=
  (Zones.get name).bind fun
    | .ok record => .done (Zone.converted record ds)
    | .error e =>
      .done (.failed ds "Error Reading SDN Zone"
        s!"could not read SDN zone {name} after write: {e.message}")

/-! ## Create, read, update, delete -/

/-- Create a zone; the result is what the cluster has afterwards. -/
def Zone.create (plan : Zone) (ds : Diagnostics) : Procedure (Outcome Zone) :=
  let zone := plan.withDefaults
  if Diagnostics.hasError zone.validate then .done (.failure (ds ++ zone.validate))
  else if Diagnostics.hasError zone.unsendable then
    .done (.failure (ds ++ zone.validate ++ zone.unsendable))
  else
    let ds := ds ++ zone.validate ++ zone.unsendable
    (Zones.create zone.toRecord).bind fun
      | .ok () => Zone.readBack zone.name ds
      | .error e =>
        .done (.failed ds "Error Creating SDN Zone"
          s!"could not create SDN zone {zone.name}: {e.message}")

/-- Read a zone anew. One that is gone has only its name left, which is worth a warning. -/
def Zone.read (state : Zone) (ds : Diagnostics) : Procedure (Outcome Zone) :=
  (Zones.get state.name).bind fun
    | .ok record => .done (Zone.converted record ds)
    | .error e =>
      if e.isNotFound then
        .done (.success state.cleared (ds ++ [.warning "SDN Zone Not Found" e.message]))
      else
        .done (.failed ds "Error Reading SDN Zone"
          s!"could not read SDN zone {state.name}: {e.message}")

/-- Update a zone in place; settings that the plan leaves out are cleared. -/
def Zone.update (plan : Zone) (ds : Diagnostics) : Procedure (Outcome Zone) :=
  let zone := plan.withDefaults
  if Diagnostics.hasError zone.validate then .done (.failure (ds ++ zone.validate))
  else if Diagnostics.hasError zone.unsendable then
    .done (.failure (ds ++ zone.validate ++ zone.unsendable))
  else
    let ds := ds ++ zone.validate ++ zone.unsendable
    (Zones.update zone.name zone.toUpdate).bind fun
      | .ok () => Zone.readBack zone.name ds
      | .error e =>
        .done (.failed ds "Error Updating SDN Zone"
          s!"could not update SDN zone {zone.name}: {e.message}")

/-- Delete a zone. That it is gone already is worth a warning only. -/
def Zone.delete (state : Zone) (ds : Diagnostics) : Procedure Diagnostics :=
  (Zones.delete state.name).bind fun
    | .ok () => .done ds
    | .error e =>
      if e.isNotFound then .done (ds ++ [.warning "SDN Zone Not Found" e.message])
      else
        .done (ds ++ [.error "Error Deleting SDN Zone"
          s!"could not delete SDN zone {state.name}: {e.message}"])

/-! ## Plans -/

/-- What has to be done to reach a configuration. -/
inductive Action where
  | create
  | update
  | replace (reason : ReplaceReason)
  | nothing
deriving DecidableEq

/-- An action as it is shown. -/
def Action.text : Action → String
  | .create => "create"
  | .update => "update"
  | .replace reason => s!"replace ({reason.message})"
  | .nothing => "no changes"

/-- A change that was found necessary. -/
structure Plan where
  action : Action
  desired : Zone
  current : Option Zone
  changes : List FieldChange
deriving DecidableEq

namespace Plan

/-- Whether nothing has to be done. -/
def isNothing (p : Plan) : Bool := p.action = .nothing

/-- The plan for a zone that is not there. -/
def toCreate (desired : Zone) : Plan := ⟨.create, desired, none, Zone.changes none desired⟩

/-- The plan for a zone that is there. -/
def toChange (current desired : Zone) : Plan :=
  let changes := Zone.changes (some current) desired
  let action :=
    match Zone.replaceReason? current desired with
    | some reason => .replace reason
    | none => if changes.isEmpty then .nothing else .update
  ⟨action, desired, some current, changes⟩

/-- A plan over several lines: the action, then the changes. -/
def text (p : Plan) : String :=
  Text.joinWith "\n" (s!"SDN zone '{p.desired.name}': {p.action.text}" ::
    p.changes.map fun c => s!"  {c.text}")

end Plan

/-- A plan, unless a record cannot carry the zones that it compares. -/
def Plan.checked (p : Plan) (ds : Diagnostics) : Outcome Plan :=
  let conversion := (p.current.map Zone.unsendable).getD [] ++ p.desired.unsendable
  if Diagnostics.hasError conversion then .failure (ds ++ conversion)
  else .success p (ds ++ conversion)

/-- Compare a zone with what the cluster has. -/
def Zone.plan (desired : Zone) (ds : Diagnostics) : Procedure (Outcome Plan) :=
  let zone := desired.withDefaults
  let ds := ds ++ zone.validate
  if Diagnostics.hasError zone.validate then .done (.failure ds)
  else
    (Zones.get zone.name).bind fun
      | .ok record =>
        match Zone.converted record ds with
        | ⟨some current, ds⟩ => .done ((Plan.toChange current zone).checked ds)
        | ⟨none, ds⟩ => .done (.failure ds)
      | .error e =>
        if e.isNotFound then .done ((Plan.toCreate zone).checked ds)
        else
          .done (.failed ds "Error Reading SDN Zone"
            s!"could not read SDN zone {zone.name}: {e.message}")

/-- Carry out a plan. A replacement goes on only while there is no error at all. -/
def Plan.apply (p : Plan) (ds : Diagnostics) : Procedure (Outcome Zone) :=
  match p.action, p.current with
  | .nothing, some current => .done (.success current ds)
  | .nothing, none => p.desired.create ds
  | .create, _ => p.desired.create ds
  | .update, _ => p.desired.update ds
  | .replace _, none => p.desired.create ds
  | .replace _, some current =>
    (current.delete ds).bind fun ds =>
      if Diagnostics.hasError ds then .done (.failure ds) else p.desired.create ds

end SdnZones
