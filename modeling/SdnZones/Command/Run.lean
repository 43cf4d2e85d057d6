-- SUMMARY: Running a command line: settings, client, task, and what is printed in the end.
import SdnZones.Command.Invocation
import SdnZones.Command.Zones
import SdnZones.Http.Client
import SdnZones.Settings.Load
import SdnZones.Zone.DocumentFile

/-!
# Running a command line

Settings are loaded and the client is made before the task is looked at. A failure is
printed with its message, and with its causes if that is asked for; it makes the code of
the ending one. Arguments that break the rules make it two.
-/

namespace SdnZones.Command

/-! ## Tasks -/

/-- The failure of settings that cannot be loaded. -/
def settingsFailure (path : Option String) (fault : Settings.LoadFault) : Failure :=
  match path with
  | some path => .ofChain s!"Failed to load configuration file: {path}" fault.chain
  | none => .ofChain "Failed to load client configuration" fault.chain

/-- The failure of settings that cannot be shown. -/
def unshowable : Failure :=
  let cause := "out-of-range value for u64 type"
  ⟨s!"Failed to render configuration: {cause}", [cause]⟩

/-- Show the settings. -/
def showSettings (settings : Settings) (showSecret : Bool) : Printed Unit :=
  match settings.shown? showSecret with
  | some text => { out := text, result := .ok () }
  | none => .fail unshowable

/-- What is said of the health of the API. -/
def sayHealth (endpoint : String) : Except ApiError Bool → Printed Unit
  | .error e => .fail (.ofChain s!"Cannot reach {endpoint}" e.chain)
  | .ok true => .sayLine s!"Proxmox API at {endpoint} is reachable"
  | .ok false => .fail { message := s!"Proxmox API at {endpoint} is not responding" }

/-- Apply the zone of a file. -/
def applyFile (files : Files) (file : String) (dryRun : Bool) : Procedure (Printed Unit) :=
  match Document.ofFile file (files.get? file) with
  | .error fault => .done (.fail ⟨fault.message file, fault.causes⟩)
  | .ok zone => applyZone zone dryRun

/-- Do a task over a transport. -/
def Task.perform {σ : Type} (files : Files) (settings : Settings) (t : Transport σ) (s : σ) :
    Task → Printed Unit × σ
  | .list kind format => (listZones kind format).run t s
  | .show zone format => (showZone zone format).run t s
  | .apply file dryRun => (applyFile files file dryRun).run t s
  | .delete zone => (deleteZone zone).run t s
  | .ping =>
    let (health, s) := t.health s
    (sayHealth settings.endpoint health, s)
  | .config showSecret => (showSettings settings showSecret, s)

/-! ## Endings -/

/-- How a command ends: its code, and what it printed. -/
structure Ending where
  code : Nat
  out : String := ""
  err : String := ""
deriving DecidableEq

/-- A failure as it is printed. -/
def failureLines (f : Failure) (detailed : Bool) : String :=
  let causes := if detailed then f.causes.map fun cause => s!"  Caused by: {cause}\n" else []
  s!"Error: {f.message}\n" ++ String.join causes

/-- The ending of a task. -/
def Ending.ofPrinted (p : Printed Unit) (detailed : Bool) : Ending :=
  match p.result with
  | .ok () => ⟨0, p.out, p.err⟩
  | .error f => ⟨1, p.out, p.err ++ failureLines f detailed⟩

/-- Carry out an invocation over a network. -/
def Invocation.run {σ : Type} (i : Invocation) (surroundings : Settings.Surroundings)
    (network : Network σ) (s : σ) : Ending × σ :=
  let (printed, s) :=
    match surroundings.load i.settings with
    | .error fault => (.fail (settingsFailure i.settings fault), s)
    | .ok settings =>
      match Client.ofSettings settings with
      | .error e =>
        (.fail (.ofChain s!"Failed to set up API client for {settings.endpoint}" e.chain), s)
      | .ok client => i.task.perform surroundings.files settings (client.transport network) s
  (.ofPrinted printed i.detailed, s)

/-- The name and the version of the program. -/
def versionText : String := "pvesdn 0.1.0\n"

/-- How the program is used. -/
def usageText : String := Text.joinWith "\n" [
  "Proxmox VE SDN Zone Management CLI", "",
  "Usage: pvesdn [-c FILE] [-v] [-d] [-q] COMMAND", "", "Commands:",
  "  list [-t TYPE] [-f FORMAT]       List SDN zones",
  "  show [-f FORMAT] ZONE            Show a SDN zone",
  "  apply -f FILE [--dry-run]        Create or update a SDN zone from a document",
  "  delete ZONE                      Delete a SDN zone",
  "  ping                             Check that the cluster API is reachable",
  "  config [--show-secret]           Show the effective client configuration", ""]

/-- The ending of a command line that asks for no task. -/
def Stop.ending : Stop → Ending
  | .version => { code := 0, out := versionText }
  | .help => { code := 0, out := usageText }
  | .misuse => { code := 2, err := usageText }

/-- Run a command line over a network. -/
def run {σ : Type} (args : List String) (surroundings : Settings.Surroundings)
    (network : Network σ) (s : σ) : Ending × σ :=
  match Invocation.ofArguments args with
  | .error stop => (stop.ending, s)
  | .ok i => i.run surroundings network s

/-! ## What a run depends on -/

/-- The paths that an invocation may read. -/
def Invocation.paths (i : Invocation) (home : Option String) : List String :=
  let settings :=
    match i.settings with
    | some path =>
      path :: Settings.FileFormat.byExtension.map fun (extension, _) => path ++ "." ++ extension
    | none => Settings.standardPaths home
  match i.task with
  | .apply file _ => settings ++ [file]
  | _ => settings

/-- The paths that a command line may read. -/
def pathsOf (args : List String) (home : Option String) : List String :=
  match Invocation.ofArguments args with
  | .error _ => []
  | .ok i => i.paths home

/-- The variables of the environment that count. -/
def variableNames : List String :=
  ["PVE_SDN_ENDPOINT", "PVE_SDN_API_TOKEN", "PVE_SDN_INSECURE", "PVE_SDN_TIMEOUT"]

end SdnZones.Command
