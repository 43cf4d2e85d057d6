-- SUMMARY: Loading settings from a file or from the standard places, with the environment over it.
import SdnZones.Settings.Files
import SdnZones.Settings.Source

/-!
# Loading settings

The environment lies over the file, and the file over the defaults. Without a file that
is asked for, the first of the standard places where anything is counts. Settings that
are loaded have been checked.
-/

namespace SdnZones.Settings

/-- What loading depends on. -/
structure Surroundings where
  files : Files
  environment : List (String × String) := []
  /-- The home directory. -/
  home : Option String := none

/-- The standard places of the file, the first that is there counts. -/
def standardPaths (home : Option String) : List String :=
  ["./pvesdn.toml"] ++ (home.map fun h => FileName.join h ".config/pvesdn/config.toml").toList ++
    ["/etc/pve/sdn-client.toml"]

/-- Why settings cannot be loaded. -/
inductive LoadFault where
  | notFound (path : String)
  | unknownFormat (path : String)
  /-- The text of the file cannot be read as a table. -/
  | malformed (path : String)
  | decode (fault : DecodeFault)
  | problem (problem : Problem)
deriving DecidableEq

/-- What is wrong with a source; nothing if the settings themselves are. -/
def LoadFault.source? : LoadFault → Option String
  | notFound path => some s!"configuration file \"{path}\" not found"
  | unknownFormat path =>
    some s!"configuration file \"{path}\" is not of a registered file format"
  | malformed path => some s!"malformed configuration in {path}"
  | decode fault => some fault.message
  | problem _ => none

/-- The messages for a fault, outermost first. -/
def LoadFault.chain (f : LoadFault) : List String :=
  match f, f.source? with
  | problem p, _ => [p.message]
  | _, some text => [s!"Failed to load configuration: {text}", text]
  | _, none => []

namespace Surroundings

variable (s : Surroundings)

/-- The file that a path stands for, and its format. A path that leads to no file may lack the
extension. -/
def find (path : String) : Except LoadFault (List UInt8 × FileFormat) :=
  match s.files.get? path with
  | some bytes =>
    match (FileName.extension? path).bind FileFormat.ofExtension? with
    | some format => .ok (bytes, format)
    | none => .error (.unknownFormat path)
  | none =>
    let tries := FileFormat.byExtension.filterMap fun (extension, format) =>
      (s.files.get? (path ++ "." ++ extension)).map fun bytes => (bytes, format)
    match tries with
    | found :: _ => .ok found
    | [] => .error (.notFound path)

/-- The layer of the file that a path stands for. -/
def fileLayer (path : String) : Except LoadFault Layer :=
  match s.find path with
  | .error fault => .error fault
  | .ok (bytes, format) =>
    match format.layer? (textOfBytes bytes) with
    | some layer => .ok layer
    | none => .error (.malformed path)

/-- The checked settings of layers, with the environment over them. -/
def finish (layer : Layer) : Except LoadFault Settings :=
  match ofLayer ((Layer.ofEnvironment s.environment).over layer) with
  | .error fault => .error (.decode fault)
  | .ok settings =>
    match settings.check? with
    | some p => .error (.problem p)
    | none => .ok settings

/-- Load from a file. -/
def loadFile (path : String) : Except LoadFault Settings :=
  match s.fileLayer path with
  | .error fault => .error fault
  | .ok layer => s.finish (layer.over .empty)

/-- The layer of the defaults. -/
def defaults : Layer :=
  let start : Settings := {}
  .ofList [("endpoint", .text start.endpoint), ("insecure", .bool start.insecure)]

/-- Load from the standard places. -/
def loadDefaults : Except LoadFault Settings :=
  match (standardPaths s.home).find? s.files.exist with
  | none => s.finish defaults
  | some path =>
    match s.fileLayer path with
    | .error fault => .error fault
    | .ok layer => s.finish (layer.over defaults)

/-- Load from the file that is asked for, or else from the standard places. -/
def load (path : Option String) : Except LoadFault Settings :=
  match path with
  | some path => s.loadFile path
  | none => s.loadDefaults

end Surroundings

end SdnZones.Settings
