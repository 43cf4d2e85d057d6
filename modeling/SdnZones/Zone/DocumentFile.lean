-- SUMMARY: Zone documents in files of three formats.
import SdnZones.Json.Reader
import SdnZones.Text.FileName
import SdnZones.Toml.Reader
import SdnZones.Yaml.Node
import SdnZones.Zone.Document

/-!
# Zone documents in files

The extension of a file, in any case, names the format of the document in it. A file
has to be there and to be text before its format matters.
-/

namespace SdnZones.Document

/-- A format of documents. -/
inductive FileFormat where
  | json
  | yaml
  | toml
deriving DecidableEq

/-- What a format is called in messages. -/
def FileFormat.title : FileFormat → String
  | .json => "JSON"
  | .yaml => "YAML"
  | .toml => "TOML"

/-- The format of an extension. -/
def FileFormat.ofExtension? (extension : String) : Option FileFormat :=
  match String.ofList (extension.toList.map Char.toLower) with
  | "json" => some .json
  | "yaml" => some .yaml
  | "yml" => some .yaml
  | "toml" => some .toml
  | _ => none

/-- The zone of a document in JSON; nothing may follow the document. -/
def ofJsonText (text : String) : Except Fault Zone :=
  let (datum, clean) := Json.read text
  match read .jsonText datum with
  | .error fault => .error fault
  | .ok zone => if clean then .ok zone else .error (.decode (.unreadable .malformed))

/-- The zone of a document in a format. -/
def ofText (format : FileFormat) (text : String) : Except Fault Zone :=
  match format with
  | .json => ofJsonText text
  | .yaml => read .yaml (Yaml.read text)
  | .toml => read .toml (Toml.read text)

/-- Why a file gives no zone. -/
inductive FileFault where
  | missing
  /-- Its bytes are no text. -/
  | notText
  | unsupported
  | invalid (format : FileFormat) (fault : Fault)
deriving DecidableEq

/-- The message for a fault of a file. -/
def FileFault.message (path : String) : FileFault → String
  | missing => s!"Failed to read zone document: {path}"
  | notText => s!"Failed to read zone document: {path}"
  | unsupported =>
    s!"Unsupported zone document format: {path} (expected .json, .yaml, .yml or .toml)"
  | invalid format _ => s!"Invalid {format.title} zone document: {path}"

/-- The causes behind a fault of a file. -/
def FileFault.causes : FileFault → List String
  | missing => ["No such file or directory (os error 2)"]
  | notText => ["stream did not contain valid UTF-8"]
  | unsupported => []
  | invalid _ fault => [fault.message]

/-- The zone of a file with some content. -/
def ofFile (path : String) (content : Option (List UInt8)) : Except FileFault Zone :=
  match content with
  | none => .error .missing
  | some bytes =>
    match Utf8.decode? bytes, (FileName.extension? path).bind FileFormat.ofExtension? with
    | none, _ => .error .notText
    | some _, none => .error .unsupported
    | some text, some format => (ofText format text).mapError (.invalid format)

end SdnZones.Document
