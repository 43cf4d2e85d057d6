-- SUMMARY: Layers of configured values from files of several formats and from the environment.
import SdnZones.Ini.Reader
import SdnZones.Json.Reader
import SdnZones.Json.Relaxed
import SdnZones.Settings.Layer
import SdnZones.Toml.Reader
import SdnZones.Yaml.Node

/-!
# Sources of configured values

A file holds one layer; its extension names the format. The variables of the environment
whose names start with `PVE_SDN_`, in any case, are another layer: the rest of such a
name in lower case names the value.
-/

namespace SdnZones.Settings

/-! ## TOML -/

/-- What a TOML value configures. -/
def Configured.ofToml : Toml.Value → Configured
  | .text s => .text s
  | .int i => .int i
  | .float x => .float x
  | .bool b => .bool b
  | .moment s => .text s
  | .array _ => .list
  | .inline entries => .table entries.isEmpty
  | .table _ entries => .table entries.isEmpty
  | .tables _ _ => .list

/-- The layer of a TOML text. -/
def Layer.ofToml? (text : String) : Option Layer :=
  (Toml.parse text).map fun entries => .ofList (entries.map fun (k, v) => (k, .ofToml v))

/-! ## JSON -/

/-- What a JSON value configures. An integer that no 64-bit word with sign holds is a double. -/
def Configured.ofJson : Json → Configured
  | .null => .absent
  | .bool b => .bool b
  | .int i => if Numeral.fitsInt64 i then .int i else .float (.ofInt i)
  | .float x => .float x
  | .text s => .text s
  | .array _ => .list
  | .object members => .table members.isEmpty

/-- The layer of a JSON value, which has to be an object. -/
def Layer.ofValue? : Json → Option Layer
  | .object members => some (.ofList (members.map fun (k, v) => (k, .ofJson v)))
  | _ => none

/-- The layer of a JSON text. -/
def Layer.ofJson? (text : String) : Option Layer := (Json.parse text).toOption.bind ofValue?

/-- The layer of a relaxed JSON text. -/
def Layer.ofRelaxedJson? (text : String) : Option Layer := (Json.Relaxed.parse text).bind ofValue?

/-! ## INI -/

/-- A layer with the pieces of an INI text put into it. What stands in a section makes a table
of the section. -/
def Layer.putPieces (l : Layer) (name : Option String) : List Ini.Piece → Layer
  | [] => l
  | .heading name :: rest => putPieces (l.insert name (.table true)) (some name) rest
  | .entry key value :: rest =>
    match name with
    | none => putPieces (l.insert key (.text value)) none rest
    | some s => putPieces (l.insert s (.table false)) (some s) rest

/-- The layer of an INI text. -/
def Layer.ofIni? (text : String) : Option Layer :=
  (Ini.parse text).map fun pieces => Layer.putPieces .empty none pieces

/-! ## YAML -/

/-- The words for infinity and for no number that start with a point. -/
def isPointWord (s : String) : Bool :=
  [".inf", ".Inf", ".INF", "+.inf", "+.Inf", "+.INF", "-.inf", "-.Inf", "-.INF", ".nan",
    ".NAN"].contains s

/-- An integer that a 64-bit word with sign holds. -/
def int64? (base : Nat) (cs : List Char) : Option Int :=
  (Numeral.int? base cs).filter fun i => Numeral.fitsInt64 i

/-- The integer that a plain scalar stands for. -/
def plainInt? (cs : List Char) : Option Int :=
  let other :=
    match cs with
    | '0' :: 'x' :: rest => int64? 16 rest
    | '0' :: 'o' :: rest => int64? 8 rest
    | '+' :: rest => int64? 10 rest
    | _ => none
  match other with
  | some i => some i
  | none => int64? 10 cs

/-- What a plain scalar configures; the words with a point cannot be read. -/
def Configured.ofPlain? (s : String) : Option Configured :=
  match plainInt? s.toList with
  | some i => some (.int i)
  | none =>
    if s.isEmpty || s = "~" || s = "null" then some .absent
    else if s = "true" then some (.bool true)
    else if s = "false" then some (.bool false)
    else if isPointWord s then none
    else
      match Binary64.ofText? s with
      | some x => some (.float x)
      | none => some (.text s)

/-- What a plain scalar with a tag configures. -/
def Configured.ofTagged? (tag s : String) : Option Configured :=
  if tag = "tag:yaml.org,2002:bool" then
    some (if s = "true" then .bool true else if s = "false" then .bool false else .absent)
  else if tag = "tag:yaml.org,2002:int" then
    some (((int64? 10 s.toList).map Configured.int).getD .absent)
  else if tag = "tag:yaml.org,2002:float" then
    if isPointWord s then none else some (((Binary64.ofText? s).map Configured.float).getD .absent)
  else if tag = "tag:yaml.org,2002:null" then some .absent
  else some (.text s)

/-- What a YAML node configures. -/
def Configured.ofNode? : Yaml.Node → Option Configured
  | .scalar s isPlain tag =>
    if !isPlain then some (.text s)
    else
      match tag with
      | some tag => ofTagged? tag s
      | none => ofPlain? s
  | .list _ => some .list
  | .mapping members => some (.table members.isEmpty)
  | .cycle => none

/-- The name that a YAML node is: a text, or an integer in decimal. -/
def nameOfNode? (n : Yaml.Node) : Option String :=
  match Configured.ofNode? n with
  | some (.text s) => some s
  | some (.int i) => some i.repr
  | _ => none

mutual

/-- Whether all that a YAML node holds can be read. -/
def isReadable : Yaml.Node → Bool
  | .scalar s isPlain tag => (Configured.ofNode? (.scalar s isPlain tag)).isSome
  | .list items => areReadable items
  | .mapping members => membersReadable members
  | .cycle => false

/-- Whether all nodes can be read. -/
def areReadable : List Yaml.Node → Bool
  | [] => true
  | n :: rest => isReadable n && areReadable rest

/-- Whether all members have names and can be read. -/
def membersReadable : List (Yaml.Node × Yaml.Node) → Bool
  | [] => true
  | (k, v) :: rest => (nameOfNode? k).isSome && isReadable v && membersReadable rest

end

/-- The layer of a YAML text. No document at all is an empty layer; more than one is none. -/
def Layer.ofYaml? (text : String) : Option Layer :=
  match Yaml.Node.documents text with
  | some [] => some .empty
  | some [.mapping members] =>
    if membersReadable members then
      (members.mapM fun (k, v) => do
        let name ← nameOfNode? k
        let value ← Configured.ofNode? v
        some (name, value)).map Dict.ofList
    else none
  | _ => none

/-! ## Files -/

/-- A format of files. -/
inductive FileFormat where
  | toml
  | json
  | relaxedJson
  | yaml
  | ini
deriving DecidableEq

namespace FileFormat

/-- The extensions of files, and the formats that they name. -/
def byExtension : List (String × FileFormat) :=
  [("toml", .toml), ("json", .json), ("yaml", .yaml), ("yml", .yaml), ("ini", .ini),
    ("json5", .relaxedJson)]

/-- The format of an extension. -/
def ofExtension? (extension : String) : Option FileFormat := byExtension.lookup extension

/-- The layer of a text in a format. -/
def layer? (text : String) : FileFormat → Option Layer
  | toml => Layer.ofToml? text
  | json => Layer.ofJson? text
  | relaxedJson => Layer.ofRelaxedJson? text
  | yaml => Layer.ofYaml? text
  | ini => Layer.ofIni? text

end FileFormat

/-- The text of bytes: a mark of the byte order at the start is dropped, and what is no text is
replaced. -/
def textOfBytes (bytes : List UInt8) : String :=
  match bytes with
  | 0xEF :: 0xBB :: 0xBF :: rest => Utf8.decodeLossy rest
  | bytes => Utf8.decodeLossy bytes

/-! ## Environment -/

/-- How the names of the variables start, in lower case. -/
def variableStart : String := "pve_sdn_"

/-- The name of the value that a variable configures. -/
def nameOfVariable? (full : String) : Option String :=
  let lower := full.toList.map Char.toLower
  if variableStart.toList.isPrefixOf lower then
    some (String.ofList (lower.drop variableStart.length))
  else none

/-- The layer of an environment. -/
def Layer.ofEnvironment (environment : List (String × String)) : Layer :=
  .ofList (environment.filterMap fun (name, value) =>
    (nameOfVariable? name).map fun name => (name, .text value))

end SdnZones.Settings
