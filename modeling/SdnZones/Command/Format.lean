-- SUMMARY: The formats in which commands show zones.
import SdnZones.Json.Printer
import SdnZones.Yaml.Writer

/-!
# Output formats

Commands show zones as plain text of their own, as indented JSON or as YAML.
-/

namespace SdnZones

/-- A format for output. -/
inductive Format where
  | text
  | json
  | yaml
deriving DecidableEq

namespace Format

/-- The name of a format. -/
def name : Format → String
  | text => "text"
  | json => "json"
  | yaml => "yaml"

/-- The format of a name. -/
def ofName? (s : String) : Option Format := [text, json, yaml].find? (·.name == s)

/-- A value in a format; plain text is up to the command. -/
def render (v : Json) : Format → String
  | yaml => Yaml.document v
  | _ => v.pretty

end Format

end SdnZones
