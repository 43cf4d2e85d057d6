-- SUMMARY: The settings of the client: defaults, checks, decoding, and how they are shown.
import SdnZones.Decode.Layout
import SdnZones.Settings.Token
import SdnZones.Text.Numeral
import SdnZones.Toml.Writer

/-!
# Settings

Where the API is and how it is called. `Settings.check?` finds what is wrong with
settings, the endpoint before the token. Settings are shown as TOML, with the secret of
the token only if that is asked for.
-/

namespace SdnZones

/-- The settings of the client. -/
structure Settings where
  endpoint : String := "https://localhost:8006/api2/json"
  apiToken : Option String := none
  /-- Certificates are not checked. -/
  insecure : Bool := false
  /-- The longest time for a call, in seconds; unset, a call may take any time. -/
  timeout : Option UInt64 := none
deriving DecidableEq

namespace Settings

/-! ## Checks -/

/-- What is wrong with settings. -/
inductive Problem where
  | invalidEndpoint (endpoint : String)
  | invalidToken
deriving DecidableEq

/-- The message for a problem. -/
def Problem.message : Problem → String
  | .invalidEndpoint endpoint => s!"Invalid API endpoint: {endpoint}"
  | .invalidToken => "Invalid API token, expected 'user@realm!tokenid=secret'"

/-- Whether an address names one of the two protocols. -/
def isHttpUrl (url : String) : Bool :=
  Text.startsWith "http://" url || Text.startsWith "https://" url

/-- The first problem of settings. -/
def check? (s : Settings) : Option Problem :=
  if !isHttpUrl s.endpoint then some (.invalidEndpoint s.endpoint)
  else
    match s.apiToken with
    | some token => if Token.isAccepted token then none else some .invalidToken
    | none => none

/-! ## Decoding -/

/-- How the values of settings are read from values of some kind. -/
structure Readers (ν : Type) where
  isAbsent : ν → Bool
  text : ν → Except DecodeFault String
  flag : ν → Except DecodeFault Bool
  count : ν → Except DecodeFault UInt64

/-- A value that may be absent. -/
def Readers.optional {ν α : Type} (r : Readers ν) (read : ν → Except DecodeFault α) (v : ν) :
    Except DecodeFault (Option α) :=
  if r.isAbsent v then .ok none else (read v).map some

/-- The fields of settings. Members of other names are passed over. -/
def layout {ν : Type} (r : Readers ν) : Layout ν Settings where
  title := "struct ClientConfig"
  strict := false
  needsFirst := false
  readers := [
    ⟨"endpoint", fun v => (r.text v).map fun x s => { s with endpoint := x }⟩,
    ⟨"api_token", fun v => (r.optional r.text v).map fun x s => { s with apiToken := x }⟩,
    ⟨"insecure", fun v => (r.flag v).map fun x s => { s with insecure := x }⟩,
    ⟨"timeout", fun v => (r.optional r.count v).map fun x s => { s with timeout := x }⟩]

/-- Read a text. -/
def readText : Json → Except DecodeFault String
  | .text s => .ok s
  | v => .error (.invalidType v.found "a string")

/-- Read a truth value. -/
def readFlag : Json → Except DecodeFault Bool
  | .bool b => .ok b
  | v => .error (.invalidType v.found "a boolean")

/-- Read a count. -/
def readCount : Json → Except DecodeFault UInt64
  | .int i =>
    match Numeral.toUInt64? i with
    | some n => .ok n
    | none => .error (.invalidValue (.int i) "u64")
  | v => .error (.invalidType v.found "u64")

/-- JSON values are read as what they are. -/
def exactly : Readers Json where
  isAbsent v := v == .null
  text := readText
  flag := readFlag
  count := readCount

/-- Settings from a JSON value. -/
def ofJson (v : Json) : Except DecodeFault Settings := (layout exactly).ofJson {} v

/-- Settings as a JSON value. -/
def toJson (s : Settings) : Json := .object [
  ("endpoint", .text s.endpoint), ("api_token", (s.apiToken.map Json.text).getD .null),
  ("insecure", .bool s.insecure), ("timeout", (s.timeout.map fun n => Json.int n.toNat).getD .null)]

/-! ## Showing -/

/-- The entry of a setting that is there. -/
def entry {α : Type} (name : String) (encode : α → Toml.Value) (v : Option α) : Toml.Entries :=
  (v.map fun x => (name, encode x)).toList

/-- Settings as entries. -/
def entries (s : Settings) : Toml.Entries :=
  entry "endpoint" .text (some s.endpoint) ++ entry "api_token" .text s.apiToken ++
    entry "insecure" .bool (some s.insecure) ++ entry "timeout" (fun n => .int n.toNat) s.timeout

/-- Settings as TOML, unless the time is too long for it. -/
def toToml? (s : Settings) : Option String := Toml.writeEntries? s.entries

/-- Settings whose token has its secret hidden. -/
def masked (s : Settings) : Settings := { s with apiToken := s.apiToken.map Token.masked }

/-- Settings as they are shown. -/
def shown? (s : Settings) (showSecret : Bool) : Option String :=
  if showSecret then s.toToml? else s.masked.toToml?

end Settings

end SdnZones
