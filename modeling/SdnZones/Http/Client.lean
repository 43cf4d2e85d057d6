-- SUMMARY: The client that calls the API over a network.
import SdnZones.Api.Procedure
import SdnZones.Http.Answer
import SdnZones.Http.Form
import SdnZones.Http.Url
import SdnZones.Settings.Basic

/-!
# The client

The client makes a message of a request, hands it to a network and reads the answer. A
network either answers or fails; `Network.unreachable` fails every time.
-/

namespace SdnZones

/-- A request as it is sent. -/
structure Message where
  method : Method
  url : Url
  authorization : Option String
  /-- The form in the body. -/
  form : Option String
deriving DecidableEq

/-- What carries messages to a server, with a state of its own. A failure is told by its causes,
outermost first. -/
def Network (σ : Type) : Type := Message → σ → Except (List String) Answer × σ

/-- A network that reaches no server. -/
def Network.unreachable : Network Unit := fun _ s =>
  (.error ["error trying to connect", "tcp connect error", "Network is unreachable (os error 101)"],
    s)

/-- The client. -/
structure Client where
  /-- The root of the API. -/
  base : String
  apiToken : Option String := none
deriving DecidableEq

namespace Client

/-- The client of some settings, if they name one of the two protocols. -/
def ofSettings (s : Settings) : Except ApiError Client :=
  if Settings.isHttpUrl s.endpoint then .ok ⟨s.endpoint, s.apiToken⟩
  else .error (.invalidUrl s.endpoint)

/-- The header of a token. -/
def authorization (token : String) : String := s!"PVEAPIToken={token}"

/-- Whether a text may be the value of a header. -/
def isHeaderValue (s : String) : Bool :=
  s.toList.all fun c => c == '\t' || (0x20 ≤ c.toNat && c.toNat != 0x7F)

/-- A failure before anything was sent. -/
def unbuildable (cause : String) : ApiError := .http ["builder error", cause]

/-- The form of the body of a request; a body that is no object is refused. -/
def formOf (r : Request) : Except ApiError (Option String) :=
  match r.body with
  | none => .ok none
  | some (.object members) =>
    match Form.ofMembers? members with
    | some form => .ok (some form)
    | none => .error (unbuildable "unsupported value")
  | some _ => .error (.parse "request body must be a JSON object")

/-- The message of a request. -/
def message (c : Client) (r : Request) : Except ApiError Message :=
  match formOf r, Url.ofText? (Url.build c.base r.path r.query.toList) with
  | .error e, _ => .error e
  | .ok _, none => .error (unbuildable "empty host")
  | .ok form, some url =>
    let header := c.apiToken.map authorization
    if header.all isHeaderValue then .ok ⟨r.method, url, header, form⟩
    else .error (unbuildable "failed to parse header value")

/-- The error of a message that was not answered. -/
def unanswered (m : Message) (causes : List String) : ApiError :=
  .http (s!"error sending request for url ({m.url.text})" :: causes)

variable {σ : Type} (network : Network σ)

/-- Call the API over a network. -/
def call (c : Client) (r : Request) (s : σ) : Reply × σ :=
  match c.message r with
  | .error e => (.error e, s)
  | .ok m =>
    let (answer, s) := network m s
    match answer with
    | .error causes => (.error (unanswered m causes), s)
    | .ok answer => (answer.reply, s)

/-- The request for the version of the API, which shows whether it answers. -/
def versionRequest : Request := .get "version"

/-- What the answer about the version says of the health of the API. -/
def healthOf : Reply → Except ApiError Bool
  | .ok response => .ok (response.status == 200)
  | .error (.authentication m) => .error (.authentication m)
  | .error _ => .ok false

/-- The client as a transport. -/
def transport (c : Client) : Transport σ where
  call := c.call network
  health s :=
    let (reply, s) := c.call network versionRequest s
    (healthOf reply, s)

end Client

end SdnZones
