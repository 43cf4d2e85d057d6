-- SUMMARY: Requests to the cluster's API, responses, and the errors of failed calls.
import SdnZones.Decode.Fault

/-!
# Requests, responses and errors

A call of the API is a request that is answered by a response or by an error. An error
is a cause; `ApiError.message` is its text, and `ApiError.chain` also has the texts of
the failures below it, outermost first.
-/

namespace SdnZones

/-- The method of a request. -/
inductive Method where
  | get
  | post
  | put
  | delete
  | other (name : String)
deriving DecidableEq

/-- The word for a method. -/
def Method.name : Method → String
  | .get => "GET"
  | .post => "POST"
  | .put => "PUT"
  | .delete => "DELETE"
  | .other name => name

/-- The method of a word. -/
def Method.ofName (s : String) : Method :=
  match [get, post, put, delete].find? (·.name == s) with
  | some m => m
  | none => .other s

/-- A request to the API. -/
structure Request where
  method : Method
  /-- The path below the root of the API. -/
  path : String
  query : Dict String := .empty
  /-- Sent as a form, so it has to be an object. -/
  body : Option Json := none
deriving DecidableEq

namespace Request

/-- A request that reads. -/
def get (path : String) : Request where
  method := .get
  path := path

/-- A request that adds. -/
def post (path : String) (body : Json) : Request where
  method := .post
  path := path
  body := some body

/-- A request that changes. -/
def put (path : String) (body : Json) : Request where
  method := .put
  path := path
  body := some body

/-- A request that removes. -/
def delete (path : String) : Request where
  method := .delete
  path := path

/-- The request with a query parameter. -/
def withQuery (r : Request) (name value : String) : Request :=
  { r with query := r.query.insert name value }

end Request

/-- What the API answers. -/
structure Response where
  status : Nat
  body : Json
deriving DecidableEq

/-- The response of a call that went well. -/
def Response.ok (body : Json) : Response := ⟨200, body⟩

/-- Why something that was sent or received does not parse. -/
inductive ParseProblem where
  | told (message : String)
  /-- The text of a response is no JSON. -/
  | unreadable (fault : ReadFault)
deriving DecidableEq

instance : Coe String ParseProblem := ⟨.told⟩

/-- The message for a problem. It does not say what is wrong with an unreadable text. -/
def ParseProblem.message : ParseProblem → String
  | .told m => m
  | .unreadable _ => "JSON parse error"

/-- Why a call failed. -/
inductive ApiError where
  /-- The request was not sent or not answered; the failures from the outermost in. -/
  | http (failures : List String)
  | invalidUrl (url : String)
  | authentication (message : String)
  | status (status : Nat) (message : String)
  | parse (problem : ParseProblem)
deriving DecidableEq

namespace ApiError

/-- The message for an error. -/
def message : ApiError → String
  | http failures => "HTTP request failed: " ++ Text.joinWith ": " failures
  | invalidUrl url => s!"Invalid URL: {url}"
  | authentication m => s!"Authentication failed: {m}"
  | status code m => s!"API returned error: {code.repr} - {m}"
  | parse problem => s!"Response parsing failed: {problem.message}"

/-- The HTTP status that the server answered with, if it came to that. -/
def status? : ApiError → Option Nat
  | status code _ => some code
  | authentication _ => some 401
  | _ => none

/-- The texts of failures, each with those below it. -/
def failureTexts : List String → List String
  | [] => []
  | failure :: below => Text.joinWith ": " (failure :: below) :: failureTexts below

/-- The message and the texts of the failures below it. -/
def chain (e : ApiError) : List String :=
  e.message :: match e with
    | http failures => failureTexts failures
    | _ => []

end ApiError

/-- What comes of a call. -/
abbrev Reply := Except ApiError Response

end SdnZones
