-- SUMMARY: Answers of a server, and what they mean for a call of the API.
import SdnZones.Api.Exchange
import SdnZones.Http.Status
import SdnZones.Json.Printer
import SdnZones.Json.Reader
import SdnZones.Text.Blank

/-!
# Answers

A server answers with a status, maybe a reason phrase of its own, and a text. A failed
call says what went wrong in the message of its text, or else in the reason phrase, or
else by its status; refused parameters are listed behind it.
-/

namespace SdnZones

/-- What a server answers. -/
structure Answer where
  status : Nat
  /-- The reason phrase, if it is not the standard one. -/
  reason : Option String := none
  text : String := ""
deriving DecidableEq

namespace Answer

/-- The value of a text; a blank text is the null value. -/
def bodyOf (text : String) : Except ReadFault Json :=
  if Text.allBlank text then .ok .null else Json.parse text

/-- What stands for the message where none is given. -/
def standardMessage (status : Nat) : String := (Status.reason? status).getD "Unknown error"

/-- The text that a message is taken from: that of the body, or else the reason phrase. -/
def givenMessage? (reason : Option String) (body : Json) : Option String :=
  match (body.member? "message").bind Json.text? with
  | some m => some m
  | none => reason

/-- The message without the refused parameters. -/
def mainMessage (status : Nat) (reason : Option String) (body : Json) : String :=
  match (givenMessage? reason body).map Text.trimmed with
  | some m => if m.isEmpty then standardMessage status else m
  | none => standardMessage status

/-- What is said of a refused parameter. -/
def detail (name : String) (fault : Json) : String :=
  match fault with
  | .text s => s!"{name}: {Text.trimmed s}"
  | v => s!"{name}: {v.compact}"

/-- What is said of the refused parameters, in the order of their names. -/
def details (body : Json) : List String :=
  match body.member? "errors" with
  | some (.object members) => members.map fun (name, fault) => detail name fault
  | _ => []

/-- The message of a failed call. -/
def errorMessage (status : Nat) (reason : Option String) (body : Json) : String :=
  let main := mainMessage status reason body
  match details body with
  | [] => main
  | faults => main ++ " (" ++ Text.joinWith ", " faults ++ ")"

/-- The error of a failed call. -/
def failure (status : Nat) (message : String) : ApiError :=
  if status = Status.unauthorized then .authentication message else .status status message

/-- What an answer with a readable text comes to. -/
def settle (a : Answer) (body : Json) : Reply :=
  if Status.isFailure a.status then .error (failure a.status (errorMessage a.status a.reason body))
  else .ok ⟨a.status, body⟩

/-- What an answer comes to. Only a call that went well has to have a readable text. -/
def reply (a : Answer) : Reply :=
  match bodyOf a.text with
  | .ok body => a.settle body
  | .error fault =>
    if Status.isSuccess a.status then .error (.parse (.unreadable fault)) else a.settle .null

end Answer

end SdnZones
