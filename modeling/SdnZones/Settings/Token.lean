-- SUMMARY: API tokens: their parts, which are accepted, and hiding the secret.
import SdnZones.Text.Split

/-!
# API tokens

A token reads `user@realm!tokenid=secret`. The first equals sign ends the identity and
starts the secret; the first exclamation mark of the identity ends the user. Everything
that is shown of a token is made of its identity alone.
-/

namespace SdnZones.Token

/-- The identity and the secret of a token. -/
def parts? (token : String) : Option (String × String) := Text.cutString '=' token

/-- The user and the name in an identity. -/
def identityParts? (identity : String) : Option (String × String) := Text.cutString '!' identity

/-- Whether a token is accepted: it has both parts, its identity has a user with an at sign and
a name, and neither the name nor the secret is empty. -/
def isAccepted (token : String) : Bool :=
  match parts? token with
  | none => false
  | some (identity, secret) =>
    match identityParts? identity with
    | none => false
    | some (user, name) => !secret.isEmpty && !name.isEmpty && user.toList.contains '@'

/-- What stands in place of a secret. -/
def hidden : String := "********"

/-- A token with its secret hidden; what has no secret is shown as it is. -/
def masked (token : String) : String :=
  match parts? token with
  | some (identity, _) => s!"{identity}={hidden}"
  | none => token

/-- Tokens of one identity look the same when masked. -/
theorem masked_eq_of_parts {a b identity s t : String} (ha : parts? a = some (identity, s))
    (hb : parts? b = some (identity, t)) : masked a = masked b := by
  simp [masked, ha, hb]

end SdnZones.Token
