-- SUMMARY: A transport that gives canned replies.
import SdnZones.Api.Procedure

/-!
# Canned replies

A transport with a fixed reply for each method and path. Requests are kept in order;
asking for the health of the API leaves none.
-/

namespace SdnZones

/-- Replies by method and path, and the requests so far. -/
structure Canned where
  replies : Dict Reply
  healthy : Bool
  requests : List Request

namespace Canned

/-- The key of a request: its method and its path. -/
def key (r : Request) : String := s!"{r.method.name} {r.path}"

/-- The reply to a request. -/
def reply (c : Canned) (r : Request) : Reply :=
  match c.replies.get? (key r) with
  | some reply => reply
  | none => .error (.status 404 s!"Mock response not found for: {key r}")

/-- The transport. -/
def transport : Transport Canned where
  call r c := (c.reply r, { c with requests := c.requests ++ [r] })
  health c := (.ok c.healthy, c)

end Canned

end SdnZones
