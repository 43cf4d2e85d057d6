-- SUMMARY: Addresses of requests: building them, and the form in which they are sent.
import SdnZones.Text.Percent
import SdnZones.Text.Split

/-!
# Addresses

An address is the root of the API with a path and a query behind it. Before it is sent
it is put into its standard form: what follows a number sign is dropped, dot segments of
the path are resolved, and characters that may not stand in an address are escaped.
-/

namespace SdnZones

/-- An address in its standard form. -/
structure Url where
  /-- The protocol, with the colon and two slashes behind it. -/
  scheme : List Char
  /-- The server, and the port unless it is the usual one. -/
  server : List Char
  /-- The path, which starts with a slash. -/
  path : List Char
  query : Option (List Char)
deriving DecidableEq

namespace Url

/-! ## Building -/

/-- The root of the API, which ends in a slash. -/
def root (base : String) : String :=
  if base.toList.getLast? == some '/' then base else base ++ "/"

/-- A parameter of a query. -/
def parameter (name value : String) : String := s!"{Percent.encode name}={Percent.encode value}"

/-- The address of a path below the root, with the parameters of a query. -/
def build (base path : String) (query : List (String × String)) : String :=
  let start := root base ++ String.ofList (path.toList.dropWhile (· == '/'))
  if query.isEmpty then start
  else start ++ "?" ++ Text.joinWith "&" (query.map fun (name, value) => parameter name value)

/-! ## Standard form -/

/-- A control character, or one beyond ASCII. -/
def isForeign (c : Char) : Bool := c.toNat ≤ 0x1F || 0x7E < c.toNat

/-- A character that may stand in a path. -/
def pathKeeps (c : Char) : Bool :=
  !(isForeign c || [' ', '"', '#', '<', '>', '?', Char.ofNat 0x60, '\x7b', '\x7d'].contains c)

/-- A character that may stand in a query. -/
def queryKeeps (c : Char) : Bool := !(isForeign c || [' ', '"', '#', '<', '>', '\''].contains c)

/-- Whether a segment stands for the directory it is in. -/
def isDot (segment : List Char) : Bool :=
  [".", "%2e"].contains (String.ofList (segment.map Char.toLower))

/-- Whether a segment stands for the directory above. -/
def isDoubleDot (segment : List Char) : Bool :=
  ["..", ".%2e", "%2e.", "%2e%2e"].contains (String.ofList (segment.map Char.toLower))

/-- Segments with the dot segments resolved; those before stand in reverse order. A dot segment
at the end leaves an empty one. -/
def resolve (before : List (List Char)) : List (List Char) → List (List Char)
  | [] => before.reverse
  | [last] =>
    if isDoubleDot last then ([] :: before.tail).reverse
    else if isDot last then ([] :: before).reverse
    else (last :: before).reverse
  | segment :: rest =>
    if isDoubleDot segment then resolve before.tail rest
    else if isDot segment then resolve before rest
    else resolve (segment :: before) rest

/-- A path in its standard form; backslashes count as slashes. -/
def standardPath (cs : List Char) : List Char :=
  let cs := cs.map fun c => if c = '\\' then '/' else c
  let segments :=
    match Text.split '/' cs with
    | [] :: rest => rest
    | segments => segments
  '/' :: Text.join '/' ((resolve [] segments).map (Percent.encodeExcept pathKeeps))

/-- Take the protocol from the start of an address. -/
def splitScheme (cs : List Char) : List Char × List Char :=
  if "https://".toList.isPrefixOf cs then ("https://".toList, cs.drop 8)
  else ("http://".toList, cs.drop 7)

/-- A server without the usual port of its protocol. -/
def standardServer (scheme server : List Char) : List Char :=
  let server := server.map Char.toLower
  let usual := (if scheme = "https://".toList then ":443" else ":80").toList
  if usual.reverse.isPrefixOf server.reverse then (server.reverse.drop usual.length).reverse
  else server

/-- The standard form of an address with one of the two protocols. An address without a server
has none. -/
def ofText? (address : String) : Option Url :=
  let shown := address.toList.filter fun c => !(['\t', '\n', '\r'].contains c)
  let (scheme, rest) := splitScheme shown
  let rest := rest.dropWhile fun c => c == '/' || c == '\\'
  let rest := rest.takeWhile (· != '#')
  let (server, rest) := rest.span fun c => !(['/', '\\', '?'].contains c)
  let (path, query) :=
    match Text.cut '?' rest with
    | some (path, query) => (path, some query)
    | none => (rest, none)
  if server.isEmpty then none
  else some {
    scheme := scheme
    server := standardServer scheme server
    path := standardPath path
    query := query.map (Percent.encodeExcept queryKeeps) }

/-- What the first line of a request names. -/
def target (u : Url) : String :=
  String.ofList (u.path ++ (u.query.map ('?' :: ·)).getD [])

/-- The whole address. -/
def text (u : Url) : String := String.ofList (u.scheme ++ u.server) ++ u.target

end Url

end SdnZones
