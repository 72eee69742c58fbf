import Phrasebook.Text.Utf8
import Phrasebook.Text.Blank
/-!
# HTTP messages

Requests and responses as far as the service looks at them. Header names are in lower case; header values
are bytes, which count as text only when all of them are visible ASCII, spaces or tabs.
-/

set_option autoImplicit false

namespace Phrasebook.Http

/-- Header names and values, in order. -/
abbrev Headers := List (String × Bytes)

namespace Headers

/-- The first value of a header. -/
def get? (h : Headers) (name : String) : Option Bytes := h.lookup name

/-- Whether a header is there. -/
def has (h : Headers) (name : String) : Bool := (h.get? name).isSome

/-- Sets a header in place of any it had. -/
def set (h : Headers) (name : String) (value : Bytes) : Headers :=
  h.filter (·.1 != name) ++ [(name, value)]

/-- Sets a header unless it is there. -/
def setDefault (h : Headers) (name : String) (value : Bytes) : Headers :=
  if h.has name then h else h ++ [(name, value)]

end Headers

/-- Whether a byte may stand in a header value that is text. -/
def isTextByte (b : UInt8) : Bool := (0x20 ≤ b && b < 0x7F) || b == 0x09

/-- A header value as text. -/
def headerText? (b : Bytes) : Option String :=
  if b.all isTextByte then some (String.ofList (b.map fun c => Char.ofNat c.toNat)) else none

/-- The text of a header. -/
def Headers.text? (h : Headers) (name : String) : Option String := (h.get? name).bind headerText?

/-- The path in the target of a request: what stands before the query, without scheme and host. -/
def targetPath (target : String) : String :=
  let cs := target.toList.takeWhile fun c => c != '?' && c != '#'
  let rec afterHost : List Char → Option (List Char)
    | ':' :: '/' :: '/' :: rest => some (rest.dropWhile (· != '/'))
    | '/' :: _ => none
    | _ :: rest => afterHost rest
    | [] => none
  match afterHost cs with
  | some [] => "/"
  | some path => String.ofList path
  | none => String.ofList cs

/-- The address in a peer, which is given with its number after the last colon. -/
def peerAddress (peer : String) : String :=
  let address := (peer.toList.reverse.dropWhile (· != ':')).drop 1
  String.ofList (address.reverse.filter fun c => c != '[' && c != ']')

/-- A request. -/
structure Request where
  /-- The method. -/
  method : String := "GET"
  /-- The path. -/
  path : String
  /-- The headers. -/
  headers : Headers := []
  /-- The body. -/
  body : Bytes := []
  /-- The address at the other end of the connection, when it is known. -/
  peer : Option String := none

/-- A response. -/
structure Response where
  /-- The status. -/
  status : Nat
  /-- The headers. -/
  headers : Headers := []
  /-- The body. -/
  body : Bytes := []

/-- A response with a JSON body. -/
def jsonResponse (status : Nat) (body : Bytes) : Response :=
  ⟨status, [("content-type", Text.encode "application/json")], body⟩

end Phrasebook.Http
