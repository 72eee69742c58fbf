import Phrasebook.Chain
import Phrasebook.Json.Printer
import Phrasebook.Json.Reader
import Phrasebook.Phrase
import Phrasebook.Text.Percent
/-!
# The outside service that renders texts

It is asked with a query in the address. Its answer is a JSON value whose first item lists segments; the
first item of a segment is a piece of the rendering. A status from 400 to 599 means that it refuses.
-/

set_option autoImplicit false

namespace Phrasebook.Provider

/-- The pieces of the rendering in an answer. A segment without a text in the first place has none. -/
def pieces? (answer : Json) : Option (List String) := do
  let segments ← (← answer.item? 0).items?
  return segments.filterMap fun segment => (segment.item? 0).bind Json.text?

/-- The rendering in an answer, unless it is empty. -/
def rendering? (answer : Json) : Option String := do
  let text := String.join (← pieces? answer)
  if text.isEmpty then none else some text

/-! ## The request -/

/-- Whether a byte stands for itself in a form value. -/
def isFormByte (b : UInt8) : Bool :=
  (0x30 ≤ b && b ≤ 0x39) || (0x41 ≤ b && b ≤ 0x5A) || (0x61 ≤ b && b ≤ 0x7A) || b == 0x2A || b == 0x2D
    || b == 0x2E || b == 0x5F

/-- A form value: escaped, with a plus sign for each space. -/
def formValue (s : String) : String :=
  let escaped := (Text.encode s).flatMap fun b =>
    if isFormByte b then [b] else if b == 0x20 then [0x2B] else Text.Percent.escape b
  String.ofList (escaped.map fun b => Char.ofNat b.toNat)

/-- The values asked with. -/
def formOf (q : Query) : String :=
  "&".intercalate ([("client", "gtx"), ("dt", "t"), ("sl", q.source), ("tl", q.target), ("q", q.text)].map
    fun (name, value) => name ++ "=" ++ formValue value)

/-- Whether a byte stands for itself in the path of an address. -/
def isPathByte (b : UInt8) : Bool :=
  0x21 ≤ b && b < 0x7F && !("\"#<>?`\x7b\x7d".toList.any fun c => c.toNat == b.toNat)

/-- What is asked for: the path of the service with the values, after those that the path has already. -/
def target (path : String) (q : Query) : String :=
  let (path, given) := match path.splitOn "?" with
    | [] => ("", "")
    | p :: rest => (p, "?".intercalate rest)
  let escaped := (Text.Percent.encode isPathByte (Text.encode path)).map fun b => Char.ofNat b.toNat
  (if path.startsWith "/" then "" else "/") ++ String.ofList escaped ++ "?" ++
    (if given.isEmpty then "" else given ++ "&") ++ formOf q

/-- The host of the service. -/
def host : String := "https://translate.googleapis.com"

/-- The path of the service. -/
def servicePath : String := "/translate_a/single"

/-- The address that a query is asked at. -/
def serviceUrl (q : Query) : String := host ++ target servicePath q

/-- The first line of the request. -/
def requestLine (path : String) (q : Query) : String := "GET " ++ target path q ++ " HTTP/1.1"

/-! ## The answer -/

/-- What the service answers. -/
structure Reply where
  /-- The status. -/
  status : Nat
  /-- The words that go with the status. -/
  reason : String
  /-- The body. -/
  body : Bytes

/-- Why there is no rendering. -/
inductive Failure where
  /-- The service refuses. -/
  | refused (status : Nat) (reason url : String)
  /-- The answer is no JSON text. -/
  | notJson (message : String)
  /-- The answer holds no rendering. -/
  | unexpected (answer : Json)
  /-- The service is not to be reached. -/
  | unreachable (url : String)

/-- The failure with its cause. -/
def Failure.chain : Failure → Chain
  | .refused status reason url =>
    let side := if status < 500 then "client" else "server"
    ⟨"HTTP status " ++ side ++ " error (" ++ toString status ++ " " ++ reason ++ ") for url (" ++ url ++ ")", []⟩
  | .notJson message => ⟨message, ["error decoding response body"]⟩
  | .unexpected answer => ⟨"Unexpected translate api response: " ++ answer.render, []⟩
  | .unreachable url =>
    ⟨"failed to lookup address information: Temporary failure in name resolution",
      ["error sending request for url (" ++ url ++ ")", "client error (Connect)", "dns error"]⟩

/-- Whether an answer of this status has no body. -/
def isBodiless (status : Nat) : Bool := status == 204 || status == 304

/-- The rendering that a reply brings. The address is the one that was asked. -/
def Reply.rendering (r : Reply) (url : String) : Except Failure String :=
  if 400 ≤ r.status && r.status < 600 then .error (.refused r.status r.reason url)
  else
    let body := if isBodiless r.status then [] else r.body
    match Json.ofBytes? body with
    | .error f => .error (.notJson (f.message body))
    | .ok answer =>
      match rendering? answer with
      | some text => .ok text
      | none => .error (.unexpected answer)

/-- The phrase that a reply brings for a query. -/
def Reply.phrase (r : Reply) (url : String) (q : Query) : Except Failure Phrase :=
  (r.rendering url).map q.phrase

end Phrasebook.Provider
