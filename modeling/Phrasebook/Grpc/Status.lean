import Phrasebook.ServiceError
import Phrasebook.Text.Percent
/-!
# The status of a call

Every call over gRPC ends with a status: a code and a message. In a header the message is percent encoded,
so that any text survives; an empty message is left out.
-/

set_option autoImplicit false

namespace Phrasebook.Grpc

/-- The codes that occur. -/
inductive Code where
  | ok
  | unknown
  | invalidArgument
  | notFound
  | permissionDenied
  | outOfRange
  | unimplemented
  | internal
  | unavailable
deriving DecidableEq, Inhabited

/-- The number of a code. -/
def Code.number : Code → Nat
  | .ok => 0
  | .unknown => 2
  | .invalidArgument => 3
  | .notFound => 5
  | .permissionDenied => 7
  | .outOfRange => 11
  | .unimplemented => 12
  | .internal => 13
  | .unavailable => 14

/-- The name of a code. -/
def Code.name : Code → String
  | .ok => "Ok"
  | .unknown => "Unknown"
  | .invalidArgument => "InvalidArgument"
  | .notFound => "NotFound"
  | .permissionDenied => "PermissionDenied"
  | .outOfRange => "OutOfRange"
  | .unimplemented => "Unimplemented"
  | .internal => "Internal"
  | .unavailable => "Unavailable"

/-- All codes. -/
def Code.all : List Code :=
  [.ok, .unknown, .invalidArgument, .notFound, .permissionDenied, .outOfRange, .unimplemented, .internal,
    .unavailable]

/-- A code with a message. -/
structure Status where
  /-- The code. -/
  code : Code
  /-- The message. -/
  message : String := ""
deriving DecidableEq, Inhabited

namespace Status

/-- The status for a failed call. -/
def ofServiceError (e : ServiceError) : Status :=
  let code := match e with
    | .validation _ => Code.invalidArgument
    | .notFound => Code.notFound
    | .external _ => Code.unavailable
    | .internal _ => Code.internal
  ⟨code, e.publicMessage⟩

/-- The bytes that stand for themselves in the message header. -/
def isPlain (b : UInt8) : Bool :=
  0x20 < b && b < 0x7F && !([0x22, 0x23, 0x25, 0x3C, 0x3E, 0x3F, 0x60, 0x7B, 0x7D].contains b)

/-- The message as a header value. -/
def encodeMessage (s : String) : Bytes := Text.Percent.encode isPlain (Text.encode s)

/-- The message of a header value, unless it is no text. -/
def decodeMessage? (b : Bytes) : Option String := Text.decode? (Text.Percent.decode b)

/-- The headers of a status. -/
def headers (s : Status) : List (String × Bytes) :=
  (if s.message.isEmpty then [] else [("grpc-message", encodeMessage s.message)]) ++
    [("grpc-status", Text.encode (toString s.code.number))]

/-- The status in headers, if there is one. -/
def ofHeaders? (headers : List (String × Bytes)) : Option Status := do
  let number ← headers.lookup "grpc-status"
  let code := (Code.all.find? fun c => Text.encode (toString c.number) == number).getD .unknown
  match headers.lookup "grpc-message" with
  | none => some ⟨code, ""⟩
  | some b =>
    match decodeMessage? b with
    | some message => some ⟨code, message⟩
    | none => some ⟨.unknown, "Error deserializing status message header"⟩

end Status

end Phrasebook.Grpc
