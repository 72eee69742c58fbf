import Phrasebook.Grpc.Frame
import Phrasebook.Grpc.Service
/-!
# The server

A request names a method by its path and carries one framed message. An error before the answer is begun
comes as headers alone; an answer comes as a framed message with the status after it.
-/

set_option autoImplicit false

namespace Phrasebook.Grpc

/-- The greatest lengths of messages. -/
structure Limits where
  /-- For reading. -/
  decode : Nat := Frame.defaultLimit
  /-- For writing. -/
  encode : Option Nat := none

/-- A request as it arrives. -/
structure Request where
  /-- The path, which names the method. -/
  path : String
  /-- The headers. -/
  headers : List (String × Bytes) := []
  /-- The body. -/
  body : Bytes := []
  /-- The status with which the body breaks off, if its sender could not finish it. -/
  broken : Option Status := none

/-- A response as it leaves. -/
structure Response where
  /-- The headers. -/
  headers : List (String × Bytes)
  /-- The body. -/
  body : Bytes := []
  /-- The headers after the body, if the body was begun. -/
  trailers : Option (List (String × Bytes)) := none

/-- The methods. -/
inductive Method where
  | getHistory
  | translate
deriving DecidableEq

/-- The path of a method. -/
def Method.path : Method → String
  | .getHistory => "/translation.TranslationService/GetHistory"
  | .translate => "/translation.TranslationService/Translate"

/-- The method with this path. -/
def Method.ofPath? (path : String) : Option Method :=
  [Method.getHistory, .translate].find? fun m => m.path == path

/-- The header of every response. -/
def contentType : String × Bytes := ("content-type", Text.encode "application/grpc")

/-- A response that is a status only. -/
def statusResponse (s : Status) : Response := ⟨contentType :: s.headers, [], none⟩

/-- The response for a compression that is not known. -/
def badEncoding (name : Bytes) : Response :=
  let shown := Text.decodeLossy name
  let s : Status := ⟨.unimplemented, "Content is compressed with `" ++ shown ++ "` which isn't supported"⟩
  ⟨contentType :: ("grpc-accept-encoding", Text.encode "identity") :: s.headers, [], none⟩

/-- The response with a message, if it is not too long. -/
def messageResponse (limits : Limits) (message : Bytes) : Response :=
  let done (body : Bytes) (s : Status) : Response := ⟨[contentType], body, some s.headers⟩
  match limits.encode with
  | some limit =>
    if message.length > limit then done [] (Frame.tooLongToSend message.length limit)
    else done (Frame.wrap message) ⟨.ok, ""⟩
  | none => done (Frame.wrap message) ⟨.ok, ""⟩

/-- The status for a message that cannot be read. -/
def wireStatus (f : Wire.Fault) : Status := ⟨.internal, f.message⟩

/-- Reads the message of a request. Further messages are read too, and their faults count. -/
def readRequest {α : Type} (limits : Limits) (read : Bytes → Except Wire.Fault α) (r : Request) :
    Except Status α :=
  match r.broken with
  | some s => .error s
  | none => do
    let messages ←
      Frame.readAll .request limits.decode (fun b => (read b).mapError wireStatus) (r.body.length + 1) r.body
    match messages with
    | [] => .error ⟨.internal, "Missing request message."⟩
    | v :: _ => .ok v

/-- The response for an answer. -/
def answerResponse {α : Type} (limits : Limits) (encode : α → Bytes) (a : Answered α) : Answered Response :=
  let result := a.result.map fun
    | .ok v => Except.ok (messageResponse limits (encode v))
    | .error s => .ok (statusResponse s)
  ⟨result, a.desk, a.calls, a.notices⟩

/-- Answers a request. -/
def respond (w : World) (limits : Limits) (desk : Desk) (r : Request) : Answered Response :=
  let direct (x : Response) : Answered Response := ⟨.ok (.ok x), desk, [], []⟩
  match Method.ofPath? r.path with
  | none => direct ⟨[contentType, ("grpc-status", Text.encode (toString Code.unimplemented.number))], [], none⟩
  | some method =>
    match (r.headers.lookup "grpc-encoding").filter (· != Text.encode "identity") with
    | some name => direct (badEncoding name)
    | none =>
      match method with
      | .getHistory =>
        match readRequest limits readHistoryRequest r with
        | .error s => direct (statusResponse s)
        | .ok () => answerResponse limits historyMessage (getHistory w desk)
      | .translate =>
        match readRequest limits readQuery r with
        | .error s => direct (statusResponse s)
        | .ok q => answerResponse limits renderedMessage (translate w desk q)

/-- Answers a request behind a guard, which may refuse every request with a message. -/
def guarded (refusal : Option String) (w : World) (limits : Limits) (desk : Desk) (r : Request) :
    Answered Response :=
  match refusal with
  | some message => ⟨.ok (.ok (statusResponse ⟨.permissionDenied, message⟩)), desk, [], []⟩
  | none => respond w limits desk r

end Phrasebook.Grpc
