import Phrasebook.Grpc.Server
/-!
# The client

A client frames a message, sends it to the path of a method and reads the framed answer. Its base address
may have a path of its own, which then stands before the path of the method.
-/

set_option autoImplicit false

namespace Phrasebook.Grpc

/-- The base address of a client. -/
structure Origin where
  /-- Whether it begins with a scheme. -/
  hasScheme : Bool := true
  /-- Whether it names a host. -/
  hasHost : Bool := true
  /-- Its path. -/
  path : String := "/"
deriving Inhabited

/-- The address written in a text: what stands before `://` is its scheme, what follows up to a slash,
question mark or number sign its host, and the path goes up to a question mark or number sign. -/
def Origin.ofText (s : String) : Origin :=
  let cs := s.toList
  let endsHost (c : Char) : Bool := c == '/' || c == '?' || c == '#'
  let endsPath (c : Char) : Bool := c == '?' || c == '#'
  let afterScheme : List Char → Option (List Char) := fun l =>
    let rec find : List Char → Option (List Char)
      | ':' :: '/' :: '/' :: rest => some rest
      | _ :: rest => find rest
      | [] => none
    find l
  match afterScheme cs with
  | some rest =>
    let path := (rest.dropWhile (!endsHost ·)).takeWhile (!endsPath ·)
    ⟨true, true, if path.isEmpty && (rest.dropWhile (!endsHost ·)).isEmpty then "/" else
      (if path.isEmpty then "//" else String.ofList path)⟩
  | none =>
    if s.startsWith "/" then ⟨false, false, String.ofList (cs.takeWhile (!endsPath ·))⟩
    else ⟨false, true, "/"⟩

/-- How a client is set up. -/
structure Channel where
  /-- The base address, if one is set. -/
  origin : Option Origin := none
  /-- The limits of the client. -/
  limits : Limits := {}
  /-- The limits of the server. -/
  serverLimits : Limits := {}
  /-- The refusal of the guard before the server. -/
  refusal : Option String := none
  /-- Why the connection is not ready. -/
  notReady : Option String := none

/-- What a client says when its base address names a host but no scheme. -/
def schemeMissing : Panic :=
  .text "path_and_query only is valid Uri: InvalidUriParts(InvalidUri(SchemeMissing))"

/-- The path of a method below a base address. -/
def Channel.pathOf (c : Channel) (m : Method) : Except Panic String :=
  match c.origin with
  | none => .ok m.path
  | some o =>
    if o.hasHost && !o.hasScheme then .error schemeMissing
    else .ok (if o.path == "/" then m.path else o.path ++ m.path)

/-- Reads the answer in a response. -/
def readResponse {α : Type} (limits : Limits) (read : Bytes → Except Wire.Fault α) (r : Response) :
    Except Status α := do
  match Status.ofHeaders? r.headers with
  | some s => if s.code != .ok then throw s
  | none => pure ()
  let messages ←
    Frame.readAll .response limits.decode (fun b => (read b).mapError wireStatus) (r.body.length + 1) r.body
  match (r.trailers.getD []) |> Status.ofHeaders? with
  | some s => if s.code != .ok then throw s
  | none => pure ()
  match messages with
  | [] => throw ⟨.internal, "Missing response message."⟩
  | v :: _ => return v

/-- Makes a call: sends a message to a method and reads the answer. -/
def Channel.call {α : Type} (c : Channel) (w : World) (desk : Desk) (m : Method) (message : Bytes)
    (read : Bytes → Except Wire.Fault α) : Answered α :=
  match c.notReady with
  | some reason => .refused desk ⟨.unknown, "Service was not ready: " ++ reason⟩
  | none =>
    match c.pathOf m with
    | .error p => ⟨.error p, desk, [], []⟩
    | .ok path =>
      let broken := (c.limits.encode.filter (message.length > ·)).map (Frame.tooLongToSend message.length)
      let r : Request := { path := path, body := Frame.wrap message, broken := broken }
      let a := guarded c.refusal w c.serverLimits desk r
      ⟨a.result.map fun r => r.bind (readResponse c.limits read), a.desk, a.calls, a.notices⟩

/-- Asks for the newest phrases. -/
def Channel.getHistory (c : Channel) (w : World) (desk : Desk) : Answered (List Phrase) :=
  c.call w desk .getHistory historyRequest readHistory

/-- Asks for the rendering of a text. -/
def Channel.translate (c : Channel) (w : World) (desk : Desk) (q : Query) : Answered Phrase :=
  c.call w desk .translate (queryMessage q) readRendered

end Phrasebook.Grpc
