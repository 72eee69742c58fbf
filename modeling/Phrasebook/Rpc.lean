import Phrasebook.Desk
/-!
# Calls from message brokers

A message names a handler and carries a payload; the reply has a status and a JSON body. The two brokers
share this dispatch and differ only in where they put handler and status.
-/

set_option autoImplicit false

namespace Phrasebook.Rpc

/-- The status of a reply. -/
inductive Status where
  | success
  | badHandler
  | badRequest
  | error
deriving DecidableEq, Inhabited

/-- The name of a status. -/
def Status.name : Status → String
  | .success => "success"
  | .badHandler => "bad_handler"
  | .badRequest => "bad_request"
  | .error => "error"

/-- All statuses. -/
def Status.all : List Status := [.success, .badHandler, .badRequest, .error]

/-- The reply to a message. -/
structure Reply where
  /-- How it went. -/
  status : Status
  /-- The JSON body. -/
  body : Bytes
deriving DecidableEq, Inhabited

/-- What is logged about a message. -/
inductive Notice where
  | cache (n : CacheNotice)
  | failed (handler : String) (e : ServiceError)
  | unknownHandler (handler : String)
deriving DecidableEq

/-- The log line of a notice. -/
def Notice.line : Notice → LogLine
  | .cache n => n.line
  | .failed handler e => ⟨.error, "rpc " ++ handler ++ " failed: " ++ e.describe⟩
  | .unknownHandler handler => ⟨.warn, "rpc unknown handler: " ++ Text.quoted handler⟩

/-- The handler that lists the newest phrases. -/
def historyHandler : String := "v1.getHistory"

/-- The handler that renders a text. -/
def translateHandler : String := "v1.translate"

/-- A reply that tells an error. -/
def errorReply (status : Status) (code message : String) : Reply :=
  ⟨status, Json.toBytes (.obj [("code", .str code), ("message", .str message)])⟩

/-- The reply for a failed call. -/
def failureReply (e : ServiceError) : Reply :=
  let status := match e with
    | .validation _ => Status.badRequest
    | _ => Status.error
  errorReply status e.code e.publicMessage

/-- A message that has been handled. -/
structure Handled where
  /-- The reply, unless the handling broke down. -/
  reply : Except Panic Reply
  /-- The desk afterwards. -/
  desk : Desk
  /-- The uses of facilities. -/
  calls : List FacilityUse := []
  /-- What was logged. -/
  notices : List Notice := []

/-- The reply for a call that has ended. -/
def handled {α : Type} (handler : String) (encode : α → Bytes) (s : Served α) : Handled :=
  let calls := facilityUses s.events
  let cache := (cacheNotices s.events).map Notice.cache
  match s.outcome with
  | .answer (.ok v) => ⟨.ok ⟨.success, encode v⟩, s.desk, calls, cache⟩
  | .answer (.error e) => ⟨.ok (failureReply e), s.desk, calls, cache ++ [.failed handler e]⟩
  | .broke p => ⟨.error p, s.desk, calls, cache⟩

/-- Handles a message. -/
def dispatch (w : World) (desk : Desk) (handler : String) (payload : Bytes) : Handled :=
  if handler == historyHandler then handled handler History.toBytes (desk.recall w)
  else if handler == translateHandler then
    match Query.ofBytes? payload with
    | .ok q => handled handler Phrase.toBytes (desk.render w q)
    | .error f =>
      let message := "invalid request body: " ++ f.message payload
      ⟨.ok (errorReply .badRequest "VALIDATION_ERROR" message), desk, [], []⟩
  else
    ⟨.ok (errorReply .badHandler "BAD_HANDLER" ("unknown handler: " ++ handler)), desk, [],
      [.unknownHandler handler]⟩

end Phrasebook.Rpc
