import Phrasebook.Desk
import Phrasebook.Grpc.Status
import Phrasebook.Grpc.Wire
/-!
# The two methods

What the service offers over gRPC: the newest phrases, and the rendering of a text. Each is one call to the
desk; a failed call becomes a status.
-/

set_option autoImplicit false

namespace Phrasebook.Grpc

/-- What is logged about a call. -/
inductive Notice where
  | cache (n : CacheNotice)
  | failed (e : ServiceError)

/-- The log line of a notice. -/
def Notice.line : Notice → LogLine
  | .cache n => n.line
  | .failed e => ⟨.error, "grpc: " ++ e.describe⟩

/-- The notices about a failure: those that are not the caller's own fault. -/
def failureNotices : ServiceError → List Notice
  | .validation _ | .notFound => []
  | e => [.failed e]

/-- A call that has ended. -/
structure Answered (α : Type) where
  /-- The answer or a status, unless the call broke down. -/
  result : Except Panic (Except Status α)
  /-- The desk afterwards. -/
  desk : Desk
  /-- The uses of facilities. -/
  calls : List FacilityUse := []
  /-- What was logged. -/
  notices : List Notice := []

/-- The same answer with its value changed. -/
def Answered.map {α β : Type} (f : α → β) (a : Answered α) : Answered β :=
  { a with result := a.result.map (Except.map f) }

/-- An answer that was given without asking the desk. -/
def Answered.refused {α : Type} (desk : Desk) (s : Status) : Answered α := ⟨.ok (.error s), desk, [], []⟩

/-- The answer for a call at the desk. -/
def answered {α : Type} (s : Served α) : Answered α :=
  let calls := facilityUses s.events
  let cache := (cacheNotices s.events).map Notice.cache
  match s.outcome with
  | .answer (.ok v) => ⟨.ok (.ok v), s.desk, calls, cache⟩
  | .answer (.error e) =>
    ⟨.ok (.error (Status.ofServiceError e)), s.desk, calls, cache ++ failureNotices e⟩
  | .broke p => ⟨.error p, s.desk, calls, cache⟩

/-- The newest phrases. -/
def getHistory (w : World) (desk : Desk) : Answered (List Phrase) :=
  (answered (desk.recall w)).map History.phrases

/-- The rendering of a text. -/
def translate (w : World) (desk : Desk) (q : Query) : Answered Phrase := answered (desk.render w q)

/-! ## Messages -/

/-- The message of a phrase. -/
def phraseMessage (p : Phrase) : Bytes := Wire.textFields 1 [p.source, p.target, p.text, p.rendering]

/-- Reads the message of a phrase. -/
def readPhrase (b : Bytes) : Except Wire.Fault Phrase :=
  (Wire.readTexts "TranslationRecord" ["source", "destination", "original", "translation"] b).map
    Phrase.ofFields

/-- The message of a query. -/
def queryMessage (q : Query) : Bytes := Wire.textFields 1 [q.source, q.target, q.text]

/-- Reads the message of a query. -/
def readQuery (b : Bytes) : Except Wire.Fault Query :=
  (Wire.readTexts "TranslateRequest" ["source", "destination", "original"] b).map Query.ofFields

/-- The message that asks for the newest phrases: it has no fields. -/
def historyRequest : Bytes := []

/-- Reads the message that asks for the newest phrases. -/
def readHistoryRequest (b : Bytes) : Except Wire.Fault Unit :=
  (Wire.readTexts "GetHistoryRequest" [] b).map fun _ => ()

/-- The message that lists phrases. -/
def historyMessage (phrases : List Phrase) : Bytes :=
  phrases.flatMap fun p => Wire.delimited 1 (phraseMessage p)

/-- Reads the message that lists phrases. -/
def readHistory (b : Bytes) : Except Wire.Fault (List Phrase) := do
  (← Wire.readNested "GetHistoryResponse" "history" b).mapM readPhrase

/-- The message that answers a query. -/
def renderedMessage (p : Phrase) : Bytes := Wire.delimited 1 (phraseMessage p)

/-- Reads the message that answers a query. -/
def readRendered (b : Bytes) : Except Wire.Fault Phrase := do
  let values ← Wire.readNested "TranslateResponse" "translation" b
  readPhrase values.flatten

end Phrasebook.Grpc
