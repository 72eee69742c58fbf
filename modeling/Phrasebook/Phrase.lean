import Phrasebook.Json.Record
import Phrasebook.Json.Printer
import Phrasebook.ServiceError
import Phrasebook.Text.Blank
/-!
# Phrases, queries and histories

A `Phrase` is a text with its rendering in another language, a `Query` asks for one, and a `History` lists
phrases. All three have a JSON form, which the cache, the HTTP bodies and the broker payloads share.
-/

set_option autoImplicit false

namespace Phrasebook

/-- A text in one language with its rendering in another. -/
structure Phrase where
  /-- The language of the text. -/
  source : String
  /-- The language of the rendering. -/
  target : String
  /-- The text. -/
  text : String
  /-- The text in the target language. -/
  rendering : String
deriving DecidableEq, Inhabited, Repr

/-- A question for a rendering. -/
structure Query where
  /-- The language of the text. -/
  source : String
  /-- The language wanted. -/
  target : String
  /-- The text. -/
  text : String
deriving DecidableEq, Inhabited, Repr

/-- Phrases in the order in which they are shown. -/
structure History where
  /-- The phrases. -/
  phrases : List Phrase := []
deriving DecidableEq, Inhabited, Repr

namespace Query

/-- The longest text, in characters. -/
def maxLength : Nat := 1000

/-- A query needs both languages and a text, none of them blank, and the text has a greatest length. -/
def validate (q : Query) : Except ServiceError Unit :=
  if Text.isBlankText q.source then .error (.validation "source is required")
  else if Text.isBlankText q.target then .error (.validation "destination is required")
  else if Text.isBlankText q.text then .error (.validation "original is required")
  else if q.text.length > maxLength then
    .error (.validation ("original must be at most " ++ toString maxLength ++ " characters"))
  else .ok ()

/-- The phrase that answers a query with a rendering. -/
def phrase (q : Query) (rendering : String) : Phrase := ⟨q.source, q.target, q.text, rendering⟩

/-- The JSON form. -/
def toJson (q : Query) : Json :=
  .obj [("source", .str q.source), ("destination", .str q.target), ("original", .str q.text)]

/-- How the JSON form is read. -/
def recordType : Json.RecordType := ⟨"TranslateRequest", ["source", "destination", "original"]⟩

/-- The values of the fields. -/
def fields (q : Query) : List String := [q.source, q.target, q.text]

/-- The query with these field values. -/
def ofFields : List String → Query
  | [source, target, text] => ⟨source, target, text⟩
  | _ => default

/-- Reads the JSON form. -/
def read : Json.Reader Query := fun b => do
  let (fields, rest) ← Json.readRecord recordType Json.readText b
  return (ofFields fields, rest)

/-- Reads a text that is the JSON form of a query. -/
def ofBytes? (b : Bytes) : Except Json.Fault Query := Json.readAll read b

/-- The compact JSON form in bytes. -/
def toBytes (q : Query) : Bytes := q.toJson.toBytes

end Query

namespace Phrase

/-- The JSON form. -/
def toJson (p : Phrase) : Json :=
  .obj [("source", .str p.source), ("destination", .str p.target), ("original", .str p.text),
    ("translation", .str p.rendering)]

/-- How the JSON form is read. -/
def recordType : Json.RecordType :=
  ⟨"Translation", ["source", "destination", "original", "translation"]⟩

/-- The values of the fields. -/
def fields (p : Phrase) : List String := [p.source, p.target, p.text, p.rendering]

/-- The phrase with these field values. -/
def ofFields : List String → Phrase
  | [source, target, text, rendering] => ⟨source, target, text, rendering⟩
  | _ => default

/-- Reads the JSON form. -/
def read : Json.Reader Phrase := fun b => do
  let (fields, rest) ← Json.readRecord recordType Json.readText b
  return (ofFields fields, rest)

/-- Reads a text that is the JSON form of a phrase. -/
def ofBytes? (b : Bytes) : Except Json.Fault Phrase := Json.readAll read b

/-- The compact JSON form in bytes. -/
def toBytes (p : Phrase) : Bytes := p.toJson.toBytes

end Phrase

namespace History

/-- The JSON form. -/
def toJson (h : History) : Json := .obj [("history", .arr (h.phrases.map Phrase.toJson))]

/-- How the JSON form is read. -/
def recordType : Json.RecordType := ⟨"TranslationHistory", ["history"]⟩

/-- Reads the JSON form. -/
def read : Json.Reader History := fun b => do
  let (fields, rest) ← Json.readRecord recordType (Json.readList Phrase.read) b
  return (⟨fields.headD []⟩, rest)

/-- Reads a text that is the JSON form of a history. -/
def ofBytes? (b : Bytes) : Except Json.Fault History := Json.readAll read b

/-- The compact JSON form in bytes. -/
def toBytes (h : History) : Bytes := h.toJson.toBytes

end History

end Phrasebook
