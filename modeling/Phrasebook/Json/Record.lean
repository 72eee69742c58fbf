import Phrasebook.Json.Reader
/-!
# Reading values of a known type

A record has a fixed list of fields with values of one type. It is written as an object, or as an array
with the values in field order. Members with other names are skipped: their values are checked for form
but not kept, to any depth, and the text of their strings is not looked at. A field may stand once, in any
place, and has to be there.

Faults that concern the record as a whole (a field missing or repeated, an array too short) are placed
after its closing bracket if that follows, else before what stands in its place.
-/

set_option autoImplicit false

namespace Phrasebook.Json

/-! ## Skipping values -/

/-- Skips a string whose opening quote has been read. -/
def skipString : Bytes → Except Fault Bytes
  | [] => failAt .endInString []
  | 0x22 :: rest => .ok rest
  | 0x5C :: [] => failAt .endInString []
  | 0x5C :: 0x75 :: h₁ :: h₂ :: h₃ :: h₄ :: rest =>
    match hexValues? h₁ h₂ h₃ h₄ with
    | some _ => skipString rest
    | none => failAt .invalidEscape rest
  | 0x5C :: 0x75 :: _ => failAt .endInString []
  | 0x5C :: e :: rest =>
    match shortEscape? e with
    | some _ => skipString rest
    | none => failAt .invalidEscape rest
  | c :: rest => if c < 0x20 then failAt .controlCharacter (c :: rest) else skipString rest

/-- Skips an exponent after its letter. -/
def skipExponent (b : Bytes) : Except Fault Bytes :=
  let b := match b with
    | 0x2B :: rest => rest
    | 0x2D :: rest => rest
    | _ => b
  match b with
  | [] => failAt .invalidNumber []
  | c :: rest => if isDigit c then .ok (rest.dropWhile isDigit) else failAt .invalidNumber rest

/-- Skips an exponent if one follows. -/
def skipExponent? (b : Bytes) : Except Fault Bytes :=
  match b with
  | c :: rest => if c == 0x65 || c == 0x45 then skipExponent rest else .ok b
  | [] => .ok []

/-- Skips what may follow the integer part of a number. -/
def skipFraction? (b : Bytes) : Except Fault Bytes :=
  match b with
  | 0x2E :: rest =>
    match rest with
    | [] => failIn .invalidNumber []
    | c :: more =>
      if isDigit c then skipExponent? (more.dropWhile isDigit) else failIn .invalidNumber rest
  | _ => skipExponent? b

/-- Skips a number whose sign has been read. -/
def skipNumber (b : Bytes) : Except Fault Bytes :=
  match b with
  | [] => failAt .invalidNumber []
  | c :: rest =>
    if c == 0x30 then
      match rest with
      | d :: _ => if isDigit d then failIn .invalidNumber rest else skipFraction? rest
      | [] => .ok []
    else if isDigit c then skipFraction? (rest.dropWhile isDigit)
    else failAt .invalidNumber rest

/-- An array or an object that has been opened. -/
inductive Open where
  | list
  | object
deriving DecidableEq

/-- The byte that closes it. -/
def Open.closer : Open → UInt8
  | .list => 0x5D
  | .object => 0x7D

/-- The fault when the text ends inside it. -/
def Open.endReason : Open → Reason
  | .list => .endInList
  | .object => .endInObject

/-- The fault when something other than a comma or the closer follows an element. -/
def Open.separatorReason : Open → Reason
  | .list => .listCommaOrEndExpected
  | .object => .objectCommaOrEndExpected

/-- Skips a key and its colon. -/
def skipKey (b : Bytes) : Except Fault Bytes :=
  match skipSpace b with
  | [] => failIn .endInObject []
  | c :: rest =>
    if c == 0x22 then do
      let rest ← skipString rest
      colon rest
    else failIn .keyNotString (c :: rest)

/-- Where skipping stands between two values. -/
inductive Between where
  /-- A value begins here, inside these arrays and objects, innermost first. -/
  | value (rest : Bytes) (opened : List Open)
  /-- Everything that was opened is closed. -/
  | done (rest : Bytes)

/-- Goes on to the next value inside what is open. `comma` tells whether a comma may follow here. -/
def skipToValue : Bytes → List Open → Bool → Except Fault Between
  | b, [], _ => .ok (.done b)
  | [], o :: _, _ => failIn o.endReason []
  | c :: rest, o :: outer, comma =>
    if isSpace c then skipToValue rest (o :: outer) comma
    else if comma && c == 0x2C then
      match o with
      | .list => .ok (.value rest (o :: outer))
      | .object => (skipKey rest).map (.value · (o :: outer))
    else if c == o.closer then skipToValue rest outer true
    else if comma then failIn o.separatorReason (c :: rest)
    else
      match o with
      | .list => .ok (.value (c :: rest) (o :: outer))
      | .object => (skipKey (c :: rest)).map (.value · (o :: outer))

/-- Skips a scalar, or opens an array or an object. -/
def skipOne (b : Bytes) : Except Fault (Bytes × Option Open) :=
  match skipSpace b with
  | [] => failIn .endInValue []
  | c :: rest =>
    if c == 0x6E then (word nullTail rest).map (·, none)
    else if c == 0x74 then (word trueTail rest).map (·, none)
    else if c == 0x66 then (word falseTail rest).map (·, none)
    else if c == 0x2D then (skipNumber rest).map (·, none)
    else if isDigit c then (skipNumber (c :: rest)).map (·, none)
    else if c == 0x22 then (skipString rest).map (·, none)
    else if c == 0x5B then .ok (rest, some .list)
    else if c == 0x7B then .ok (rest, some .object)
    else failIn .valueExpected (c :: rest)

/-- Skips values until nothing is open. Every round takes at least one byte. -/
def skipOpen : Nat → Bytes → List Open → Except Fault Bytes
  | 0, b, _ => failIn .valueExpected b
  | fuel + 1, b, opened => do
    let (rest, opens) ← skipOne b
    let next ← match opens with
      | some o => skipToValue rest (o :: opened) false
      | none => skipToValue rest opened true
    match next with
    | .value rest opened => skipOpen fuel rest opened
    | .done rest => return rest

/-- Skips one value. -/
def skipValue (b : Bytes) : Except Fault Bytes := skipOpen (b.length + 1) b []

/-! ## Values of the wrong type -/

/-- The fault for a value that begins here and is not `expected`. A scalar is read first, so that the
fault lies after it. -/
def wrongType {α : Type} (expected : String) (b : Bytes) : Except Fault α :=
  match b with
  | c :: _ =>
    if c == 0x5B then failAt (.wrongType .sequence expected) b
    else if c == 0x7B then failAt (.wrongType .map expected) b
    else do
      match ← scalar? b with
      | some (.null, rest) => failAt (.wrongType .null expected) rest
      | some (.bool x, rest) => failAt (.wrongType (.bool x) expected) rest
      | some (.num n, rest) => failAt (.wrongType (.num n) expected) rest
      | some (.str s, rest) => failAt (.wrongType (.str s) expected) rest
      | _ => failIn .valueExpected b
  | [] => failIn .endInValue []

/-! ## Texts, lists, records -/

/-- A reader for values of one type. -/
abbrev Reader (α : Type) := Bytes → Except Fault (α × Bytes)

/-- Reads a string. -/
def readText : Reader String := fun b =>
  match skipSpace b with
  | [] => failIn .endInValue []
  | c :: rest => if c == 0x22 then string rest else wrongType "a string" (c :: rest)

/-- Says in which part of a value a fault lies. -/
def within {α : Type} (s : Step) (r : Except Fault α) : Except Fault α :=
  r.mapError fun f => { f with path := s :: f.path }

/-- Reads the items of a list after its bracket. -/
def listItems {α : Type} (item : Reader α) : Nat → List α → Bytes → Except Fault (List α × Bytes)
  | 0, _, b => failIn .endInList b
  | fuel + 1, seen, b => do
    match ← nextItem seen.isEmpty b with
    | .close rest => return (seen.reverse, rest)
    | .more rest =>
      let (v, rest) ← within (.index seen.length) (item rest)
      listItems item fuel (v :: seen) rest

/-- Reads a list. -/
def readList {α : Type} (item : Reader α) : Reader (List α) := fun b =>
  match skipSpace b with
  | [] => failIn .endInValue []
  | c :: rest =>
    if c == 0x5B then do
      let (items, rest) ← listItems item (rest.length + 1) [] rest
      return (items, ← listEnd rest)
    else wrongType "a sequence" (c :: rest)

/-- The type of a record: its name and its fields. -/
structure RecordType where
  /-- The name, for messages. -/
  name : String
  /-- The names of the fields, in order. -/
  fields : List String

/-- How a record type is named in messages. -/
def RecordType.describe (t : RecordType) : String := "struct " ++ t.name

/-- The place of a fault that concerns a whole object, found before the bytes `b`. -/
def objectFault {α : Type} (reason : Reason) (b : Bytes) : Except Fault α :=
  match skipSpace b with
  | 0x7D :: rest => failAt reason rest
  | rest => failAt reason rest

/-- The place of a fault that concerns a whole array, found before the bytes `b`. -/
def listFault {α : Type} (reason : Reason) (b : Bytes) : Except Fault α :=
  match skipSpace b with
  | 0x5D :: rest => failAt reason rest
  | 0x2C :: rest => failAt reason (skipSpace rest)
  | rest => failAt reason rest

/-- The values of the fields in order, or the first field that has none. -/
def collect {α : Type} (fields : List String) (found : List (String × α)) : Except String (List α) :=
  fields.mapM fun f =>
    match found.lookup f with
    | some v => .ok v
    | none => .error f

/-- Reads the members of a record after its brace. -/
def recordMembers {α : Type} (t : RecordType) (item : Reader α) :
    Nat → Bool → List (String × α) → Bytes → Except Fault (List α × Bytes)
  | 0, _, _, b => failIn .endInObject b
  | fuel + 1, first, found, b => do
    match ← nextKey first b with
    | .close rest =>
      match collect t.fields found with
      | .ok values => return (values, rest)
      | .error name => objectFault (.missingField name) rest
    | .more rest =>
      let (key, rest) ← string (rest.drop 1)
      if t.fields.contains key then
        if (found.lookup key).isSome then objectFault (.duplicateField key) rest
        else
          let rest ← colon rest
          let (v, rest) ← within (.key key) (item rest)
          recordMembers t item fuel false ((key, v) :: found) rest
      else
        let rest ← colon rest
        let rest ← within (.key key) (skipValue rest)
        recordMembers t item fuel false found rest

/-- Reads the values of a record after the bracket of an array; `left` are the fields still to come. -/
def recordItems {α : Type} (t : RecordType) (item : Reader α) :
    List String → List α → Bytes → Except Fault (List α × Bytes)
  | [], seen, b => .ok (seen.reverse, b)
  | _ :: left, seen, b => do
    match ← nextItem seen.isEmpty b with
    | .close rest =>
      let elements := if t.fields.length == 1 then " with 1 element" else
        " with " ++ toString t.fields.length ++ " elements"
      listFault (.wrongLength seen.length (t.describe ++ elements)) rest
    | .more rest =>
      let (v, rest) ← within (.index seen.length) (item rest)
      recordItems t item left (v :: seen) rest

/-- Reads a record: the values of its fields, in field order. -/
def readRecord {α : Type} (t : RecordType) (item : Reader α) : Reader (List α) := fun b =>
  match skipSpace b with
  | [] => failIn .endInValue []
  | c :: rest =>
    if c == 0x7B then do
      let (values, rest) ← recordMembers t item (rest.length + 1) true [] rest
      return (values, ← objectEnd rest)
    else if c == 0x5B then do
      let (values, rest) ← recordItems t item t.fields [] rest
      return (values, ← listEnd rest)
    else wrongType t.describe (c :: rest)

/-- Reads a text that is one value. -/
def readAll {α : Type} (item : Reader α) (text : Bytes) : Except Fault α := do
  let (v, rest) ← item text
  textEnd rest
  return v

end Phrasebook.Json
