import Phrasebook.Json.Value
import Phrasebook.Text.Utf8
import Phrasebook.Text.Quoted
import Phrasebook.Decimal.Layout
/-!
# What can be wrong with a JSON text

A `Fault` has a reason and a place. The place is kept as the number of bytes that were left when the fault
was found, so that no reader has to carry a position; `Fault.message` computes line and column from it.
A reason is either about the text being no JSON (`Reason.isData` is false) or about the JSON being no
value of the wanted type.
-/

set_option autoImplicit false

namespace Phrasebook.Json

/-- What stands where something else was wanted. -/
inductive Found where
  | null
  | bool (b : Bool)
  | num (n : Number)
  | str (s : String)
  | sequence
  | map

/-- How the thing found is described. -/
def Found.describe : Found → String
  | .null => "null"
  | .bool b => "boolean `" ++ (if b then "true" else "false") ++ "`"
  | .num (.nat n) => "integer `" ++ toString n ++ "`"
  | .num (.neg i) => "integer `" ++ toString i ++ "`"
  | .num (.float x) => "floating point `" ++ Decimal.Layout.json.render x ++ "`"
  | .str s => "string " ++ Text.quoted s
  | .sequence => "sequence"
  | .map => "map"

/-- Why a JSON text was refused. -/
inductive Reason where
  | endInList
  | endInObject
  | endInString
  | endInValue
  | colonExpected
  | listCommaOrEndExpected
  | objectCommaOrEndExpected
  | wordExpected
  | valueExpected
  | invalidEscape
  | invalidNumber
  | numberOutOfRange
  | invalidCodePoint
  | controlCharacter
  | keyNotString
  | loneSurrogate
  | trailingComma
  | trailingCharacters
  | unfinishedHexEscape
  | tooDeep
  | wrongType (found : Found) (expected : String)
  | wrongLength (length : Nat) (expected : String)
  | missingField (name : String)
  | duplicateField (name : String)

/-- Whether the text is JSON so far, but not of the wanted type. -/
def Reason.isData : Reason → Bool
  | .wrongType .. | .wrongLength .. | .missingField _ | .duplicateField _ => true
  | _ => false

/-- The wording of a reason. -/
def Reason.text : Reason → String
  | .endInList => "EOF while parsing a list"
  | .endInObject => "EOF while parsing an object"
  | .endInString => "EOF while parsing a string"
  | .endInValue => "EOF while parsing a value"
  | .colonExpected => "expected `:`"
  | .listCommaOrEndExpected => "expected `,` or `]`"
  | .objectCommaOrEndExpected => "expected `,` or `\x7d`"
  | .wordExpected => "expected ident"
  | .valueExpected => "expected value"
  | .invalidEscape => "invalid escape"
  | .invalidNumber => "invalid number"
  | .numberOutOfRange => "number out of range"
  | .invalidCodePoint => "invalid unicode code point"
  | .controlCharacter => "control character (\\u0000-\\u001F) found while parsing a string"
  | .keyNotString => "key must be a string"
  | .loneSurrogate => "lone leading surrogate in hex escape"
  | .trailingComma => "trailing comma"
  | .trailingCharacters => "trailing characters"
  | .unfinishedHexEscape => "unexpected end of hex escape"
  | .tooDeep => "recursion limit exceeded"
  | .wrongType found expected => "invalid type: " ++ found.describe ++ ", expected " ++ expected
  | .wrongLength n expected => "invalid length " ++ toString n ++ ", expected " ++ expected
  | .missingField name => "missing field `" ++ name ++ "`"
  | .duplicateField name => "duplicate field `" ++ name ++ "`"

/-- A step from a value to one of its parts. -/
inductive Step where
  | key (name : String)
  | index (i : Nat)

/-- A reason with its place. -/
structure Fault where
  /-- What is wrong. -/
  reason : Reason
  /-- How many bytes of the text were left. -/
  left : Nat
  /-- Whether the next byte is what is wrong, so that the place is after it. -/
  atNext : Bool := false
  /-- The part in whose value the fault lies, from the outside in. -/
  path : List Step := []

/-- Line and column of a fault in a text: lines from one, columns in bytes since the last line feed. -/
def Fault.position (f : Fault) (text : Bytes) : Nat × Nat :=
  let index := text.length - f.left
  let seen := text.take (if f.atNext then index + 1 else index)
  let column := (seen.reverse.takeWhile (· != 0x0A)).length
  (seen.count 0x0A + 1, column)

/-- The message for a fault in a text. -/
def Fault.message (f : Fault) (text : Bytes) : String :=
  let (line, column) := f.position text
  f.reason.text ++ " at line " ++ toString line ++ " column " ++ toString column

/-- The path to a part, written with dots and bracketed indices; empty for the whole value. -/
def Step.pathText (path : List Step) : String :=
  path.foldl
    (fun acc s => match s with
      | .key name => if acc.isEmpty then name else acc ++ "." ++ name
      | .index i => acc ++ "[" ++ toString i ++ "]")
    ""

end Phrasebook.Json
