import Phrasebook.Json.Value
import Phrasebook.Decimal.Layout
import Phrasebook.Text.Hex
/-!
# Writing JSON

Compact JSON: no white space between tokens, members in the order of the value. In a string the quote, the
backslash and the controls below U+0020 are escaped, and nothing else.
-/

set_option autoImplicit false

namespace Phrasebook.Json

/-- What a character becomes in a string. -/
def escapeChar (c : Char) : List Char :=
  if c == '"' then ['\\', '"']
  else if c == '\\' then ['\\', '\\']
  else if c.toNat < 0x20 then
    if c == '\x08' then ['\\', 'b']
    else if c == '\t' then ['\\', 't']
    else if c == '\n' then ['\\', 'n']
    else if c == '\x0c' then ['\\', 'f']
    else if c == '\r' then ['\\', 'r']
    else '\\' :: 'u' :: Text.Hex.digits 4 c.toNat
  else [c]

/-- A JSON string. -/
def quote (s : String) : String :=
  String.ofList ('"' :: s.toList.flatMap escapeChar ++ ['"'])

/-- A JSON number. A number that JSON cannot express is null. -/
def Number.render : Number → String
  | .nat n => toString n
  | .neg i => toString i
  | .float x => if x.isNaN || x.isInf then "null" else Decimal.Layout.json.render x

mutual

/-- The compact text of a value. -/
def render : Json → String
  | .null => "null"
  | .bool b => if b then "true" else "false"
  | .num n => n.render
  | .str s => quote s
  | .arr items => "[" ++ renderItems items ++ "]"
  | .obj members => "\x7b" ++ renderMembers members ++ "\x7d"

/-- The texts of values, with commas between them. -/
def renderItems : List Json → String
  | [] => ""
  | [v] => render v
  | v :: w :: rest => render v ++ "," ++ renderItems (w :: rest)

/-- The texts of members, with commas between them. -/
def renderMembers : List (String × Json) → String
  | [] => ""
  | [(k, v)] => quote k ++ ":" ++ render v
  | (k, v) :: m :: rest => quote k ++ ":" ++ render v ++ "," ++ renderMembers (m :: rest)

end

/-- What a character becomes where only ASCII may stand: its UTF-16 code units as escapes. -/
def asciiChar (c : Char) : List Char :=
  let unit (n : Nat) : List Char := '\\' :: 'u' :: Text.Hex.digits 4 n
  let n := c.toNat
  if n < 0x80 then [c]
  else if n < 0x10000 then unit n
  else unit (0xD800 + (n - 0x10000) / 0x400) ++ unit (0xDC00 + (n - 0x10000) % 0x400)

/-- The compact text of a value in ASCII alone. -/
def renderAscii (j : Json) : String := String.ofList (j.render.toList.flatMap asciiChar)

/-- The bytes of the compact text of a value. -/
def toBytes (j : Json) : Bytes := Text.encode j.render

end Phrasebook.Json
