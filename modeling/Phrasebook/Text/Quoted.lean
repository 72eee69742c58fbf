import Phrasebook.Text.Hidden
/-!
# Quoted text

Settings, handler names and panics are shown between double quotes. A quote and a backslash get a
backslash, the usual controls a letter, and a character without a visible form is spelled by its code
point, as in `\u` with braces around lower-case hexadecimal digits.
-/

set_option autoImplicit false

namespace Phrasebook.Text

/-- The lower-case hexadecimal digits of a number, without leading zeros. -/
def hex (n : Nat) : String := String.ofList (Nat.toDigits 16 n)

/-- What a character becomes between quotes. -/
def quotedChar (c : Char) : String :=
  if c == '\x00' then "\\0"
  else if c == '\t' then "\\t"
  else if c == '\n' then "\\n"
  else if c == '\r' then "\\r"
  else if c == '"' then "\\\""
  else if c == '\\' then "\\\\"
  else if isHidden c then "\\u\x7b" ++ hex c.toNat ++ "\x7d"
  else String.ofList [c]

/-- The text between quotes. -/
def quoted (s : String) : String := "\"" ++ String.join (s.toList.map quotedChar) ++ "\""

end Phrasebook.Text
