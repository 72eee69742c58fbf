import Phrasebook.Text.Utf8
/-!
# Hexadecimal digits

A byte is two digits, the high half first. Digits are written in lower case and read in either.
-/

set_option autoImplicit false

namespace Phrasebook.Text.Hex

/-- A digit in lower case. -/
def digit (n : Nat) : Char := Char.ofNat (if n < 10 then 0x30 + n else 0x57 + n)

/-- The value of a digit of either case. -/
def value? (c : Char) : Option Nat :=
  if '0' ≤ c && c ≤ '9' then some (c.toNat - 0x30)
  else if 'a' ≤ c && c ≤ 'f' then some (c.toNat - 0x57)
  else if 'A' ≤ c && c ≤ 'F' then some (c.toNat - 0x37)
  else none

/-- The value of a byte that is a digit. -/
def byteValue? (b : UInt8) : Option Nat := value? (Char.ofNat b.toNat)

/-- The digits of a number in a fixed width, the high ones first. -/
def digits : Nat → Nat → List Char
  | 0, _ => []
  | width + 1, n => digits width (n / 16) ++ [digit (n % 16)]

/-- The digits of bytes. -/
def encode (b : Bytes) : String := String.ofList (b.flatMap fun c => digits 2 c.toNat)

/-- The bytes that pairs of digits stand for. -/
def decode? : List Char → Option Bytes
  | [] => some []
  | a :: b :: rest => do
    let x ← value? a
    let y ← value? b
    return (x * 16 + y).toUInt8 :: (← decode? rest)
  | [_] => none

end Phrasebook.Text.Hex
