import Phrasebook.Text.Hex
/-!
# Percent encoding

A byte that may not stand for itself is written as a percent sign and two hexadecimal digits. Which bytes
may stand for themselves depends on the place; the percent sign never does where decoding is to give back
what was encoded.
-/

set_option autoImplicit false

namespace Phrasebook.Text.Percent

/-- An upper-case hexadecimal digit. -/
def digit (n : Nat) : UInt8 := if n < 10 then (0x30 + n).toUInt8 else (0x37 + n).toUInt8

/-- The escape of a byte. -/
def escape (b : UInt8) : Bytes := [0x25, digit (b.toNat / 16), digit (b.toNat % 16)]

/-- Escapes the bytes that `plain` does not let stand. -/
def encode (plain : UInt8 → Bool) (b : Bytes) : Bytes :=
  b.flatMap fun c => if plain c then [c] else escape c

/-- Replaces escapes by their bytes. A percent sign that begins no escape stands for itself. -/
def decode : Bytes → Bytes
  | [] => []
  | 0x25 :: a :: b :: rest =>
    match Hex.byteValue? a, Hex.byteValue? b with
    | some x, some y => (x * 16 + y).toUInt8 :: decode rest
    | _, _ => 0x25 :: decode (a :: b :: rest)
  | c :: rest => c :: decode rest
termination_by b => b.length

end Phrasebook.Text.Percent
