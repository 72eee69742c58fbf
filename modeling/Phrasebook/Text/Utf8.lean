/-!
# UTF-8

Requests, cache entries and broker payloads arrive as bytes, and not all of them are text. `Bytes` is a
list of bytes, `Text.encode` gives the bytes of a text, `Text.decode?` the text of bytes that are
well-formed UTF-8, and `Text.decodeLossy` a readable text for any bytes at all: every maximal part that
could have begun a character but did not finish one becomes one U+FFFD.

Main statement: `Text.decode?_encode`, a text is read back from its bytes.
-/

set_option autoImplicit false

namespace Phrasebook

/-- A sequence of bytes. -/
abbrev Bytes := List UInt8

namespace Text

/-- The UTF-8 bytes of a text. -/
def encode (s : String) : Bytes := s.toList.flatMap String.utf8EncodeChar

/-- The text whose UTF-8 bytes these are, if they are well-formed. -/
def decode? (b : Bytes) : Option String := String.fromUTF8? b.toByteArray

/-- **Reading back.** The bytes of a text are well-formed and give the text. -/
theorem decode?_encode (s : String) : decode? (encode s) = some s := by
  have hb : (encode s).toByteArray = s.toByteArray := by
    conv => rhs; rw [← String.ofList_toList (s := s), String.toByteArray_ofList]
    rfl
  simp only [decode?, hb, String.fromUTF8?, dif_pos s.isValidUTF8]
  rfl

/-- Texts with the same bytes are the same. -/
theorem encode_injective {s t : String} (h : encode s = encode t) : s = t := by
  have hread := decode?_encode s
  rw [h, decode?_encode, Option.some.injEq] at hread
  exact hread.symm

/-! ## Bytes that are no text -/

/-- How a byte can begin a character: the number of bytes that follow it, and the range of the first of
them. The ranges exclude overlong forms, surrogates and code points above U+10FFFF. -/
def lead? (b : UInt8) : Option (Nat × UInt8 × UInt8) :=
  if b < 0x80 then some (0, 0, 0)
  else if 0xC2 ≤ b && b ≤ 0xDF then some (1, 0x80, 0xBF)
  else if b == 0xE0 then some (2, 0xA0, 0xBF)
  else if b == 0xED then some (2, 0x80, 0x9F)
  else if 0xE1 ≤ b && b ≤ 0xEF then some (2, 0x80, 0xBF)
  else if b == 0xF0 then some (3, 0x90, 0xBF)
  else if 0xF1 ≤ b && b ≤ 0xF3 then some (3, 0x80, 0xBF)
  else if b == 0xF4 then some (3, 0x80, 0x8F)
  else none

/-- The length of the longest part of the bytes that begins as a character does, at least one for
nonempty input, and whether it is a whole character. -/
def step (b : UInt8) (rest : Bytes) : Nat × Bool :=
  match lead? b with
  | none => (1, false)
  | some (0, _, _) => (1, true)
  | some (n + 1, lo, hi) =>
    match rest with
    | [] => (1, false)
    | c :: more =>
      if c < lo || hi < c then (1, false)
      else
        let tail := (more.take n).takeWhile fun d => 0x80 ≤ d && d ≤ 0xBF
        (2 + tail.length, tail.length == n)

/-- Where bytes stop being text: the place of the first that begins no character or does not finish one,
and how many bytes are at fault, unless the bytes just end too early. -/
def fault? (b : Bytes) : Option (Nat × Option Nat) :=
  go b.length 0 b
where
  go : Nat → Nat → Bytes → Option (Nat × Option Nat)
    | 0, _, _ => none
    | _ + 1, _, [] => none
    | fuel + 1, place, c :: rest =>
      let (n, whole) := step c rest
      if whole then go fuel (place + n) ((c :: rest).drop n)
      else if (lead? c).isSome && n == rest.length + 1 then some (place, none)
      else some (place, some n)

/-- The wording of a fault. -/
def faultMessage : Nat × Option Nat → String
  | (place, some n) =>
    "invalid utf-8 sequence of " ++ toString n ++ " bytes from index " ++ toString place
  | (place, none) => "incomplete utf-8 byte sequence from index " ++ toString place

/-- A text for any bytes: each maximal beginning of a character that is not finished becomes U+FFFD. -/
def decodeLossy (b : Bytes) : String :=
  go b.length b ""
where
  go : Nat → Bytes → String → String
    | 0, _, acc => acc
    | _ + 1, [], acc => acc
    | fuel + 1, c :: rest, acc =>
      let (n, whole) := step c rest
      let piece := if whole then (decode? ((c :: rest).take n)).getD "\uFFFD" else "\uFFFD"
      go fuel ((c :: rest).drop n) (acc ++ piece)

end Text

end Phrasebook
