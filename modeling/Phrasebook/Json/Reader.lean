import Phrasebook.Json.Fault
import Phrasebook.Text.Hex
/-!
# Reading JSON

The readers take the bytes that are left and give a value with the bytes after it, or a `Fault`. Strings
and numbers are read in one place each; `Json.ofBytes?` reads a whole text as a value of any type. The
readers for values of a known type are in `Record`.

Two rules differ from a plain reading of the grammar. A number that is no 64-bit integer becomes a float
from at most nineteen or twenty significant digits, scaled by one power of ten; and arrays and objects
nest at most 127 deep when the value is kept.
-/

set_option autoImplicit false

namespace Phrasebook.Json

/-- A result of reading: a value and the bytes after it. -/
abbrev Read (α : Type) := Except Fault (α × Bytes)

/-- A fault that lies before the bytes `rest`. -/
def failAt {α : Type} (reason : Reason) (rest : Bytes) : Except Fault α :=
  .error ⟨reason, rest.length, false, []⟩

/-- A fault in the first of the bytes `rest`. -/
def failIn {α : Type} (reason : Reason) (rest : Bytes) : Except Fault α :=
  .error ⟨reason, rest.length, true, []⟩

/-- Space, tab, line feed and carriage return may stand between tokens. -/
def isSpace (b : UInt8) : Bool := b == 0x20 || b == 0x09 || b == 0x0A || b == 0x0D

/-- The bytes after leading white space. -/
def skipSpace (b : Bytes) : Bytes := b.dropWhile isSpace

/-- Whether the byte is a decimal digit. -/
def isDigit (b : UInt8) : Bool := 0x30 ≤ b && b ≤ 0x39

/-- The value of a decimal digit. -/
def digitValue (b : UInt8) : Nat := b.toNat - 0x30

/-! ## Words -/

/-- Reads the rest of a word whose first letter is known. -/
def word (letters : List UInt8) (b : Bytes) : Except Fault Bytes :=
  match letters, b with
  | [], rest => .ok rest
  | _ :: _, [] => failAt .endInValue []
  | l :: more, c :: rest => if c == l then word more rest else failAt .wordExpected rest

/-- The letters of `null` after the first. -/
def nullTail : List UInt8 := [0x75, 0x6C, 0x6C]

/-- The letters of `true` after the first. -/
def trueTail : List UInt8 := [0x72, 0x75, 0x65]

/-- The letters of `false` after the first. -/
def falseTail : List UInt8 := [0x61, 0x6C, 0x73, 0x65]

/-! ## Strings -/

/-- The value of four hexadecimal digits. -/
def hexValues? (a b c d : UInt8) : Option Nat :=
  match [a, b, c, d].mapM Text.Hex.byteValue? with
  | some ds => some (ds.foldl (fun n d => n * 16 + d) 0)
  | none => none

/-- Whether a code unit is the first of a surrogate pair. -/
def isHighSurrogate (n : Nat) : Bool := 0xD800 ≤ n && n ≤ 0xDBFF

/-- Whether a code unit is the second of a surrogate pair. -/
def isLowSurrogate (n : Nat) : Bool := 0xDC00 ≤ n && n ≤ 0xDFFF

/-- The bytes of a code point. -/
def codePoint (n : Nat) : Bytes := String.utf8EncodeChar (Char.ofNat n)

/-- The byte that a one-letter escape stands for. -/
def shortEscape? (b : UInt8) : Option UInt8 :=
  match b with
  | 0x22 => some 0x22
  | 0x5C => some 0x5C
  | 0x2F => some 0x2F
  | 0x62 => some 0x08
  | 0x66 => some 0x0C
  | 0x6E => some 0x0A
  | 0x72 => some 0x0D
  | 0x74 => some 0x09
  | _ => none

/-- Reads a string whose opening quote has been read. The bytes so far are kept in reverse. -/
def stringTail : Bytes → Bytes → Read String
  | seen, b =>
    match b with
    | [] => failAt .endInString []
    | 0x22 :: rest =>
      match Text.decode? seen.reverse with
      | some s => .ok (s, rest)
      | none => failAt .invalidCodePoint rest
    | 0x5C :: [] => failAt .endInString []
    | 0x5C :: 0x75 :: h₁ :: h₂ :: h₃ :: h₄ :: rest =>
      match hexValues? h₁ h₂ h₃ h₄ with
      | none => failAt .invalidEscape rest
      | some n =>
        -- the second half of a pair stands only behind the first, where it is read together with it
        if isLowSurrogate n then failAt .loneSurrogate rest
        else if isHighSurrogate n then
          match rest with
          | [] => failAt .endInString []
          | 0x5C :: [] => failAt .endInString []
          | 0x5C :: 0x75 :: l₁ :: l₂ :: l₃ :: l₄ :: rest' =>
            match hexValues? l₁ l₂ l₃ l₄ with
            | none => failAt .invalidEscape rest'
            | some m =>
              if isLowSurrogate m then
                stringTail
                  ((codePoint (0x10000 + (n - 0xD800) * 0x400 + (m - 0xDC00))).reverse ++ seen) rest'
              else failAt .loneSurrogate rest'
          | 0x5C :: 0x75 :: _ => failAt .endInString []
          | 0x5C :: _ :: rest' => failAt .unfinishedHexEscape rest'
          | _ :: rest' => failAt .unfinishedHexEscape rest'
        else stringTail ((codePoint n).reverse ++ seen) rest
    | 0x5C :: 0x75 :: _ => failAt .endInString []
    | 0x5C :: e :: rest =>
      match shortEscape? e with
      | some c => stringTail (c :: seen) rest
      | none => failAt .invalidEscape rest
    | c :: rest => if c < 0x20 then failAt .controlCharacter rest else stringTail (c :: seen) rest
termination_by structural _ b => b

/-- The bytes after the first byte of a string that belongs to no character. Escapes are ASCII, so they
need no care. -/
def afterInvalid : Nat → Bytes → Bytes
  | 0, b => b
  | _ + 1, [] => []
  | fuel + 1, c :: rest =>
    let (n, whole) := Text.step c rest
    if whole then afterInvalid fuel (rest.drop (n - 1)) else rest

/-- Reads a string whose opening quote has been read. Bytes that are no text are a fault after the first
of them. -/
def string (b : Bytes) : Read String :=
  match stringTail [] b with
  | .error ⟨.invalidCodePoint, _, _, _⟩ => failAt .invalidCodePoint (afterInvalid b.length b)
  | r => r

/-! ## Numbers -/

/-- The largest natural number that is read as an integer. -/
def maxNat : Nat := Nat.pow 2 64 - 1

/-- The largest exponent that is read; a larger one counts as infinite. -/
def maxExponent : Int := Nat.pow 2 31 - 1

/-- A power of ten as a float. -/
def tenTo (n : Nat) : Float := Float.ofScientific 1 false n

/-- Divides by ten often enough for an exponent below -308, as long as anything is left. -/
def scaleDown : Nat → Float → Nat → Float
  | 0, f, _ => f
  | fuel + 1, f, e =>
    if e ≤ 308 then f / tenTo e
    else if f == 0 then f
    else scaleDown fuel (f / tenTo 308) (e - 308)

/-- The float `± significand · 10^exp`, unless it is too large. -/
def scaled? (positive : Bool) (significand : Nat) (exp : Int) : Option Float :=
  let f := Float.ofNat significand
  let r : Option Float :=
    if exp ≥ 0 then
      if exp ≤ 308 then
        let g := f * tenTo exp.toNat
        if g.isInf then none else some g
      else if f == 0 then some f
      else none
    else some (scaleDown (exp.natAbs / 308 + 1) f exp.natAbs)
  r.map fun g => if positive then g else -g

/-- Reads decimal digits into a number as long as it stays at most `limit`; gives the number, how many
digits went into it, and the bytes left, which begin with a digit if the limit stopped the reading. -/
def digitsUpTo (limit : Nat) : Nat → Nat → Bytes → Nat × Nat × Bytes
  | n, count, c :: rest =>
    if isDigit c && n * 10 + digitValue c ≤ limit then
      digitsUpTo limit (n * 10 + digitValue c) (count + 1) rest
    else (n, count, c :: rest)
  | n, count, [] => (n, count, [])

/-- Ends a float. -/
def floatEnd (positive : Bool) (significand : Nat) (exp : Int) (rest : Bytes) : Read Number :=
  match scaled? positive significand exp with
  | some x => .ok (.float x, rest)
  | none => failAt .numberOutOfRange rest

/-- Reads the exponent after its letter. -/
def exponent (positive : Bool) (significand : Nat) (start : Int) (b : Bytes) : Read Number :=
  let (expPositive, b) := match b with
    | 0x2B :: rest => (true, rest)
    | 0x2D :: rest => (false, rest)
    | _ => (true, b)
  match b with
  | [] => failAt .endInValue []
  | c :: rest =>
    if !isDigit c then failAt .invalidNumber rest
    else
      let (e, _, rest') := digitsUpTo maxExponent.toNat (digitValue c) 1 rest
      match rest' with
      | d :: rest'' =>
        if isDigit d then
          -- too large to be kept: the number is infinite, or nothing is left of it
          if significand != 0 && expPositive then failAt .numberOutOfRange rest''
          else .ok (.float (if positive then 0 else -0.0), rest''.dropWhile isDigit)
        else floatEnd positive significand (if expPositive then start + e else start - e) rest'
      | [] => floatEnd positive significand (if expPositive then start + e else start - e) []

/-- Ends a float, with an exponent if one follows. -/
def exponentOrEnd (positive : Bool) (significand : Nat) (exp : Int) (b : Bytes) : Read Number :=
  match b with
  | c :: rest => if c == 0x65 || c == 0x45 then exponent positive significand exp rest
    else floatEnd positive significand exp b
  | [] => floatEnd positive significand exp []

/-- Reads the fraction after its point. Digits that no longer fit are dropped. -/
def fraction (positive : Bool) (significand : Nat) (exp : Int) (b : Bytes) : Read Number :=
  let (s, count, rest) := digitsUpTo maxNat significand 0 b
  match rest with
  | [] => if count == 0 then failIn .endInValue [] else exponentOrEnd positive s (exp - count) []
  | d :: _ =>
    if isDigit d then exponentOrEnd positive s (exp - count) (rest.dropWhile isDigit)
    else if count == 0 then failIn .invalidNumber rest
    else exponentOrEnd positive s (exp - count) rest

/-- Ends an integer, or goes on with a fraction or an exponent. -/
def numberRest (positive : Bool) (significand : Nat) (b : Bytes) : Read Number :=
  let integer : Number :=
    if positive then .nat significand
    else if significand == 0 then .float (-0.0)
    else if significand ≤ Nat.pow 2 63 then .neg (-(significand : Int))
    else .float (-(Float.ofNat significand))
  match b with
  | c :: rest =>
    if c == 0x2E then fraction positive significand 0 rest
    else if c == 0x65 || c == 0x45 then exponent positive significand 0 rest
    else .ok (integer, b)
  | [] => .ok (integer, [])

/-- Reads a number whose sign has been read. -/
def number (positive : Bool) (b : Bytes) : Read Number :=
  match b with
  | [] => failAt .endInValue []
  | c :: rest =>
    if c == 0x30 then
      match rest with
      | d :: _ => if isDigit d then failIn .invalidNumber rest else numberRest positive 0 rest
      | [] => numberRest positive 0 []
    else if isDigit c then
      let (n, _, rest') := digitsUpTo maxNat (digitValue c) 1 rest
      match rest' with
      | d :: _ =>
        if isDigit d then
          -- too long for an integer: the further digits only count
          let more := rest'.takeWhile isDigit
          let rest'' := rest'.dropWhile isDigit
          match rest'' with
          | 0x2E :: r => fraction positive n more.length r
          | _ => exponentOrEnd positive n more.length rest''
        else numberRest positive n rest'
      | [] => numberRest positive n []
    else failAt .invalidNumber rest

/-! ## Values of any type -/

/-- What follows an element of a list or an object. -/
inductive Next where
  /-- Another one, at these bytes. -/
  | more (rest : Bytes)
  /-- The closing bracket, at these bytes. -/
  | close (rest : Bytes)

/-- Looks for the next item of a list; `first` when none has been read. -/
def nextItem (first : Bool) (b : Bytes) : Except Fault Next :=
  match skipSpace b with
  | [] => failIn .endInList []
  | c :: rest =>
    if c == 0x5D then .ok (.close (c :: rest))
    else if first then .ok (.more (c :: rest))
    else if c == 0x2C then
      match skipSpace rest with
      | [] => failIn .endInValue []
      | d :: more => if d == 0x5D then failIn .trailingComma (d :: more) else .ok (.more (d :: more))
    else failIn .listCommaOrEndExpected (c :: rest)

/-- Looks for the next key of an object. The bytes of `more` begin with its quote. -/
def nextKey (first : Bool) (b : Bytes) : Except Fault Next :=
  match skipSpace b with
  | [] => failIn .endInObject []
  | c :: rest =>
    if c == 0x7D then .ok (.close (c :: rest))
    else if first then
      if c == 0x22 then .ok (.more (c :: rest)) else failIn .keyNotString (c :: rest)
    else if c == 0x2C then
      match skipSpace rest with
      | [] => failIn .endInValue []
      | d :: more =>
        if d == 0x22 then .ok (.more (d :: more))
        else if d == 0x7D then failIn .trailingComma (d :: more)
        else failIn .keyNotString (d :: more)
    else failIn .objectCommaOrEndExpected (c :: rest)

/-- Reads the closing bracket of a list. -/
def listEnd (b : Bytes) : Except Fault Bytes :=
  match skipSpace b with
  | [] => failIn .endInList []
  | c :: rest =>
    if c == 0x5D then .ok rest
    else if c == 0x2C then
      match skipSpace rest with
      | d :: more => failIn (if d == 0x5D then .trailingComma else .trailingCharacters) (d :: more)
      | [] => failIn .trailingCharacters []
    else failIn .trailingCharacters (c :: rest)

/-- Reads the closing brace of an object. -/
def objectEnd (b : Bytes) : Except Fault Bytes :=
  match skipSpace b with
  | [] => failIn .endInObject []
  | c :: rest =>
    if c == 0x7D then .ok rest
    else failIn (if c == 0x2C then .trailingComma else .trailingCharacters) (c :: rest)

/-- Reads the colon after a key. -/
def colon (b : Bytes) : Except Fault Bytes :=
  match skipSpace b with
  | [] => failIn .endInObject []
  | c :: rest => if c == 0x3A then .ok rest else failIn .colonExpected (c :: rest)

/-- Nothing but white space may follow the value. -/
def textEnd (b : Bytes) : Except Fault Unit :=
  match skipSpace b with
  | [] => .ok ()
  | rest => failIn .trailingCharacters rest

/-- How deep arrays and objects may nest, plus one. -/
def depthLimit : Nat := 128

/-- Reads a value that is no array or object, if one begins here; `none` at a bracket. -/
def scalar? (b : Bytes) : Except Fault (Option (Json × Bytes)) :=
  match b with
  | [] => failIn .endInValue []
  | c :: rest =>
    if c == 0x6E then (word nullTail rest).map fun r => some (.null, r)
    else if c == 0x74 then (word trueTail rest).map fun r => some (.bool true, r)
    else if c == 0x66 then (word falseTail rest).map fun r => some (.bool false, r)
    else if c == 0x2D then (number false rest).map fun (n, r) => some (.num n, r)
    else if isDigit c then (number true b).map fun (n, r) => some (.num n, r)
    else if c == 0x22 then (string rest).map fun (s, r) => some (.str s, r)
    else if c == 0x5B || c == 0x7B then .ok none
    else failIn .valueExpected b

mutual

/-- Reads a value. The first number bounds the work by the length of the text, the second the depth. -/
def value : Nat → Nat → Bytes → Except Fault (Json × Bytes)
  | 0, _, b => failIn .tooDeep b
  | fuel + 1, depth, b => do
    let b := skipSpace b
    match ← scalar? b with
    | some r => return r
    | none =>
      if depth ≤ 1 then failIn .tooDeep b
      else
        match b with
        | 0x5B :: rest =>
          let (items, rest) ← valueItems fuel (depth - 1) true rest []
          return (.arr items, ← listEnd rest)
        | _ =>
          let (members, rest) ← valueMembers fuel (depth - 1) true (b.drop 1) []
          return (.obj members, ← objectEnd rest)

/-- Reads the items of an array up to its bracket. -/
def valueItems : Nat → Nat → Bool → Bytes → List Json → Except Fault (List Json × Bytes)
  | 0, _, _, b, _ => failIn .tooDeep b
  | fuel + 1, depth, first, b, seen => do
    match ← nextItem first b with
    | .close rest => return (seen.reverse, rest)
    | .more rest =>
      let (v, rest) ← value fuel depth rest
      valueItems fuel depth false rest (v :: seen)

/-- Reads the members of an object up to its brace, kept in the order of their keys. -/
def valueMembers : Nat → Nat → Bool → Bytes → List (String × Json) →
    Except Fault (List (String × Json) × Bytes)
  | 0, _, _, b, _ => failIn .tooDeep b
  | fuel + 1, depth, first, b, seen => do
    match ← nextKey first b with
    | .close rest => return (seen, rest)
    | .more rest =>
      let (key, rest) ← string (rest.drop 1)
      let rest ← colon rest
      let (v, rest) ← value fuel depth rest
      valueMembers fuel depth false rest (insertSorted key v seen)

end

/-- Reads a text that is one JSON value. -/
def ofBytes? (text : Bytes) : Except Fault Json := do
  let (v, rest) ← value (2 * text.length + 2) depthLimit text
  textEnd rest
  return v

end Phrasebook.Json
