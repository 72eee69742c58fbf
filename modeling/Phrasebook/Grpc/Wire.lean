import Phrasebook.Text.Utf8
/-!
# Protocol buffer messages

A message is a sequence of fields, each with a key and a value; the key holds the number of the field and
how its value is written. The messages here have text fields and nested messages only. Texts are written
unless empty; read fields may come in any order, the last of several wins, and unknown fields are skipped,
groups nested to a hundred levels.
-/

set_option autoImplicit false

namespace Phrasebook.Grpc.Wire

/-- How the value of a field is written. -/
inductive Form where
  | varint
  | sixtyFourBit
  | lengthDelimited
  | startGroup
  | endGroup
  | thirtyTwoBit
deriving DecidableEq, Inhabited

/-- The name of a form in messages. -/
def Form.name : Form → String
  | .varint => "Varint"
  | .sixtyFourBit => "SixtyFourBit"
  | .lengthDelimited => "LengthDelimited"
  | .startGroup => "StartGroup"
  | .endGroup => "EndGroup"
  | .thirtyTwoBit => "ThirtyTwoBit"

/-- The form with this number. -/
def Form.ofNat? : Nat → Option Form
  | 0 => some .varint
  | 1 => some .sixtyFourBit
  | 2 => some .lengthDelimited
  | 3 => some .startGroup
  | 4 => some .endGroup
  | 5 => some .thirtyTwoBit
  | _ => none

/-- What is wrong with a message. -/
inductive Reason where
  | invalidVarint
  | invalidKey (key : Nat)
  | invalidForm (n : Nat)
  | invalidNumber
  | wrongForm (found : Form)
  | tooShort
  | notText
  | unexpectedEnd
  | tooDeep
deriving DecidableEq

/-- A fault in a message, with the field in which it lies. -/
structure Fault where
  /-- What is wrong. -/
  reason : Reason
  /-- The message and the field. -/
  field : Option (String × String) := none
deriving DecidableEq

/-- The wording of a reason. -/
def Reason.text : Reason → String
  | .invalidVarint => "invalid varint"
  | .invalidKey key => "invalid key value: " ++ toString key
  | .invalidForm n => "invalid wire type value: " ++ toString n
  | .invalidNumber => "invalid tag value: 0"
  | .wrongForm found => "invalid wire type: " ++ found.name ++ " (expected LengthDelimited)"
  | .tooShort => "buffer underflow"
  | .notText => "invalid string value: data is not UTF-8 encoded"
  | .unexpectedEnd => "unexpected end group tag"
  | .tooDeep => "recursion limit reached"

/-- The message for a fault. -/
def Fault.message (f : Fault) : String :=
  let place := match f.field with
    | some (message, field) => message ++ "." ++ field ++ ": "
    | none => ""
  "failed to decode Protobuf message: " ++ place ++ f.reason.text

/-! ## Writing -/

/-- A number in groups of seven bits, lowest first; every byte but the last has its top bit set. -/
def varint (n : Nat) : Bytes :=
  if n < 128 then [n.toUInt8] else (n % 128 + 128).toUInt8 :: varint (n / 128)
termination_by n

/-- The key of a length-delimited field. -/
def key (number : Nat) : Bytes := varint (number * 8 + 2)

/-- A length-delimited field. -/
def delimited (number : Nat) (value : Bytes) : Bytes := key number ++ varint value.length ++ value

/-- A text field, left out when empty. -/
def textField (number : Nat) (s : String) : Bytes :=
  if s.isEmpty then [] else delimited number (Text.encode s)

/-- A message of text fields, numbered from `number`. -/
def textFields : Nat → List String → Bytes
  | _, [] => []
  | number, s :: rest => textField number s ++ textFields (number + 1) rest

/-! ## Reading -/

/-- Reads a number of at most ten bytes and sixty-four bits. -/
def readVarint (b : Bytes) : Except Fault (Nat × Bytes) :=
  go 10 1 0 b
where
  go : Nat → Nat → Nat → Bytes → Except Fault (Nat × Bytes)
    | 0, _, _, _ => .error ⟨.invalidVarint, none⟩
    | _ + 1, _, _, [] => .error ⟨.invalidVarint, none⟩
    | left + 1, scale, n, c :: rest =>
      if c < 0x80 then
        if left == 0 && c ≥ 2 then .error ⟨.invalidVarint, none⟩ else .ok (n + c.toNat * scale, rest)
      else go left (scale * 128) (n + (c.toNat - 128) * scale) rest

/-- Reads the key of a field: its number and the form of its value. -/
def readKey (b : Bytes) : Except Fault ((Nat × Form) × Bytes) := do
  let (k, rest) ← readVarint b
  if k ≥ Nat.pow 2 32 then .error ⟨.invalidKey k, none⟩
  else
    match Form.ofNat? (k % 8) with
    | none => .error ⟨.invalidForm (k % 8), none⟩
    | some form => if k / 8 == 0 then .error ⟨.invalidNumber, none⟩ else .ok ((k / 8, form), rest)

/-- Drops this many bytes. -/
def advance (n : Nat) (b : Bytes) : Except Fault Bytes :=
  if n > b.length then .error ⟨.tooShort, none⟩ else .ok (b.drop n)

/-- How deep unknown groups may nest. -/
def depthLimit : Nat := 100

/-- Skips the value of a field. The fuel bounds the number of keys read. -/
def skipField : Nat → Nat → Form → Nat → Bytes → Except Fault Bytes
  | 0, _, _, _, _ => .error ⟨.invalidVarint, none⟩
  | fuel + 1, depth, form, number, b =>
    if depth == 0 then .error ⟨.tooDeep, none⟩
    else
      match form with
      | .varint => (readVarint b).map Prod.snd
      | .thirtyTwoBit => advance 4 b
      | .sixtyFourBit => advance 8 b
      | .lengthDelimited => do
        let (n, rest) ← readVarint b
        advance n rest
      | .endGroup => .error ⟨.unexpectedEnd, none⟩
      | .startGroup => skipGroup fuel depth number b
where
  /-- Skips the fields of a group and its end. -/
  skipGroup : Nat → Nat → Nat → Bytes → Except Fault Bytes
    | 0, _, _, _ => .error ⟨.invalidVarint, none⟩
    | fuel + 1, depth, number, b => do
      let ((inner, form), rest) ← readKey b
      if form == .endGroup then
        if inner == number then .ok rest else .error ⟨.unexpectedEnd, none⟩
      else
        let rest ← skipField fuel (depth - 1) form inner rest
        skipGroup fuel depth number rest

/-- Reads the value of a length-delimited field. -/
def readDelimited (form : Form) (b : Bytes) : Except Fault (Bytes × Bytes) :=
  if form != .lengthDelimited then .error ⟨.wrongForm form, none⟩
  else do
    let (n, rest) ← readVarint b
    if n > rest.length then .error ⟨.tooShort, none⟩ else .ok (rest.take n, rest.drop n)

/-- Reads the value of a text field. -/
def readText (form : Form) (b : Bytes) : Except Fault (String × Bytes) := do
  let (value, rest) ← readDelimited form b
  match Text.decode? value with
  | some s => .ok (s, rest)
  | none => .error ⟨.notText, none⟩

/-- Reads a message: `item` handles the fields it knows and leaves the others to be skipped. -/
def readMessage {α : Type} (item : α → Nat → Form → Bytes → Except Fault (Option (α × Bytes))) :
    Nat → α → Bytes → Except Fault α
  | _, acc, [] => .ok acc
  | 0, acc, _ :: _ => .ok acc
  | fuel + 1, acc, b@(_ :: _) => do
    let ((number, form), rest) ← readKey b
    match ← item acc number form rest with
    | some (acc, rest) => readMessage item fuel acc rest
    | none =>
      let rest ← skipField (2 * rest.length + 2) depthLimit form number rest
      readMessage item fuel acc rest

/-- Reads a message of text fields, numbered from one: their values in order, empty when not there. -/
def readTexts (message : String) (fields : List String) (b : Bytes) : Except Fault (List String) :=
  readMessage
    (fun acc number form rest =>
      match fields[number - 1]? with
      | none => .ok none
      | some field =>
        match readText form rest with
        | .ok (s, rest) => .ok (some (acc.set (number - 1) s, rest))
        | .error f => .error { f with field := some (message, field) })
    b.length (fields.map fun _ => "") b

/-- Reads a message with a nested message as field one: all of its values, in order. -/
def readNested (message field : String) (b : Bytes) : Except Fault (List Bytes) :=
  readMessage
    (fun acc number form rest =>
      if number != 1 then .ok none
      else
        match readDelimited form rest with
        | .ok (v, rest) => .ok (some (acc ++ [v], rest))
        | .error f => .error { f with field := some (message, field) })
    b.length [] b

end Phrasebook.Grpc.Wire
