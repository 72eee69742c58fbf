import Phrasebook.Settings.Value
import Phrasebook.Settings.App
import Phrasebook.Settings.Environment
/-!
# Settings from values

What the sources give is turned into settings leniently: a text field takes flags and numbers in their
written form, a flag takes numbers and the usual words, a number takes texts, flags and real numbers, which
are rounded. Unknown members are ignored.
-/

set_option autoImplicit false

namespace Phrasebook.Settings

/-- Why values do not make settings. The keys lead to the place. -/
inductive Misfit where
  /-- A value of the wrong kind. -/
  | wrongType (found expected : String) (keys : List String) (origin : Option String)
  /-- A list with too few items. -/
  | tooShort (length : Nat) (expected : String) (keys : List String)
  /-- A field that is not there. -/
  | missing (keys : List String)
deriving DecidableEq, Inhabited

/-- The keys as one. A key that tells a place in a list follows without a point. -/
def joinKeys : List String → String
  | [] => ""
  | [k] => k
  | k :: next :: rest =>
    let tail := joinKeys (next :: rest)
    if tail.startsWith "[" then k ++ tail else k ++ "." ++ tail

/-- The wording of a misfit. -/
def Misfit.message : Misfit → String
  | .wrongType found expected keys origin =>
    "invalid type: " ++ found ++ ", expected " ++ expected ++ place keys ++
      (match origin with
        | some o => " in " ++ o
        | none => "")
  | .tooShort n expected keys => "invalid length " ++ toString n ++ ", expected " ++ expected ++ place keys
  | .missing keys => "missing configuration field " ++ Text.quoted (joinKeys keys)
where
  place (keys : List String) : String :=
    if keys.isEmpty then "" else " for key `" ++ joinKeys keys ++ "`"

/-- The misfit seen from outside a place. -/
def Misfit.under (key : String) : Misfit → Misfit
  | .wrongType f e keys o => .wrongType f e (key :: keys) o
  | .tooShort n e keys => .tooShort n e (key :: keys)
  | .missing keys => .missing (key :: keys)

/-- What a value is, where a single value of another kind is wanted. -/
def Value.found : Value → String
  | .atom _ .nothing => "unit value"
  | .atom _ (.flag b) => "boolean `" ++ toString b ++ "`"
  | .atom _ (.int i) => "64-bit integer `" ++ toString i ++ "`"
  | .atom _ (.real x) => "floating point `" ++ Decimal.Layout.plain.render x ++ "`"
  | .atom _ (.text s) => "string " ++ Text.quoted s
  | .table .. => "map"
  | .list .. => "sequence"

/-- What a value is, where a section is wanted. -/
def Value.foundForSection : Value → String
  | .atom _ (.int i) => "integer `" ++ toString i ++ "`"
  | .atom _ (.real x) =>
    let text := Decimal.Layout.plain.render x
    "floating point `" ++ (if text.toList.all (fun c => c.isDigit || c == '-') then text ++ ".0" else text) ++ "`"
  | v => v.found

/-- A value of the wrong kind. -/
def Value.wrong {α : Type} (v : Value) (expected : String) : Except Misfit α :=
  .error (.wrongType v.found expected [] v.origin)

/-- The words for a flag. -/
def flagWord? (s : String) : Option Bool :=
  if ["true", "on", "yes"].contains s then some true
  else if ["false", "off", "no"].contains s then some false
  else none

/-- Lower case of the letters from A to Z. -/
def lower (s : String) : String := String.ofList (s.toList.map Char.toLower)

/-- A value as a text. -/
def Value.asText (v : Value) : Except Misfit String :=
  match v with
  | .atom _ (.text s) => .ok s
  | .atom _ (.flag b) => .ok (toString b)
  | .atom _ (.int i) => .ok (toString i)
  | .atom _ (.real x) => .ok (Decimal.Layout.plain.render x)
  | _ => v.wrong "a string"

/-- A value as a flag. -/
def Value.asFlag (v : Value) : Except Misfit Bool :=
  match v with
  | .atom _ (.flag b) => .ok b
  | .atom _ (.int i) => .ok (i != 0)
  | .atom _ (.real x) => .ok (x != 0)
  | .atom o (.text s) =>
    let s := lower s
    if s == "1" then .ok true
    else if s == "0" then .ok false
    else
      match flagWord? s with
      | some b => .ok b
      | none => Value.wrong (.atom o (.text s)) "a boolean"
  | _ => v.wrong "a boolean"

/-- The integer of a text, if it is a word for a flag or an integer in a range. -/
def textInt? (inRange : Int → Bool) (s : String) : Option Int :=
  match flagWord? (lower s) with
  | some b => some (if b then 1 else 0)
  | none => (Decimal.readInt? s.toList).filter inRange

/-- A value as an integer of 64 bits. -/
def Value.asInt (v : Value) : Except Misfit Int :=
  match v with
  | .atom _ (.int i) => .ok i
  | .atom _ (.flag b) => .ok (if b then 1 else 0)
  | .atom _ (.real x) => .ok x.round.toInt64.toInt
  | .atom _ (.text s) =>
    match textInt? inInt64 s with
    | some i => .ok i
    | none => v.wrong "an integer"
  | _ => v.wrong "an integer"

/-- Whether an integer is a natural number of 64 bits as it is written: no sign but a plus. -/
def inNat64 (i : Int) : Bool := 0 ≤ i && i < Nat.pow 2 64

/-- A value as a natural number of 64 bits. -/
def Value.asNat (v : Value) : Except Misfit Int :=
  match v with
  | .atom _ (.int i) => if 0 ≤ i then .ok i else v.wrong "an unsigned 64 bit or less integer"
  | .atom _ (.flag b) => .ok (if b then 1 else 0)
  | .atom _ (.real x) => .ok x.round.toUInt64.toNat
  | .atom _ (.text s) =>
    match if s.startsWith "-" then none else textInt? inNat64 s with
    | some i => .ok i
    | none => v.wrong "an integer"
  | _ => v.wrong "an integer"

/-- The value of a field. -/
def FieldType.ofValue? (t : FieldType) (v : Value) : Except Misfit Scalar :=
  match t, v with
  | .optionalText, .atom _ .nothing => .ok .absent
  | .text, _ => v.asText.map .text
  | .optionalText, _ => v.asText.map .text
  | .flag, _ => v.asFlag.map .flag
  | .int64, _ => v.asInt.map .int
  | .nat _ bits, _ => do
    let i ← v.asNat
    if i < Nat.pow 2 bits then return .int i
    else
      .error (.wrongType ("64-bit unsigned integer `" ++ toString i ++ "`")
        ("an unsigned " ++ toString bits ++ " bit integer") [] none)

section Record

variable {α : Type} (name : String) (keys : List String) (read : String → Value → Except Misfit α)
  (whenAbsent : String → Option α)

/-- Reads the members of a table that have one of the keys, in the order of the keys. -/
def readMembers (members : List (String × Value)) : List String → Except Misfit (List (String × α))
  | [] => .ok []
  | k :: keys =>
    match members.lookup k with
    | none => readMembers members keys
    | some v => do
      let x ← (read k v).mapError (Misfit.under k)
      return (k, x) :: (← readMembers members keys)

/-- The values of all keys. One that was not there may have a value all the same. -/
def complete (values : List (String × α)) : List String → Except Misfit (List (String × α))
  | [] => .ok []
  | k :: keys =>
    match (values.lookup k).or (whenAbsent k) with
    | some x => do return (k, x) :: (← complete values keys)
    | none => .error (.missing [k])

/-- Reads a record: from a table by name, from a list in order. A value of the wrong kind counts before a
field that is not there. -/
def recordOfValue (v : Value) : Except Misfit (List (String × α)) :=
  match v with
  | .table _ members => do complete whenAbsent (← readMembers read members keys) keys
  | .list _ items =>
    let describe := "struct " ++ name ++ " with " ++ toString keys.length ++
      (if keys.length == 1 then " element" else " elements")
    keys.zipIdx.mapM fun (k, i) =>
      match items[i]? with
      | some v => do return (k, ← (read k v).mapError (Misfit.under ("[" ++ toString i ++ "]")))
      | none =>
        match whenAbsent k with
        | some v => .ok (k, v)
        | none => .error (.tooShort i describe [])
  | v => .error (.wrongType v.foundForSection ("struct " ++ name) [] none)

end Record

/-- Reads a section. -/
def Shape.ofValue? (s : Shape) (v : Value) : Except Misfit Fields :=
  let field (k : String) : Option Field := s.fields.find? fun f => f.name == k
  recordOfValue s.name (s.fields.map Field.name)
    (fun k v => match field k with
      | some f => f.type.ofValue? v
      | none => .ok .absent)
    (fun k => (field k).bind Field.whenAbsent) v

/-- Reads all sections. -/
def sectionsOfValue? (v : Value) : Except Misfit (List (String × Fields)) :=
  let sec (k : String) : Option Section := sections.find? fun s => s.key == k
  recordOfValue typeName (sections.map Section.key)
    (fun k v => match sec k with
      | some s => s.shape.ofValue? v
      | none => .ok [])
    (fun k => (sec k).bind Section.whenAbsent) v

/-- Reads all settings. -/
def ofValue? (v : Value) : Except Misfit Settings := (sectionsOfValue? v).map ofSections

end Phrasebook.Settings

namespace Phrasebook

/-- Reads an environment. -/
def Environment.ofValue? (v : Settings.Value) : Except Settings.Misfit Environment :=
  (Environment.shape.ofValue? v).map Environment.ofFields

end Phrasebook
