import Phrasebook.Settings.App
import Phrasebook.Settings.Environment
import Phrasebook.Json.Fault
/-!
# Settings from JSON

A section is a JSON object with its fields, or an array with their values in order; unknown members are
ignored. Values have to be of the type of their field as they stand: nothing is converted.
-/

set_option autoImplicit false

namespace Phrasebook.Settings

/-- What is wrong with a value. -/
inductive JsonError where
  | wrongType (found : Json.Found) (expected : String)
  | outOfRange (i : Int) (expected : String)
  | missingField (name : String)
  | tooShort (length : Nat) (expected : String)
  | tooLong (length : Nat)

/-- The wording of an error. -/
def JsonError.message : JsonError → String
  | .wrongType found expected => "invalid type: " ++ found.describe ++ ", expected " ++ expected
  | .outOfRange i expected => "invalid value: integer `" ++ toString i ++ "`, expected " ++ expected
  | .missingField name => "missing field `" ++ name ++ "`"
  | .tooShort n expected => "invalid length " ++ toString n ++ ", expected " ++ expected
  | .tooLong n => "invalid length " ++ toString n ++ ", expected fewer elements in array"

/-- What a value is, for messages. -/
def found : Json → Json.Found
  | .null => .null
  | .bool b => .bool b
  | .num n => .num n
  | .str s => .str s
  | .arr _ => .sequence
  | .obj _ => .map

/-- The integer of a number, if it is one. -/
def integer? : Json → Option Int
  | .num (.nat n) => some n
  | .num (.neg i) => some i
  | _ => none

/-- The value of a field. -/
def FieldType.ofJson? (t : FieldType) (j : Json) : Except JsonError Scalar :=
  match t, j with
  | .text, .str s => .ok (.text s)
  | .text, _ => .error (.wrongType (found j) "a string")
  | .optionalText, .str s => .ok (.text s)
  | .optionalText, .null => .ok .absent
  | .optionalText, _ => .error (.wrongType (found j) "a string")
  | .flag, .bool b => .ok (.flag b)
  | .flag, _ => .error (.wrongType (found j) "a boolean")
  | .nat name bits, _ =>
    match integer? j with
    | some i => if 0 ≤ i && i < Nat.pow 2 bits then .ok (.int i) else .error (.outOfRange i name)
    | none => .error (.wrongType (found j) name)
  | .int64, _ =>
    match integer? j with
    | some i => if i < Nat.pow 2 63 then .ok (.int i) else .error (.outOfRange i "i64")
    | none => .error (.wrongType (found j) "i64")

/-- Reads a record from a JSON value, member by member in the order of their keys, then fills in what may
be left out. -/
def recordOfJson {α : Type} (name : String) (keys : List String) (read : String → Json → Except JsonError α)
    (whenAbsent : String → Option α) (j : Json) : Except JsonError (List (String × α)) :=
  match j with
  | .obj members => do
    let values ← (members.filter fun m => keys.contains m.1).mapM fun (k, v) => do
      return (k, ← read k v)
    keys.mapM fun k =>
      match (values.lookup k).or (whenAbsent k) with
      | some v => .ok (k, v)
      | none => .error (.missingField k)
  | .arr items =>
    let describe := "struct " ++ name ++ " with " ++ toString keys.length ++
      (if keys.length == 1 then " element" else " elements")
    do
      let values ← keys.zipIdx.mapM fun (k, i) =>
        match items[i]? with
        | some v => return (k, ← read k v)
        | none =>
          match whenAbsent k with
          | some v => .ok (k, v)
          | none => .error (.tooShort i describe)
      if items.length > keys.length then .error (.tooLong items.length) else return values
  | _ => .error (.wrongType (found j) ("struct " ++ name))

/-- Reads a section. -/
def Shape.ofJson? (s : Shape) (j : Json) : Except JsonError Fields :=
  let field (k : String) : Option Field := s.fields.find? fun f => f.name == k
  recordOfJson s.name (s.fields.map Field.name)
    (fun k v => match field k with
      | some f => f.type.ofJson? v
      | none => .ok .absent)
    (fun k => (field k).bind Field.whenAbsent) j

/-- Reads all settings. -/
def ofJson? (j : Json) : Except JsonError Settings := do
  let sec (k : String) : Option Section := sections.find? fun s => s.key == k
  let values ← recordOfJson typeName (sections.map Section.key)
    (fun k v => match sec k with
      | some s => s.shape.ofJson? v
      | none => .ok [])
    (fun k => (sec k).bind Section.whenAbsent) j
  return ofSections values

end Phrasebook.Settings

namespace Phrasebook

/-- Reads an environment. -/
def Environment.ofJson? (j : Json) : Except Settings.JsonError Environment :=
  (Environment.shape.ofJson? j).map Environment.ofFields

end Phrasebook
