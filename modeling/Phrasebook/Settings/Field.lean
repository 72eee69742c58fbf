import Phrasebook.Json.Value
import Phrasebook.Text.Quoted
/-!
# Fields of settings

Settings come in sections with named fields. A `Shape` says what fields a section has, of which type, and
which may be left out; `Fields` are the values of a section in order. From these follow the JSON form of a
section and the form in which it is shown.
-/

set_option autoImplicit false

namespace Phrasebook.Settings

/-- The value of a field. -/
inductive Scalar where
  | text (s : String)
  | flag (b : Bool)
  | int (i : Int)
  | absent
deriving DecidableEq, Inhabited

/-- The type of a field. -/
inductive FieldType where
  | text
  | optionalText
  | flag
  /-- A natural number below `2^bits`; the name tells it in messages. -/
  | nat (name : String) (bits : Nat)
  /-- An integer of 64 bits. -/
  | int64
deriving DecidableEq, Inhabited

/-- A field of a section. -/
structure Field where
  /-- Its name. -/
  name : String
  /-- Its type. -/
  type : FieldType
  /-- Its value when it is left out, if it may be. -/
  whenAbsent : Option Scalar := none

/-- The fields of a section, with the name of the section's type. -/
structure Shape where
  /-- The name of the type. -/
  name : String
  /-- The fields, in order. -/
  fields : List Field

/-- The values of a section, by field. -/
abbrev Fields := List (String × Scalar)

namespace Fields

/-- A text. -/
def text (f : Fields) (name : String) : String :=
  match f.lookup name with
  | some (.text s) => s
  | _ => ""

/-- A text that may be left out. -/
def text? (f : Fields) (name : String) : Option String :=
  match f.lookup name with
  | some (.text s) => some s
  | _ => none

/-- A flag. -/
def flag (f : Fields) (name : String) : Bool :=
  match f.lookup name with
  | some (.flag b) => b
  | _ => false

/-- An integer. -/
def int (f : Fields) (name : String) : Int :=
  match f.lookup name with
  | some (.int i) => i
  | _ => 0

/-- A natural number. -/
def nat (f : Fields) (name : String) : Nat := (f.int name).toNat

end Fields

/-- The value of a text that may be left out. -/
def Scalar.ofText? : Option String → Scalar
  | some s => .text s
  | none => .absent

/-- The JSON form of a value. -/
def Scalar.toJson : Scalar → Json
  | .text s => .str s
  | .flag b => .bool b
  | .int i => .ofInt i
  | .absent => .null

/-- The JSON form of a section. -/
def Fields.toJson (f : Fields) : Json := .obj (f.map fun (name, v) => (name, v.toJson))

/-- How a value is shown; one that may be left out is marked as such. -/
def Scalar.show (optional : Bool) : Scalar → String
  | .text s => if optional then "Some(" ++ Text.quoted s ++ ")" else Text.quoted s
  | .flag b => if b then "true" else "false"
  | .int i => toString i
  | .absent => "None"

/-- Named values on one line. -/
def showNamed (name : String) (values : List (String × String)) : String :=
  name ++ " \x7b " ++ ", ".intercalate (values.map fun (n, v) => n ++ ": " ++ v) ++ " \x7d"

/-- Named values on a line each. -/
def showNamedLines (name : String) (values : List (String × String)) : String :=
  name ++ " \x7b\n" ++ String.join (values.map fun (n, v) => "    " ++ n ++ ": " ++ v ++ ",\n") ++ "\x7d"

/-- How a section is shown. -/
def Shape.show (s : Shape) (f : Fields) : String :=
  showNamed s.name (s.fields.map fun field =>
    (field.name, ((f.lookup field.name).getD .absent).show (field.type == .optionalText)))

end Phrasebook.Settings
