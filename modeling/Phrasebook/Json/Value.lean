/-!
# JSON values

A JSON value as it is read from a text: integers keep their exact value as long as they fit into 64 bits,
every other number is a binary64 float, and an object is a list of members.
-/

set_option autoImplicit false

namespace Phrasebook

/-- A JSON number as it was read. -/
inductive Json.Number where
  /-- A natural number below 2^64. -/
  | nat (n : Nat)
  /-- A negative integer, not below -2^63. -/
  | neg (i : Int)
  /-- Anything else, negative zero included. -/
  | float (x : Float)
deriving Inhabited

/-- A JSON value. -/
inductive Json where
  | null
  | bool (b : Bool)
  | num (n : Json.Number)
  | str (s : String)
  | arr (items : List Json)
  | obj (members : List (String × Json))
deriving Inhabited

namespace Json

/-- The number for an integer. -/
def Number.ofInt (i : Int) : Number := if i < 0 then .neg i else .nat i.toNat

/-- The value for a natural number. -/
def ofNat (n : Nat) : Json := .num (.nat n)

/-- The value for an integer. -/
def ofInt (i : Int) : Json := .num (.ofInt i)

/-- The value of an optional text: null when there is none. -/
def ofText? : Option String → Json
  | some s => .str s
  | none => .null

/-- The member of an object. -/
def get? (j : Json) (key : String) : Option Json :=
  match j with
  | .obj members => members.lookup key
  | _ => none

/-- The item of an array. -/
def item? (j : Json) (i : Nat) : Option Json :=
  match j with
  | .arr items => items[i]?
  | _ => none

/-- The text of a string value. -/
def text? : Json → Option String
  | .str s => some s
  | _ => none

/-- The items of an array. -/
def items? : Json → Option (List Json)
  | .arr items => some items
  | _ => none

/-- Puts a member into an object kept in the order of its keys; a later member replaces an earlier one. -/
def insertSorted (key : String) (v : Json) : List (String × Json) → List (String × Json)
  | [] => [(key, v)]
  | (k, w) :: rest =>
    if key < k then (key, v) :: (k, w) :: rest
    else if key == k then (key, v) :: rest
    else (k, w) :: insertSorted key v rest

end Json

end Phrasebook
