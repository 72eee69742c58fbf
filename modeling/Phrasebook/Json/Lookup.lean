import Phrasebook.Json.Value
/-!
# Looking things up in a value

Lookups for a reader that takes what is there and does without what is not: a missing member, or one of
another kind, is the empty value of the kind that was asked for.
-/

set_option autoImplicit false

namespace Phrasebook.Json

/-- The integer of a number, else zero. -/
def int : Json → Int
  | .num (.nat n) => n
  | .num (.neg i) => i
  | _ => 0

/-- The natural number of a number, else zero. -/
def nat (j : Json) : Nat := j.int.toNat

/-- The text of a string, else the empty one. -/
def text (j : Json) : String := j.text?.getD ""

/-- The items of an array, else none. -/
def items (j : Json) : List Json := j.items?.getD []

/-- The members of an object, else none. -/
def members : Json → List (String × Json)
  | .obj members => members
  | _ => []

/-- The item of an array, else null. -/
def item (j : Json) (i : Nat) : Json := (j.item? i).getD .null

/-- The member of an object, else null. -/
def get (j : Json) (key : String) : Json := (j.get? key).getD .null

/-- The member of an object, unless it is null. -/
def some? (j : Json) (key : String) : Option Json :=
  match j.get? key with
  | some .null => none
  | v => v

/-- The text of a member, if it is one. -/
def textAt? (j : Json) (key : String) : Option String := (j.get? key).bind text?

/-- The text of a member. -/
def textAt (j : Json) (key : String) (default : String := "") : String := (j.textAt? key).getD default

/-- The natural number of a member. -/
def natAt (j : Json) (key : String) (default : Nat := 0) : Nat := ((j.get? key).map nat).getD default

/-- Whether a member says yes. -/
def flagAt (j : Json) (key : String) : Bool :=
  match j.get? key with
  | some (.bool b) => b
  | _ => false

/-- The items of a member. -/
def itemsAt (j : Json) (key : String) : List Json := (j.get key).items

/-- The members of a member. -/
def membersAt (j : Json) (key : String) : List (String × Json) := (j.get key).members

end Phrasebook.Json
