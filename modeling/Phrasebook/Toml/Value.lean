/-!
# TOML values

What a TOML document says, as plain values: dates and times are kept as texts in their full form, integers
have no bounds.
-/

set_option autoImplicit false

namespace Phrasebook

/-- A TOML value. -/
inductive Toml where
  | text (s : String)
  | flag (b : Bool)
  | integer (i : Int)
  | real (x : Float)
  /-- A date, a time, or both. -/
  | time (s : String)
  | list (items : List Toml)
  | table (members : List (String × Toml))
deriving Inhabited

end Phrasebook
