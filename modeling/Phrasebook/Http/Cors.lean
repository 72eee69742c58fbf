import Phrasebook.Http.Message
/-!
# Other origins

Which origins may read the responses. A blank setting or a star admits all of them; any other setting is a
list of origins separated by commas, and exactly those are admitted. A star within a list is refused.
-/

set_option autoImplicit false

namespace Phrasebook.Http

/-- Who is admitted. -/
inductive Cors where
  | any
  | listed (origins : List Bytes)

/-- What is wrong with a setting. -/
inductive CorsError where
  /-- An entry cannot be a header value. -/
  | badEntry
  /-- A star stands in a list. -/
  | starInList
deriving DecidableEq

namespace Cors

/-- The star that admits everyone. -/
def star : Bytes := Text.encode "*"

/-- The entries of a list, without the blanks around them. -/
def entries (setting : String) : List String :=
  (setting.toList.splitOn ',').map fun entry => Text.trim (String.ofList entry)

/-- The rule of a setting. -/
def ofSetting? (setting : String) : Except CorsError Cors :=
  let setting := Text.trim setting
  if setting.isEmpty || setting == "*" then .ok .any
  else
    let origins := (entries setting).map Text.encode
    if !origins.all (·.all isTextByte) then .error .badEntry
    else if origins.contains star then .error .starInList
    else .ok (.listed origins)

/-- What every response says about its dependence on the request. -/
def vary : String := "origin, access-control-request-method, access-control-request-headers"

/-- The origin that a response admits. -/
def admitted? (c : Cors) (origin : Option Bytes) : Option Bytes :=
  match c with
  | .any => some star
  | .listed origins => origin.filter origins.contains

/-- The headers of a response to a request with this origin; a preflight asks, and all others use. -/
def headers (c : Cors) (preflight : Bool) (origin : Option Bytes) : Headers :=
  let allowed := ((c.admitted? origin).map fun o => ("access-control-allow-origin", o)).toList
  let rights :=
    if preflight then [("access-control-allow-methods", star), ("access-control-allow-headers", star)]
    else [("access-control-expose-headers", star)]
  ("vary", Text.encode vary) :: allowed ++ rights

end Cors

end Phrasebook.Http
