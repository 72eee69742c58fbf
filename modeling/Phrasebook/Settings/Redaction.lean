/-!
# Hiding credentials

An address may carry a user and a password before its last at sign. Where addresses are shown, everything
between the first `://` and that sign is replaced by stars.
-/

set_option autoImplicit false

namespace Phrasebook.Settings

/-- What stands before and after the first `://`. -/
def splitScheme? : List Char → Option (List Char × List Char)
  | [] => none
  | ':' :: '/' :: '/' :: rest => some ([], rest)
  | c :: rest => (splitScheme? rest).map fun (scheme, rest) => (c :: scheme, rest)

/-- What stands after the last at sign, if there is one. -/
def afterLastAt? (cs : List Char) : Option (List Char) :=
  if cs.contains '@' then some ((cs.reverse.takeWhile (· != '@')).reverse) else none

/-- The address without its credentials. -/
def redactChars (cs : List Char) : List Char :=
  match splitScheme? cs with
  | none => cs
  | some (scheme, rest) =>
    match afterLastAt? rest with
    | none => cs
    | some host => scheme ++ "://***@".toList ++ host

/-- The address without its credentials. -/
def redact (url : String) : String := String.ofList (redactChars url.toList)

end Phrasebook.Settings
