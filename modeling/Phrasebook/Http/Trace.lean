import Phrasebook.Http.Message
import Phrasebook.Text.Hex
/-!
# Trace identifiers

A request may belong to a trace of its caller. The header `traceparent` has the version, the identifiers of
trace and parent, and flags, in hexadecimal and separated by dashes. A header that is not well-formed is as
good as none: the request then begins a trace of its own.
-/

set_option autoImplicit false

namespace Phrasebook.Http.Trace

/-- A hexadecimal number of either case, with an optional plus. -/
def hexNumber? (cs : List Char) : Option Nat :=
  let digits := match cs with
    | '+' :: rest => rest
    | _ => cs
  if digits.isEmpty then none
  else
    digits.foldl
      (fun acc c =>
        acc.bind fun n => (Text.Hex.value? c).map fun d => n * 16 + d)
      (some 0)

/-- A nonzero identifier of this many lower-case digits. -/
def identifier? (length : Nat) (cs : List Char) : Option String :=
  if cs.length != length || cs.any Char.isUpper then none
  else
    match hexNumber? cs with
    | some n => if n == 0 then none else some (String.ofList cs)
    | none => none

/-- The parts of a header value: an empty last part does not count. -/
def parts (value : String) : List (List Char) :=
  let all := ((Text.trim value).splitOn "-").map String.toList
  if all.getLast? == some [] then all.dropLast else all

/-- The identifier of the trace in a header value. -/
def ofParent? (value : String) : Option String :=
  match parts value with
  | version :: trace :: parent :: flags :: more => do
    let v ← hexNumber? version
    if v > 254 || (v == 0 && !more.isEmpty) then none
    let t ← identifier? 32 trace
    let _ ← identifier? 16 parent
    let f ← hexNumber? flags
    if f > 255 || (v == 0 && f > 2) then none
    return t
  | _ => none

/-- The trace of a request, unless it begins one. -/
def ofHeaders? (h : Headers) : Option String := (h.text? "traceparent").bind ofParent?

end Phrasebook.Http.Trace
