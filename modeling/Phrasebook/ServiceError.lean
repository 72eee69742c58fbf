import Phrasebook.Chain
/-!
# How a call ends

What a call can fail with, and what of it may be told to a client: a code, a public message and a status.
The causes of an external or internal failure are for the log only; `publicMessage` does not depend on
them. A call can also break down, and then it has neither an answer nor a failure.
-/

set_option autoImplicit false

namespace Phrasebook

/-- Why a call failed. -/
inductive ServiceError where
  /-- The query is not acceptable. -/
  | validation (message : String)
  /-- There is no such thing. -/
  | notFound
  /-- The outside service failed. -/
  | external (cause : Chain)
  /-- The store failed. -/
  | internal (cause : Chain)
deriving DecidableEq, Inhabited

namespace ServiceError

/-- The code told to clients. -/
def code : ServiceError → String
  | .validation _ => "VALIDATION_ERROR"
  | .notFound => "NOT_FOUND"
  | .external _ => "EXTERNAL_SERVICE_ERROR"
  | .internal _ => "INTERNAL_ERROR"

/-- The message told to clients. -/
def publicMessage : ServiceError → String
  | .validation message => message
  | .notFound => "resource not found"
  | .external _ => "external service unavailable"
  | .internal _ => "internal server error"

/-- The HTTP status. -/
def httpStatus : ServiceError → Nat
  | .validation _ => 400
  | .notFound => 404
  | .external _ => 502
  | .internal _ => 500

/-- The failure as the log has it, causes included. -/
def describe : ServiceError → String
  | .validation message => "invalid input: " ++ message
  | .notFound => "resource not found"
  | .external cause => "external service unavailable: " ++ cause.full
  | .internal cause => "internal error: " ++ cause.full

end ServiceError

/-- What a breakdown says. -/
inductive Panic where
  /-- A message. -/
  | text (message : String)
  /-- Something that is no text. -/
  | untold
deriving DecidableEq, Inhabited

/-- The message of a breakdown, if it has one. -/
def Panic.message? : Panic → Option String
  | .text m => some m
  | .untold => none

/-- How a call ends. -/
inductive Outcome (α : Type) where
  /-- With an answer or a failure. -/
  | answer (r : Except ServiceError α)
  /-- With a breakdown. -/
  | broke (p : Panic)

end Phrasebook
