import Phrasebook.Broker.Server
/-!
# What the NATS broker is asked

Handler and status stand in the header `type`, of which the first counts.
-/

set_option autoImplicit false

namespace Phrasebook.Broker.Nats

/-- What the broker is asked. -/
inductive Request where
  | subscribe (subject : String)
  | publish (address : String) (headers : List (String × String)) (body : Bytes)
  | unsubscribe
deriving DecidableEq

/-- The header with the handler or the status. -/
def typeHeader : String := "type"

/-- A message with headers. -/
def delivery (headers : List (String × String)) (payload : Bytes) (replyTo : Option String) : Delivery :=
  { handler := (headers.lookup typeHeader).getD "", payload, replyTo }

/-- What the broker is asked when something happens. -/
def Request.ofEvent (subject : String) : Event → Option Request
  | .subscribed => some (.subscribe subject)
  | .published _ address _ r => some (.publish address [(typeHeader, r.status.name)] r.body)
  | .unsubscribed => some .unsubscribe
  | _ => none

/-- How headers are written. -/
def headerBlock (headers : List (String × String)) : String :=
  "NATS/1.0\r\n" ++ String.join (headers.map fun (n, v) => n ++ ": " ++ v ++ "\r\n") ++ "\r\n"

end Phrasebook.Broker.Nats
