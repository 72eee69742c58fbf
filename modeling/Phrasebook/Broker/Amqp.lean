import Phrasebook.Broker.Server
/-!
# What the AMQP broker is asked

Requests fan out from an exchange into a queue of the same name. Replies go straight to the queue that the
message names, with the status as their type.
-/

set_option autoImplicit false

namespace Phrasebook.Broker.Amqp

/-- What the broker is asked. -/
inductive Request where
  | declareExchange (name kind : String)
  | declareQueue (name : String)
  | bind (queue exchange key : String)
  | consume (queue tag : String)
  | publish (address type contentType : String) (correlation : Option String) (body : Bytes)
  | acknowledge (delivery : Nat)
  | cancel (tag : String)
  | closeChannel (code : Nat) (text : String)
  | closeConnection (code : Nat) (text : String)
deriving DecidableEq

/-- The name under which the service consumes. -/
def consumerTag : String := "translation-rpc-server"

/-- What is asked when the entry point is built. -/
def setUp (exchange : String) : List Request :=
  [.declareExchange exchange "fanout", .declareQueue exchange, .bind exchange exchange ""]

/-- What the broker is asked when something happens. The broker counts messages from one. -/
def Request.ofEvent (queue : String) : Event → List Request
  | .subscribed => [.consume queue consumerTag]
  | .published _ address correlation r =>
    [.publish address r.status.name "application/json" correlation r.body]
  | .acknowledged job => [.acknowledge (job + 1)]
  | .unsubscribed => [.cancel consumerTag]
  | .released => [.closeChannel 200 "shutdown", .closeConnection 200 "shutdown"]
  | _ => []

/-- What the broker is asked in a shutdown: without a start there is no channel to close. -/
def shutdownRequests (s : Server) (events : List Event) : List Request :=
  match s.standing with
  | .connected => [.closeConnection 200 "shutdown"]
  | _ => events.flatMap (Request.ofEvent s.subject)

end Phrasebook.Broker.Amqp
