/-!
# Transports

The service is reached over four transports. They are built and started in one order and shut down in
another: first the ones that the public calls, then the ones behind brokers.
-/

set_option autoImplicit false

namespace Phrasebook.Lifecycle

/-- A way in which the service is reached. -/
inductive Transport where
  | amqp
  | nats
  | grpc
  | http
deriving DecidableEq, Inhabited, Repr

namespace Transport

/-- The name of a transport. -/
def name : Transport → String
  | .amqp => "amqp_rpc"
  | .nats => "nats_rpc"
  | .grpc => "grpc"
  | .http => "http"

/-- The order of building: the brokers first, the front door last. -/
def constructOrder : List Transport := [.amqp, .nats, .grpc, .http]

/-- The order of starting, so that everything is up when the front door answers. -/
def startOrder : List Transport := [.amqp, .nats, .grpc, .http]

/-- The order of shutting down: the front door first. -/
def shutdownOrder : List Transport := [.http, .grpc, .amqp, .nats]

/-- Names tell transports apart. -/
theorem name_inj {a b : Transport} (h : a.name = b.name) : a = b := by
  cases a <;> cases b <;> first | rfl | simp [name] at h

end Transport

end Phrasebook.Lifecycle
