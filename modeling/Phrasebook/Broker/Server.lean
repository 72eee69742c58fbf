import Phrasebook.Broker.Loop
import Phrasebook.Lifecycle.Event
import Phrasebook.Settings.Redaction
import Phrasebook.Address
/-!
# The entry points behind the brokers

An entry point is connected when it is built, listens from its start on, and lets go of the connection when
it is shut down. A message that comes while nothing else goes on is handled to its end.
-/

set_option autoImplicit false

namespace Phrasebook.Broker

/-- The transport of a broker. -/
def Kind.transport : Kind → Lifecycle.Transport
  | .amqp => .amqp
  | .nats => .nats

/-- The scheme of a broker's addresses. -/
def Kind.accepts : Kind → String → Bool
  | .amqp, scheme => scheme == "amqp" || scheme == "amqps"
  | .nats, scheme => ["nats", "tls", "ws", "wss"].contains scheme

/-- The address that a setting means. One of the brokers needs no scheme. -/
def Kind.target (k : Kind) (url : String) : String :=
  if k == .nats && (url.splitOn "://").length < 2 then "nats://" ++ url else url

/-- What is wrong with an address, if something is. -/
def Kind.complaint? (k : Kind) (url : String) : Option String :=
  match k, Address.ofText? (k.target url) with
  | .amqp, .error f => some ("IO error: " ++ f.message)
  | .amqp, .ok a =>
    if k.accepts a.scheme then none else some ("IO error: Invalid AMQP scheme: " ++ a.scheme)
  | .nats, .error f =>
    some ("failed to parse server or server list: NATS server URL is invalid: " ++ f.message)
  | .nats, .ok a =>
    if k.accepts a.scheme then none
    else some ("failed to parse server or server list: invalid scheme for NATS server URL: " ++ a.scheme)

/-- The failure to connect. -/
def Kind.connectFailure (k : Kind) (url why : String) : Chain :=
  let name := match k with
    | .amqp => "amqp"
    | .nats => "nats"
  ⟨"failed to connect " ++ name ++ " " ++ Settings.redact url ++ ": " ++ why, []⟩

/-- Connects to a broker. -/
def Kind.connect (k : Kind) (url : String) (reachable : Bool) : Except Chain Unit :=
  match k.complaint? url with
  | some why => .error (k.connectFailure url why)
  | none =>
    if reachable then .ok () else .error (k.connectFailure url "IO error: Connection refused (os error 111)")

/-- The line that tells of the connection. -/
def Kind.connectedLine (k : Kind) (url subject : String) : LogLine :=
  match k with
  | .amqp => ⟨.info, "AMQP connected to " ++ Settings.redact url ++ ", exchange " ++ subject⟩
  | .nats => ⟨.info, "NATS connected to " ++ Settings.redact url ++ ", subject " ++ subject⟩

/-- The line that an event leaves in the log, if any. -/
def Event.line? (k : Kind) (subject : String) : Event → Option LogLine
  | .noticed n => some n.line
  | .subscribed =>
    some ⟨.info, match k with
      | .amqp => "AMQP RPC server consuming queue " ++ subject
      | .nats => "NATS RPC server subscribed to " ++ subject⟩
  | .dropped _ handler =>
    some ⟨.warn, match k with
      | .amqp => "amqp rpc " ++ handler ++ " without reply_to, reply dropped"
      | .nats => "nats rpc " ++ handler ++ " without reply subject, reply dropped"⟩
  | .failed _ c =>
    some ⟨.error, (match k with
      | .amqp => "amqp rpc failed to handle delivery: "
      | .nats => "nats rpc failed to handle message: ") ++ c.full⟩
  | .finished =>
    some ⟨.info, match k with
      | .amqp => "AMQP RPC server stopped"
      | .nats => "NATS RPC server stopped"⟩
  | _ => none

/-- Where an entry point stands. -/
inductive Standing where
  /-- It is connected. -/
  | connected
  /-- It listens. -/
  | listening (l : Loop)
  /-- It is over. -/
  | over

/-- An entry point behind a broker. -/
structure Server where
  /-- The broker. -/
  kind : Kind
  /-- Where messages arrive. -/
  subject : String
  /-- What answers the calls. -/
  desk : Desk
  /-- Where it stands. -/
  standing : Standing := .connected
  /-- The lines left in the log. -/
  log : List LogLine := []

namespace Server

/-- Leaves lines in the log. -/
def note (s : Server) (lines : List LogLine) : Server := { s with log := s.log ++ lines }

/-- Leaves the lines of some events in the log. -/
def noteEvents (s : Server) (events : List Event) : Server :=
  s.note (events.filterMap (·.line? s.kind s.subject))

/-- What has happened in a loop since it was as before. -/
def news (old new : Loop) : List Event := new.trace.drop old.trace.length

/-- Begins to listen, the first time. The other times only one of the two entry points says something. -/
def start (s : Server) : Server :=
  match s.standing with
  | .connected =>
    let l := (Loop.start s.kind).run [.reserve]
    { s with standing := .listening l }.noteEvents l.trace
  | _ =>
    match s.kind with
    | .amqp => s
    | .nats => s.note (Lifecycle.Event.alreadyStarted s.kind.transport.name).line?.toList

/-- Takes a message and handles it to its end. -/
def deliver (s : Server) (w : World) (d : Delivery) : Server × List Event :=
  match s.standing with
  | .listening l =>
    let job := l.jobs.length
    let asked := l.run [.deliver d, .dispatch job]
    let h := Rpc.dispatch w s.desk d.handler d.payload
    let noticed := h.notices.foldl (fun l n => l.emit (.noticed n)) asked
    let answer := match h.reply with
      | .ok r => Move.answer job r
      | .error _ => .breakDown job
    let done := noticed.run [answer, .publish job (.ok ()), .confirm job (.ok ()), .acknowledge job (.ok ()), .reserve]
    let events := news l done
    ({ s with standing := .listening done, desk := h.desk }.noteEvents events, events)
  | _ => (s, [])

/-- Ends the loop: because it is asked to, or because no more messages can come. -/
def finish (s : Server) (l : Loop) (m : Move) : Server × List Event :=
  let events := news l (l.run [m, .release])
  ({ s with standing := .over }.noteEvents events, events)

/-- Shuts down. -/
def shutdown (s : Server) : Server × List Event :=
  match s.standing, s.kind with
  | .listening l, _ => s.finish l .stop
  | .connected, .amqp => ({ s with standing := .over }, [.released])
  | .connected, .nats => (s, [])
  | .over, _ => (s, [])

/-- What is heard when the broker ends the loop. -/
def cutOff (s : Server) (c : Chain) : Server × Option Lifecycle.Exit :=
  match s.standing with
  | .listening l =>
    let (s, _) := s.finish l (.close c)
    (s.note (Lifecycle.Event.failed s.kind.transport.name c).line?.toList, some (.failed c))
  | _ => (s, none)

end Server

/-- How a broker ends the loop. -/
inductive Cut where
  /-- It cancels the consumer. -/
  | cancel
  /-- It closes the channel and says why. -/
  | close (code : String) (said : String)
deriving DecidableEq, Inhabited

/-- What the loop says then. -/
def Cut.chain : Cut → Chain
  | .cancel => ⟨"amqp consumer stream closed", []⟩
  | .close code said =>
    ⟨"amqp consumer error: protocol error: AMQP soft error: " ++ code ++ ": " ++ said, []⟩

end Phrasebook.Broker
