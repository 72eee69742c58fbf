import Phrasebook.Broker.Server
import Phrasebook.Http.Setup
import Phrasebook.Lifecycle.Construction
import Phrasebook.Provider
import Phrasebook.Settings.Environment
import Phrasebook.Storage.Cache
import Phrasebook.Storage.Database
/-!
# The service as a whole

The service first acquires what it needs: the cache, if it is to be used, and the database. Over them it
sets up the desk and the transports that are wanted, runs these under a supervisor, and in the end, however
it comes about, releases what it has acquired, the last first.

What a run does is a function of the settings, of what is there outside and of what happens on the day: the
requests that come, and what ends it.
-/

set_option autoImplicit false

namespace Phrasebook

open Lifecycle Storage

/-- What is there outside the service. -/
structure Outside where
  /-- Whether somebody listens at the address of the cache. -/
  cache : Bool := false
  /-- The database, if it is there. -/
  database : Option Database := none
  /-- Whether somebody listens at the address of a broker. -/
  broker : Broker.Kind → Bool := fun _ => false

/-- What ends a run. -/
inductive DayEnd where
  /-- A signal. -/
  | signal (name : String)
  /-- A broker that ends the loop of its entry point. -/
  | cut (c : Broker.Cut)
deriving DecidableEq, Inhabited

/-- What happens while the service runs. -/
structure Day where
  /-- The requests that come over HTTP, one after the other. -/
  requests : List Http.Request := []
  /-- What surrounds each of them. -/
  surroundings : Http.Surroundings
  /-- What ends the run then. -/
  ending : DayEnd

/-- Where traces go. -/
structure Tracer where
  /-- What it takes to send what is left of the traces of some requests, and to close. -/
  release : List Http.Exchange → Work := fun _ => {}

/-- The state of a run. -/
structure Situation where
  /-- What has been acquired, the clock and what has happened. -/
  scope : Scope
  /-- What the connection to the database said first. -/
  greeting : Option Greeting := none
  /-- What the database was asked. -/
  asked : List Statement := []
  /-- What the cache was told. -/
  told : List CacheCommand := []
  /-- The requests that were answered. -/
  exchanges : List Http.Exchange := []

/-- A step of a run. When it fails, what it has done so far remains. -/
abbrev Act := ExceptT Failure (StateM Situation)

namespace App

/-- Changes what has been acquired, the clock or what has happened. -/
def onScope (f : Scope → Scope) : Act Unit := modify fun s => { s with scope := f s.scope }

/-- Writes to the log. -/
def say (part : Part) (line : LogLine) : Act Unit := onScope (·.emit (.said ⟨part, line⟩))

/-- Writes a notable fact to the log. -/
def tell (text : String) : Act Unit := say .app ⟨.info, text⟩

/-- Registers something acquired. -/
def acquire (name : String) : Act Unit := onScope (·.register { name })

/-- Fails. -/
def fail {α : Type} (c : Chain) : Act α := throw (.failed c)

/-! ## Stores -/

/-- Lets failed attempts pass, each with its line and the pause after it. -/
def waitForCache : List LogLine → Act Unit
  | [] => pure ()
  | line :: rest => do
    say .cachePool line
    onScope (·.pass (cachePause * 1000))
    waitForCache rest

/-- Opens the cache, if it is to be used. -/
def openCache (o : Outside) (s : Settings) (e : Environment) : Act Unit := do
  if s.redis.enabled then
    match Cache.open? o.cache e.redisHost e.redisPassword e.redisDb s.redis.ttlSecs with
    | .ok cache =>
      modify fun s => { s with told := s.told ++ cache.login }
      tell ("Redis pool initialized (host: " ++ e.redisHost ++ ", db: " ++ toString e.redisDb ++ ")")
      acquire "redis"
    | .error .unreachable => do
      waitForCache (attemptLines .unreachable (cacheAttempts - 1))
      fail (exhausted .unreachable)
    | .error f => fail f.chain

/-- Where the environment says that the database is. -/
def databasePlace (e : Environment) : DatabasePlace :=
  ⟨e.postgresUser, e.postgresPassword, e.postgresHost, e.postgresPortNumber, e.postgresDatabase⟩

/-- Opens the database. -/
def openDatabase (o : Outside) (s : Settings) (e : Environment) : Act Unit := do
  let place := databasePlace e
  let (r, asked) := Database.open? o.database place
  modify fun s => { s with asked := s.asked ++ asked }
  match r with
  | .error f => fail f.chain
  | .ok greeting =>
    modify fun s => { s with greeting := some greeting }
    say .databasePool (place.readyLine ⟨s.postgres.maxConnections, s.postgres.minConnections⟩)
    tell ("Postgres pool initialized (host: " ++ e.postgresHost ++ ", database: " ++ e.postgresDatabase ++ ")")
    acquire "postgres"

/-- The desk over the stores. -/
def deskOf (o : Outside) (s : Settings) : Desk :=
  .book { records := (o.database.map (·.rows)).getD [], hasCache := s.redis.enabled }

/-- The world around the desk: the stores work, and the service that renders texts is not to be reached. -/
def worldOf : World where
  brings := fun q => .error (Provider.Failure.unreachable (Provider.serviceUrl q)).chain

/-- What a call asks of the database. -/
def statement? : FacilityUse → Option Statement
  | .repoGet limit offset => some (.select limit offset)
  | .repoStore p => some (.insert p)
  | _ => none

/-- What a call tells the cache. -/
def command? (ttlSecs : Nat) : FacilityUse → Option CacheCommand
  | .cacheGet _ => some .get
  | .cacheSet h => some (.setEx ttlSecs h.toBytes)
  | .cacheInvalidate => some .del
  | _ => none

/-! ## Transports -/

/-- The address of a broker and where its messages arrive. -/
def brokerPlace (s : Settings) (e : Environment) : Broker.Kind → String × String
  | .amqp => (e.amqpUrl, s.amqp.address)
  | .nats => (e.natsUrl, s.nats.address)

/-- Whether a transport is wanted. -/
def wanted (s : Settings) : Transport → Bool
  | .amqp => s.amqp.enabled
  | .nats => s.nats.enabled
  | .grpc => s.grpc.enabled
  | .http => true

/-- The failure for a site that cannot be set up. -/
def siteFailure : Http.SetupError → Failure
  | .refused message => .failed ⟨message, []⟩
  | .breakdown p => .broke (p.message?.getD "")

/-- Connects to a broker. -/
def connect (o : Outside) (s : Settings) (e : Environment) (k : Broker.Kind) : Except Failure Unit :=
  (k.connect (brokerPlace s e k).1 (o.broker k)).mapError .failed

/-- The building of a transport. Sockets are there to be had. -/
def build (o : Outside) (s : Settings) (e : Environment) (site : Except Http.SetupError Http.Site) :
    Transport → Work
  | .amqp => { ending := some (connect o s e .amqp) }
  | .nats => { ending := some (connect o s e .nats) }
  | .grpc => {}
  | .http => { ending := some ((site.mapError siteFailure).map fun _ => ()) }

/-- How the transports behave on the day: only a cut ends one before it is asked to. -/
def conductOf (ending : DayEnd) (k : Transport) : Conduct :=
  match ending, k with
  | .cut c, .amqp => { plan := { serve := some { delay := 1, ending := some (.error (.failed c.chain)) } } }
  | _, _ => {}

/-- The signal of the day. -/
def signalOf : DayEnd → Option Signal
  | .signal name => some ⟨name, 1⟩
  | .cut _ => none

/-- The name of a transport among those that were built. -/
def builtName : Transport → String
  | .amqp => "AmqpRpc"
  | .nats => "NatsRpc"
  | .grpc => "Grpc"
  | .http => "Http"

/-- Answers requests one after the other. -/
def answerAll (x : Http.Surroundings) : Http.Site → List Http.Request → List Http.Exchange
  | _, [] => []
  | site, r :: rest =>
    let e := site.respond worldOf x r
    e :: answerAll x e.site rest

/-- The log entry of what happens with a request. -/
def entryOf (n : Http.Notice) : LogEntry :=
  match n.event with
  | .cache _ => ⟨.book, n.line⟩
  | _ => ⟨.site, n.line⟩

/-- Keeps what a run of the transports leaves behind. -/
def kept {α : Type} (f : Scope → Option (Except Failure α) × Scope) : Act α := do
  let (r, scope) := f (← get).scope
  onScope fun _ => scope
  match r with
  | some (.ok v) => return v
  | some (.error e) => throw e
  | none => throw (.broke "")

/-- Acquires the stores, builds the transports and supervises them. Traces are followed if something takes
them in. -/
def serve (o : Outside) (s : Settings) (e : Environment) (tracesTaken : Bool) (d : Day) : Act RunReport := do
  openCache o s e
  openDatabase o s e
  let site := Http.Site.ofSettings? s (deskOf o s) tracesTaken
  let slots ← kept (·.construct (conductOf d.ending) (wanted s) (build o s e site))
  tell ("Transports constructed: [" ++ ", ".intercalate (slots.kinds.map builtName) ++ "]")
  let exchanges := match site with
    | .ok site => answerAll d.surroundings site d.requests
    | .error _ => []
  let calls := exchanges.flatMap (·.calls)
  modify fun st => { st with
    exchanges := exchanges
    asked := st.asked ++ calls.filterMap statement?
    told := st.told ++ calls.filterMap (command? s.redis.ttlSecs) }
  let entries := (exchanges.flatMap (·.notices)).map entryOf
  let busy (v : Supervisor) : Supervisor := entries.foldl (fun v n => v.emit (.said n)) v
  let report ← kept (·.supervise slots (s.shutdownSecs * 1000) busy (signalOf d.ending))
  tell ("Exiting after " ++ report.trigger.text)
  return report

/-! ## Runs -/

/-- What is said about tracing at the start. -/
def tracingLine : LogLine := ⟨.info, "OpenTelemetry tracer disabled"⟩

/-- What is said when a signal arrives. -/
def signalLine (name : String) : LogLine := ⟨.info, "Received " ++ name⟩

/-- The entries that go with an event before its own: a broker tells of its connection, and a signal is
told where it arrives. -/
def heralds (s : Settings) (e : Environment) : Event → List LogEntry
  | .constructed .amqp => [⟨.amqp, Broker.Kind.amqp.connectedLine e.amqpUrl s.amqp.address⟩]
  | .constructed .nats => [⟨.nats, Broker.Kind.nats.connectedLine e.natsUrl s.nats.address⟩]
  | .triggered (.signal name) => [⟨.signals, signalLine name⟩]
  | _ => []

/-- What came of a run. -/
structure Run where
  /-- The report, or why there is none. -/
  result : Except Failure RunReport
  /-- The log. -/
  log : List LogEntry
  /-- The state in the end. -/
  situation : Situation

/-- The name under which a tracer is registered. -/
def tracerName : String := "tracer"

/-- Tells a tracer that is held what there is to send. -/
def loadTracer (t : Tracer) (exchanges : List Http.Exchange) (s : Scope) : Scope :=
  { s with resources := s.resources.map fun r =>
      if r.name == tracerName then { r with release := t.release exchanges } else r }

/-- Runs the service. A tracer is the first thing that it holds. -/
def run (o : Outside) (s : Settings) (e : Environment) (tracer : Option Tracer) (tracesTaken : Bool)
    (d : Day) : Run :=
  let empty : Scope := { timeout := s.shutdownSecs * 1000 }
  let held := match tracer with
    | some _ => empty.register { name := tracerName }
    | none => empty.emit (.said ⟨.app, tracingLine⟩)
  let (r, situation) := (serve o s e tracesTaken d).run.run { scope := held }
  let held := (tracer.map (loadTracer · situation.exchanges situation.scope)).getD situation.scope
  let (result, scope) := held.guard fun scope => (r, scope)
  { result
    log := scope.trace.flatMap fun (_, event) => heralds s e event ++ event.entry?.toList
    situation := { situation with scope } }

end App

end Phrasebook
