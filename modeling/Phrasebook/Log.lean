/-!
# Log lines

What the parts of the service write to the log, as a level and a text.
-/

set_option autoImplicit false

namespace Phrasebook

/-- How important a log line is. -/
inductive Level where
  | error
  | warn
  | info
  | debug
  | trace
deriving DecidableEq, Inhabited, Repr

/-- The name of a level. -/
def Level.name : Level → String
  | .error => "ERROR"
  | .warn => "WARN"
  | .info => "INFO"
  | .debug => "DEBUG"
  | .trace => "TRACE"

/-- A line of the log. -/
structure LogLine where
  /-- Its level. -/
  level : Level
  /-- Its text. -/
  text : String
deriving DecidableEq, Inhabited

/-- The line as it is written. -/
def LogLine.render (l : LogLine) : String := l.level.name ++ " " ++ l.text

/-- The parts of the service that write to the log. -/
inductive Part where
  | logging
  | signals
  | cachePool
  | databasePool
  | app
  | slots
  | supervisor
  | task
  | resources
  | book
  | site
  | amqp
  | nats
deriving DecidableEq, Inhabited

/-- The name by which a filter calls a part. -/
def Part.target : Part → String
  | .logging => "common::logging"
  | .signals => "common::graceful"
  | .cachePool => "common::redis_pool"
  | .databasePool => "common::postgres_pool"
  | .app => "translation::app"
  | .slots => "translation::slot"
  | .supervisor => "translation::orchestrator"
  | .task => "translation::service"
  | .resources => "translation::resources"
  | .book => "translation::usecase"
  | .site => "translation::router"
  | .amqp => "translation::amqp_rpc"
  | .nats => "translation::nats_rpc"

/-- A line of the log with the part that writes it. -/
structure LogEntry where
  /-- The part. -/
  part : Part
  /-- The line. -/
  line : LogLine
deriving DecidableEq, Inhabited

end Phrasebook
