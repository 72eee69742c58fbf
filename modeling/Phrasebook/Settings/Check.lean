import Phrasebook.Settings.App
import Phrasebook.Settings.Environment
import Phrasebook.RateLimit.Limiter
/-!
# Checks

Settings that are well-formed can still make no sense. They are checked once, before anything is built; the
first thing that is wrong is told.
-/

set_option autoImplicit false

namespace Phrasebook.Settings

/-- What can be wrong. -/
inductive Problem where
  | levelEmpty
  | noLogTarget
  | noLogFiles
  | noConnections
  | tooManyIdle
  | noIdleTimeout
  | noLifetime
  | noAcquireTimeout
  | traceUrlEmpty
  | traceNameEmpty
  | nameEmpty
  | httpPortZero
  | grpcPortZero
  | portConflict (number : Nat)
  | exchangeEmpty
  | subjectEmpty
  | noTtl
  | noLimit
  | intervalTooLong
  | noShutdownTimeout
  | amqpUrlMissing
  | natsUrlMissing
  | redisHostMissing
  | runModeUnknown (mode : String)
  | postgresHostEmpty
  | postgresPortZero
  | postgresUserEmpty
  | postgresDatabaseEmpty
deriving DecidableEq

/-- The wording of a problem. -/
def Problem.message : Problem → String
  | .levelEmpty => "Logging level is empty"
  | .noLogTarget => "Logging file and console are both empty"
  | .noLogFiles => "Logging rotation_max_files must be greater than 0"
  | .noConnections => "Postgres max_connections must be greater than 0"
  | .tooManyIdle => "Postgres min_connections must not exceed max_connections"
  | .noIdleTimeout => "Postgres idle_timeout_secs must be greater than 0"
  | .noLifetime => "Postgres max_lifetime_secs must be greater than 0"
  | .noAcquireTimeout => "Postgres acquire_timeout_secs must be greater than 0"
  | .traceUrlEmpty => "Tracer url is empty"
  | .traceNameEmpty => "Tracer service_name is empty"
  | .nameEmpty => "App name is empty"
  | .httpPortZero => "HTTP port must be greater than 0"
  | .grpcPortZero => "gRPC port must be greater than 0"
  | .portConflict n => "gRPC port " ++ toString n ++ " conflicts with HTTP port"
  | .exchangeEmpty => "AMQP server_exchange is empty"
  | .subjectEmpty => "NATS server_subject is empty"
  | .noTtl => "Redis history_ttl_secs must be greater than 0"
  | .noLimit => "Rate limit max and interval_secs must be greater than 0"
  | .intervalTooLong =>
    "Rate limit interval_secs must not exceed " ++ toString RateLimit.maxIntervalSecs
  | .noShutdownTimeout => "Shutdown timeout_secs must be greater than 0"
  | .amqpUrlMissing => "AMQP is enabled but AMQP_URL is empty"
  | .natsUrlMissing => "NATS is enabled but NATS_URL is empty"
  | .redisHostMissing => "Redis is enabled but REDIS_HOST is empty"
  | .runModeUnknown mode => "Invalid RUN_MODE: " ++ mode ++ ". Must be either 'dev' or 'prod'"
  | .postgresHostEmpty => "PostgreSQL host is empty"
  | .postgresPortZero => "PostgreSQL port must be greater than 0"
  | .postgresUserEmpty => "PostgreSQL user is empty"
  | .postgresDatabaseEmpty => "PostgreSQL database is empty"

/-- The first problem in a list of conditions. -/
def firstProblem : List (Bool × Problem) → Except Problem Unit
  | [] => .ok ()
  | (wrong, p) :: rest => if wrong then .error p else firstProblem rest

/-- Checks the logging. -/
def Logging.check (l : Logging) : Except Problem Unit :=
  firstProblem [(l.level.isEmpty, .levelEmpty), (l.file.isNone && !l.console, .noLogTarget),
    (!l.console && l.maxFiles == 0, .noLogFiles)]

/-- Checks the pool. -/
def Pool.check (p : Pool) : Except Problem Unit :=
  firstProblem [(p.maxConnections == 0, .noConnections), (p.minConnections > p.maxConnections, .tooManyIdle),
    (p.idleSecs == 0, .noIdleTimeout), (p.lifetimeSecs == 0, .noLifetime),
    (p.acquireSecs == 0, .noAcquireTimeout)]

/-- Checks the tracing. -/
def Tracing.check (t : Tracing) : Except Problem Unit :=
  firstProblem [(t.enabled && t.url.isEmpty, .traceUrlEmpty),
    (t.enabled && t.serviceName.isEmpty, .traceNameEmpty)]

/-- Checks all settings. -/
def check (s : Settings) : Except Problem Unit := do
  s.logging.check
  s.postgres.check
  s.tracer.check
  firstProblem [(s.app.name.isEmpty, .nameEmpty), (s.http.portNumber == 0, .httpPortZero),
    (s.grpc.enabled && s.grpc.portNumber == 0, .grpcPortZero),
    (s.grpc.enabled && s.grpc.portNumber == s.http.portNumber, .portConflict s.grpc.portNumber),
    (s.amqp.enabled && s.amqp.address.isEmpty, .exchangeEmpty),
    (s.nats.enabled && s.nats.address.isEmpty, .subjectEmpty),
    (s.redis.enabled && s.redis.ttlSecs == 0, .noTtl),
    (s.rateLimit.max == 0 || s.rateLimit.intervalSecs ≤ 0, .noLimit),
    (s.rateLimit.intervalSecs > RateLimit.maxIntervalSecs, .intervalTooLong),
    (s.shutdownSecs == 0, .noShutdownTimeout)]

/-- What is used has to have an address in the environment. -/
def checkEnvironment (s : Settings) (e : Environment) : Except Problem Unit :=
  firstProblem [(s.amqp.enabled && e.amqpUrl.isEmpty, .amqpUrlMissing),
    (s.nats.enabled && e.natsUrl.isEmpty, .natsUrlMissing),
    (s.redis.enabled && e.redisHost.isEmpty, .redisHostMissing)]

/-- The modes there are. -/
def runModes : List String := ["dev", "prod"]

/-- Checks a mode. -/
def checkRunMode (mode : String) : Except Problem Unit :=
  firstProblem [(!runModes.contains mode, .runModeUnknown mode)]

end Phrasebook.Settings

namespace Phrasebook

open Settings in
/-- Checks the environment. -/
def Environment.check (e : Environment) : Except Problem Unit := do
  checkRunMode e.runMode
  firstProblem [(e.postgresHost.isEmpty, .postgresHostEmpty), (e.postgresPortNumber == 0, .postgresPortZero),
    (e.postgresUser.isEmpty, .postgresUserEmpty), (e.postgresDatabase.isEmpty, .postgresDatabaseEmpty)]

end Phrasebook
