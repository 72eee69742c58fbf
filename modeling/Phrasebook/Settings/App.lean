import Phrasebook.Settings.Field
/-!
# The settings of the service

One structure per section. Each section has a shape, from which it is read, and a list of fields, by which
it is shown.
-/

set_option autoImplicit false

namespace Phrasebook.Settings

/-- The service itself. -/
structure Info where
  /-- Its name. -/
  name : String
  /-- Its version. -/
  version : String
deriving DecidableEq, Inhabited

/-- Logging. -/
structure Logging where
  /-- Which levels are logged. -/
  level : String
  /-- The file, if there is one. -/
  file : Option String
  /-- Whether the log goes to the console. -/
  console : Bool
  /-- How many files are kept. -/
  maxFiles : Nat
deriving DecidableEq, Inhabited

/-- The HTTP entry point. -/
structure HttpEntry where
  /-- The number of its socket. -/
  portNumber : Nat
  /-- Whether the headers of a proxy name the client. -/
  trustProxy : Bool
deriving DecidableEq, Inhabited

/-- The gRPC entry point. -/
structure GrpcEntry where
  /-- Whether it is there. -/
  enabled : Bool
  /-- The number of its socket. -/
  portNumber : Nat
deriving DecidableEq, Inhabited

/-- A message broker. -/
structure BrokerEntry where
  /-- Whether it is used. -/
  enabled : Bool
  /-- Where requests arrive. -/
  address : String
deriving DecidableEq, Inhabited

/-- The cache. -/
structure CacheEntry where
  /-- Whether it is used. -/
  enabled : Bool
  /-- For how many seconds a list is kept. -/
  ttlSecs : Nat
deriving DecidableEq, Inhabited

/-- The pool of database connections. -/
structure Pool where
  /-- The most connections. -/
  maxConnections : Nat
  /-- The fewest connections. -/
  minConnections : Nat
  /-- After how many idle seconds one is closed. -/
  idleSecs : Nat
  /-- After how many seconds one is closed in any case. -/
  lifetimeSecs : Nat
  /-- How many seconds to wait for one. -/
  acquireSecs : Nat
  /-- Whether one is tried before it is used. -/
  testFirst : Bool
deriving DecidableEq, Inhabited

/-- The limit on requests. -/
structure Limit where
  /-- How many requests. -/
  max : Nat
  /-- In how many seconds. -/
  intervalSecs : Int
deriving DecidableEq, Inhabited

/-- Tracing. -/
structure Tracing where
  /-- Whether it is on. -/
  enabled : Bool
  /-- Where traces go. -/
  url : String
  /-- Under which name. -/
  serviceName : String
deriving DecidableEq, Inhabited

end Phrasebook.Settings

namespace Phrasebook

open Settings in
/-- All settings. -/
structure Settings where
  app : Info
  logging : Logging
  http : HttpEntry
  grpc : GrpcEntry
  amqp : BrokerEntry
  nats : BrokerEntry
  redis : CacheEntry
  postgres : Pool
  rateLimit : Limit
  /-- Which origins may read the responses. -/
  allowOrigins : String
  /-- How many seconds each part has to stop. -/
  shutdownSecs : Nat
  /-- Whether requests are counted. -/
  metrics : Bool
  tracer : Tracing
deriving DecidableEq, Inhabited

end Phrasebook

namespace Phrasebook.Settings

/-- A field of type text. -/
def textField (name : String) : Field := ⟨name, .text, none⟩

/-- A field of type flag. -/
def flagField (name : String) : Field := ⟨name, .flag, none⟩

/-- A flag that is off when left out. -/
def offField (name : String) : Field := ⟨name, .flag, some (.flag false)⟩

/-- A socket number. -/
def portField (name : String) : Field := ⟨name, .nat "u16" 16, none⟩

/-- A number of 32 bits. -/
def nat32Field (name : String) : Field := ⟨name, .nat "u32" 32, none⟩

/-- A number of 64 bits. -/
def nat64Field (name : String) : Field := ⟨name, .nat "u64" 64, none⟩

/-! ## Shapes -/

def Info.shape : Shape := ⟨"AppInfo", [textField "name", textField "version"]⟩

def Logging.shape : Shape :=
  ⟨"LoggingConfig", [textField "level", ⟨"file", .optionalText, some .absent⟩, flagField "console",
    ⟨"rotation_max_files", .nat "usize" 64, none⟩]⟩

def HttpEntry.shape : Shape := ⟨"HttpConfig", [portField "port", offField "trust_proxy_headers"]⟩

def GrpcEntry.shape : Shape := ⟨"GrpcConfig", [flagField "enabled", portField "port"]⟩

/-- The shape of the section for AMQP. -/
def amqpShape : Shape := ⟨"AmqpConfig", [flagField "enabled", textField "server_exchange"]⟩

/-- The shape of the section for NATS. -/
def natsShape : Shape := ⟨"NatsConfig", [flagField "enabled", textField "server_subject"]⟩

def CacheEntry.shape : Shape := ⟨"RedisConfig", [flagField "enabled", nat64Field "history_ttl_secs"]⟩

/-- How many seconds to wait for a connection, unless set. -/
def defaultAcquireSecs : Nat := 30

def Pool.shape : Shape :=
  ⟨"PostgresConfig", [nat32Field "max_connections", nat32Field "min_connections",
    nat64Field "idle_timeout_secs", nat64Field "max_lifetime_secs",
    ⟨"acquire_timeout_secs", .nat "u64" 64, some (.int defaultAcquireSecs)⟩,
    offField "test_before_acquire"]⟩

def Limit.shape : Shape := ⟨"RateLimitConfig", [nat32Field "max", ⟨"interval_secs", .int64, none⟩]⟩

/-- The shape of the section for other origins. -/
def corsShape : Shape := ⟨"CorsConfig", [textField "allow_origins"]⟩

/-- The shape of the section for stopping. -/
def shutdownShape : Shape := ⟨"ShutdownConfig", [nat64Field "timeout_secs"]⟩

/-- The shape of the section for metrics. -/
def metricsShape : Shape := ⟨"MetricsConfig", [flagField "enabled"]⟩

def Tracing.shape : Shape :=
  ⟨"TracerConfig", [flagField "enabled", textField "url", textField "service_name"]⟩

/-! ## Sections and their fields -/

def Info.ofFields (f : Fields) : Info := ⟨f.text "name", f.text "version"⟩

def Info.fields (x : Info) : Fields := [("name", .text x.name), ("version", .text x.version)]

def Logging.ofFields (f : Fields) : Logging :=
  ⟨f.text "level", f.text? "file", f.flag "console", f.nat "rotation_max_files"⟩

def Logging.fields (x : Logging) : Fields :=
  [("level", .text x.level), ("file", .ofText? x.file), ("console", .flag x.console),
    ("rotation_max_files", .int x.maxFiles)]

def HttpEntry.ofFields (f : Fields) : HttpEntry := ⟨f.nat "port", f.flag "trust_proxy_headers"⟩

def HttpEntry.fields (x : HttpEntry) : Fields :=
  [("port", .int x.portNumber), ("trust_proxy_headers", .flag x.trustProxy)]

def GrpcEntry.ofFields (f : Fields) : GrpcEntry := ⟨f.flag "enabled", f.nat "port"⟩

def GrpcEntry.fields (x : GrpcEntry) : Fields := [("enabled", .flag x.enabled), ("port", .int x.portNumber)]

/-- The section for AMQP. -/
def amqpOfFields (f : Fields) : BrokerEntry := ⟨f.flag "enabled", f.text "server_exchange"⟩

/-- The fields of the section for AMQP. -/
def amqpFields (x : BrokerEntry) : Fields :=
  [("enabled", .flag x.enabled), ("server_exchange", .text x.address)]

/-- The section for NATS. -/
def natsOfFields (f : Fields) : BrokerEntry := ⟨f.flag "enabled", f.text "server_subject"⟩

/-- The fields of the section for NATS. -/
def natsFields (x : BrokerEntry) : Fields :=
  [("enabled", .flag x.enabled), ("server_subject", .text x.address)]

def CacheEntry.ofFields (f : Fields) : CacheEntry := ⟨f.flag "enabled", f.nat "history_ttl_secs"⟩

def CacheEntry.fields (x : CacheEntry) : Fields :=
  [("enabled", .flag x.enabled), ("history_ttl_secs", .int x.ttlSecs)]

def Pool.ofFields (f : Fields) : Pool :=
  ⟨f.nat "max_connections", f.nat "min_connections", f.nat "idle_timeout_secs", f.nat "max_lifetime_secs",
    f.nat "acquire_timeout_secs", f.flag "test_before_acquire"⟩

def Pool.fields (x : Pool) : Fields :=
  [("max_connections", .int x.maxConnections), ("min_connections", .int x.minConnections),
    ("idle_timeout_secs", .int x.idleSecs), ("max_lifetime_secs", .int x.lifetimeSecs),
    ("acquire_timeout_secs", .int x.acquireSecs), ("test_before_acquire", .flag x.testFirst)]

def Limit.ofFields (f : Fields) : Limit := ⟨f.nat "max", f.int "interval_secs"⟩

def Limit.fields (x : Limit) : Fields := [("max", .int x.max), ("interval_secs", .int x.intervalSecs)]

def Tracing.ofFields (f : Fields) : Tracing := ⟨f.flag "enabled", f.text "url", f.text "service_name"⟩

def Tracing.fields (x : Tracing) : Fields :=
  [("enabled", .flag x.enabled), ("url", .text x.url), ("service_name", .text x.serviceName)]

/-! ## All of them -/

/-- A section: its key, its shape, and its fields when it is left out, if it may be. -/
structure Section where
  /-- The key. -/
  key : String
  /-- The shape. -/
  shape : Shape
  /-- The fields when it is left out. -/
  whenAbsent : Option Fields := none

/-- Where traces go, unless set. -/
def defaultTraceUrl : String := "http://localhost:4318/v1/traces"

/-- The name of the type of all settings. -/
def typeName : String := "AppConfig"

/-- The sections, in order. -/
def sections : List Section :=
  [⟨"app", Info.shape, none⟩, ⟨"logging", Logging.shape, none⟩, ⟨"http", HttpEntry.shape, none⟩,
    ⟨"grpc", GrpcEntry.shape, none⟩, ⟨"amqp", amqpShape, none⟩, ⟨"nats", natsShape, none⟩,
    ⟨"redis", CacheEntry.shape, some (CacheEntry.fields ⟨false, 60⟩)⟩,
    ⟨"postgres", Pool.shape, some (Pool.fields ⟨32, 1, 600, 1800, defaultAcquireSecs, false⟩)⟩,
    ⟨"rate_limit", Limit.shape, some (Limit.fields ⟨100, 60⟩)⟩,
    ⟨"cors", corsShape, some [("allow_origins", .text "*")]⟩,
    ⟨"shutdown", shutdownShape, some [("timeout_secs", .int 5)]⟩,
    ⟨"metrics", metricsShape, some [("enabled", .flag true)]⟩,
    ⟨"tracer", Tracing.shape, some (Tracing.fields ⟨false, defaultTraceUrl, "translation"⟩)⟩]

/-- The settings with these sections. -/
def ofSections (s : List (String × Fields)) : Settings :=
  let get (key : String) : Fields := (s.lookup key).getD []
  { app := Info.ofFields (get "app")
    logging := Logging.ofFields (get "logging")
    http := HttpEntry.ofFields (get "http")
    grpc := GrpcEntry.ofFields (get "grpc")
    amqp := amqpOfFields (get "amqp")
    nats := natsOfFields (get "nats")
    redis := CacheEntry.ofFields (get "redis")
    postgres := Pool.ofFields (get "postgres")
    rateLimit := Limit.ofFields (get "rate_limit")
    allowOrigins := (get "cors").text "allow_origins"
    shutdownSecs := (get "shutdown").nat "timeout_secs"
    metrics := (get "metrics").flag "enabled"
    tracer := Tracing.ofFields (get "tracer") }

/-- The sections of the settings, with their values. -/
def toSections (s : Settings) : List (String × Fields) :=
  [("app", s.app.fields), ("logging", s.logging.fields), ("http", s.http.fields), ("grpc", s.grpc.fields),
    ("amqp", amqpFields s.amqp), ("nats", natsFields s.nats), ("redis", s.redis.fields),
    ("postgres", s.postgres.fields), ("rate_limit", s.rateLimit.fields),
    ("cors", [("allow_origins", .text s.allowOrigins)]), ("shutdown", [("timeout_secs", .int s.shutdownSecs)]),
    ("metrics", [("enabled", .flag s.metrics)]), ("tracer", s.tracer.fields)]

/-- The JSON form. -/
def toJson (s : Settings) : Json := .obj (s.toSections.map fun (key, f) => (key, f.toJson))

/-- How the settings are shown. -/
def «show» (s : Settings) : String :=
  let values := s.toSections
  showNamed typeName (sections.map fun sec =>
    (sec.key, sec.shape.show ((values.lookup sec.key).getD [])))

/-- The address at which HTTP is served. -/
def httpAddress (s : Settings) : String := "0.0.0.0:" ++ toString s.http.portNumber

/-- The address at which gRPC is served. -/
def grpcAddress (s : Settings) : String := "0.0.0.0:" ++ toString s.grpc.portNumber

end Phrasebook.Settings
