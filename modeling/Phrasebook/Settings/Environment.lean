import Phrasebook.Settings.Field
import Phrasebook.Settings.Redaction
/-!
# The environment

What the service learns from the process environment: the mode it runs in, and where its database, cache
and brokers are. Its passwords are never shown, and neither are credentials in addresses.
-/

set_option autoImplicit false

namespace Phrasebook

/-- What the process environment tells. -/
structure Environment where
  /-- The mode. -/
  runMode : String
  postgresHost : String
  postgresPortNumber : Nat
  postgresUser : String
  postgresPassword : String
  postgresDatabase : String
  /-- The host and socket of the cache. -/
  redisHost : String
  redisPassword : Option String
  /-- The number of the database in the cache. -/
  redisDb : Nat
  amqpUrl : String
  natsUrl : String
deriving DecidableEq, Inhabited

namespace Environment

open Settings

/-- What is read. -/
def shape : Shape :=
  let emptyText (name : String) : Field := ⟨name, .text, some (.text "")⟩
  ⟨"CommonEnv", [⟨"run_mode", .text, none⟩, ⟨"postgres_host", .text, none⟩,
    ⟨"postgres_port", .nat "u16" 16, none⟩, ⟨"postgres_user", .text, none⟩,
    ⟨"postgres_password", .text, none⟩, ⟨"postgres_database", .text, none⟩, emptyText "redis_host",
    ⟨"redis_password", .optionalText, some .absent⟩, ⟨"redis_db", .nat "u32" 32, some (.int 0)⟩,
    emptyText "amqp_url", emptyText "nats_url"]⟩

/-- The environment with these values. -/
def ofFields (f : Fields) : Environment where
  runMode := f.text "run_mode"
  postgresHost := f.text "postgres_host"
  postgresPortNumber := f.nat "postgres_port"
  postgresUser := f.text "postgres_user"
  postgresPassword := f.text "postgres_password"
  postgresDatabase := f.text "postgres_database"
  redisHost := f.text "redis_host"
  redisPassword := f.text? "redis_password"
  redisDb := f.nat "redis_db"
  amqpUrl := f.text "amqp_url"
  natsUrl := f.text "nats_url"

/-- The values of an environment. -/
def fields (e : Environment) : Fields :=
  [("run_mode", .text e.runMode), ("postgres_host", .text e.postgresHost),
    ("postgres_port", .int e.postgresPortNumber), ("postgres_user", .text e.postgresUser),
    ("postgres_password", .text e.postgresPassword), ("postgres_database", .text e.postgresDatabase),
    ("redis_host", .text e.redisHost), ("redis_password", .ofText? e.redisPassword),
    ("redis_db", .int e.redisDb), ("amqp_url", .text e.amqpUrl), ("nats_url", .text e.natsUrl)]

/-- The JSON form. -/
def toJson (e : Environment) : Json := e.fields.toJson

/-- What is shown: no passwords, and addresses without credentials. -/
def shown (e : Environment) : List (String × String) :=
  [("run_mode", Text.quoted e.runMode), ("postgres_host", Text.quoted e.postgresHost),
    ("postgres_port", toString e.postgresPortNumber), ("postgres_user", Text.quoted e.postgresUser),
    ("postgres_database", Text.quoted e.postgresDatabase), ("redis_host", Text.quoted e.redisHost),
    ("redis_db", toString e.redisDb), ("amqp_url", Text.quoted (redact e.amqpUrl)),
    ("nats_url", Text.quoted (redact e.natsUrl))]

/-- The environment on one line. -/
def «show» (e : Environment) : String := showNamed shape.name e.shown

/-- The environment on several lines. -/
def showLines (e : Environment) : String := showNamedLines shape.name e.shown

end Environment

end Phrasebook
