import Phrasebook.Address
import Phrasebook.Chain
import Phrasebook.Log
import Phrasebook.Phrase
import Phrasebook.Settings.Address
/-!
# The cache behind its connection

The cache keeps the newest page as one JSON text under one key. It is reached through a connection on which
the password and the number of the database are told first. A connection that does not answer is given up
for a new one.
-/

set_option autoImplicit false

namespace Phrasebook.Storage

/-- What the cache is told. -/
inductive CacheCommand where
  /-- The password. -/
  | auth (password : String)
  /-- The number of the database. -/
  | select (db : Nat)
  /-- Reading the page. -/
  | get
  /-- Writing the page, for so many seconds. -/
  | setEx (ttlSecs : Nat) (text : Bytes)
  /-- Dropping the page. -/
  | del
deriving DecidableEq

/-- The key under which the page is kept. -/
def historyKey : String := "translation:history"

/-- The words of a command. -/
def CacheCommand.words : CacheCommand → List Bytes
  | .auth password => [Text.encode "AUTH", Text.encode password]
  | .select db => [Text.encode "SELECT", Text.encode (toString db)]
  | .get => [Text.encode "GET", Text.encode historyKey]
  | .setEx ttl text => [Text.encode "SETEX", Text.encode historyKey, Text.encode (toString ttl), text]
  | .del => [Text.encode "DEL", Text.encode historyKey]

/-- The command as it is named when it is refused. -/
def CacheCommand.verb : CacheCommand → String
  | .auth .. => "AUTH"
  | .select _ => "SELECT"
  | .get => "GET"
  | .setEx .. => "SETEX"
  | .del => "DEL"

/-- The command that only asks for an answer. -/
def pingVerb : String := "PING"

/-- Why the cache did not do what it was told. -/
inductive CacheFailure where
  /-- Its address is none. -/
  | address
  /-- Nobody listens at its address. -/
  | unreachable
  /-- The connections are closed. -/
  | closed
  /-- It refuses, and says why. -/
  | refused (said : String)
  /-- It refuses to answer at all, and says why. -/
  | mute (said : String)
  /-- What it holds under the key is no text. -/
  | notText
  /-- What it holds under the key is no page. -/
  | notHistory (message : String)
deriving DecidableEq, Inhabited

/-- What a refusal means, by its first word. -/
def refusalKinds : List (String × String) :=
  [("ERR", "ResponseError"), ("EXECABORT", "ExecAbortError"), ("LOADING", "BusyLoadingError"),
    ("NOSCRIPT", "NoScriptError"), ("MOVED", "Moved"), ("ASK", "Ask"), ("TRYAGAIN", "TryAgain"),
    ("CLUSTERDOWN", "ClusterDown"), ("CROSSSLOT", "CrossSlot"), ("MASTERDOWN", "MasterDown"),
    ("READONLY", "ReadOnly"), ("NOTBUSY", "NotBusy"), ("NOSUB", "NoSub"), ("NOPERM", "NoPerm")]

/-- How a refusal is told: its kind, if it is known, and what follows its first word. -/
def describeRefusal (said : String) : String :=
  let code := said.toList.takeWhile (· != ' ')
  let detail := said.toList.drop (code.length + 1)
  let code := String.ofList code
  match refusalKinds.lookup code with
  | some kind =>
    let signalled := "An error was signalled by the server"
    if said.contains ' ' then signalled ++ " - " ++ kind ++ ": " ++ String.ofList detail
    else signalled ++ "- " ++ kind
  | none => code ++ ": " ++
      if said.contains ' ' then String.ofList detail else "Unknown extension error encountered"

/-- The wording of a failure. -/
def CacheFailure.message : CacheFailure → String
  | .address => "Config: Redis: Redis URL did not parse- InvalidClientConfig"
  | .unreachable =>
    "Failed to get redis connection: Error occurred while creating a new object: " ++
      "Connection refused (os error 111)"
  | .closed => "Failed to get redis connection: Pool has been closed"
  | .refused said => describeRefusal said
  | .mute said => "Redis ping error: " ++ describeRefusal said
  | .notText => "Invalid UTF-8- TypeError"
  | .notHistory message => message

/-- The failure as a chain. -/
def CacheFailure.chain (f : CacheFailure) : Chain := ⟨f.message, []⟩

/-- The cache, and what is known about its connection. -/
structure Cache where
  /-- What is told on a new connection. -/
  login : List CacheCommand := []
  /-- For how many seconds a page is kept. -/
  ttlSecs : Nat := 0
  /-- What the cache holds under the key. -/
  stored : Option Bytes := none
  /-- What it says to the commands that it refuses. -/
  refusing : List (String × String) := []
  /-- Whether the connections are closed. -/
  closed : Bool := false

/-- What came of an exchange with the cache. -/
structure CacheReply (α : Type) where
  /-- The outcome. -/
  result : Except CacheFailure α
  /-- What the cache was told. -/
  commands : List CacheCommand
  /-- The cache afterwards. -/
  cache : Cache

namespace Cache

/-- What is told on a new connection. The address of the cache names no user. -/
def login? (host : String) (password : Option String) (db : Nat) : Except CacheFailure (List CacheCommand) := do
  let address ← (Address.ofText? (Settings.cacheUrl host password db)).mapError fun _ => CacheFailure.address
  let auth ← match address.password with
    | none => .ok []
    | some p =>
      match Address.unescape? p with
      | some p => .ok [CacheCommand.auth p]
      | none => .error .address
  return auth ++ (if db == 0 then [] else [.select db])

/-- Gets a connection: the one that there is, if it answers. -/
def connect (c : Cache) : Except CacheFailure (List CacheCommand) :=
  if c.closed then .error .closed
  else .ok (if c.refusing.any (·.1 == pingVerb) then c.login else [])

/-- Tells the cache something. -/
def tell {α : Type} (c : Cache) (command : CacheCommand) (answer : Except CacheFailure α × Cache) :
    CacheReply α :=
  match c.connect with
  | .error e => ⟨.error e, [], c⟩
  | .ok before =>
    match c.refusing.lookup command.verb with
    | some said => ⟨.error (.refused said), before ++ [command], c⟩
    | none => ⟨answer.1, before ++ [command], answer.2⟩

/-- The page in what the cache holds. -/
def page? : Option Bytes → Except CacheFailure (Option History)
  | none => .ok none
  | some b =>
    match Text.decode? b with
    | none => .error .notText
    | some _ =>
      match History.ofBytes? b with
      | .ok h => .ok (some h)
      | .error f => .error (.notHistory (f.message b))

/-- Reads the page. -/
def get (c : Cache) : CacheReply (Option History) := c.tell .get (page? c.stored, c)

/-- Writes the page. -/
def set (c : Cache) (h : History) : CacheReply Unit :=
  let text := h.toBytes
  c.tell (.setEx c.ttlSecs text) (.ok (), { c with stored := some text })

/-- Drops the page. -/
def invalidate (c : Cache) : CacheReply Unit := c.tell .del (.ok (), { c with stored := none })

/-- Asks for an answer. -/
def ping (c : Cache) : CacheReply Unit :=
  match c.connect with
  | .error e => ⟨.error e, [], c⟩
  | .ok before =>
    match c.refusing.lookup pingVerb with
    | some said => ⟨.error (.mute said), before, c⟩
    | none => ⟨.ok (), before, c⟩

/-- Closes the connections. -/
def close (c : Cache) : Cache := { c with closed := true }

/-- Opens the cache: nothing of this fails once the address is understood and somebody listens. -/
def open? (reachable : Bool) (host : String) (password : Option String) (db ttlSecs : Nat) :
    Except CacheFailure Cache := do
  let login ← login? host password db
  if reachable then return { login, ttlSecs } else .error .unreachable

end Cache

/-! ## Coming up -/

/-- How often the cache is tried when the service comes up. -/
def cacheAttempts : Nat := 10

/-- How many seconds pass between two attempts. -/
def cachePause : Nat := 1

/-- The lines that failed attempts leave, each with the number of those that are left. -/
def attemptLines (f : CacheFailure) : Nat → List LogLine
  | 0 => []
  | left + 1 =>
    ⟨.warn, "Redis is trying to connect (" ++ f.message ++ "), attempts left: " ++ toString (left + 1)⟩ ::
      attemptLines f left

/-- The failure after the last attempt. -/
def exhausted (f : CacheFailure) : Chain := ⟨"Redis connect attempts exhausted: " ++ f.message, []⟩

end Phrasebook.Storage
