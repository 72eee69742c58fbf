import Phrasebook.Address
import Phrasebook.Chain
import Phrasebook.Log
import Phrasebook.Phrase
import Phrasebook.Settings.Address
/-!
# The database behind its connections

The database keeps every phrase in one table. Its connections are opened to an address that is put together
from the environment, and tried once before they are used.
-/

set_option autoImplicit false

namespace Phrasebook.Storage

/-- What the database is asked. -/
inductive Statement where
  /-- Whether it answers. -/
  | probe
  /-- A page of the table, newest phrase first. -/
  | select (limit offset : Nat)
  /-- To keep a phrase. -/
  | insert (p : Phrase)
deriving DecidableEq

/-- The words of a statement. -/
def Statement.sql : Statement → String
  | .probe => "SELECT 1"
  | .select .. =>
    "SELECT source, destination, original, translation FROM history ORDER BY created_at DESC LIMIT $1 OFFSET $2"
  | .insert _ => "INSERT INTO history (source, destination, original, translation) VALUES ($1, $2, $3, $4)"

/-- The first word of a statement. -/
def Statement.verb : Statement → String
  | .insert _ => "INSERT"
  | _ => "SELECT"

/-- What is given with a statement. -/
inductive Parameter where
  | number (n : Nat)
  | text (s : String)
deriving DecidableEq

/-- What is given with a statement, in order. -/
def Statement.parameters : Statement → List Parameter
  | .probe => []
  | .select limit offset => [.number limit, .number offset]
  | .insert p => [.text p.source, .text p.target, .text p.text, .text p.rendering]

/-- Why the database did not do what it was asked. -/
inductive DatabaseFailure where
  /-- Its address is none. -/
  | address (f : Address.Fault)
  /-- A part of its address is no text. -/
  | notText (fault : Nat × Option Nat)
  /-- Nobody listened at its address as long as it was tried. -/
  | unreachable
  /-- The connections are closed. -/
  | closed
  /-- It refuses, and says why. -/
  | refused (said : String)
deriving DecidableEq, Inhabited

/-- The failure with its cause. -/
def DatabaseFailure.chain : DatabaseFailure → Chain
  | .address f => ⟨f.message, ["error with configuration: " ++ f.message]⟩
  | .notText f => ⟨Text.faultMessage f, ["error with configuration: " ++ Text.faultMessage f]⟩
  | .unreachable => ⟨"pool timed out while waiting for an open connection", []⟩
  | .closed => ⟨"attempted to acquire a connection on a closed pool", []⟩
  | .refused said => ⟨said, ["error returned from database: " ++ said]⟩

/-- Who a connection says it is, and which database it wants. -/
structure Greeting where
  /-- The user. -/
  user : String
  /-- The database, unless it is the usual one. -/
  database : Option String
deriving DecidableEq, Inhabited

/-- The database. -/
structure Database where
  /-- The phrases in the table, oldest first. -/
  rows : List Phrase := []
  /-- What it says to the statements that it refuses, by their first words. -/
  refusing : List (String × String) := []
  /-- Whether the connections are closed. -/
  closed : Bool := false

/-- Where the database is. -/
structure DatabasePlace where
  user : String
  password : String
  host : String
  portNumber : Nat
  name : String

/-- How many connections there may be. -/
structure PoolBounds where
  most : Nat
  fewest : Nat

namespace DatabasePlace

/-- The address of the place. -/
def url (p : DatabasePlace) : String := Settings.databaseUrl p.user p.password p.host p.portNumber p.name

/-- What a written part of the address means. -/
def meaning (written : String) : Except DatabaseFailure String :=
  let b := Text.Percent.decode (Text.encode written)
  match Text.decode? b with
  | some s => .ok s
  | none => .error (.notText ((Text.fault? b).getD (0, none)))

/-- What a connection to the place says first. -/
def greeting? (p : DatabasePlace) : Except DatabaseFailure Greeting := do
  let address ← (Address.ofText? p.url).mapError .address
  let user ← meaning address.user
  let _ ← meaning (address.password.getD "")
  let path := String.ofList (address.path.toList.dropWhile (· == '/'))
  let database ← meaning path
  return ⟨user, if database.isEmpty then none else some database⟩

/-- The line that tells that the database answers. -/
def readyLine (p : DatabasePlace) (b : PoolBounds) : LogLine :=
  ⟨.info, "PostgreSQL pool initialized: " ++ p.host ++ ":" ++ toString p.portNumber ++ "/" ++ p.name ++
    " (max: " ++ toString b.most ++ ", min: " ++ toString b.fewest ++ ")"⟩

end DatabasePlace

/-- What came of asking the database. -/
structure DatabaseReply (α : Type) where
  /-- The outcome. -/
  result : Except DatabaseFailure α
  /-- What it was asked. -/
  asked : List Statement
  /-- The database afterwards. -/
  database : Database

namespace Database

/-- Asks the database something. -/
def ask {α : Type} (d : Database) (s : Statement) (answer : α) (changed : Database) : DatabaseReply α :=
  if d.closed then ⟨.error .closed, [], d⟩
  else
    match d.refusing.lookup s.verb with
    | some said => ⟨.error (.refused said), [s], d⟩
    | none => ⟨.ok answer, [s], changed⟩

/-- Whether it answers. -/
def probe (d : Database) : DatabaseReply Unit := d.ask .probe () d

/-- A page of the table, newest phrase first. -/
def page (d : Database) (limit offset : Nat) : DatabaseReply History :=
  d.ask (.select limit offset) ⟨(d.rows.reverse.drop offset).take limit⟩ d

/-- Keeps a phrase. -/
def store (d : Database) (p : Phrase) : DatabaseReply Unit :=
  d.ask (.insert p) () { d with rows := d.rows ++ [p] }

/-- Closes the connections. -/
def close (d : Database) : Database := { d with closed := true }

/-- Opens the connections and tries one. -/
def open? (d : Option Database) (p : DatabasePlace) : Except DatabaseFailure Greeting × List Statement :=
  match p.greeting?, d with
  | .error f, _ => (.error f, [])
  | .ok _, none => (.error .unreachable, [])
  | .ok g, some d =>
    let r := d.probe
    (r.result.map fun _ => g, r.asked)

end Database

end Phrasebook.Storage
