import Phrasebook.Logging.Filter
import Phrasebook.Settings.App
/-!
# Where the log goes

The log is written to the console or to a file that is named anew every day. The filter is read when the
place is known, and there can be only one log in a process.
-/

set_option autoImplicit false

namespace Phrasebook.Logging

/-- Where the log is written. -/
inductive Sink where
  | console
  /-- A file of this name, to which the day is added, in a directory. -/
  | file (directory name : String)
deriving DecidableEq, Inhabited

/-- Why the log cannot be set up. -/
inductive SetupError where
  /-- No place is given. -/
  | nowhere
  /-- The path of the log file has no directory. -/
  | noDirectory (path : String)
  /-- The path of the log file has no name. -/
  | noName (path : String)
  /-- The filter cannot be read. -/
  | filter (e : FilterError)
  /-- There is a log already. -/
  | taken (s : Sink)
deriving DecidableEq, Inhabited

/-- The error with its causes. -/
def SetupError.chain : SetupError → Chain
  | .nowhere => ⟨"Logging file and console are both empty", []⟩
  | .noDirectory path => ⟨"Log file " ++ path ++ " has no parent directory", []⟩
  | .noName path => ⟨"Log file " ++ path ++ " has no valid file name", []⟩
  | .filter e => e.chain
  | .taken s =>
    let place := match s with
      | .console => "console"
      | .file .. => "file"
    ⟨"Failed to init " ++ place ++
      " logging: a global default trace dispatcher has already been set", []⟩

/-- What is said in a new log. -/
def Sink.greeting : Sink → LogLine
  | .console => ⟨.info, "Console logging system initialized"⟩
  | .file .. => ⟨.info, "File logging system initialized"⟩

/-- The steps of a path. Steps to the same place count only at the start of a relative path. -/
def pathParts (path : String) : List String :=
  match path.splitOn "/" with
  | first :: rest =>
    (if first.isEmpty then [] else [first]) ++ rest.filter fun p => !p.isEmpty && p != "."
  | [] => []

/-- Where a log file of a path is written. -/
def Sink.ofPath? (path : String) : Except SetupError Sink :=
  match (pathParts path).reverse with
  | [] => .error (.noDirectory path)
  | name :: before =>
    if name == ".." || name == "." then .error (.noName path)
    else
      let directory := "/".intercalate before.reverse
      .ok (.file (if path.startsWith "/" then "/" ++ directory else directory) name)

/-- Where the log is written by the settings, and through which filter. -/
def plan (l : Settings.Logging) : Except SetupError (Sink × Filter) := do
  let sink ← if l.console then .ok .console else
    match l.file with
    | some path => Sink.ofPath? path
    | none => .error .nowhere
  let filter ← (Filter.ofText? l.level).mapError .filter
  return (sink, filter)

/-- Sets the log up, if there is none yet. -/
def setUp (l : Settings.Logging) (taken : Bool) : Except SetupError (Sink × Filter) := do
  let (sink, filter) ← plan l
  if taken then .error (.taken sink) else return (sink, filter)

end Phrasebook.Logging
