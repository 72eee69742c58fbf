import Phrasebook.Program
/-!
# The command

Reads the environment variables and the files that loading looks at, runs the program with nobody there to
connect to, and writes what it leaves. What is read and what is made of it is decided elsewhere; here is
only the reading and the writing.
-/

set_option autoImplicit false

namespace Phrasebook.Command

/-- A file, if it can be read. -/
def readFile? (path : String) : IO (Option (String × Bytes)) := do
  let .ok b ← (IO.FS.readBinFile path).toBaseIO | return none
  return some (path, b.toList)

/-- The files among some paths. -/
def readFiles : List String → IO (List (String × Bytes))
  | [] => return []
  | path :: rest => do return (← readFile? path).toList ++ (← readFiles rest)

/-- The environment variables in the list that the system keeps of them. -/
def variablesOf (list : String) : List (String × String) :=
  (list.splitOn "\x00").filterMap fun entry =>
    match entry.splitOn "=" with
    | name :: value :: more => some (name, "=".intercalate (value :: more))
    | _ => none

/-- What the process finds around it. -/
def readHost : IO Host := do
  let list := (← readFile? "/proc/self/environ").map fun (_, b) => Text.decodeLossy b
  let given := variablesOf (list.getD "")
  let first : Host := { files := ← readFiles [Settings.environmentFile], «variables» := given }
  match (Settings.loadEnvironment first Settings.environmentFile).2.result with
  | .ok e =>
    let more ← readFiles (Settings.candidatePaths (Settings.settingsFolder ++ "/" ++ e.runMode))
    return { first with files := first.files ++ more }
  | .error _ => return first

/-- A day without requests. -/
def quietDay : Day where
  surroundings := { freshId := "", freshTrace := "", timestamp := "", elapsed := "", now := 0 }
  ending := .signal "SIGTERM"

/-- Writes the log to where it goes. -/
def writeLog (o : Program.Outcome) : IO Unit := do
  let lines := o.log.map LogLine.render
  match o.sink with
  | some (.file directory name) => do
    IO.FS.createDirAll directory
    IO.FS.writeFile (directory ++ "/" ++ name) (String.join (lines.map (· ++ "\n")))
  | _ => lines.forM IO.println

/-- Runs the program, writes what it leaves and gives its exit code. -/
def run : IO UInt32 := do
  let o := Program.run (← readHost) {} quietDay
  o.printed.forM IO.println
  writeLog o
  o.errors.forM IO.eprintln
  return o.exit.toUInt32

end Phrasebook.Command

/-- Runs the program and gives its exit code. -/
def main : IO UInt32 := Phrasebook.Command.run
