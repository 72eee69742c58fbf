import Phrasebook.Chain
import Phrasebook.Json.Reader
import Phrasebook.Settings.FromValue
import Phrasebook.Settings.Check
import Phrasebook.Settings.EnvFile
import Phrasebook.Text.Utf8
import Phrasebook.Toml.Document
/-!
# Loading the settings

The environment is read first, after a file has added the variables that are not set. Its mode names the
settings file, over which variables with the prefix `TRANSLATION_` are laid. What has been read is reported
before it is checked.
-/

set_option autoImplicit false

namespace Phrasebook

/-- What the process finds around it. -/
structure Host where
  /-- The files below the working directory. -/
  files : List (String × Bytes) := []
  /-- The environment variables. -/
  «variables» : List (String × String) := []

/-- A path without needless steps. -/
def plainPath (path : String) : String :=
  let parts := (path.toList.splitOn '/').foldl (fun (acc : List (List Char)) part =>
    if part == [] || part == ['.'] then acc
    else if part == ['.', '.'] && !acc.isEmpty then acc.drop 1
    else part :: acc) []
  String.ofList (['/'].intercalate parts.reverse)

/-- The file at a path. -/
def Host.file? (h : Host) (path : String) : Option Bytes :=
  (h.files.find? fun f => plainPath f.1 == plainPath path).map (·.2)

namespace Settings

/-- Why loading fails. -/
inductive LoadError where
  /-- There is no settings file of a name. -/
  | notFound (name : String)
  /-- A settings file is of no known format. -/
  | unknownFormat (name : String)
  /-- A settings file cannot be read. -/
  | unreadable (path : String)
  /-- A settings file holds no table. -/
  | noTable (found path : String)
  /-- A number in a settings file is too large or too small. -/
  | outOfRange (large : Bool) (path : String)
  /-- The file of environment variables cannot be used. -/
  | envFile (f : EnvFile.Fault)
  /-- The values do not make settings. -/
  | misfit (m : Misfit)
  /-- The settings are not usable. -/
  | problem (p : Problem)

/-- The wording of an error. What is wrong inside a file is not told. -/
def LoadError.message : LoadError → String
  | .notFound name => "configuration file " ++ Text.quoted name ++ " not found"
  | .unknownFormat name =>
    "configuration file " ++ Text.quoted name ++ " is not of a registered file format"
  | .unreadable path => "cannot be read: " ++ path
  | .noTable found path => "invalid type: " ++ found ++ ", expected a map in " ++ path ++ " in " ++ path
  | .outOfRange large path =>
    "number too " ++ (if large then "large" else "small") ++ " to fit in target type in " ++ path
  | .envFile (.line text place) =>
    "Error parsing line: '" ++ text ++ "', error at line index: " ++ toString place
  | .envFile .notText => "stream did not contain valid UTF-8"
  | .misfit m => m.message
  | .problem p => p.message

/-- The error with its causes: a file that cannot be read as text gives its own message as the cause. -/
def LoadError.chain (e : LoadError) : Chain :=
  match e with
  | .envFile .notText => ⟨e.message, [e.message]⟩
  | _ => ⟨e.message, []⟩

/-! ## Settings files -/

mutual

/-- A TOML value from a file. Integers have to fit into 64 bits. -/
def Value.ofToml? (origin : String) : Toml → Except LoadError Value
  | .text s => .ok (.atom (some origin) (.text s))
  | .flag b => .ok (.atom (some origin) (.flag b))
  | .integer i =>
    if inInt64 i then .ok (.atom (some origin) (.int i)) else .error (.outOfRange (0 < i) origin)
  | .real x => .ok (.atom (some origin) (.real x))
  | .time s => .ok (.atom (some origin) (.text s))
  | .list l => (Value.itemsOfToml? origin l).map (.list (some origin))
  | .table m => (Value.membersOfToml? origin m).map (.table (some origin))

/-- The items of a TOML list. -/
def Value.itemsOfToml? (origin : String) : List Toml → Except LoadError (List Value)
  | [] => .ok []
  | t :: rest => do return (← Value.ofToml? origin t) :: (← itemsOfToml? origin rest)

/-- The members of a TOML table. -/
def Value.membersOfToml? (origin : String) :
    List (String × Toml) → Except LoadError (List (String × Value))
  | [] => .ok []
  | (k, t) :: rest => do return (k, ← Value.ofToml? origin t) :: (← membersOfToml? origin rest)

end

/-- The formats of settings files. -/
inductive FileFormat where
  | toml
  | json
deriving DecidableEq, Inhabited

/-- The ending of the names of a format's files. -/
def FileFormat.ending : FileFormat → String
  | .toml => ".toml"
  | .json => ".json"

/-- The formats in the order in which they are tried. -/
def FileFormat.all : List FileFormat := [.toml, .json]

/-- Reads a settings file. -/
def FileFormat.read (f : FileFormat) (path : String) (b : Bytes) :
    Except LoadError (List (String × Value)) :=
  let text := Text.decodeLossy (EnvFile.dropMark b)
  match f with
  | .toml =>
    match Toml.ofText? text with
    | some m => Value.membersOfToml? path m
    | none => .error (.unreadable path)
  | .json =>
    match Json.ofBytes? (Text.encode text) with
    | .ok (.obj m) => .ok (Value.membersOfJson path m)
    | .ok j => .error (.noTable (Value.ofJson path j).found path)
    | .error _ => .error (.unreadable path)

/-- The paths at which the settings file of a name may be. -/
def candidatePaths (name : String) : List String :=
  let path := plainPath name
  path :: FileFormat.all.map fun f => path ++ f.ending

/-- Finds the settings file of a name, which may lack its ending, and reads it. -/
def readFile (h : Host) (name : String) : Except LoadError (List (String × Value)) :=
  let path := plainPath name
  match h.file? path with
  | some b =>
    match FileFormat.all.find? fun f => path.endsWith f.ending with
    | some f => f.read path b
    | none => .error (.unknownFormat path)
  | none =>
    match FileFormat.all.findSome? fun f => (h.file? (path ++ f.ending)).map (f, ·) with
    | some (f, b) => f.read (path ++ f.ending) b
    | none => .error (.notFound name)

/-! ## Loading -/

/-- Something loaded, or why it was not, with what was reported on the way. -/
structure Loaded (α : Type) where
  /-- What was reported. -/
  printed : List String
  /-- What came of it. -/
  result : Except LoadError α

/-- What the names of the variables begin with that are laid over a settings file. -/
def overlayStart : String := "translation_"

/-- The settings of a mode, as they are in its file and in the environment. -/
def readSettings (h : Host) (folder mode : String) : Except LoadError Settings := do
  let file ← readFile h (folder ++ "/" ++ mode)
  let overlay := environmentValues (some overlayStart) h.variables
  let value := ((Value.table none []).laySource file).laySource overlay
  (ofValue? value).mapError .misfit

/-- Loads the settings of a mode. -/
def load (h : Host) (folder mode : String) : Loaded Settings :=
  match readSettings h folder mode with
  | .error e => ⟨[], .error e⟩
  | .ok s =>
    ⟨["Configuration loaded for mode: " ++ mode, "Configuration: " ++ s.show],
      (s.check.mapError .problem).map fun _ => s⟩

/-- The environment, as the variables tell it. -/
def readEnvironment (vars : List (String × String)) : Except LoadError Environment :=
  (Environment.ofValue? ((Value.table none []).laySource (environmentValues none vars))).mapError .misfit

/-- The variables with those of a file, if it is there, and a note if it is not. -/
def variablesWith (h : Host) (file : String) : List String × Except LoadError (List (String × String)) :=
  match h.file? file with
  | some b => ([], (EnvFile.apply b h.variables).mapError .envFile)
  | none => (["Env file " ++ file ++ " not found, using process environment"], .ok h.variables)

/-- Loads the environment, with the help of a file if it is there. The variables of the host are then those
with which it goes on. -/
def loadEnvironment (h : Host) (file : String) : Host × Loaded Environment :=
  match variablesWith h file with
  | (notes, .error e) => (h, ⟨notes, .error e⟩)
  | (notes, .ok vars) =>
    let h := { h with «variables» := vars }
    match readEnvironment vars with
    | .error e => (h, ⟨notes, .error e⟩)
    | .ok env =>
      (h, ⟨notes ++ ["Common env configuration: " ++ env.show],
        (env.check.mapError .problem).map fun _ => env⟩)

/-- Where the file of environment variables is. -/
def environmentFile : String := "./deploy/common.env"

/-- Where the settings files are. -/
def settingsFolder : String := "./deploy/translation"

/-- Loads the environment and then the settings of its mode. -/
def loadAll (h : Host) : Loaded (Settings × Environment) :=
  let (h, env) := loadEnvironment h environmentFile
  match env.result with
  | .error e => ⟨env.printed, .error e⟩
  | .ok e =>
    let settings := load h settingsFolder e.runMode
    ⟨env.printed ++ settings.printed, do
      let s ← settings.result
      (s.checkEnvironment e).mapError .problem
      return (s, e)⟩

end Settings

end Phrasebook
