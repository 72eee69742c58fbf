import Phrasebook.Json.Value
import Phrasebook.Decimal.Numeral
import Phrasebook.Decimal.Layout
/-!
# Values from the sources of settings

Settings are put together from several sources. Each value knows where it comes from. A later source is
laid over the earlier ones: tables are merged, anything else replaces what was there.
-/

set_option autoImplicit false

namespace Phrasebook.Settings

/-- A single value. -/
inductive Atom where
  | nothing
  | flag (b : Bool)
  /-- An integer of 64 bits. -/
  | int (i : Int)
  | real (x : Float)
  | text (s : String)
deriving Inhabited

/-- A value and where it comes from, as far as that is known. -/
inductive Value where
  | atom (origin : Option String) (a : Atom)
  | table (origin : Option String) (members : List (String × Value))
  | list (origin : Option String) (items : List Value)
deriving Inhabited

/-- A step to a part of a value. -/
inductive Step where
  /-- To the member of a table. -/
  | key (name : String)
  /-- To an item of a list, counted from the end if negative. -/
  | index (i : Int)
deriving DecidableEq, Inhabited

namespace Value

/-- Nothing, from nowhere. -/
def nothing : Value := .atom none .nothing

/-- Where a value comes from. -/
def origin : Value → Option String
  | .atom o _ => o
  | .table o _ => o
  | .list o _ => o

/-- The members of a table; other values have none. -/
def members : Value → List (String × Value)
  | .table _ m => m
  | _ => []

/-- The items of a list; other values have none. -/
def items : Value → List Value
  | .list _ l => l
  | _ => []

/-- Where a table comes from; a table that replaces another value comes from nowhere. -/
def tableOrigin : Value → Option String
  | .table o _ => o
  | _ => none

/-- Changes the member of a name, which is put in if it is not there. -/
def changeMember (name : String) (f : Value → Value) : List (String × Value) → List (String × Value)
  | [] => [(name, f nothing)]
  | (k, v) :: rest => if k == name then (k, f v) :: rest else (k, v) :: changeMember name f rest

/-- Changes an item of a list, which grows until it has it. -/
def changeItem (i : Int) (f : Value → Value) (l : List Value) : List Value :=
  let at0 : Int := if i < 0 then l.length + i else i
  let l := List.replicate (-at0).toNat nothing ++ l
  let l := l ++ List.replicate (at0.toNat + 1 - l.length) nothing
  l.modify at0.toNat f

mutual

/-- A value over another. -/
def lay (under : Value) : Value → Value
  | .table _ m => .table under.tableOrigin (layMembers under.members m)
  | v => v

/-- Members over those of a table. -/
def layMembers (under : List (String × Value)) : List (String × Value) → List (String × Value)
  | [] => under
  | (name, v) :: rest => layMembers (changeMember name (fun old => lay old v) under) rest

end

/-- Lays a value over the part to which some steps lead; what is not there on the way is made. -/
def layAt (steps : List Step) (v under : Value) : Value :=
  match steps with
  | [] => lay under v
  | .key name :: rest => .table under.tableOrigin (changeMember name (layAt rest v) under.members)
  | .index i :: rest =>
    let origin := match under with
      | .list o _ => o
      | _ => none
    .list origin (changeItem i (layAt rest v) under.items)

end Value

/-- Whether a character belongs to a plain name. -/
def isNameChar (c : Char) : Bool := c.isAlphanum || c == '_' || c == '-'

/-- The steps that follow a first name: `.name` and `[index]`. -/
def readSteps? : Nat → List Char → Option (List Step)
  | _, [] => some []
  | 0, _ => none
  | fuel + 1, '.' :: rest =>
    let name := rest.takeWhile isNameChar
    if name.isEmpty then none
    else (readSteps? fuel (rest.dropWhile isNameChar)).map (.key (String.ofList name) :: ·)
  | fuel + 1, '[' :: rest =>
    let isDigitOrSign (c : Char) : Bool := c.isDigit || c == '-'
    let digits := rest.takeWhile isDigitOrSign
    match if digits.contains '+' then none else Decimal.readInt? digits, rest.dropWhile isDigitOrSign with
    | some i, ']' :: rest => (readSteps? fuel rest).map (.index i :: ·)
    | _, _ => none
  | _, _ => none

/-- The steps that a key describes. A key that describes none is a single name as it stands. -/
def stepsOf (key : String) : List Step :=
  let cs := key.toList
  let name := cs.takeWhile isNameChar
  match if name.isEmpty then none else readSteps? cs.length (cs.dropWhile isNameChar) with
  | some steps => .key (String.ofList name) :: steps
  | none => [.key key]

/-- Lays a source, given by keys and values, over a value. -/
def Value.laySource (under : Value) (source : List (String × Value)) : Value :=
  source.foldl (fun acc (key, v) => Value.layAt (stepsOf key) v acc) under

/-! ## Sources -/

/-- The bounds of integers. -/
def inInt64 (i : Int) : Bool := -(Nat.pow 2 63) ≤ i && i < Nat.pow 2 63

/-- What the text of an environment variable stands for: a flag, else an integer, else a real number, else
the text itself. -/
def Atom.ofVariable (s : String) : Atom :=
  match String.ofList (s.toList.map Char.toLower) with
  | "true" => .flag true
  | "false" => .flag false
  | _ =>
    match (Decimal.readInt? s.toList).filter inInt64, Decimal.readReal? s.toList with
    | some i, _ => .int i
    | none, some x => .real x
    | none, none => .text s

/-- Where values from the environment come from. -/
def environmentOrigin : String := "the environment"

/-- A name whose steps are separated by double underscores, with points in their place. -/
def withPoints : List Char → List Char
  | '_' :: '_' :: rest => '.' :: withPoints rest
  | c :: rest => c :: withPoints rest
  | [] => []

/-- The key for which a variable stands. With a prefix only the variables that start with it count, and
double underscores in the rest of the name separate steps. Letter case does not matter in names. -/
def keyOf? (start : Option String) (name : String) : Option String :=
  let name := name.toList.map Char.toLower
  match start with
  | none => some (String.ofList name)
  | some start =>
    if start.toList.isPrefixOf name then some (String.ofList (withPoints (name.drop start.length)))
    else none

/-- The variables of the environment as a source. -/
def environmentValues (start : Option String) (env : List (String × String)) : List (String × Value) :=
  env.filterMap fun (name, text) =>
    (keyOf? start name).map fun key => (key, .atom (some environmentOrigin) (.ofVariable text))

mutual

/-- A JSON value from a source. Integers that do not fit into 64 bits become real numbers. -/
def Value.ofJson (origin : String) : Json → Value
  | .null => .atom (some origin) .nothing
  | .bool b => .atom (some origin) (.flag b)
  | .num (.nat n) =>
    .atom (some origin) (if inInt64 n then .int n else .real (Decimal.nearest n 0))
  | .num (.neg i) => .atom (some origin) (.int i)
  | .num (.float x) => .atom (some origin) (.real x)
  | .str s => .atom (some origin) (.text s)
  | .arr l => .list (some origin) (itemsOfJson origin l)
  | .obj m => .table (some origin) (membersOfJson origin m)

/-- The items of a JSON array. -/
def Value.itemsOfJson (origin : String) : List Json → List Value
  | [] => []
  | j :: rest => Value.ofJson origin j :: itemsOfJson origin rest

/-- The members of a JSON object. -/
def Value.membersOfJson (origin : String) : List (String × Json) → List (String × Value)
  | [] => []
  | (k, j) :: rest => (k, Value.ofJson origin j) :: membersOfJson origin rest

end

end Phrasebook.Settings
