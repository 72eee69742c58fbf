import Phrasebook.Text.Utf8
import Phrasebook.Text.Blank
/-!
# Files of environment variables

A file sets variables line by line: a name, an equals sign and a value, with quotes, escapes, comments and
references to variables. A quoted value may go over several lines. A variable that is set already keeps its
value, so the process environment wins over the file and an earlier line over a later one.
-/

set_option autoImplicit false

namespace Phrasebook.Settings.EnvFile

/-- Why a file cannot be used. -/
inductive Fault where
  /-- A line, or the value in it, cannot be read, because of what stands at a place in it. -/
  | line (text : String) (place : Nat)
  /-- It is no UTF-8 text. -/
  | notText
deriving DecidableEq, Inhabited

/-! ## Lines -/

/-- Where the scan of a line stands. -/
inductive Scan where
  | plain
  | escape
  | literal
  | literalEscape
  | quoted
  | quotedEscape
  /-- After a blank, where a comment may begin. -/
  | blank
deriving DecidableEq, Inhabited

/-- The scan after a character. -/
def Scan.after (s : Scan) (c : Char) : Scan :=
  match s with
  | .plain =>
    if Text.isBlank c && c != '\n' && c != '\r' then .blank
    else if c == '\\' then .escape
    else if c == '"' then .quoted
    else if c == '\'' then .literal
    else .plain
  | .blank =>
    if c == '\\' then .escape
    else if c == '"' then .quoted
    else if c == '\'' then .literal
    else .plain
  | .escape => .plain
  | .quoted => if c == '\\' then .quotedEscape else if c == '"' then .plain else .quoted
  | .quotedEscape => .quoted
  | .literal => if c == '\\' then .literalEscape else if c == '\'' then .plain else .literal
  | .literalEscape => .literal

/-- The scan at the end of a line; without one, a comment has begun, and the line up to it is given. -/
def scanLine (s : Scan) : List Char → Scan × Option (List Char)
  | [] => (s, none)
  | c :: rest =>
    if s == .blank && c == '#' then (s, some [])
    else
      let (s, cut) := scanLine (s.after c) rest
      (s, cut.map (c :: ·))

/-- Whether a line is a comment as a whole. -/
def isComment (cs : List Char) : Bool := (cs.dropWhile Text.isBlank).head? == some '#'

/-- A line without the line end. -/
def chomp (cs : List Char) : List Char :=
  match cs.reverse with
  | '\n' :: '\r' :: rest => rest.reverse
  | '\n' :: rest => rest.reverse
  | _ => cs

/-- Puts physical lines together to logical ones, each with what it holds or why it cannot be read. What
comes after a fault does not count. -/
def joinLines (s : Scan) (held : List Char) : List (Option (List Char)) → List (Except Fault (List Char))
  | [] => if s == .plain then [] else [.error (.line (String.ofList held) (String.ofList held).utf8ByteSize)]
  | none :: _ => [.error .notText]
  | some line :: rest =>
    let whole := held ++ line
    if isComment whole then joinLines .plain [] rest
    else
      match scanLine s line with
      | (_, some cut) => .ok (held ++ cut) :: joinLines .plain [] rest
      | (.plain, none) => .ok (chomp whole) :: joinLines .plain [] rest
      | (s, none) => joinLines s whole rest

/-- The physical lines of a file, each with its line end. -/
def physicalLines (b : Bytes) : List Bytes :=
  b.foldr (fun x lines =>
    match lines with
    | line :: rest => if x == 10 then [x] :: line :: rest else (x :: line) :: rest
    | [] => [[x]]) []

/-- The file without a byte order mark at its start. -/
def dropMark : Bytes → Bytes
  | 0xEF :: 0xBB :: 0xBF :: rest => rest
  | b => b

/-- The logical lines of a file. -/
def linesOf (b : Bytes) : List (Except Fault (List Char)) :=
  joinLines .plain [] ((physicalLines (dropMark b)).map fun l => (Text.decode? l).map String.toList)

/-! ## Values -/

/-- How a reference to a variable is being read. -/
inductive Reference where
  | none
  /-- After a dollar sign. -/
  | bare
  /-- Inside braces. -/
  | braced
deriving DecidableEq, Inhabited

/-- The state of reading a value. -/
structure Reading where
  /-- The value so far, the last character first. -/
  out : List Char := []
  /-- Inside single quotes. -/
  literal : Bool := false
  /-- Inside double quotes. -/
  quoted : Bool := false
  /-- After a backslash. -/
  escaped : Bool := false
  /-- After a blank that ends the value. -/
  ended : Bool := false
  /-- In a reference. -/
  reference : Reference := .none
  /-- The name in the reference so far, the last character first. -/
  name : List Char := []

/-- Puts a character to the value. -/
def Reading.put (r : Reading) (c : Char) : Reading := { r with out := c :: r.out }

/-- Puts the value of the variable referred to in the place of the reference. -/
def Reading.resolve (lookup : String → String) (r : Reading) : Reading :=
  { r with out := (lookup (String.ofList r.name.reverse)).toList.reverse ++ r.out, name := [] }

/-- Reads one character of a value; nothing if it does not fit there. -/
def Reading.step? (lookup : String → String) (r : Reading) (c : Char) : Option Reading :=
  if r.ended then
    if c == ' ' || c == '\t' then some r else none
  else if r.escaped then
    if c == '\\' || c == '\'' || c == '"' || c == '$' || c == ' ' then some { r.put c with escaped := false }
    else if c == 'n' then some { r.put '\n' with escaped := false }
    else none
  else if r.literal then
    some (if c == '\'' then { r with literal := false } else r.put c)
  else if r.reference != .none then
    if c.isAlphanum then some { r with name := c :: r.name }
    else if r.reference == .bare then
      if c == '\x7b' && r.name.isEmpty then some { r with reference := .braced }
      else
        let r := r.resolve lookup
        some (if c == '$' then { r with reference := .bare } else { r.put c with reference := .none })
    else if c == '\x7d' then some { r.resolve lookup with reference := .none }
    else some { r with name := c :: r.name }
  else if c == '$' then some { r with reference := .bare }
  else if r.quoted then
    some (if c == '"' then { r with quoted := false }
      else if c == '\\' then { r with escaped := true }
      else r.put c)
  else if c == '\'' then some { r with literal := true }
  else if c == '"' then some { r with quoted := true }
  else if c == '\\' then some { r with escaped := true }
  else if c == ' ' || c == '\t' then some { r with ended := true }
  else some (r.put c)

/-- Reads the characters of a value, up to a comment. Says at which character it fails. -/
def Reading.steps (lookup : String → String) (r : Reading) (place : Nat) : List Char → Except Nat Reading
  | [] => .ok r
  | c :: rest =>
    if r.ended && c == '#' then .ok r
    else
      match r.step? lookup c with
      | some r => r.steps lookup (place + 1) rest
      | none => .error place

/-- Reads a value. -/
def readValue (lookup : String → String) (cs : List Char) : Except Fault String :=
  let text := String.ofList cs
  match Reading.steps lookup {} 0 cs with
  | .error place => .error (.line text place)
  | .ok r =>
    if r.reference == .braced || r.literal || r.quoted then .error (.line text (text.utf8ByteSize - 1))
    else .ok (String.ofList (r.resolve lookup).out.reverse)

/-! ## Settings of variables -/

/-- Whether a character can begin a name. -/
def isNameStart (c : Char) : Bool := c.isAlpha || c == '_'

/-- Whether a character can stand in a name. -/
def isNameChar (c : Char) : Bool := c.isAlphanum || c == '_' || c == '.'

/-- A name at the front, and what follows it and the blanks after it. -/
def readName? (cs : List Char) : Option (String × List Char) :=
  if cs.head?.any isNameStart then
    some (String.ofList (cs.takeWhile isNameChar), (cs.dropWhile isNameChar).dropWhile Text.isBlank)
  else none

/-- What follows an equals sign and the blanks after it. Otherwise what is left to be read. -/
def readEquals (cs : List Char) : Except (List Char) (List Char) :=
  match cs with
  | '=' :: rest => .ok (rest.dropWhile Text.isBlank)
  | _ => .error cs

/-- The name that a line sets, and what follows the equals sign. The name may stand after `export`.
Otherwise what was left to be read. -/
def readTarget (cs : List Char) : Except (List Char) (String × List Char) :=
  match readName? cs with
  | none => .error cs
  | some (name, rest) =>
    match readEquals rest with
    | .ok rest => .ok (name, rest)
    | .error _ =>
      if name == "export" then
        match readName? rest with
        | none => .error rest
        | some (name, rest) => (readEquals rest).map fun rest => (name, rest)
      else .error rest

/-- What a logical line sets. A blank line or a comment sets nothing. -/
def readLine (lookup : String → String) (line : List Char) : Except Fault (Option (String × String)) :=
  let size (cs : List Char) : Nat := (String.ofList cs).utf8ByteSize
  let whole := (line.reverse.dropWhile Text.isBlank).reverse
  let cs := whole.dropWhile Text.isBlank
  if cs.isEmpty || cs.head? == some '#' then .ok none
  else
    match readTarget cs with
    | .error rest => .error (.line (String.ofList line) (size whole - size rest))
    | .ok (name, rest) =>
      if rest.isEmpty || rest.head? == some '#' then .ok (some (name, ""))
      else (readValue lookup rest).map fun value => some (name, value)

/-- Sets variables line by line. Those that are set keep their values; references see them first, then
what the file says of variables. -/
def setLines (env told : List (String × String)) :
    List (Except Fault (List Char)) → Except Fault (List (String × String))
  | [] => .ok env
  | .error f :: _ => .error f
  | .ok line :: rest =>
    let lookup (name : String) : String := ((env.lookup name).or (told.lookup name)).getD ""
    match readLine lookup line with
    | .error f => .error f
    | .ok none => setLines env told rest
    | .ok (some (name, value)) =>
      setLines (if (env.lookup name).isSome then env else env ++ [(name, value)])
        ((name, value) :: told) rest

/-- The environment after a file has been read. -/
def apply (b : Bytes) (env : List (String × String)) : Except Fault (List (String × String)) :=
  setLines env [] (linesOf b)

end Phrasebook.Settings.EnvFile
