import Phrasebook.Text.Hex
import Phrasebook.Toml.Value
/-!
# TOML strings and keys

Strings are basic, with escapes, or literal, each on one line or on several. The readers start after the
opening quotes and give the text and what follows the closing ones.
-/

set_option autoImplicit false

namespace Phrasebook.Toml

/-- Whether a character can stand in a text as it is. -/
def isTextChar (c : Char) : Bool := c == '\t' || (' ' ≤ c && c.toNat != 0x7f)

/-- The character with a code point of so many hexadecimal digits, and what follows. -/
def readCode? (width : Nat) (cs : List Char) : Option (Char × List Char) := do
  let ds ← (cs.take width).mapM Text.Hex.value?
  let n := ds.foldl (fun n d => n * 16 + d) 0
  if h : ds.length = width ∧ n.isValidChar then some (Char.ofNatAux n h.2, cs.drop width) else none

/-- The character of an escape, after the backslash, and what follows. -/
def readEscape? : List Char → Option (Char × List Char)
  | 'b' :: cs => some ('\x08', cs)
  | 't' :: cs => some ('\t', cs)
  | 'n' :: cs => some ('\n', cs)
  | 'f' :: cs => some ('\x0c', cs)
  | 'r' :: cs => some ('\r', cs)
  | 'e' :: cs => some ('\x1b', cs)
  | '"' :: cs => some ('"', cs)
  | '\\' :: cs => some ('\\', cs)
  | 'x' :: cs => readCode? 2 cs
  | 'u' :: cs => readCode? 4 cs
  | 'U' :: cs => readCode? 8 cs
  | _ => none

/-- The length of a line end at the front. -/
def newline? : List Char → Option (List Char)
  | '\n' :: cs => some cs
  | '\r' :: '\n' :: cs => some cs
  | _ => none

/-- A basic string on one line. -/
def readBasic? : Nat → List Char → Option (List Char × List Char)
  | 0, _ => none
  | fuel + 1, '\\' :: cs => do
    let (c, cs) ← readEscape? cs
    let (body, rest) ← readBasic? fuel cs
    return (c :: body, rest)
  | _, '"' :: cs => some ([], cs)
  | fuel + 1, c :: cs =>
    if isTextChar c then (readBasic? fuel cs).map fun (body, rest) => (c :: body, rest) else none
  | _, [] => none

/-- A literal string on one line. -/
def readLiteral? : List Char → Option (List Char × List Char)
  | '\'' :: cs => some ([], cs)
  | c :: cs => if isTextChar c then (readLiteral? cs).map fun (body, rest) => (c :: body, rest) else none
  | [] => none

/-- What is left of blanks and line ends at the front. -/
def skipBlankLines (cs : List Char) : List Char :=
  cs.dropWhile fun c => c == ' ' || c == '\t' || c == '\n' || c == '\r'

/-- The rest after a backslash at the end of a line: all blanks and line ends are left out. -/
def joinedLine? (cs : List Char) : Option (List Char) :=
  (newline? (cs.dropWhile fun c => c == ' ' || c == '\t')).map skipBlankLines

/-- The end of a string on several lines: three quotes, with up to two more before them that belong to the
text. -/
def closing? (quote : Char) (cs : List Char) : Option (List Char × List Char) :=
  let quotes := cs.takeWhile (· == quote)
  if quotes.length < 3 then none
  else
    let extra := min (quotes.length - 3) 2
    some (List.replicate extra quote, cs.drop (extra + 3))

/-- A string on several lines, basic or literal. -/
def readLines? (basic : Bool) : Nat → List Char → Option (List Char × List Char)
  | 0, _ => none
  | fuel + 1, cs =>
    let quote := if basic then '"' else '\''
    match closing? quote cs with
    | some done => some done
    | none =>
      match cs with
      | [] => none
      | c :: rest =>
        let put (c : Char) (cs : List Char) : Option (List Char × List Char) :=
          (readLines? basic fuel cs).map fun (body, rest) => (c :: body, rest)
        if basic && c == '\\' then
          match joinedLine? rest with
          | some rest => readLines? basic fuel rest
          | none =>
            match readEscape? rest with
            | some (c, rest) => put c rest
            | none => none
        else
          match newline? cs with
          | some rest => put '\n' rest
          | none => if isTextChar c then put c rest else none

/-- A string at the front, with its quotes, and what follows. -/
def readString? (cs : List Char) : Option (String × List Char) :=
  let done := fun (r : List Char × List Char) => (String.ofList r.1, r.2)
  let lines (basic : Bool) (cs : List Char) :=
    -- a line end right after the opening quotes does not count
    (readLines? basic (cs.length + 1) ((newline? cs).getD cs)).map done
  match cs with
  | '"' :: '"' :: '"' :: cs => lines true cs
  | '\'' :: '\'' :: '\'' :: cs => lines false cs
  | '"' :: cs => (readBasic? (cs.length + 1) cs).map done
  | '\'' :: cs => (readLiteral? cs).map done
  | _ => none

/-- Whether a character can stand in a key without quotes. -/
def isKeyChar (c : Char) : Bool := c.isAlphanum || c == '_' || c == '-'

/-- A simple key at the front, and what follows. -/
def readKey? (cs : List Char) : Option (String × List Char) :=
  match cs with
  | '"' :: rest => (readBasic? (rest.length + 1) rest).map fun (t, r) => (String.ofList t, r)
  | '\'' :: rest => (readLiteral? rest).map fun (t, r) => (String.ofList t, r)
  | _ =>
    let name := cs.takeWhile isKeyChar
    if name.isEmpty then none else some (String.ofList name, cs.dropWhile isKeyChar)

/-- What is left of blanks at the front of a line. -/
def skipBlanks (cs : List Char) : List Char := cs.dropWhile fun c => c == ' ' || c == '\t'

/-- A key, which may be dotted, at the front, and what follows it and the blanks after it. -/
def readPath? : Nat → List Char → Option (List String × List Char)
  | 0, _ => none
  | fuel + 1, cs => do
    let (key, cs) ← readKey? cs
    match skipBlanks cs with
    | '.' :: cs =>
      let (keys, cs) ← readPath? fuel (skipBlanks cs)
      return (key :: keys, cs)
    | cs => return ([key], cs)

end Phrasebook.Toml
