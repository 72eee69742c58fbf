import Phrasebook.Toml.Scalar
import Phrasebook.Toml.Quoted
/-!
# TOML documents

A document is read line by line into a tree that remembers how each table came about, because that decides
what may still be added to it: a table with a header of its own is closed to dotted keys from elsewhere,
one that came about on the way to another may still get its header, and values in braces and brackets are
complete as they stand.
-/

set_option autoImplicit false

namespace Phrasebook.Toml

/-- How a table came about. -/
inductive Opened where
  /-- On the way to a table with a header. -/
  | passing
  /-- By its header. -/
  | header
  /-- By a dotted key. -/
  | dotted
deriving DecidableEq, Inhabited

/-- A part of a document under construction. -/
inductive Node where
  /-- A complete value. -/
  | value (v : Toml)
  /-- A table. -/
  | table (opened : Opened) (members : List (String × Node))
  /-- A list of tables with headers; the last is first. -/
  | tables (last : List (String × Node)) (earlier : List Node)
deriving Inhabited

/-- Members by name. -/
abbrev Members := List (String × Node)

/-- Puts a member in the place of the one with its name, or at the end. -/
def putMember (name : String) (n : Node) : Members → Members
  | [] => [(name, n)]
  | (k, v) :: rest => if k == name then (k, n) :: rest else (k, v) :: putMember name n rest

/-- Changes the table to which a path leads; tables that are not there are made. A dotted path does not
lead through tables that have headers. -/
def within? (dotted : Bool) (change : Opened → Members → Option Members) :
    List String → Opened → Members → Option Members
  | [], opened, m => change opened m
  | key :: path, _, m =>
    match m.lookup key with
    | none => do
      let opened := if dotted then Opened.dotted else .passing
      let inner ← within? dotted change path opened []
      return putMember key (.table opened inner) m
    | some (.table opened inner) =>
      if dotted && opened == .header then none
      else do
        let inner ← within? dotted change path opened inner
        return putMember key (.table opened inner) m
    | some (.tables last earlier) => do
      let last ← within? dotted change path .header last
      return putMember key (.tables last earlier) m
    | some (.value _) => none

/-- Adds a value under a key, which may be dotted. -/
def addValue? (path : List String) (v : Toml) (opened : Opened) (m : Members) : Option Members :=
  match path.getLast? with
  | none => none
  | some key =>
    let way := path.dropLast
    within? (!way.isEmpty) (fun opened m =>
      if (opened == .dotted) == way.isEmpty || (m.lookup key).isSome then none
      else some (putMember key (.value v) m)) way opened m

/-- Opens the table of a header. -/
def openTable? (path : List String) (m : Members) : Option Members :=
  match path.getLast? with
  | none => none
  | some key =>
    within? false (fun _ m =>
      match m.lookup key with
      | none => some (putMember key (.table .header []) m)
      | some (.table .passing inner) => some (putMember key (.table .header inner) m)
      | _ => none) path.dropLast .header m

/-- Opens one more table of a list of tables. -/
def openItem? (path : List String) (m : Members) : Option Members :=
  match path.getLast? with
  | none => none
  | some key =>
    within? false (fun _ m =>
      match m.lookup key with
      | none => some (putMember key (.tables [] []) m)
      | some (.tables last earlier) =>
        some (putMember key (.tables [] (.table .header last :: earlier)) m)
      | _ => none) path.dropLast .header m

/-- Changes the table that a header has opened. -/
def inOpened? (path : List String) (change : Members → Option Members) (m : Members) : Option Members :=
  within? false (fun _ m => change m) path .header m

mutual

/-- The finished value. -/
def Node.finish : Node → Toml
  | .value v => v
  | .table _ m => .table (finishMembers m)
  | .tables last earlier => .list (finishItems earlier ++ [.table (finishMembers last)])

/-- The finished members of a table. -/
def Node.finishMembers : List (String × Node) → List (String × Toml)
  | [] => []
  | (k, n) :: rest => (k, n.finish) :: finishMembers rest

/-- The finished tables of a list, the first one first. -/
def Node.finishItems : List Node → List Toml
  | [] => []
  | n :: rest => finishItems rest ++ [n.finish]

end

/-! ## Reading -/

/-- The rest after a comment at the front, up to the end of the line. A comment holds no control
characters. -/
def skipComment? (cs : List Char) : Option (List Char) :=
  match cs with
  | '#' :: cs =>
    let rest := cs.dropWhile isTextChar
    if rest.isEmpty || (newline? rest).isSome then some rest else none
  | cs => some cs

/-- The rest after blanks, line ends and comments. -/
def skipSpace? : Nat → List Char → Option (List Char)
  | 0, _ => none
  | fuel + 1, cs => do
    let cs ← skipComment? (skipBlanks cs)
    match newline? cs with
    | some cs => skipSpace? fuel cs
    | none => return cs

mutual

/-- A value at the front, and what follows. -/
def readValue? : Nat → List Char → Option (Toml × List Char)
  | 0, _ => none
  | fuel + 1, cs =>
    match cs with
    | '[' :: cs => (readItems? fuel cs).map fun (l, rest) => (.list l, rest)
    | '\x7b' :: cs =>
      (readMembers? fuel [] cs).map fun (m, rest) => (Node.finish (.table .header m), rest)
    | '"' :: _ => (readString? cs).map fun (s, rest) => (.text s, rest)
    | '\'' :: _ => (readString? cs).map fun (s, rest) => (.text s, rest)
    | cs =>
      let (plain, rest) := splitPlain cs
      (readPlain? plain).map (·, rest)

/-- The items of a list after its bracket. -/
def readItems? : Nat → List Char → Option (List Toml × List Char)
  | 0, _ => none
  | fuel + 1, cs => do
    let cs ← skipSpace? (cs.length + 1) cs
    match cs with
    | ']' :: rest => return ([], rest)
    | _ =>
      let (v, cs) ← readValue? fuel cs
      let cs ← skipSpace? (cs.length + 1) cs
      match cs with
      | ',' :: cs =>
        let (items, rest) ← readItems? fuel cs
        return (v :: items, rest)
      | ']' :: rest => return ([v], rest)
      | _ => none

/-- The members of a table after its brace. -/
def readMembers? : Nat → Members → List Char → Option (Members × List Char)
  | 0, _, _ => none
  | fuel + 1, m, cs => do
    let cs ← skipSpace? (cs.length + 1) cs
    match cs with
    | '\x7d' :: rest => return (m, rest)
    | _ =>
      let (path, cs) ← readPath? (cs.length + 1) cs
      let '=' :: cs := cs | none
      let (v, cs) ← readValue? fuel (skipBlanks cs)
      let m ← addValue? path v .header m
      let cs ← skipSpace? (cs.length + 1) cs
      match cs with
      | ',' :: cs => readMembers? fuel m cs
      | '\x7d' :: rest => return (m, rest)
      | _ => none

end

/-- A header at the front: whether it opens a table of a list, its path, and what follows. -/
def readHeader? : List Char → Option (Bool × List String × List Char)
  | '[' :: '[' :: cs => do
    let (path, cs) ← readPath? (cs.length + 1) (skipBlanks cs)
    let ']' :: ']' :: rest := cs | none
    return (true, path, rest)
  | '[' :: cs => do
    let (path, cs) ← readPath? (cs.length + 1) (skipBlanks cs)
    let ']' :: rest := cs | none
    return (false, path, rest)
  | _ => none

/-- The rest after the end of a line, where only blanks and a comment may stand before it. -/
def endLine? (cs : List Char) : Option (List Char) := do
  let cs ← skipComment? (skipBlanks cs)
  if cs.isEmpty then some [] else newline? cs

/-- The lines of a document. The path is that of the last header. -/
def readLinesOf? : Nat → List String → Members → List Char → Option Members
  | 0, _, _, _ => none
  | fuel + 1, header, m, cs => do
    let cs ← skipSpace? (cs.length + 1) cs
    match cs with
    | [] => return m
    | '[' :: _ =>
      let (isItem, path, rest) ← readHeader? cs
      let rest ← endLine? rest
      let m ← if isItem then openItem? path m else openTable? path m
      readLinesOf? fuel path m rest
    | _ =>
      let (path, cs) ← readPath? (cs.length + 1) cs
      let '=' :: cs := cs | none
      let (v, rest) ← readValue? (cs.length + 1) (skipBlanks cs)
      let rest ← endLine? rest
      let m ← inOpened? header (addValue? path v .header) m
      readLinesOf? fuel header m rest

/-- Reads a document. -/
def ofText? (s : String) : Option (List (String × Toml)) :=
  (readLinesOf? (s.length + 1) [] [] s.toList).map Node.finishMembers

end Phrasebook.Toml
