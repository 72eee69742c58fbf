import Phrasebook.Http.Message
/-!
# Media types

A body counts as JSON when the content type says so: `application/json`, or a type under `application`
whose name ends in `+json`. Parameters after a semicolon have to be well-formed but do not matter.
-/

set_option autoImplicit false

namespace Phrasebook.Http.MediaType

/-- The characters of a token. -/
def isToken (c : Char) : Bool := c.isAlphanum || "!#$%&'*+-.^_`|~".toList.contains c

/-- The characters that may stand between quotes. -/
def isQuotable (c : Char) : Bool := c == '\t' || (0x20 ≤ c.toNat && c.toNat < 0x7F && c != '"')

/-- What a reader of parameters waits for. -/
inductive Awaits where
  /-- A name; `started` when it has begun. -/
  | name (started : Bool)
  /-- A value; `started` when it has begun. -/
  | value (started : Bool)
  /-- The end of a quoted value; `started` when it has begun. -/
  | quote (started : Bool)
  /-- A semicolon, after a quoted value. -/
  | separator

/-- Whether the rest of a media type is a list of parameters. -/
def parameters : Awaits → List Char → Bool
  | .name started, [] => !started
  | .value _, [] => true
  | .quote _, [] => false
  | .separator, [] => true
  | .name started, c :: rest =>
    if c == ' ' && !started then parameters (.name false) rest
    else if isToken c then parameters (.name true) rest
    else if c == '=' && started then parameters (.value false) rest
    else false
  | .value started, c :: rest =>
    if c == '"' && !started then parameters (.quote false) rest
    else if isToken c then parameters (.value true) rest
    else if c == ';' && started then parameters (.name false) rest
    else false
  | .quote started, c :: rest =>
    if c == '"' && started then parameters .separator rest
    else if isQuotable c then parameters (.quote true) rest
    else false
  | .separator, c :: rest =>
    if c == ';' then parameters (.name false) rest
    else if c == ' ' then parameters .separator rest
    else false

/-- The type, subtype and suffix of a media type, in lower case. -/
def parse? (s : String) : Option (String × String × Option String) :=
  let cs := s.toList
  let type := cs.takeWhile isToken
  match cs.dropWhile isToken with
  | '/' :: rest =>
    let name := rest.takeWhile isToken
    let ends := match rest.dropWhile isToken with
      | [] => true
      | c :: more => !name.isEmpty && (c == ';' || c == ' ') && parameters (.name false) more
    if type.isEmpty || !ends then none
    else
      let lower (l : List Char) : String := String.ofList (l.map Char.toLower)
      -- the last plus that is not the first character divides name and suffix
      let suffix := (name.reverse.takeWhile (· != '+')).reverse
      let front := name.take (name.length - suffix.length - 1)
      if suffix.length < name.length && !front.isEmpty then some (lower type, lower front, some (lower suffix))
      else some (lower type, lower name, none)
  | _ => none

/-- Whether a content type stands for JSON. -/
def isJson (s : String) : Bool :=
  match parse? s with
  | some (type, name, suffix) => type == "application" && (name == "json" || suffix == some "json")
  | none => false

end Phrasebook.Http.MediaType
