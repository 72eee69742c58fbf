import Phrasebook.Text.Percent
/-!
# Addresses

An address names a scheme, and after `://` who asks, the host, the number of its socket and a path. An at
sign may stand in the credentials, of which the last one ends them; a slash, a question mark or a number
sign ends everything before the path. Credentials and path are kept as they are written, and `unescape`
gives what they mean.

The rules are those of schemes without rules of their own, which is what the database, the cache and the
brokers have.
-/

set_option autoImplicit false

namespace Phrasebook

/-- An address. -/
structure Address where
  /-- The scheme, in lower case. -/
  scheme : String
  /-- Who asks, as it is written. -/
  user : String := ""
  /-- The password, as it is written, unless it is empty. -/
  password : Option String := none
  /-- The host. -/
  host : String := ""
  /-- The number of the socket. -/
  portNumber : Option Nat := none
  /-- The path, as it is written. -/
  path : String := ""
deriving DecidableEq, Inhabited

namespace Address

/-- Why a text is no address. -/
inductive Fault where
  /-- There is no scheme. -/
  | relative
  /-- A host is missing. -/
  | emptyHost
  /-- The host holds a character that no host may hold. -/
  | hostCharacter
  /-- The host in brackets is none. -/
  | bracketedHost
  /-- The number of the socket is none, or too large. -/
  | portNumber
deriving DecidableEq, Inhabited

/-- The wording of a fault. -/
def Fault.message : Fault → String
  | .relative => "relative URL without a base"
  | .emptyHost => "empty host"
  | .hostCharacter => "invalid domain character"
  | .bracketedHost => "invalid IPv6 address"
  | .portNumber => "invalid port number"

/-! ## Scheme -/

/-- Whether a character counts when it stands around an address. -/
def isMargin (c : Char) : Bool := c.toNat ≤ 0x20

/-- The text of an address without margins and without the characters that are skipped anywhere. -/
def plainText (s : String) : List Char :=
  let cs := (s.toList.dropWhile isMargin).reverse.dropWhile isMargin |>.reverse
  cs.filter fun c => c != '\t' && c != '\n' && c != '\r'

/-- Whether a character may stand in a scheme after the first. -/
def isSchemeChar (c : Char) : Bool := c.isAlphanum || c == '+' || c == '-' || c == '.'

/-- The scheme, and what follows its colon. -/
def splitScheme? (cs : List Char) : Option (String × List Char) :=
  match cs with
  | c :: _ =>
    let name := cs.takeWhile isSchemeChar
    match cs.drop name.length with
    | ':' :: rest => if c.isAlpha then some (String.ofList (name.map Char.toLower), rest) else none
    | _ => none
  | [] => none

/-! ## Credentials, host and socket -/

/-- Whether a character ends what stands before the path. -/
def endsAuthority (c : Char) : Bool := c == '/' || c == '?' || c == '#'

/-- What stands before and after the last at sign, if there is one. -/
def splitLastAt? (cs : List Char) : Option (List Char × List Char) :=
  if cs.contains '@' then
    let after := (cs.reverse.takeWhile (· != '@')).reverse
    some (cs.take (cs.length - after.length - 1), after)
  else none

/-- The user and the password in credentials: the first colon is between them. -/
def splitCredentials (cs : List Char) : String × Option String :=
  let user := cs.takeWhile (· != ':')
  let password := cs.drop (user.length + 1)
  (String.ofList user, if password.isEmpty then none else some (String.ofList password))

/-- Whether no host may hold a character. -/
def isHostFoe (c : Char) : Bool := c == '\x00' || " #/:<>?@[\\]^|".toList.contains c

/-- The host at the start, and what follows it. In brackets a colon is part of the host. -/
def takeHost (inside : Bool) : List Char → List Char × List Char
  | [] => ([], [])
  | c :: rest =>
    if c == ':' && !inside then ([], c :: rest)
    else
      let inside := if c == '[' then true else if c == ']' then false else inside
      let (host, rest) := takeHost inside rest
      (c :: host, rest)

/-- Checks a host. A host in brackets has to end in one. -/
def checkHost (host : List Char) : Except Fault Unit :=
  match host with
  | '[' :: _ =>
    let digits := (host.drop 1).dropLast
    if host.getLast? == some ']' && digits.contains ':' &&
        digits.all (fun c => c.isDigit || ('a' ≤ c.toLower && c.toLower ≤ 'f') || c == ':' || c == '.') then .ok ()
    else .error .bracketedHost
  | _ => if host.any isHostFoe then .error .hostCharacter else .ok ()

/-- The number of a socket after a colon; without digits there is none. -/
def readPortNumber (cs : List Char) : Except Fault (Option Nat) :=
  let step (acc : Except Fault (Option Nat)) (c : Char) : Except Fault (Option Nat) := do
    let n ← acc
    if c.isDigit then
      let m := n.getD 0 * 10 + (c.toNat - '0'.toNat)
      if m > 65535 then .error .portNumber else .ok (some m)
    else .error .portNumber
  cs.foldl step (.ok none)

/-- Reads the host and the number of its socket. -/
def readHost (cs : List Char) : Except Fault (String × Option Nat) := do
  let (host, rest) := takeHost false cs
  checkHost host
  match rest with
  | [] => return (String.ofList host, none)
  | _ :: digits =>
    if host.isEmpty then .error .emptyHost
    return (String.ofList host, ← readPortNumber digits)

/-! ## Path -/

/-- Whether a step of a path stays where it is. -/
def isStay (step : String) : Bool := step == "." || step.toLower == "%2e"

/-- Whether a step of a path goes back. -/
def isBack (step : String) : Bool :=
  ["..", ".%2e", "%2e.", "%2e%2e"].contains step.toLower

/-- The steps of a path with those that go back or nowhere carried out. At the end such a step leaves an
empty one. -/
def walk : List String → List String → List String
  | done, [] => done.reverse
  | done, [last] =>
    if isBack last then ("" :: done.drop 1).reverse
    else if isStay last then ("" :: done).reverse
    else (last :: done).reverse
  | done, step :: rest =>
    if isBack step then walk (done.drop 1) rest
    else if isStay step then walk done rest
    else walk (step :: done) rest

/-- A path, up to the query. -/
def readPath (cs : List Char) : String :=
  match cs.takeWhile fun c => c != '?' && c != '#' with
  | '/' :: rest => "/" ++ "/".intercalate (walk [] ((String.ofList rest).splitOn "/"))
  | _ => ""

/-! ## Addresses -/

/-- Reads an address. -/
def ofText? (s : String) : Except Fault Address :=
  match splitScheme? (plainText s) with
  | none => .error .relative
  | some (scheme, '/' :: '/' :: rest) => do
    let authority := rest.takeWhile (!endsAuthority ·)
    let tail := rest.drop authority.length
    let (credentials, place) := (splitLastAt? authority).getD ([], authority)
    if authority.contains '@' && place.isEmpty && !tail.isEmpty && credentials.isEmpty then
      .error .emptyHost
    let (user, password) := splitCredentials credentials
    let (host, portNumber) ← readHost place
    return { scheme, user, password, host, portNumber, path := readPath tail }
  | some (scheme, rest) => .ok { scheme, path := String.ofList rest }

/-- What a written part means, if that is text. -/
def unescape? (written : String) : Option String := Text.decode? (Text.Percent.decode (Text.encode written))

end Address

end Phrasebook
