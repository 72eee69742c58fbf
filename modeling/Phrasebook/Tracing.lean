import Phrasebook.Log
import Phrasebook.Text.Utf8
/-!
# Where traces are sent

The address of the collector has to be a request target: a path, or a host with or without a scheme, where
after a scheme a path may follow. Only the form is looked at; nobody has to listen there.
-/

set_option autoImplicit false

namespace Phrasebook.Tracing

/-- Why a text is no address. -/
inductive Fault where
  | empty
  | tooLong
  | character
  | schemeTooLong
  | authority
  | format
deriving DecidableEq, Inhabited

/-- The wording of a fault. -/
def Fault.message : Fault → String
  | .empty => "empty string"
  | .tooLong => "uri too long"
  | .character => "invalid uri character"
  | .schemeTooLong => "scheme too long"
  | .authority => "invalid authority"
  | .format => "invalid format"

/-- Whether a byte is a letter or a digit. -/
def isWord (b : UInt8) : Bool :=
  (0x30 ≤ b && b ≤ 0x39) || (0x41 ≤ b && b ≤ 0x5A) || (0x61 ≤ b && b ≤ 0x7A)

/-- Whether a byte may stand in a scheme. -/
def isSchemeByte (b : UInt8) : Bool := isWord b || b == 0x2B || b == 0x2D || b == 0x2E

/-- Whether a byte may stand before the path, apart from a percent sign. -/
def isHostByte (b : UInt8) : Bool := isWord b || (Text.encode "!#$&'()*+,-./:;=?@[]_~").contains b

/-- Whether a byte may stand in a path. -/
def isPathByte (b : UInt8) : Bool :=
  b == 0x21 || b == 0x22 || (0x24 ≤ b && b ≤ 0x3B) || b == 0x3D || (0x40 ≤ b && b ≤ 0x5F)
    || (0x61 ≤ b && b != 0x60)

/-- Whether a byte may stand in a query. -/
def isQueryByte (b : UInt8) : Bool := b == 0x21 || (0x24 ≤ b && b ≤ 0x3B) || b == 0x3D || 0x3F ≤ b

/-- Checks what stands from the path on, up to a number sign. -/
def checkPath (b : Bytes) : Except Fault Unit :=
  let path := b.takeWhile fun c => c != 0x3F && c != 0x23
  let rest := b.drop path.length
  let query := if rest.head? == some 0x3F then (rest.drop 1).takeWhile (· != 0x23) else []
  if path.all isPathByte && query.all isQueryByte then .ok () else .error .character

/-- What is known of the part before the path while it is read. -/
structure Scan where
  /-- How many bytes have been read. -/
  count : Nat := 0
  /-- How many colons count. -/
  colons : Nat := 0
  /-- Whether there was an opening bracket. -/
  opened : Bool := false
  /-- Whether there was a closing bracket. -/
  closed : Bool := false
  /-- Whether a percent sign counts. -/
  percent : Bool := false
  /-- Where the last at sign stands. -/
  at? : Option Nat := none

/-- Reads a byte. Colons and percent signs before an at sign or in brackets do not count. -/
def Scan.step (s : Scan) (b : UInt8) : Except Fault Scan :=
  let next := { s with count := s.count + 1 }
  if b == 0x3A then if s.colons ≥ 8 then .error .authority else .ok { next with colons := s.colons + 1 }
  else if b == 0x5B then if s.percent || s.opened then .error .authority else .ok { next with opened := true }
  else if b == 0x5D then
    if !s.opened || s.closed then .error .authority
    else .ok { next with closed := true, colons := 0, percent := false }
  else if b == 0x40 then .ok { next with at? := some s.count, colons := 0, percent := false }
  else if b == 0x25 then .ok { next with percent := true }
  else if isHostByte b then .ok next
  else .error .character

/-- Reads the part before the path and gives its length. -/
def readAuthority (b : Bytes) : Except Fault Nat := do
  let part := b.takeWhile fun c => c != 0x2F && c != 0x3F && c != 0x23
  let s ← part.foldlM Scan.step {}
  if s.opened != s.closed || s.colons > 1 || s.percent then .error .authority
  if s.count > 0 && s.at? == some (s.count - 1) then .error .authority
  return s.count

/-- What follows the scheme, if there is one. -/
def splitScheme (b : Bytes) : Except Fault (Option Bytes) :=
  let name := b.takeWhile isSchemeByte
  if (b.drop name.length).take 3 == Text.encode "://" && b.length > 3 then
    if name.length > 64 then .error .schemeTooLong else .ok (some (b.drop (name.length + 3)))
  else .ok none

/-- Checks the address of a collector. -/
def check (url : String) : Except Fault Unit := do
  let b := Text.encode url
  if b.length > 65534 then .error .tooLong
  match b with
  | [] => .error .empty
  | [0x2A] => return ()
  | 0x2F :: _ => checkPath b
  | _ =>
    match ← splitScheme b with
    | none => if (← readAuthority b) == b.length then return () else .error .format
    | some rest =>
      let n ← readAuthority rest
      if n == 0 then .error .format
      checkPath (rest.drop n)

/-- What is wrong with the address of a collector. -/
def complaint (url : String) (f : Fault) : String := "invalid URI " ++ url ++ ". Reason " ++ f.message

/-- The line that tells that traces have somewhere to go. -/
def readyLine (url : String) : LogLine := ⟨.info, "OpenTelemetry tracer initialized (exporter: " ++ url ++ ")"⟩

end Phrasebook.Tracing
