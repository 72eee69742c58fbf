import Phrasebook.Log
import Phrasebook.Chain
/-!
# Log filters

A filter is a list of directives, separated by commas: a level for everything, or a level for what a part
of the service writes. A directive can also name a span and its fields. Of the directives that fit a line
the most specific one decides.
-/

set_option autoImplicit false

namespace Phrasebook.Logging

/-- How much is let through. -/
inductive Threshold where
  | off
  | upTo (l : Level)
deriving DecidableEq, Inhabited

/-- The rank of a level: the more important, the lower. -/
def rank : Level → Nat
  | .error => 1
  | .warn => 2
  | .info => 3
  | .debug => 4
  | .trace => 5

/-- Whether a level is let through. -/
def Threshold.lets : Threshold → Level → Bool
  | .off, _ => false
  | .upTo l, m => rank m ≤ rank l

/-- The levels that stand for themselves. -/
def levels : List Level := [.error, .warn, .info, .debug, .trace]

/-- The threshold that a text names: by name in any letter case, or by rank. -/
def Threshold.ofText? (s : String) : Option Threshold :=
  let name := String.ofList (s.toList.map Char.toUpper)
  let digits := if s.startsWith "+" then s.toList.drop 1 else s.toList
  if !digits.isEmpty && digits.all Char.isDigit then
    let n := digits.foldl (fun n c => n * 10 + (c.toNat - '0'.toNat)) 0
    if n == 0 then some .off else (levels.find? fun l => rank l == n).map .upTo
  else if name == "OFF" then some .off
  else if name.isEmpty then some (.upTo .error)
  else (levels.find? fun l => l.name == name).map .upTo

/-- A directive. -/
structure Directive where
  /-- How much is let through. -/
  threshold : Threshold
  /-- The part of the service meant; everything, if none is given. -/
  target : Option String := none
  /-- Whether a span or its fields are named. -/
  inSpan : Bool := false
deriving DecidableEq, Inhabited

/-- Why a filter cannot be read. -/
inductive FilterError where
  | directive
  | level
deriving DecidableEq, Inhabited

/-- What is wrong with a level. -/
def levelMessage : String :=
  "error parsing level filter: expected one of \"off\", \"error\", \"warn\", \"info\", \"debug\", \"trace\", " ++
    "or a number 0-5"

/-- The error with its cause. -/
def FilterError.chain : FilterError → Chain
  | .directive => ⟨"invalid filter directive", []⟩
  | .level => ⟨levelMessage, [levelMessage]⟩

/-! ## Reading a directive -/

/-- Where the reading of a directive stands. The texts are those read since the place began. -/
inductive Place where
  | start
  /-- In a level or the name of a part. -/
  | word (text : List Char)
  /-- In the brackets of a span. -/
  | span
  /-- In the braces of its fields. -/
  | field (text : List Char)
  /-- After the fields. -/
  | fields
  /-- After a span. -/
  | spanned
  /-- In the level after an equals sign. -/
  | level (text : List Char)
deriving DecidableEq, Inhabited

/-- Whether a character can begin a directive. -/
def isWordStart (c : Char) : Bool := c.isAlphanum || c == '-' || c == ':' || c == '_' || c.toNat ≥ 128

/-- A directive without a level lets everything through. -/
def everything : Threshold := .upTo .trace

/-- One character of a directive. -/
def Directive.step (d : Directive) (p : Place) (c : Char) : Except FilterError (Directive × Place) :=
  match p with
  | .start =>
    if c == '[' then .ok ({ d with inSpan := true }, .span)
    else if isWordStart c then .ok (d, .word [c])
    else .error .directive
  | .word text =>
    if c == '=' then .ok ({ d with target := some (String.ofList text) }, .level [])
    else if c == '[' then .ok ({ d with target := some (String.ofList text), inSpan := true }, .span)
    else .ok (d, .word (text ++ [c]))
  | .span =>
    if c == ']' then .ok (d, .spanned)
    else if c == '\x7b' then .ok (d, .field [])
    else .ok (d, .span)
  | .field text =>
    if c == '\x7d' then if text.isEmpty then .error .directive else .ok (d, .fields)
    else .ok (d, .field (text ++ [c]))
  | .fields => if c == ']' then .ok (d, .spanned) else .error .directive
  | .spanned => if c == '=' then .ok (d, .level []) else .error .directive
  | .level text => .ok (d, .level (text ++ [c]))

/-- What a directive says when its text ends. -/
def Directive.finish (d : Directive) (p : Place) : Except FilterError Directive :=
  match p with
  | .word text =>
    match Threshold.ofText? (String.ofList text) with
    | some t => .ok { d with threshold := t, target := none }
    | none => .ok { d with threshold := everything, target := some (String.ofList text) }
  | .level [] => .ok { d with threshold := everything }
  | .level text =>
    match Threshold.ofText? (String.ofList text) with
    | some t => .ok { d with threshold := t }
    | none => .error .level
  | .spanned => .ok d
  | _ => .error .directive

/-- Reads a directive. -/
def Directive.ofText? (s : String) : Except FilterError Directive := do
  let (d, p) ← s.toList.foldlM (fun (dp : Directive × Place) c => dp.1.step dp.2 c)
    ({ threshold := everything }, Place.start)
  d.finish p

/-! ## Filters -/

/-- A filter. -/
structure Filter where
  /-- Its directives. -/
  directives : List Directive
deriving DecidableEq, Inhabited

namespace Filter

/-- Reads a filter. Without directives only errors are let through. -/
def ofText? (s : String) : Except FilterError Filter := do
  let ds ← ((s.splitOn ",").filter (!·.isEmpty)).mapM Directive.ofText?
  return ⟨if ds.isEmpty then [{ threshold := .upTo .error }] else ds⟩

/-- How specific a directive is. -/
def specificity (d : Directive) : Nat :=
  match d.target with
  | some t => t.utf8ByteSize + 1
  | none => 0

/-- Whether a directive is about a part of the service. One that names a span is about lines in it only. -/
def isAbout (d : Directive) (target : String) : Bool :=
  !d.inSpan && d.target.all (target.startsWith ·)

/-- The more specific of two directives, the later one if they are alike. -/
def decide? (found : Option Directive) (d : Directive) : Option Directive :=
  match found with
  | some f => if specificity d < specificity f then some f else some d
  | none => some d

/-- Whether a line that a part of the service writes is let through. -/
def lets (f : Filter) (target : String) (l : Level) : Bool :=
  ((f.directives.filter (isAbout · target)).foldl decide? none).any fun d => d.threshold.lets l

end Filter

end Phrasebook.Logging
