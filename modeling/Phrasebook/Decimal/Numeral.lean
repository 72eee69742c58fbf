/-!
# Numbers written out

Reading of decimal numbers: integers with an optional sign, and real numbers with an optional fraction and
an optional power of ten, or one of the names of infinity and of what is no number. A real number is
rounded to the nearest binary64 value.
-/

set_option autoImplicit false

namespace Phrasebook.Decimal

/-- The value of decimal digits, continuing a number. -/
def digitsFrom (n : Nat) (ds : List Char) : Nat :=
  ds.foldl (fun n d => n * 10 + (d.toNat - '0'.toNat)) n

/-- A sign at the front, if there is one, and what follows. -/
def splitSign : List Char → Bool × List Char
  | '-' :: rest => (true, rest)
  | '+' :: rest => (false, rest)
  | cs => (false, cs)

/-- An integer: an optional sign and at least one digit. -/
def readInt? (cs : List Char) : Option Int :=
  let (negative, ds) := splitSign cs
  if ds.isEmpty || !ds.all Char.isDigit then none
  else
    let n := digitsFrom 0 ds
    some (if negative then -(n : Int) else n)

/-- The binary64 value nearest to `m * 10^exp`. -/
def nearest (m : Nat) (exp : Int) : Float :=
  -- beyond these magnitudes everything is infinite or zero
  let magnitude : Int := (toString m).length + exp
  if m == 0 || magnitude < -400 then 0
  else if magnitude > 400 then 1 / 0
  else Float.ofScientific m (exp < 0) exp.natAbs

/-- The power of ten at the end of a real number. -/
def readPower? : List Char → Option Int
  | [] => some 0
  | c :: rest => if c == 'e' || c == 'E' then readInt? rest else none

/-- A real number without its sign. -/
def readMagnitude? (cs : List Char) : Option Float :=
  let name := String.ofList (cs.map Char.toLower)
  if name == "inf" || name == "infinity" then some (1 / 0)
  else if name == "nan" then some (0 / 0)
  else
    let whole := cs.takeWhile Char.isDigit
    let (fraction, rest) := match cs.dropWhile Char.isDigit with
      | '.' :: more => (more.takeWhile Char.isDigit, more.dropWhile Char.isDigit)
      | more => ([], more)
    if whole.isEmpty && fraction.isEmpty then none
    else do
      let power ← readPower? rest
      return nearest (digitsFrom (digitsFrom 0 whole) fraction) (power - (fraction.length : Int))

/-- A real number. -/
def readReal? (cs : List Char) : Option Float :=
  let (negative, rest) := splitSign cs
  (readMagnitude? rest).map fun x => if negative then -x else x

end Phrasebook.Decimal
