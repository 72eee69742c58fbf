import Phrasebook.Toml.Value
import Phrasebook.Decimal.Numeral
/-!
# Plain TOML scalars

Flags, numbers, dates and times: the values that are written without quotes.
-/

set_option autoImplicit false

namespace Phrasebook.Toml

/-- Whether an underscore stands only between digits. -/
def underscoresFit (isDigit : Char → Bool) : List Char → Bool
  | [] => false
  | [c] => isDigit c
  | c :: '_' :: rest => isDigit c && underscoresFit isDigit rest
  | c :: rest => isDigit c && underscoresFit isDigit rest

/-- The digits without underscores. -/
def bare (cs : List Char) : List Char := cs.filter (· != '_')

/-- The value of a digit. -/
def digitValue (c : Char) : Nat :=
  if c.isDigit then c.toNat - '0'.toNat else c.toLower.toNat - 'a'.toNat + 10

/-- Whether a character is a digit to a base of at most sixteen. -/
def isDigitOf (base : Nat) (c : Char) : Bool :=
  (c.isDigit || ('a' ≤ c.toLower && c.toLower ≤ 'f')) && digitValue c < base

/-- A natural number to a base, with underscores. -/
def readBase? (base : Nat) (cs : List Char) : Option Int :=
  if underscoresFit (isDigitOf base) cs then
    some ((bare cs).foldl (fun n c => n * base + digitValue c) 0 : Nat)
  else none

/-- Whether decimal digits have no needless zero in front. -/
def noLeadingZero : List Char → Bool
  | '0' :: _ :: _ => false
  | _ => true

/-- An integer. -/
def readInteger? : List Char → Option Int
  | '0' :: 'x' :: cs => readBase? 16 cs
  | '0' :: 'o' :: cs => readBase? 8 cs
  | '0' :: 'b' :: cs => readBase? 2 cs
  | cs =>
    let (negative, ds) := Decimal.splitSign cs
    if underscoresFit Char.isDigit ds && noLeadingZero ds then
      some (if negative then -(Decimal.digitsFrom 0 (bare ds) : Int) else Decimal.digitsFrom 0 (bare ds))
    else none

/-- A real number: it has a fraction or a power of ten, with digits on both sides of each mark. -/
def readFloat? (cs : List Char) : Option Float :=
  let (negative, ds) := Decimal.splitSign cs
  let signed (x : Float) : Float := if negative then -x else x
  if ds == ['i', 'n', 'f'] then some (signed (1 / 0))
  else if ds == ['n', 'a', 'n'] then some (signed (0 / 0))
  else
    let isDigit (c : Char) : Bool := c.isDigit || c == '_'
    let whole := ds.takeWhile isDigit
    let (fraction, power) := match ds.dropWhile isDigit with
      | '.' :: rest => (some (rest.takeWhile isDigit), rest.dropWhile isDigit)
      | rest => (none, rest)
    let powerFits := match power with
      | [] => fraction.isSome
      | c :: rest => (c == 'e' || c == 'E') && underscoresFit Char.isDigit (Decimal.splitSign rest).2
    if underscoresFit Char.isDigit whole && noLeadingZero whole
        && fraction.all (underscoresFit Char.isDigit) && powerFits then
      Decimal.readReal? (bare cs)
    else none

/-! ## Dates and times -/

/-- So many digits at the front, and what follows. -/
def takeDigits? (n : Nat) (cs : List Char) : Option (Nat × List Char) :=
  let ds := cs.take n
  if ds.length == n && ds.all Char.isDigit then some (Decimal.digitsFrom 0 ds, cs.drop n) else none

/-- A number with zeros in front. -/
def padded (width n : Nat) : String :=
  let ds := toString n
  String.ofList (List.replicate (width - ds.length) '0') ++ ds

/-- How many days a month has. -/
def daysIn (year month : Nat) : Nat :=
  match month with
  | 2 => if year % 4 == 0 && (year % 100 != 0 || year % 400 == 0) then 29 else 28
  | 4 | 6 | 9 | 11 => 30
  | _ => 31

/-- A date at the front, in full form, and what follows. -/
def readDate? (cs : List Char) : Option (String × List Char) := do
  let (year, cs) ← takeDigits? 4 cs
  let '-' :: cs := cs | none
  let (month, cs) ← takeDigits? 2 cs
  let '-' :: cs := cs | none
  let (day, cs) ← takeDigits? 2 cs
  if 1 ≤ month && month ≤ 12 && 1 ≤ day && day ≤ daysIn year month then
    some (padded 4 year ++ "-" ++ padded 2 month ++ "-" ++ padded 2 day, cs)
  else none

/-- The decimals of a second in full form: at most nine, without zeros at the end. -/
def decimalsText (ds : List Char) : String :=
  let kept := ((ds.take 9).reverse.dropWhile (· == '0')).reverse
  if kept.isEmpty then "0" else String.ofList kept

/-- A time at the front, in full form, and what follows. The seconds may be left out. -/
def readClock? (cs : List Char) : Option (String × List Char) := do
  let (hour, cs) ← takeDigits? 2 cs
  let ':' :: cs := cs | none
  let (minute, cs) ← takeDigits? 2 cs
  if hour ≥ 24 || minute ≥ 60 then none
  else
    let start := padded 2 hour ++ ":" ++ padded 2 minute
    match cs with
    | ':' :: cs => do
      let (second, cs) ← takeDigits? 2 cs
      if second > 60 then none
      else
        let start := start ++ ":" ++ padded 2 second
        match cs with
        | '.' :: cs =>
          let ds := cs.takeWhile Char.isDigit
          if ds.isEmpty then none
          else some (start ++ "." ++ decimalsText ds, cs.dropWhile Char.isDigit)
        | cs => some (start, cs)
    | cs => some (start, cs)

/-- The distance from universal time, in full form. -/
def readOffset? : List Char → Option String
  | [c] => if c == 'Z' || c == 'z' then some "Z" else none
  | sign :: cs => do
    let (hours, cs) ← takeDigits? 2 cs
    let ':' :: cs := cs | none
    let (minutes, cs) ← takeDigits? 2 cs
    if !cs.isEmpty || hours ≥ 24 || minutes ≥ 60 then none
    else if sign == '+' || (sign == '-' && hours == 0 && minutes == 0) then
      some ("+" ++ padded 2 hours ++ ":" ++ padded 2 minutes)
    else if sign == '-' then some ("-" ++ padded 2 hours ++ ":" ++ padded 2 minutes)
    else none
  | [] => none

/-- A date, a time, or both. -/
def readTime? (cs : List Char) : Option String :=
  match readDate? cs with
  | some (date, []) => some date
  | some (date, mark :: rest) =>
    if mark == 'T' || mark == 't' || mark == ' ' then
      match readClock? rest with
      | some (clock, []) => some (date ++ "T" ++ clock)
      | some (clock, rest) => (readOffset? rest).map fun o => date ++ "T" ++ clock ++ o
      | none => none
    else none
  | none =>
    match readClock? cs with
    | some (clock, []) => some clock
    | _ => none

/-- A value without quotes. -/
def readPlain? (cs : List Char) : Option Toml :=
  if cs == "true".toList then some (.flag true)
  else if cs == "false".toList then some (.flag false)
  else
    match readInteger? cs, readFloat? cs with
    | some i, _ => some (.integer i)
    | none, some x => some (.real x)
    | none, none => (readTime? cs).map .time

/-- Whether a character can stand in a value without quotes. -/
def isPlainChar (c : Char) : Bool :=
  c.isAlphanum || c == '+' || c == '-' || c == '_' || c == '.' || c == ':'

/-- The text of a value without quotes at the front, and what follows. A space inside it stands between a
date and a time. -/
def splitPlain (cs : List Char) : List Char × List Char :=
  let first := cs.takeWhile isPlainChar
  match cs.dropWhile isPlainChar with
  | ' ' :: rest =>
    if (readDate? first).any (·.2.isEmpty) && (rest.head?.any Char.isDigit) then
      (first ++ ' ' :: rest.takeWhile isPlainChar, rest.dropWhile isPlainChar)
    else (first, ' ' :: rest)
  | rest => (first, rest)

end Phrasebook.Toml
