import Phrasebook.Decimal.Shortest
/-!
# How a floating-point number is written

The digits are always the fewest that read back (`Binary.shortest`). What differs between the two places
that write floating-point numbers is the layout: `json` is used in JSON texts and in what is said about
them, `plain` where a number from a settings source is asked for as text.
-/

set_option autoImplicit false

namespace Phrasebook.Decimal

/-- The layout decisions of one way to write floating-point numbers. -/
structure Layout where
  /-- Exponents of the leading digit that are written positionally, if not all are. -/
  positional : Option (Int × Int)
  /-- Whether an integral value ends in `.0`. -/
  pointZero : Bool
  /-- Which of two equally near candidates is taken. -/
  tie : Tie

/-- JSON: positional for leading digits from 10^-5 to 10^15, else an exponent with its sign. -/
def Layout.json : Layout where
  positional := some (-5, 15)
  pointZero := true
  tie := .toEven

/-- Settings: always positional, without a needless point. -/
def Layout.plain : Layout where
  positional := none
  pointZero := false
  tie := .up

/-- The text of a decimal number without its sign. -/
def Layout.place (w : Layout) (d : Dec) : String :=
  let ds := toString d.digits
  let lead : Int := d.exp + ds.length - 1
  let inRange := match w.positional with
    | none => true
    | some (lo, hi) => lo ≤ lead && lead ≤ hi
  if d.digits == 0 then (if w.pointZero then "0.0" else "0")
  else if inRange then
    if d.exp ≥ 0 then
      ds ++ String.ofList (List.replicate d.exp.toNat '0') ++ (if w.pointZero then ".0" else "")
    else if lead ≥ 0 then
      String.ofList (ds.toList.take (lead.toNat + 1)) ++ "." ++ String.ofList (ds.toList.drop (lead.toNat + 1))
    else "0." ++ String.ofList (List.replicate (-lead - 1).toNat '0') ++ ds
  else
    let mantissa := match ds.toList with
      | [] => ""
      | [c] => String.ofList [c]
      | c :: more => String.ofList (c :: '.' :: more)
    mantissa ++ "e" ++ (if lead < 0 then "-" else "+") ++ toString lead.natAbs

/-- The text of a floating-point number. -/
def Layout.render (w : Layout) (x : Float) : String :=
  if x.isNaN then "NaN"
  else
    let sign := if (x.toBits >>> 63) == 1 then "-" else ""
    if x.isInf then sign ++ "inf"
    else sign ++ w.place ((Binary.ofBits x.toBits).shortest w.tie)

end Phrasebook.Decimal
