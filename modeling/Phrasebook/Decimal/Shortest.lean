/-!
# The fewest digits that read back

A finite binary64 value is `m · 2^q`, and the reals that round to it form an interval whose ends belong
to it exactly when `m` is even. `Binary.shortest` looks on the decimal grids of one, two, … seventeen
digits for a point of that interval next to the value; the first grid with one wins, of two points the
nearer, and on an exact tie the rule that the caller asks for. All comparisons are exact, on naturals.
-/

set_option autoImplicit false

namespace Phrasebook.Decimal

/-- A finite non-negative binary64 value, `m · 2^q`. -/
structure Binary where
  /-- The significand. -/
  m : Nat
  /-- The exponent of two. -/
  q : Int
  /-- The gap to the value below is half the gap to the value above. -/
  narrowBelow : Bool

/-- The value with these bits, sign aside. NaN and the infinities are no such value. -/
def Binary.ofBits (b : UInt64) : Binary :=
  let e := ((b >>> 52) &&& 0x7FF).toNat
  let f := (b &&& 0xFFFFFFFFFFFFF).toNat
  if e == 0 then ⟨f, -1074, false⟩ else ⟨Nat.pow 2 52 + f, (e : Int) - 1075, f == 0 && e > 1⟩

/-- The number `digits · 10^exp`. -/
structure Dec where
  /-- The digits, as one number. -/
  digits : Nat
  /-- The exponent of ten. -/
  exp : Int
deriving Repr, DecidableEq

/-- What to take when two candidates are equally near. -/
inductive Tie where
  /-- The one with an even last digit. -/
  | toEven
  /-- The larger one. -/
  | up

/-- Compares `a · 10^i` with `n · 2^j`. -/
def cmpScaled (a : Nat) (i : Int) (n : Nat) (j : Int) : Ordering :=
  compare (a * Nat.pow 10 i.toNat * Nat.pow 2 (-j).toNat) (n * Nat.pow 2 j.toNat * Nat.pow 10 (-i).toNat)

/-- Whether the decimal lies among the reals that round to `x`. -/
def Binary.readsBack (x : Binary) (d : Dec) : Bool :=
  let lo := if x.narrowBelow then 4 * x.m - 1 else 4 * x.m - 2
  let hi := 4 * x.m + 2
  let ends := x.m % 2 == 0
  let below := cmpScaled d.digits d.exp lo (x.q - 2)
  let above := cmpScaled d.digits d.exp hi (x.q - 2)
  (below == .gt || (ends && below == .eq)) && (above == .lt || (ends && above == .eq))

/-- The least `k` with `x < 10^k`, for a nonzero `x`: an estimate from the binary size, then corrected. -/
def Binary.scale (x : Binary) : Int :=
  let estimate : Int := ((x.m.log2 : Int) + x.q) * 30103 / 100000
  let tries := [estimate - 1, estimate, estimate + 1, estimate + 2]
  (tries.find? fun k => cmpScaled 1 k x.m x.q == .gt).getD (estimate + 3)

/-- The greatest point of the grid `10^exp` that is at most `x`. -/
def Binary.floorOn (x : Binary) (exp : Int) : Nat :=
  (x.m * Nat.pow 2 x.q.toNat * Nat.pow 10 (-exp).toNat) / (Nat.pow 2 (-x.q).toNat * Nat.pow 10 exp.toNat)

/-- The point of the grid `10^exp` next to `x` that reads back, if there is one. -/
def Binary.onGrid (x : Binary) (tie : Tie) (exp : Int) : Option Dec :=
  let d := x.floorOn exp
  let low : Dec := ⟨d, exp⟩
  let high : Dec := ⟨d + 1, exp⟩
  match x.readsBack low, x.readsBack high with
  | false, false => none
  | true, false => some low
  | false, true => some high
  | true, true =>
    -- the middle of the two points, compared with the value
    match cmpScaled (2 * d + 1) exp x.m (x.q + 1), tie with
    | .gt, _ => some low
    | .lt, _ => some high
    | .eq, .up => some high
    | .eq, .toEven => some (if d % 2 == 0 then low else high)

/-- The decimal without trailing zeros in its digits. -/
def Dec.strip (d : Dec) : Dec :=
  go d.digits d.digits d.exp
where
  go : Nat → Nat → Int → Dec
    | 0, n, e => ⟨n, e⟩
    | fuel + 1, n, e => if n != 0 && n % 10 == 0 then go (fuel / 10) (n / 10) (e + 1) else ⟨n, e⟩

/-- The exact decimal value of `x`. -/
def Binary.exact (x : Binary) : Dec :=
  if x.q ≥ 0 then ⟨x.m * Nat.pow 2 x.q.toNat, 0⟩ else ⟨x.m * Nat.pow 5 (-x.q).toNat, x.q⟩

/-- The fewest digits that read back to `x`; zero has the digit zero. -/
def Binary.shortest (x : Binary) (tie : Tie) : Dec :=
  if x.m == 0 then ⟨0, 0⟩
  else
    let k := x.scale
    match (List.range 17).findSome? fun n => x.onGrid tie (k - ((n + 1 : Nat) : Int)) with
    | some d => d.strip
    | none => x.exact.strip

end Phrasebook.Decimal
