/-!
# Spans of time

A span is a whole number of nanoseconds. It is written in the largest unit of which it has one, with as
many decimals as it needs.
-/

set_option autoImplicit false

namespace Phrasebook

/-- A span of time in nanoseconds. -/
structure Span where
  /-- The number of nanoseconds. -/
  nanos : Nat
deriving DecidableEq, Inhabited, Ord

namespace Span

/-- A number of microseconds. -/
def ofMicros (n : Nat) : Span := ⟨n * 1000⟩

/-- A number of milliseconds. -/
def ofMillis (n : Nat) : Span := ⟨n * 1000000⟩

/-- The whole seconds of a span. -/
def secs (s : Span) : Nat := s.nanos / 1000000000

/-- A number of units with the decimals for a rest of `width` digits, no zeros at the end. -/
def decimals (whole rest width : Nat) : String :=
  let digits := (toString rest).toList
  let padded := List.replicate (width - digits.length) '0' ++ digits
  let kept := (padded.reverse.dropWhile (· == '0')).reverse
  toString whole ++ (if kept.isEmpty then "" else "." ++ String.ofList kept)

/-- The text of a span. -/
def text (s : Span) : String :=
  if s.nanos ≥ 1000000000 then decimals (s.nanos / 1000000000) (s.nanos % 1000000000) 9 ++ "s"
  else if s.nanos ≥ 1000000 then decimals (s.nanos / 1000000) (s.nanos % 1000000) 6 ++ "ms"
  else if s.nanos ≥ 1000 then decimals (s.nanos / 1000) (s.nanos % 1000) 3 ++ "µs"
  else toString s.nanos ++ "ns"

end Span

end Phrasebook
