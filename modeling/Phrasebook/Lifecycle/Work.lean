import Phrasebook.Chain
/-!
# Work on the clock

The clock counts milliseconds from the start. A piece of work takes some time and then ends well, fails or
breaks down; it may also never end.
-/

set_option autoImplicit false

namespace Phrasebook.Lifecycle

/-- How something can go wrong. -/
inductive Failure where
  /-- It fails and says why. -/
  | failed (c : Chain)
  /-- It breaks down with a message. -/
  | broke (message : String)
deriving DecidableEq, Inhabited

/-- A piece of work. -/
structure Work where
  /-- How long it takes. -/
  delay : Nat := 0
  /-- How it ends; without an ending it goes on for ever. -/
  ending : Option (Except Failure Unit) := some (.ok ())

/-- When and how work begun at a time ends. -/
def Work.endAt? (w : Work) (begun : Nat) : Option (Nat × Except Failure Unit) :=
  w.ending.map (begun + w.delay, ·)

/-- A point in the course of events: of two at one time, the one with the earlier turn comes first. -/
structure Moment where
  /-- The time. -/
  time : Nat
  /-- The turn at that time. -/
  turn : Nat
deriving DecidableEq, Inhabited

/-- Whether one moment is not after another. -/
def Moment.le (a b : Moment) : Bool := a.time < b.time || (a.time == b.time && a.turn ≤ b.turn)

/-- Whether a time keeps to a limit. -/
def within (time : Nat) : Option Nat → Bool
  | some limit => time ≤ limit
  | none => true

/-- Whether a time is before a limit. -/
def before (time : Nat) : Option Nat → Bool
  | some limit => time < limit
  | none => true

end Phrasebook.Lifecycle
