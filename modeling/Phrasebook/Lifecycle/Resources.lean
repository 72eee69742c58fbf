import Phrasebook.Lifecycle.Event
import Phrasebook.Lifecycle.Work
/-!
# Resources of the process

What the process acquires is registered with the way to release it. When the guarded work is over, however
it ended, everything registered is released, the last acquired first, each within a time limit. What goes
wrong in a release is noted and changes nothing else, except that a release that breaks down ends the
releasing there.
-/

set_option autoImplicit false

namespace Phrasebook.Lifecycle

/-- Something acquired. -/
structure Resource where
  /-- Its name. -/
  name : String
  /-- What it takes to release it. -/
  release : Work := {}

/-- What has been acquired and not released. -/
structure Scope where
  /-- How long each release may take. -/
  timeout : Nat
  /-- The time. -/
  now : Nat := 0
  /-- What is registered, the last first. -/
  resources : List Resource := []
  /-- What has happened, and when. -/
  trace : List (Nat × Event) := []

namespace Scope

/-- Notes that something happens now. -/
def emit (s : Scope) (e : Event) : Scope := { s with trace := s.trace ++ [(s.now, e)] }

/-- Lets time pass. -/
def pass (s : Scope) (time : Nat) : Scope := { s with now := s.now + time }

/-- Registers a resource. -/
def register (s : Scope) (r : Resource) : Scope := { s with resources := r :: s.resources }

/-- The names of what is registered, in the order of acquiring. -/
def names (s : Scope) : List String := (s.resources.map (·.name)).reverse

/-- Takes the last resource off the register. -/
def take? (s : Scope) : Option (Resource × Scope) :=
  match s.resources with
  | [] => none
  | r :: rest => some (r, { s with resources := rest })

/-- Releases a resource that has been taken off the register. Says whether it went well; a release that is
done at the time limit is in time. -/
def release (s : Scope) (r : Resource) : Except String Bool × Scope :=
  let s := s.emit (.releasing r.name)
  match (r.release.endAt? s.now).filter (·.1 ≤ s.now + s.timeout) with
  | some (_, .ok ()) =>
    (.ok true, ((s.pass r.release.delay).emit (.releaseEnded r.name)).emit (.released r.name))
  | some (_, .error (.failed c)) =>
    (.ok false, ((s.pass r.release.delay).emit (.releaseEnded r.name)).emit (.releaseFailed r.name c))
  | some (_, .error (.broke m)) => (.error m, s.pass r.release.delay)
  | none => (.ok false, (s.pass s.timeout).emit (.releaseTimedOut r.name (.ofMillis s.timeout)))

/-- Releases at most so many resources and counts those that did not go well. -/
def releaseSteps : Nat → Scope → Except String Nat × Scope
  | 0, s => (.ok 0, s)
  | n + 1, s =>
    match s.take? with
    | none => (.ok 0, s)
    | some (r, s) =>
      match s.release r with
      | (.error m, s) => (.error m, s)
      | (.ok well, s) =>
        let (count, s) := releaseSteps n s
        (count.map fun k => if well then k else k + 1, s)

/-- Releases everything and counts what did not go well. -/
def releaseAll (s : Scope) : Except String Nat × Scope := releaseSteps s.resources.length s

/-- Does some work and then releases everything. The work's own end is the answer, unless a release breaks
down. -/
def guard {α : Type} (s : Scope) (work : Scope → Except Failure α × Scope) : Except Failure α × Scope :=
  let (r, s) := work s
  let s := match r with
    | .error (.failed c) => s.emit (.exiting c)
    | _ => s
  match s.releaseAll with
  | (.error m, s) => (.error (.broke m), s)
  | (.ok _, s) => (r, s)

end Scope

end Phrasebook.Lifecycle
