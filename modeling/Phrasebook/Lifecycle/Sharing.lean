import Phrasebook.Lifecycle.Resources
/-!
# A scope in many hands

A scope can be shared. Then several hands register resources and release everything at the same time, and a
release can register more while it goes on. The register is looked at for one registration or one taking at a
time, and never while a release goes on; so between any two things that one hand does the others may do
anything.

`Shared.step` is one such thing, done by whoever is chosen, so that a list of moves is any interleaving. A
release is looked at now and then, and each time its script comes first and its time limit second, as the
script may be through when it is looked at late.
-/

set_option autoImplicit false

namespace Phrasebook.Lifecycle

/-- What a release does, one thing after the other. -/
inductive Script where
  /-- It ends. -/
  | ends (e : Except Failure Unit)
  /-- It never ends. -/
  | hangs
  /-- It waits and goes on. -/
  | waits (span : Nat) (rest : Script)
  /-- It registers something that has a release of its own, and goes on. -/
  | registers (name : String) (release rest : Script)

/-- The script of a piece of work: it takes its time and registers nothing. -/
def Script.ofWork (w : Work) : Script :=
  .waits w.delay (match w.ending with
    | some e => .ends e
    | none => .hangs)

/-- Something registered. -/
structure Held where
  /-- How many had been registered before it. -/
  number : Nat
  /-- Its name. -/
  name : String
  /-- What it takes to release it. -/
  release : Script

/-- How a release ended for the call that made it. -/
inductive ReleaseEnd where
  | well
  | failed (c : Chain)
  | late
  | broke (message : String)

/-- The end that an ending brings. -/
def ReleaseEnd.ofEnding : Except Failure Unit → ReleaseEnd
  | .ok () => .well
  | .error (.failed c) => .failed c
  | .error (.broke m) => .broke m

/-- Whether the call counts it among those that did not go well. -/
def ReleaseEnd.isCounted : ReleaseEnd → Bool
  | .failed _ | .late => true
  | .well | .broke _ => false

/-- Where a call that releases everything stands. -/
inductive DrainStage where
  /-- It is about to look for the next. -/
  | looking
  /-- It has taken something off the register. -/
  | taken (h : Held)
  /-- It waits for a release that was begun, of which so much is left since some time. -/
  | releasing (number : Nat) (name : String) (left : Script) (since begun : Nat)
  /-- It has found nothing and returned. -/
  | returned
  /-- A release has broken down. -/
  | broke (message : String)

/-- Where a call stands when a release of its own is over. A breakdown ends the call too. -/
def ReleaseEnd.stage : ReleaseEnd → DrainStage
  | .broke m => .broke m
  | .well | .failed _ | .late => .looking

/-- A call that releases everything. -/
structure Drain where
  /-- Where it stands. -/
  stage : DrainStage := .looking
  /-- How many of its releases did not go well. -/
  failed : Nat := 0

/-- Something that happens to a shared scope: resources and calls go by their numbers. -/
inductive Happening where
  /-- A resource is registered, with its release. -/
  | registered (number : Nat) (name : String) (release : Script)
  /-- A call takes a resource off the register. -/
  | took (drain number : Nat)
  /-- A call begins a release. -/
  | invoked (drain number : Nat) (name : String) (release : Script)
  /-- A release is over for the call that began it. -/
  | ended (drain number : Nat) (name : String) (e : ReleaseEnd)
  /-- A call returns with its count. -/
  | returned (drain failed : Nat)

/-- What the rest of the service sees of it. -/
def Happening.events (limit : Nat) : Happening → List Event
  | .invoked _ _ name _ => [.releasing name]
  | .ended _ _ name .well => [.releaseEnded name, .released name]
  | .ended _ _ name (.failed c) => [.releaseEnded name, .releaseFailed name c]
  | .ended _ _ name .late => [.releaseTimedOut name (.ofMillis limit)]
  | .ended _ _ _ (.broke _) | .registered .. | .took .. | .returned .. => []

/-- A scope that is shared, with the calls that release everything. -/
structure Shared where
  /-- How long each release may take. -/
  limit : Nat
  /-- The time. -/
  now : Nat := 0
  /-- What is registered, the last first. -/
  register : List Held := []
  /-- How many have ever been registered. -/
  count : Nat := 0
  /-- The calls, in the order in which they were made. -/
  drains : List Drain := []
  /-- What has happened, and when. -/
  trace : List (Nat × Event) := []

namespace Shared

/-- Something that one of the hands does, or the passing of time. -/
inductive Move where
  /-- Registers something. -/
  | register (name : String) (release : Script)
  /-- Calls for everything to be released. -/
  | call
  /-- Lets a call do its next thing. -/
  | go (drain : Nat)
  /-- Lets time pass. -/
  | pass (span : Nat)

/-- The names of what is registered, in the order of acquiring. -/
def names (s : Shared) : List String := (s.register.map (·.name)).reverse

/-- Puts something on the register. -/
def put (s : Shared) (name : String) (release : Script) : Shared :=
  { s with register := ⟨s.count, name, release⟩ :: s.register, count := s.count + 1 }

/-- Lets a call stand somewhere. -/
def seat (s : Shared) (i : Nat) (d : Drain) : Shared := { s with drains := s.drains.set i d }

/-- A release is over for a call. -/
def conclude (s : Shared) (i failed number : Nat) (name : String) (e : ReleaseEnd) : Option Happening × Shared :=
  (some (.ended i number name e), s.seat i ⟨e.stage, failed + if e.isCounted then 1 else 0⟩)

/-- A release is not through when it is looked at: it may be out of time. -/
def await (s : Shared) (i failed number : Nat) (name : String) (begun : Nat) : Option Happening × Shared :=
  if begun + s.limit ≤ s.now then s.conclude i failed number name .late else (none, s)

/-- Lets a call do its next thing. -/
def goOn (s : Shared) (i : Nat) (d : Drain) : Option Happening × Shared :=
  match d.stage with
  | .looking =>
    match s.register with
    | [] => (some (.returned i d.failed), s.seat i ⟨.returned, d.failed⟩)
    | h :: rest => (some (.took i h.number), { s with register := rest }.seat i ⟨.taken h, d.failed⟩)
  | .taken h =>
    (some (.invoked i h.number h.name h.release),
      s.seat i ⟨.releasing h.number h.name h.release s.now s.now, d.failed⟩)
  | .releasing number name left since begun =>
    match left with
    | .ends e => s.conclude i d.failed number name (.ofEnding e)
    | .registers other release rest =>
      (some (.registered s.count other release),
        (s.put other release).seat i ⟨.releasing number name rest s.now begun, d.failed⟩)
    | .waits span rest =>
      -- the release goes on before its time is looked at
      if since + span ≤ s.now then (none, s.seat i ⟨.releasing number name rest s.now begun, d.failed⟩)
      else s.await i d.failed number name begun
    | .hangs => s.await i d.failed number name begun
  | .returned | .broke _ => (none, s)

/-- Does one thing. Says what happens, if anything does. -/
def move (s : Shared) : Move → Option Happening × Shared
  | .register name release => (some (.registered s.count name release), s.put name release)
  | .call => (none, { s with drains := s.drains ++ [{}] })
  | .go i =>
    match s.drains[i]? with
    | some d => s.goOn i d
    | none => (none, s)
  | .pass span => (none, { s with now := s.now + span })

/-- Does one thing and writes down what is seen of it. -/
def step (s : Shared) (m : Move) : Option Happening × Shared :=
  let (h, t) := s.move m
  (h, { t with trace := t.trace ++ (h.toList.flatMap (·.events s.limit)).map (t.now, ·) })

end Shared

end Phrasebook.Lifecycle
