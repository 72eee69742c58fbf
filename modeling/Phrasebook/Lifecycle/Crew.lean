import Phrasebook.Lifecycle.Task
/-!
# Tasks on one clock

A crew is a clock, some tasks and what has happened so far. One hand acts on the crew; the bodies of the
tasks go on only while the hand waits. If the hand waits for a time, it is the first to act at that time:
the bodies have done what they do before it (`Crew.sleepUntil`). If the end of a body wakes the hand, all
bodies have done what they do at that time too (`Crew.settle`). What is ready at once needs no waiting.
-/

set_option autoImplicit false

namespace Phrasebook.Lifecycle

/-- Tasks on one clock. -/
structure Crew where
  /-- The time. -/
  now : Nat := 0
  /-- The next turn. -/
  turn : Nat := 0
  /-- The tasks. -/
  tasks : List Task := []
  /-- What has happened, and when. -/
  trace : List (Nat × Event) := []

/-- What ends a wait. -/
inductive Wake where
  /-- The signal that was waited for. -/
  | signal
  /-- The end of a body. -/
  | task (name : String)
deriving DecidableEq, Inhabited

namespace Crew

/-- The task of a name. -/
def get? (c : Crew) (name : String) : Option Task := c.tasks.find? (·.name == name)

/-- Changes the task of a name. -/
def modify (c : Crew) (name : String) (f : Task → Task) : Crew :=
  { c with tasks := c.tasks.map fun t => if t.name == name then f t else t }

/-- Puts in a fresh task of a name; one that was there is gone, and its body with it. -/
def put (c : Crew) (name : String) : Crew :=
  { c with tasks := c.tasks.filter (·.name != name) ++ [{ name }] }

/-- Notes that something happens now. -/
def emit (c : Crew) (e : Event) : Crew := { c with trace := c.trace ++ [(c.now, e)] }

/-- Leaves behind what has happened so far. -/
def forget (c : Crew) : Crew := { c with trace := [] }

/-- The next moment at the present time. -/
def moment (c : Crew) : Moment := ⟨c.now, c.turn⟩

/-- Passes to the next turn. -/
def tick (c : Crew) : Crew := { c with turn := c.turn + 1 }

/-- Lets all bodies do what they do before a time. -/
def advance (c : Crew) (limit : Nat) : Crew :=
  let moved := c.tasks.map (·.advance limit)
  -- the bodies are told apart by their moments, not by their places in the crew
  let events := (moved.flatMap (·.2)).mergeSort fun a b => a.1.le b.1
  { c with tasks := moved.map (·.1), trace := c.trace ++ events.map fun (m, e) => (m.time, e) }

/-- Waits until a time, and is the first to act then. -/
def sleepUntil (c : Crew) (time : Nat) : Crew := { c.advance time with now := time }

/-- Waits until a time at which a body wakes the hand. -/
def settle (c : Crew) (time : Nat) : Crew := { c.advance (time + 1) with now := time }

/-- Waits until a limit, if there is one. -/
def sleepOut (c : Crew) : Option Nat → Crew
  | some limit => c.sleepUntil limit
  | none => c

/-- Runs a body in a task, unless it has run one before. -/
def spawn (c : Crew) (name : String) (p : Plan) : Crew × Bool :=
  match c.get? name with
  | some t =>
    let (t, ok) := t.spawn c.moment p
    let c := (c.modify name fun _ => t).tick
    (if ok then c else c.emit (.alreadyStarted name), ok)
  | none => (c, false)

/-- Does a piece of work, up to a limit. Work that ends at the limit is done. -/
def work (c : Crew) (w : Work) (limit : Option Nat) : Option (Except Failure Unit) × Crew :=
  match w.endAt? c.now with
  | some (t, e) => if within t limit then (some e, c.sleepUntil t) else (none, c.sleepOut limit)
  | none => (none, c.sleepOut limit)

/-- What may end a wait for a signal and some bodies, in the order in which it is looked at: in a circle
that begins at some place. -/
def wakes (names : List String) (first : Nat) : List Wake :=
  let all := .signal :: names.map .task
  all.drop first ++ all.take first

/-- Whether something that ends a wait is there already. -/
def isReady (c : Crew) (signal : Option Nat) : Wake → Bool
  | .signal => signal == some c.now
  | .task name => ((c.get? name).bind (·.fate?)).isSome

/-- When something ends a wait, if it comes before the limit does: a signal may come at the limit. -/
def wakeTime? (c : Crew) (signal limit : Option Nat) : Wake → Option Nat
  | .signal => signal.filter (within · limit)
  | .task name => ((c.get? name).bind (·.endTime?)).filter (before · limit)

/-- Waits until the time at which something ends the wait. -/
def wakeAt (c : Crew) (time : Nat) : Wake → Crew
  | .signal => c.sleepUntil time
  | .task _ => c.settle time

/-- The first of the earliest. -/
def earliest : List (Wake × Nat) → Option (Wake × Nat)
  | [] => none
  | x :: rest =>
    match earliest rest with
    | some y => if x.2 ≤ y.2 then some x else some y
    | none => some x

/-- Waits for the first of a signal and the ends of some bodies, up to a limit. Of what comes at one time
the first in the order of looking is taken. -/
def await (c : Crew) (names : List String) (signal limit : Option Nat) (first : Nat := 0) :
    Option Wake × Crew :=
  match (wakes names first).find? (c.isReady signal) with
  | some w => (some w, c)
  | none =>
    match earliest ((wakes names first).filterMap fun w => (c.wakeTime? signal limit w).map (w, ·)) with
    | some (w, t) => (some w, c.wakeAt t w)
    | none => (none, c.sleepOut limit)

/-- Asks a task for the end at which its exit is heard: whether there is one to be had. -/
def notify (c : Crew) (name : String) : Bool × Crew :=
  match c.get? name with
  | some t =>
    let (t, live) := t.notify
    (live, c.modify name fun _ => t)
  | none => (false, c)

/-- Gives up listening to a task. -/
def unhear (c : Crew) (name : String) : Crew := c.modify name Task.unhear

/-- Listens for the exit of a body, up to a limit. Without the end at which exits are heard nothing is. -/
def listen (c : Crew) (name : String) (live : Bool) (limit : Nat) : Option Exit × Crew :=
  let (wake, c) := c.await (if live then [name] else []) none (some limit)
  (wake.bind fun _ => (c.get? name).bind (·.exit?), c)

/-- Asks a task to stop and waits for its body until a deadline, at which the body is cut off. If the limit
comes before the deadline the wait is given up and the body left alone. -/
def stop (c : Crew) (name : String) (deadline : Nat) (limit : Option Nat) :
    Option (Except StopFailure Unit) × Crew :=
  let c := (c.modify name (·.ask c.moment)).tick
  let due := c.now + deadline
  let taken (c : Crew) : Option (Except StopFailure Unit) × Crew :=
    match (c.get? name).bind fun t => t.fate?.map t.verdict with
    | some v => (some v, c.modify name ({ · with held := false }))
    | none => (some (.ok ()), c)
  match c.get? name with
  | some t =>
    -- without a handle there is nothing to wait for, and a body that is over is not waited for
    if !t.held || t.fate?.isSome then if t.held then taken c else (some (.ok ()), c)
    else
      match t.endTime?.filter fun e => e < due && before e limit with
      | some e => taken (c.settle e)
      | none =>
        -- the body does not end by the deadline, so the deadline or the limit comes first
        if within due limit then
          let c := c.sleepUntil due
          (some (.error (.overdue name (.ofMillis deadline))), (c.modify name (·.abort c.moment)).tick)
        else (none, c.sleepOut limit)
  | none => (some (.ok ()), c)

/-- Work that does nothing but hand on how the stopping of a task went. -/
def handOn (stopped : Except Chain Unit) : Work := { ending := some (stopped.mapError .failed) }

/-- Stops a task and then does some last work, which knows how the stopping went. If the limit comes before
the task has been stopped there is no last work. -/
def stopAnd (c : Crew) (name : String) (deadline : Nat) (last : Except Chain Unit → Work)
    (limit : Option Nat) : Option (Except Failure Unit) × Crew :=
  match c.stop name deadline limit with
  | (some v, c) => c.work (last (v.mapError StopFailure.chain)) limit
  | (none, c) => (none, c)

/-- Cuts off every body that is still held. -/
def close (c : Crew) : Crew := { c with tasks := c.tasks.map (·.abort c.moment) }

end Crew

end Phrasebook.Lifecycle
