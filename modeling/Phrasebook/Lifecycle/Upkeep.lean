import Phrasebook.Lifecycle.Task
import Phrasebook.RateLimit.Limiter
/-!
# The collector beside the HTTP task

The HTTP entry point serves in a task. In its first turn the body of the task sets a collector going, which
visits the limiter every `collectEverySecs`; then it serves. When serving is over, well or with a failure, the
body stops the collector and ends. A body that breaks down while it serves, or that is cut off there, gets no
further turn.

`Upkeep.step` is one thing that somebody does: whoever holds the entry point, the body, the collector, or a
request. A list of moves is thus any interleaving of them. How long serving takes and how it ends is the plan of
the body, as it is of any task.
-/

set_option autoImplicit false

namespace Phrasebook.Lifecycle

open RateLimit

/-- A collector. -/
inductive Collector where
  /-- Nobody has set it going. -/
  | absent
  /-- It has been set going and had no turn yet. -/
  | fresh
  /-- It waits for its next round. -/
  | waiting (next : Nat)
  /-- It has been stopped. -/
  | stopped
deriving DecidableEq, Inhabited

/-- Whether it makes its rounds. -/
def Collector.isAlive : Collector → Bool
  | .fresh | .waiting _ => true
  | .absent | .stopped => false

/-- Whether a body that ends so has come to the end of what it does. -/
def Fate.isReturn : Fate → Bool
  | .ok | .failed .. => true
  | .broke _ | .aborted => false

/-- Whether a body that stands there has come to the end of what it does. -/
def Stage.isReturn : Stage → Bool
  | .over f => f.isReturn
  | _ => false

/-- The HTTP entry point with its collector. -/
structure Upkeep where
  /-- How serving goes. -/
  plan : Plan
  /-- The limiter that requests and the collector share. -/
  limiter : Limiter
  /-- The time in milliseconds. -/
  now : Nat := 0
  /-- Whether there is still something to serve with. -/
  pending : Bool := true
  /-- The task. -/
  task : Task := { name := Transport.http.name }
  /-- When whoever waits for the task to stop waits no longer. -/
  due : Option Nat := none
  /-- The collector. -/
  collector : Collector := .absent
  /-- The passes of the collector: when, and how many buckets were removed. -/
  passes : List (Nat × Nat) := []

namespace Upkeep

/-- Something that is done. -/
inductive Move where
  /-- Starting the entry point. -/
  | start
  /-- Asking it to stop and waiting for that until a deadline. -/
  | shutdown (deadline : Nat)
  /-- Waiting for it no longer, as whoever waits is given up himself. -/
  | giveUp
  /-- Seeing that the deadline is over. -/
  | expire
  /-- Throwing the entry point away. -/
  | drop
  /-- A turn of the body. -/
  | turn
  /-- A turn of the collector, which may skip the round, meets the buckets in some order and reads some time. -/
  | round (skips : Bool) (order : List String) (time : Millis)
  /-- A request. -/
  | request (client : String) (time : Millis)
  /-- The passing of time. -/
  | pass (span : Nat)

/-- The time between two rounds. -/
def period : Nat := Limiter.collectEverySecs * 1000

/-- The present moment. -/
def moment (u : Upkeep) : Moment := ⟨u.now, 0⟩

/-- Starts the task, if there is something to serve with. -/
def start (u : Upkeep) : Upkeep :=
  if u.pending then { u with pending := false, task := (u.task.spawn u.moment u.plan).1 } else u

/-- Asks the task to stop, and waits. -/
def shutdown (u : Upkeep) (deadline : Nat) : Upkeep :=
  { u with pending := false, task := u.task.ask u.moment, due := some (u.now + deadline) }

/-- Cuts the body off at the deadline, unless it has ended. -/
def expire (u : Upkeep) : Upkeep :=
  match u.due with
  | some time => if time ≤ u.now then { u with task := u.task.abort u.moment, due := none } else u
  | none => u

/-- Cuts the body off, unless it has ended or somebody has taken its end. -/
def drop (u : Upkeep) : Upkeep :=
  { u with pending := false, task := u.task.abort u.moment, due := none }

/-- Whether the body is there to serve and had no turn yet. -/
def isNew (u : Upkeep) : Bool :=
  u.collector == .absent && match u.task.body.map Body.stage with
    | some (.serving _) => true
    | _ => false

/-- Gives the body a turn. It does what is due, and stops the collector when it comes to its end. -/
def turn (u : Upkeep) : Upkeep :=
  -- the body spawns the collector before it does anything else
  if u.isNew then { u with collector := .fresh }
  else
    match u.task.next? with
    | some c =>
      if c.moment.time ≤ u.now then
        { u with
          task := u.task.setStage c.stage
          collector := if c.stage.isReturn then .stopped else u.collector }
      else u
    | none => u

/-- Gives the collector a turn. The first round is a period after its first turn. -/
def round (u : Upkeep) (skips : Bool) (order : List String) (time : Millis) : Upkeep :=
  match u.collector with
  | .fresh => { u with collector := .waiting (u.now + period) }
  | .waiting next =>
    if u.now < next then u
    else if skips then { u with collector := .waiting (next + period) }
    else
      let (removed, limiter) := u.limiter.collect order time u.limiter.idleSpan
      { u with collector := .waiting (next + period), limiter, passes := u.passes ++ [(u.now, removed)] }
  | .absent | .stopped => u

/-- Does one thing. -/
def step (u : Upkeep) : Move → Upkeep
  | .start => u.start
  | .shutdown deadline => u.shutdown deadline
  | .giveUp => { u with due := none }
  | .expire => u.expire
  | .drop => u.drop
  | .turn => u.turn
  | .round skips order time => u.round skips order time
  | .request client time => { u with limiter := (u.limiter.allow client time).2 }
  | .pass span => { u with now := u.now + span }

/-- Does some things, the first first. -/
def run (u : Upkeep) (moves : List Move) : Upkeep := moves.foldl step u

end Upkeep

end Phrasebook.Lifecycle
