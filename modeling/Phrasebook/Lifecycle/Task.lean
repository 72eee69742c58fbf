import Phrasebook.Lifecycle.Event
import Phrasebook.Lifecycle.Work
import Phrasebook.Text.Quoted
/-!
# Tasks

A task runs a body beside the rest of the service. The body ends of itself or after it has been asked to
stop. A failure of the body goes to one side only: to whoever listens for it, and if nobody listens any
more, to whoever waits for the task to stop.

The course of a body is laid out by `Body.next?`: what it does next, and when. It depends on nothing but the
body's plan and the moments at which it was spawned and asked to stop, so time can pass in one go
(`Task.advance`).
-/

set_option autoImplicit false

namespace Phrasebook.Lifecycle

/-- What the body of a task does. -/
structure Plan where
  /-- What it does of itself; without it, it goes on until asked to stop. -/
  serve : Option Work := none
  /-- What it does when asked to stop. -/
  leave : Work := {}

/-- How a body ended. -/
inductive Fate where
  /-- Well. -/
  | ok
  /-- With a failure, which somebody was listening for or not. -/
  | failed (c : Chain) (heard : Bool)
  /-- With a breakdown. -/
  | broke (message : String)
  /-- It was cut off. -/
  | aborted
deriving DecidableEq, Inhabited

/-- The fate that an ending brings. -/
def Fate.ofEnding (heard : Bool) : Except Failure Unit → Fate
  | .ok () => .ok
  | .error (.failed c) => .failed c heard
  | .error (.broke m) => .broke m

/-- Where a body stands. -/
inductive Stage where
  /-- It serves; it may have been asked to stop, and not have seen it. -/
  | serving (asked : Option Moment)
  /-- It has seen that it was asked to stop. -/
  | leaving (asked : Moment)
  /-- It is being cut off. -/
  | dropped (cut : Moment)
  /-- It has ended. -/
  | over (fate : Fate)
deriving DecidableEq, Inhabited

/-- The body of a task. -/
structure Body where
  /-- What it does. -/
  plan : Plan
  /-- When it was spawned. -/
  spawned : Moment
  /-- Where it stands. -/
  stage : Stage := .serving none

/-- The next thing that a body does. -/
structure Change where
  /-- When. -/
  moment : Moment
  /-- Where it stands then. -/
  stage : Stage
  /-- What can be seen of it. -/
  events : List Event

/-- What is seen of a failure. -/
def failureEvents (name : String) : Except Failure Unit → List Event
  | .error (.failed c) => [.failed name c]
  | _ => []

/-- What is seen when a body has cleared up: nothing if it broke down. -/
def clearedEvents (name : String) : Except Failure Unit → List Event
  | .error (.broke _) => []
  | e => .stopped name :: failureEvents name e

/-- When and how a body ends of itself, unless the request to stop comes before that. -/
def Body.quits? (b : Body) (asked : Option Moment) : Option (Nat × Except Failure Unit) :=
  (b.plan.serve.bind (·.endAt? b.spawned.time)).filter fun q => within q.1 (asked.map Moment.time)

/-- The next thing that a body does. A body that is due to end when it is asked to stop ends of itself. -/
def Body.next? (name : String) (heard : Bool) (b : Body) : Option Change :=
  match b.stage with
  | .serving asked =>
    match b.quits? asked, asked with
    | some (t, e), _ =>
      some ⟨⟨t, b.spawned.turn⟩, .over (.ofEnding heard e), .exited name :: failureEvents name e⟩
    | none, some a => some ⟨a, .leaving a, [.stopping name]⟩
    | none, none => none
  | .leaving a =>
    (b.plan.leave.endAt? a.time).map fun (t, e) =>
      ⟨⟨t, a.turn⟩, .over (.ofEnding heard e), clearedEvents name e⟩
  | .dropped cut => some ⟨cut, .over .aborted, []⟩
  | .over _ => none

/-- Who holds the end at which failures of the body are heard. -/
inductive Receiver where
  /-- The task; nobody has asked for it. -/
  | kept
  /-- Somebody who listens. -/
  | lent
  /-- Nobody. -/
  | gone
deriving DecidableEq, Inhabited

/-- A task. -/
structure Task where
  /-- Its name. -/
  name : String
  /-- Who hears of a failure. -/
  receiver : Receiver := .kept
  /-- Its body, once it has been spawned. -/
  body : Option Body := none
  /-- Whether the end of the body is still to be taken. -/
  held : Bool := false

namespace Task

/-- Whether a failure of the body would be heard. -/
def heard (t : Task) : Bool := t.receiver != .gone

/-- Whether a body has ever been spawned. -/
def isStarted (t : Task) : Bool := t.body.isSome

/-- The next thing that the body does. -/
def next? (t : Task) : Option Change := t.body.bind (·.next? t.name t.heard)

/-- Moves the body to another stage. -/
def setStage (t : Task) (s : Stage) : Task := { t with body := t.body.map ({ · with stage := s }) }

/-- Lets the body do at most so many things before a time. -/
def advanceSteps (limit : Nat) : Nat → Task → Task × List (Moment × Event)
  | 0, t => (t, [])
  | n + 1, t =>
    match t.next? with
    | some c =>
      if c.moment.time < limit then
        let (t, events) := advanceSteps limit n (t.setStage c.stage)
        (t, c.events.map (c.moment, ·) ++ events)
      else (t, [])
    | none => (t, [])

/-- Lets the body do all that it does before a time. No body does more than two things. -/
def advance (limit : Nat) (t : Task) : Task × List (Moment × Event) := advanceSteps limit 2 t

/-- When the body ends, if things go on as they are. -/
def endTime? (t : Task) : Option Nat :=
  t.next?.bind fun c =>
    match c.stage with
    | .over _ => some c.moment.time
    | s => (t.setStage s).next?.map (·.moment.time)

/-- How the body ended. -/
def fate? (t : Task) : Option Fate :=
  t.body.bind fun b =>
    match b.stage with
    | .over f => some f
    | _ => none

/-- What a listener hears of the end of the body. -/
def exit? (t : Task) : Option Exit :=
  t.fate?.map fun
    | .failed c _ => .failed c
    | _ => .terminated

/-- Runs a body, the first time only. -/
def spawn (t : Task) (m : Moment) (p : Plan) : Task × Bool :=
  if t.isStarted then (t, false)
  else ({ t with body := some { plan := p, spawned := m }, held := true }, true)

/-- Asks for the end at which failures are heard. Only the first to ask gets it. -/
def notify (t : Task) : Task × Bool :=
  match t.receiver with
  | .kept => ({ t with receiver := .lent }, true)
  | _ => (t, false)

/-- Gives up listening. -/
def unhear (t : Task) : Task := { t with receiver := .gone }

/-- Asks the body to stop, once. -/
def ask (t : Task) (m : Moment) : Task :=
  match t.body with
  | some b =>
    match b.stage with
    | .serving none => t.setStage (.serving (some m))
    | _ => t
  | none => t

/-- Cuts the body off, if its end is still to be taken. -/
def abort (t : Task) (m : Moment) : Task :=
  if t.held && t.fate?.isNone then { t.setStage (.dropped m) with held := false }
  else { t with held := false }

end Task

/-- Why a task did not stop well. -/
inductive StopFailure where
  /-- Its body failed and nobody else heard of it. -/
  | failed (c : Chain)
  /-- Its body broke down. -/
  | broke (task message : String)
  /-- Its body took too long. -/
  | overdue (task : String) (deadline : Span)
deriving DecidableEq, Inhabited

/-- The failure to stop as a chain. -/
def StopFailure.chain : StopFailure → Chain
  | .failed c => c
  | .broke task message =>
    ⟨task ++ " task join error: task N panicked with message " ++ Text.quoted message, []⟩
  | .overdue task deadline => ⟨task ++ " did not stop within " ++ deadline.text ++ ", aborted", []⟩

/-- What the end of a task's body means for whoever stops the task. -/
def Task.verdict (t : Task) : Fate → Except StopFailure Unit
  | .ok => .ok ()
  | .failed c heard => if heard then .ok () else .error (.failed c)
  | .broke m => .error (.broke t.name m)
  | .aborted => .ok ()

end Phrasebook.Lifecycle
