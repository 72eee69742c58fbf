import Phrasebook.Lifecycle.Crew
/-!
# Holding a task

Somebody holds a task on a clock of its own. He runs a body in it, asks for its exit as often as he likes,
waits for what he was promised or gives it up, lets time pass and stops the task, in any order. The exit can
come only of the first promise.
-/

set_option autoImplicit false

namespace Phrasebook.Lifecycle

/-- What is given out when the exit of a task is asked for. -/
inductive Promise where
  /-- The exit can come of it. -/
  | live
  /-- The exit had been asked for before, and nothing comes of it. -/
  | silent
  /-- The exit has come of it, or it has been given up. -/
  | spent
deriving DecidableEq, Inhabited

/-- A task in somebody's hand. -/
structure Holder where
  /-- The name of the task. -/
  name : String
  /-- The clock and the task. -/
  crew : Crew
  /-- What has been promised, in the order of asking. -/
  promises : List Promise := []

namespace Holder

/-- Something that is done with a task. -/
inductive Act where
  /-- Running a body in it. -/
  | spawn (p : Plan)
  /-- Asking for its exit. -/
  | notify
  /-- Waiting for what was promised, for some time at most. -/
  | await (i span : Nat)
  /-- Giving up what was promised. -/
  | drop (i : Nat)
  /-- Stopping it. -/
  | stop (deadline : Nat)
  /-- Letting time pass. -/
  | sleep (span : Nat)

/-- What comes of it. -/
inductive Answer where
  /-- Nothing. -/
  | done
  /-- Whether the body runs. -/
  | spawned (runs : Bool)
  /-- The exit, if it has come. -/
  | heard (exit : Option Exit)
  /-- How the stopping went. -/
  | stopped (result : Except StopFailure Unit)

/-- A fresh task in somebody's hand. -/
def ofName (name : String) : Holder := { name, crew := Crew.put {} name }

/-- The task. -/
def task (h : Holder) : Task := (h.crew.get? h.name).getD { name := h.name }

/-- Is done with a promise. -/
def spend (h : Holder) (i : Nat) : Holder :=
  { h with
    crew := if h.promises[i]? = some .live then h.crew.unhear h.name else h.crew
    promises := h.promises.set i .spent }

/-- Waits for what was promised, and is done with it when it has come. -/
def await (h : Holder) (i span : Nat) : Answer × Holder :=
  match h.promises[i]? with
  | none | some .spent => (.done, h)
  | some p =>
    let (exit, crew) := h.crew.listen h.name (p == .live) (h.crew.now + span)
    let h := { h with crew }
    (.heard exit, if exit.isSome then h.spend i else h)

/-- Does something with the task. -/
def step (h : Holder) : Act → Answer × Holder
  | .spawn p =>
    let (crew, runs) := h.crew.spawn h.name p
    (.spawned runs, { h with crew })
  | .notify =>
    let (live, crew) := h.crew.notify h.name
    (.done, { h with crew, promises := h.promises ++ [if live then .live else .silent] })
  | .await i span => h.await i span
  | .drop i => (.done, h.spend i)
  | .stop deadline =>
    match h.crew.stop h.name deadline none with
    | (some result, crew) => (.stopped result, { h with crew })
    | (none, crew) => (.done, { h with crew })
  | .sleep span => (.done, { h with crew := h.crew.sleepUntil (h.crew.now + span) })

/-- Does some things with the task, one after the other: what was done and what came of it, and how the task
is held then. -/
def run (h : Holder) : List Act → List (Act × Answer) × Holder
  | [] => ([], h)
  | a :: acts =>
    let (answer, h) := h.step a
    let (log, h) := h.run acts
    ((a, answer) :: log, h)

end Holder

end Phrasebook.Lifecycle
