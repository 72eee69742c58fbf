import Phrasebook.Lifecycle.Work
/-!
# Permits

Only so many messages are handled at once. A permit is taken before the next message is, goes with the
handling of it, and comes back when that is over, however it ends. A permit that is not used may be given back,
or left with somebody who lets go of it some time later.
-/

set_option autoImplicit false

namespace Phrasebook.Lifecycle

/-- Where the handling of a message stands. -/
inductive JobStage where
  /-- It has not begun. -/
  | queued
  /-- It is going on. -/
  | running
  /-- It is over. -/
  | over
deriving DecidableEq, Inhabited

/-- The handling of a message. -/
structure Job where
  /-- Its name. -/
  id : String
  /-- What there is to do. -/
  work : Work
  /-- When it was handed in. -/
  spawned : Moment
  /-- Where it stands. -/
  stage : JobStage := .queued

/-- What is seen of the handling of messages. -/
inductive JobEvent where
  | begun (id : String)
  | ended (id : String)
deriving DecidableEq, Inhabited

/-- The permits, and the jobs that have taken some. -/
structure Permits where
  /-- How many there are. -/
  limit : Nat
  /-- How many are free. -/
  free : Nat
  /-- How many have been taken and not used. -/
  taken : Nat := 0
  /-- When those come back that have been taken and left with others. -/
  lent : List Nat := []
  /-- The jobs that are not over. -/
  jobs : List Job := []
  /-- The time. -/
  now : Nat := 0
  /-- The next turn. -/
  turn : Nat := 0
  /-- What has happened, and when. -/
  trace : List (Nat × JobEvent) := []

/-- When a job is over. -/
def Job.endTime? (j : Job) : Option Nat := (j.work.endAt? j.spawned.time).map (·.1)

/-- What a job shows when it is over: nothing if it broke down. -/
def Job.endEvents (j : Job) : List JobEvent :=
  match j.work.ending with
  | some (.error (.broke _)) => []
  | _ => [.ended j.id]

/-- Lets a job do what it does before a time. -/
def Job.advance (limit : Nat) (j : Job) : Job × List (Moment × JobEvent) :=
  let begins := j.stage == .queued && j.spawned.time < limit
  let ends := (j.endTime?.filter (· < limit)).isSome
  ({ j with stage := if ends then .over else if begins then .running else j.stage },
    (if begins then [(j.spawned, .begun j.id)] else []) ++
      match j.endTime? with
      | some t => if ends then j.endEvents.map (⟨t, j.spawned.turn⟩, ·) else []
      | none => [])

namespace Permits

/-- So many permits, at least one. -/
def ofLimit (limit : Nat) : Permits := { limit := max limit 1, free := max limit 1 }

/-- How many messages could be taken now. -/
def available (p : Permits) : Nat := p.free

/-- How many permits have been taken and not used, wherever they are. -/
def held (p : Permits) : Nat := p.taken + p.lent.length

/-- Lets all jobs do what they do before a time. A job that is over gives its permit back, and so do the
others when their time has come. -/
def advance (p : Permits) (limit : Nat) : Permits :=
  let moved := p.jobs.map (·.advance limit)
  let events := (moved.flatMap (·.2)).mergeSort fun a b => a.1.le b.1
  let (done, going) := (moved.map (·.1)).partition (·.stage == .over)
  let (back, out) := p.lent.partition (· < limit)
  { p with
    jobs := going, lent := out, free := p.free + done.length + back.length,
    trace := p.trace ++ events.map fun (m, e) => (m.time, e) }

/-- Waits until a time, and is the first to act then. -/
def sleepUntil (p : Permits) (time : Nat) : Permits := { p.advance time with now := time }

/-- Waits until a time at which a permit that comes back or the end of a job wakes the hand. -/
def settle (p : Permits) (time : Nat) : Permits := { p.advance (time + 1) with now := time }

/-- Takes a free permit. -/
def grab (p : Permits) : Permits := { p with free := p.free - 1, taken := p.taken + 1 }

/-- When permits come back, if things go on as they are. -/
def returns (p : Permits) : List Nat := p.jobs.filterMap Job.endTime? ++ p.lent

/-- Takes a permit, waiting for one until a limit. Says whether there was one. -/
def reserve (p : Permits) (limit : Nat) : Permits × Bool :=
  if p.free > 0 then (p.grab, true)
  else
    match (p.returns.filter (· < limit)).min? with
    | some t => ((p.settle t).grab, true)
    | none => (p.sleepUntil limit, false)

/-- Gives an unused permit back. -/
def giveBack (p : Permits) : Permits × Bool :=
  if p.taken > 0 then ({ p with taken := p.taken - 1, free := p.free + 1 }, true) else (p, false)

/-- Leaves an unused permit with somebody who lets go of it after some time. -/
def lend (p : Permits) (span : Nat) : Permits × Bool :=
  if p.taken > 0 then ({ p with taken := p.taken - 1, lent := p.lent ++ [p.now + span] }, true) else (p, false)

/-- Handles a message with a permit that has been taken. -/
def spawn (p : Permits) (id : String) (work : Work) : Permits × Bool :=
  if p.taken > 0 then
    ({ p with taken := p.taken - 1, turn := p.turn + 1,
              jobs := p.jobs ++ [{ id, work, spawned := ⟨p.now, p.turn⟩ }] }, true)
  else (p, false)

/-- Waits until all jobs are over, or until a limit. Says whether they are. -/
def drain (p : Permits) (limit : Nat) : Permits × Bool :=
  match p.jobs.mapM Job.endTime? with
  | some [] => (p, true)
  | some times =>
    -- all of them come to an end, so the last one decides
    let last := times.foldl max p.now
    if last < limit then (p.settle last, true) else (p.sleepUntil limit, false)
  | none => (p.sleepUntil limit, false)

/-- Something that is done with permits. -/
inductive Act where
  /-- Taking one, with some patience. -/
  | reserve (patience : Nat)
  /-- Giving an unused one back. -/
  | giveBack
  /-- Leaving an unused one with somebody for some time. -/
  | lend (span : Nat)
  /-- Handling a message with one. -/
  | spawn (id : String) (work : Work)
  /-- Waiting for all jobs, with some patience. -/
  | drain (patience : Nat)
  /-- Letting time pass. -/
  | sleep (span : Nat)

/-- Does something with permits. Says whether it could be done. -/
def step (p : Permits) : Act → Bool × Permits
  | .reserve patience => (p.reserve (p.now + patience)).swap
  | .giveBack => p.giveBack.swap
  | .lend span => (p.lend span).swap
  | .spawn id work => (p.spawn id work).swap
  | .drain patience => (p.drain (p.now + patience)).swap
  | .sleep span => (true, p.sleepUntil (p.now + span))

end Permits

end Phrasebook.Lifecycle
