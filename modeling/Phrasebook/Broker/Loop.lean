import Phrasebook.Rpc
/-!
# Taking messages from a broker

The loop takes a permit, then the next message, and hands the message with the permit to a job of its own;
so a slow message holds up no other, and no more jobs run than there are permits. It ends when it is asked
to stop or when no more messages can come. It then waits for every job before it lets go of the connection.

`Loop.step?` says which moves there are at a moment and what each does. The moves of different jobs, the
taking of messages and the end may come in any order that it allows. A job

* dispatches its message, once;
* when the answer is there, publishes the reply, if the message says where to;
* where messages are to be acknowledged, waits for the confirmation and then acknowledges the message.

A failure of any of these ends the job, and so does a breakdown of the handler.

Publishing takes two waits there: one until the reply has been handed over, and one for what the client library
has to say of it, which is called the confirmation here. The broker is never asked to confirm what is published, so
a confirmation does not tell that the reply has arrived with it, only that the second wait is over.
-/

set_option autoImplicit false

namespace Phrasebook.Broker

/-- The brokers. -/
inductive Kind where
  /-- It wants messages to be acknowledged, and publishing takes a second wait. -/
  | amqp
  /-- It hands out a message and is done with it. -/
  | nats
deriving DecidableEq, Inhabited

/-- A message as a broker hands it out. -/
structure Delivery where
  /-- The handler that it is meant for. -/
  handler : String
  /-- The payload. -/
  payload : Bytes
  /-- Where the reply goes, if there is to be one. -/
  replyTo : Option String := none
  /-- What the reply is to be recognised by. -/
  correlation : Option String := none
deriving DecidableEq, Inhabited

/-- Where the handling of a message stands. -/
inductive Progress where
  /-- Nothing has been done. -/
  | queued
  /-- It has been dispatched. -/
  | asked
  /-- The answer is there and to be published. -/
  | answered (r : Rpc.Reply)
  /-- The reply has been published, and the second wait is on. -/
  | published
  /-- The message is to be acknowledged. -/
  | settled
  /-- It is over. -/
  | over
deriving DecidableEq, Inhabited

/-- A message that was taken, with where its handling stands. -/
structure Job where
  /-- The message. -/
  delivery : Delivery
  /-- Where it stands. -/
  progress : Progress := .queued
deriving DecidableEq, Inhabited

/-- How the taking of messages ends. -/
inductive Ending where
  /-- It was asked to stop. -/
  | stopped
  /-- No more messages can come. -/
  | failed (c : Chain)
deriving DecidableEq, Inhabited

/-- What the ending means for whoever runs the loop. -/
def Ending.result : Ending → Except Chain Unit
  | .stopped => .ok ()
  | .failed c => .error c

/-- Where the loop stands. -/
inductive Phase where
  /-- It waits for a permit. -/
  | reserving
  /-- It has a permit and waits for a message. -/
  | listening
  /-- It takes no more messages and waits for its jobs. -/
  | draining (e : Ending)
  /-- It has let go of the connection. -/
  | closed (e : Ending)
deriving DecidableEq, Inhabited

/-- What happens. Jobs are counted from zero in the order of taking. -/
inductive Event where
  /-- The loop begins to listen. -/
  | subscribed
  /-- A message is taken. -/
  | taken (job : Nat) (d : Delivery)
  /-- The message is handed to its handler. -/
  | dispatched (job : Nat) (handler : String) (payload : Bytes)
  /-- The handling leaves a notice. -/
  | noticed (n : Rpc.Notice)
  /-- The reply is published. -/
  | published (job : Nat) (address : String) (correlation : Option String) (r : Rpc.Reply)
  /-- There is nowhere to send the reply. -/
  | dropped (job : Nat) (handler : String)
  /-- The second wait is over and went well. -/
  | confirmed (job : Nat)
  /-- The message is acknowledged. -/
  | acknowledged (job : Nat)
  /-- The handling failed. -/
  | failed (job : Nat) (c : Chain)
  /-- The handler broke down. -/
  | broke (job : Nat)
  /-- The broker is told to send no more messages. -/
  | unsubscribed
  /-- The connection is let go. -/
  | released
  /-- The loop is over. -/
  | finished
deriving DecidableEq

/-- The loop. -/
structure Loop where
  /-- The broker. -/
  kind : Kind
  /-- Where it stands. -/
  phase : Phase := .reserving
  /-- How many permits are free. -/
  free : Nat
  /-- The messages taken so far. -/
  jobs : List Job := []
  /-- What has happened. -/
  trace : List Event := []

/-- Something that may happen next. -/
inductive Move where
  /-- The loop gets a permit. -/
  | reserve
  /-- A message comes. -/
  | deliver (d : Delivery)
  /-- The loop sees that it is asked to stop. -/
  | stop
  /-- No more messages can come. -/
  | close (c : Chain)
  /-- A job dispatches its message. -/
  | dispatch (job : Nat)
  /-- The answer for a job is there. -/
  | answer (job : Nat) (r : Rpc.Reply)
  /-- The handler of a job breaks down. -/
  | breakDown (job : Nat)
  /-- A job publishes its reply. -/
  | publish (job : Nat) (result : Except Chain Unit)
  /-- The second wait of a job is over, well or not. -/
  | confirm (job : Nat) (result : Except Chain Unit)
  /-- A job acknowledges its message. -/
  | acknowledge (job : Nat) (result : Except Chain Unit)
  /-- The loop lets go of the connection. -/
  | release
deriving Inhabited

/-- How many messages are handled at once. -/
def permitLimit : Nat := 32

namespace Loop

/-- A loop that begins to listen. -/
def start (k : Kind) : Loop := { kind := k, free := permitLimit, trace := [.subscribed] }

/-- Notes that something happens. -/
def emit (l : Loop) (e : Event) : Loop := { l with trace := l.trace ++ [e] }

/-- Whether there is a second wait and messages are acknowledged. -/
def acknowledges (l : Loop) : Bool := l.kind == .amqp

/-- Moves a job on. A job that is over gives its permit back. -/
def advance (l : Loop) (job : Nat) (p : Progress) : Loop :=
  { l with
    jobs := l.jobs.modify job ({ · with progress := p })
    free := if p == .over then l.free + 1 else l.free }

/-- Ends a job that failed. -/
def failJob (l : Loop) (job : Nat) (c : Chain) : Loop := (l.emit (.failed job c)).advance job .over

/-- The job of a number, if it stands as given. -/
def at? (l : Loop) (job : Nat) (p : Progress) : Option Delivery :=
  (l.jobs[job]?.filter (·.progress == p)).map (·.delivery)

/-- Begins the end. Of the two brokers only one is told to send no more when it was the broker that ended
it. -/
def drain (l : Loop) (e : Ending) : Loop :=
  let l := { l with phase := .draining e }
  if l.acknowledges && e != .stopped then l else l.emit .unsubscribed

/-- What a job does when its answer is there. -/
def answered (l : Loop) (job : Nat) (d : Delivery) (r : Rpc.Reply) : Loop :=
  match d.replyTo with
  | some _ => l.advance job (.answered r)
  | none => (l.emit (.dropped job d.handler)).advance job (if l.acknowledges then .settled else .over)

/-- Whether every job is over. -/
def isIdle (l : Loop) : Bool := l.jobs.all (·.progress == .over)

/-- Makes a move, if there is such a move now. -/
def step? (l : Loop) : Move → Option Loop
  | .reserve =>
    if l.phase == .reserving && 0 < l.free then some { l with phase := .listening, free := l.free - 1 }
    else none
  | .deliver d =>
    if l.phase == .listening then
      some { (l.emit (.taken l.jobs.length d)) with phase := .reserving, jobs := l.jobs ++ [{ delivery := d }] }
    else none
  | .stop =>
    match l.phase with
    | .reserving => some (l.drain .stopped)
    | .listening => some ({ l with free := l.free + 1 }.drain .stopped)
    | _ => none
  | .close c =>
    if l.phase == .listening then some ({ l with free := l.free + 1 }.drain (.failed c)) else none
  | .dispatch job =>
    (l.at? job .queued).map fun d => (l.emit (.dispatched job d.handler d.payload)).advance job .asked
  | .answer job r => (l.at? job .asked).map fun d => l.answered job d r
  | .breakDown job => (l.at? job .asked).map fun _ => (l.emit (.broke job)).advance job .over
  | .publish job result =>
    match l.jobs[job]? with
    | some ⟨d, .answered r⟩ =>
      match d.replyTo, result with
      | some address, .ok () =>
        some ((l.emit (.published job address d.correlation r)).advance job
          (if l.acknowledges then .published else .over))
      | some _, .error c => some (l.failJob job c)
      | none, _ => none
    | _ => none
  | .confirm job result =>
    (l.at? job .published).map fun _ =>
      match result with
      | .ok () => (l.emit (.confirmed job)).advance job .settled
      | .error c => l.failJob job c
  | .acknowledge job result =>
    (l.at? job .settled).map fun _ =>
      match result with
      | .ok () => (l.emit (.acknowledged job)).advance job .over
      | .error c => l.failJob job c
  | .release =>
    match l.phase with
    | .draining e =>
      if l.isIdle then some { ((l.emit .released).emit .finished) with phase := .closed e } else none
    | _ => none

/-- Makes several moves, leaving out those that there are not. -/
def run (l : Loop) (moves : List Move) : Loop := moves.foldl (fun l m => (l.step? m).getD l) l

/-- What came of the loop, once it is over. -/
def result? (l : Loop) : Option (Except Chain Unit) :=
  match l.phase with
  | .closed e => some e.result
  | _ => none

end Loop

end Phrasebook.Broker
