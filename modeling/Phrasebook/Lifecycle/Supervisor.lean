import Phrasebook.Lifecycle.Crew
/-!
# The supervisor

The wanted transports are built in order, and the first that cannot be built ends it. The supervisor then
starts them all, waits for one trigger, and tells each of them to shut down, each within its own time limit
and whatever became of the others. When it is done it cuts off whatever still runs.
-/

set_option autoImplicit false

namespace Phrasebook.Lifecycle

/-- How a transport shuts down. -/
inductive Closing where
  /-- It does some work, stops its task, and then does some more work, which knows how the stopping went. How
  the last work ends is how the shutting down ends: it may flush what has been sent and hand on how the stopping
  went, or fail on its own account. -/
  | stopping (first : Work := {}) (last : Except Chain Unit → Work := Crew.handOn)
  /-- It does some work only. -/
  | instead (w : Work)

/-- How a transport behaves. -/
structure Conduct where
  /-- The body of its task. -/
  plan : Plan := {}
  /-- How it shuts down. -/
  closing : Closing := .stopping

/-- The transports before and while they run. -/
structure Slots where
  /-- How each transport behaves, if it is there. -/
  conduct : Transport → Conduct := fun _ => {}
  /-- The tasks of the transports that are there. -/
  crew : Crew := {}

namespace Slots

/-- Whether a transport is there. -/
def enabled (s : Slots) (k : Transport) : Bool := (s.crew.get? k.name).isSome

/-- The transports that are there. -/
def kinds (s : Slots) : List Transport := Transport.constructOrder.filter s.enabled

/-- Notes that something happens now. -/
def emit (s : Slots) (e : Event) : Slots := { s with crew := s.crew.emit e }

/-- Does something to the tasks. -/
def onCrew (s : Slots) (f : Crew → Crew) : Slots := { s with crew := f s.crew }

/-- Puts a transport in. -/
def put (s : Slots) (k : Transport) : Slots := { s with crew := s.crew.put k.name }

/-- Builds the wanted ones of some transports, and ends with the first that cannot be built. Without a
result one of the builds never ends. -/
def constructEach (wanted : Transport → Bool) (build : Transport → Work) :
    List Transport → Slots → Option (Except Failure Unit) × Slots
  | [], s => (some (.ok ()), s)
  | k :: rest, s =>
    if !wanted k then constructEach wanted build rest (s.emit (.disabled k))
    else
      let (r, crew) := (s.emit (.constructing k)).crew.work (build k) none
      let s := { s with crew }
      match r with
      | some (.ok ()) => constructEach wanted build rest ((s.emit (.constructed k)).put k)
      | some (.error (.failed c)) =>
        (some (.error (.failed (c.context ("failed to construct " ++ k.name)))), s)
      | r => (r, s)

/-- Builds the wanted transports. -/
def construct (s : Slots) (wanted : Transport → Bool) (build : Transport → Work) :
    Option (Except Failure Unit) × Slots :=
  constructEach wanted build Transport.constructOrder s

/-- Starts a transport, if it is there. -/
def start (s : Slots) (k : Transport) : Slots × Bool :=
  if s.enabled k then
    let (crew, _) := (s.emit (.starting k)).crew.spawn k.name (s.conduct k).plan
    ({ s with crew }, true)
  else (s, false)

/-- Asks a transport for its exit. Only the first to ask hears of it. -/
def notify (s : Slots) (k : Transport) : Slots × Bool :=
  let (live, crew) := s.crew.notify k.name
  ({ s with crew }, live)

/-- The exit of a transport whose body has ended. -/
def exit? (s : Slots) (k : Transport) : Option Exit := (s.crew.get? k.name).bind (·.exit?)

/-- Tells a transport to shut down. Without a result it has not done so by the limit. -/
def shutdown (s : Slots) (k : Transport) (deadline : Nat) (limit : Option Nat) :
    Option (Except Failure Unit) × Slots :=
  let s := s.emit (.shuttingDown k)
  match (s.conduct k).closing with
  | .instead w =>
    let (r, crew) := s.crew.work w limit
    (r, { s with crew })
  | .stopping first last =>
    match s.crew.work first limit with
    | (some (.ok ()), crew) =>
      let (r, crew) := crew.stopAnd k.name deadline last limit
      (r, { s with crew })
    | (r, crew) => (r, { s with crew })

end Slots

/-- How the shutting down of one transport ended. -/
structure ShutdownRecord where
  /-- Which transport. -/
  kind : Transport
  /-- How it ended. -/
  result : Except ShutdownError Unit

/-- How the shutting down of all transports ended, in the order in which it was done. -/
structure ShutdownOutcome where
  /-- One record for each transport. -/
  records : List ShutdownRecord

namespace ShutdownOutcome

/-- The records of those that did not shut down well. -/
def failures (o : ShutdownOutcome) : List ShutdownRecord :=
  o.records.filter fun r => !r.result.toBool

/-- Whether all shut down well. -/
def isClean (o : ShutdownOutcome) : Bool := o.records.all (·.result.toBool)

/-- The transports in the order in which they were shut down. -/
def kinds (o : ShutdownOutcome) : List Transport := o.records.map (·.kind)

end ShutdownOutcome

/-- What a run reports. -/
structure RunReport where
  /-- What ended the running phase. -/
  trigger : Trigger
  /-- How the transports shut down. -/
  outcome : ShutdownOutcome

/-- Transports under supervision. -/
structure Supervisor where
  /-- The transports. -/
  slots : Slots
  /-- Where they stand. -/
  phase : Phase := .constructing
  /-- How long each may take to shut down. -/
  timeout : Nat

/-- A signal from outside, and when it comes. -/
structure Signal where
  /-- Its name. -/
  name : String
  /-- How long after the wait for it begins. -/
  after : Nat

namespace Supervisor

/-- Notes that something happens now. -/
def emit (s : Supervisor) (e : Event) : Supervisor := { s with slots := s.slots.emit e }

/-- Does something to the tasks. -/
def onCrew (s : Supervisor) (f : Crew → Crew) : Supervisor := { s with slots := s.slots.onCrew f }

/-- Moves to another phase. -/
def move (s : Supervisor) (next : Phase) : Supervisor :=
  { s.emit (.moved s.phase next) with phase := next }

/-- Takes transports that have been built under supervision. -/
def ofSlots (slots : Slots) (timeout : Nat) : Supervisor :=
  Supervisor.move { slots, timeout } .starting

/-- Starts those of some transports that are there. -/
def startEach : List Transport → Supervisor → Supervisor × List Transport
  | [], s => (s, [])
  | k :: rest, s =>
    match s.slots.start k with
    | (slots, true) =>
      let (s, started) := startEach rest (emit { s with slots } (.started k))
      (s, k :: started)
    | (slots, false) => startEach rest { s with slots }

/-- Starts all transports, in the phase for it only. -/
def startAll (s : Supervisor) : Supervisor × List Transport :=
  if s.phase == .starting then
    let (s, started) := startEach Transport.startOrder s
    (s.move .running, started)
  else (s.emit (.startIgnored s.phase), [])

/-- Asks some transports for their exits and says which of them will give one. -/
def notifyEach : List Transport → Supervisor → Supervisor × List Transport
  | [], s => (s, [])
  | k :: rest, s =>
    let (slots, live) := s.slots.notify k
    let (s, heard) := notifyEach rest { s with slots }
    (s, if live then k :: heard else heard)

/-- Stops listening to some transports. -/
def unhear (s : Supervisor) (kinds : List Transport) : Supervisor :=
  s.onCrew fun c => kinds.foldl (fun c k => c.unhear k.name) c

/-- The trigger that ended a wait. -/
def triggerOf (s : Supervisor) (signal : Option Signal) : Wake → Option Trigger
  | .signal => signal.map fun g => .signal g.name
  | .task name =>
    (Transport.constructOrder.find? (·.name == name)).bind fun k => (s.slots.exit? k).map (.service k)

/-- Waits for the first of a signal and the exits of the transports, up to a limit. Nobody listens to the
transports after that. What comes at one time is looked at from some place on. -/
def waitAny (s : Supervisor) (signal : Option Signal) (limit : Option Nat) (first : Nat := 0) :
    Option Trigger × Supervisor :=
  let (s, heard) := notifyEach Transport.shutdownOrder s
  let crew := s.slots.crew
  let due := signal.map fun g => crew.now + g.after
  let (wake, crew) := crew.await (heard.map Transport.name) due limit first
  let s : Supervisor := { s with slots := { s.slots with crew } }
  let trigger := wake.bind (s.triggerOf signal)
  -- the receivers go with the wait, whatever has ended it
  let s := s.unhear heard
  match trigger with
  | some t => (some t, (s.emit (.triggered t)).move .shuttingDown)
  | none => (none, s)

/-- The earlier of a time and a limit. -/
def sooner (time : Nat) : Option Nat → Nat
  | some limit => min time limit
  | none => time

/-- Shuts down those of some transports that are there, each within the time limit. Without a result the
outer limit came first. -/
def shutdownEach (limit : Option Nat) :
    List Transport → Supervisor → Option (Except Failure (List ShutdownRecord)) × Supervisor
  | [], s => (some (.ok []), s)
  | k :: rest, s =>
    if !s.slots.enabled k then shutdownEach limit rest s
    else
      let due := s.slots.crew.now + s.timeout
      let (r, slots) := s.slots.shutdown k s.timeout (some (sooner due limit))
      let s := { s with slots }
      let note (result : Except ShutdownError Unit) (s : Supervisor) :=
        let s := s.emit (match result with
          | .ok () => .shutDown k
          | .error e => .shutdownFailed k e)
        let (r, s) := shutdownEach limit rest s
        (r.map fun v => v.map (⟨k, result⟩ :: ·), s)
      match r with
      | some (.ok ()) => note (.ok ()) s
      | some (.error (.failed c)) => note (.error (.failed c)) s
      -- a breakdown leaves the loop, and whatever comes after this transport is not shut down
      | some (.error f) => (some (.error f), s)
      -- no answer: the time of this transport is over, unless the outer limit came first
      | none => if within due limit then note (.error (.timeout (.ofMillis s.timeout))) s else (none, s)

/-- Cuts off everything that still runs. -/
def close (s : Supervisor) : Supervisor :=
  s.onCrew Crew.close

/-- Shuts all transports down, up to a limit, and is done with them. -/
def shutdownAll (s : Supervisor) (limit : Option Nat) :
    Option (Except Failure ShutdownOutcome) × Supervisor :=
  let s := if s.phase == .shuttingDown then s else s.move .shuttingDown
  match shutdownEach limit Transport.shutdownOrder s with
  | (some (.ok records), s) =>
    let o : ShutdownOutcome := ⟨records⟩
    let s := (s.emit (.passed o.failures.length records.length)).move .exited
    (some (.ok o), s.close)
  | (some (.error f), s) => (some (.error f), s.close)
  | (none, s) => (none, s.close)

/-- Starts everything, is busy, waits for a trigger and shuts everything down, up to a limit. -/
def runWith (busy : Supervisor → Supervisor) (s : Supervisor) (signal : Option Signal) (limit : Option Nat)
    (first : Nat := 0) : Option (Except Failure RunReport) × Supervisor :=
  match (busy s.startAll.1).waitAny signal limit first with
  | (some trigger, s) =>
    let (r, s) := s.shutdownAll limit
    (r.map fun v => v.map (⟨trigger, ·⟩), s)
  | (none, s) => (none, s.close)

/-- Starts everything, waits for a trigger and shuts everything down, up to a limit. -/
def run (s : Supervisor) (signal : Option Signal) (limit : Option Nat) (first : Nat := 0) :
    Option (Except Failure RunReport) × Supervisor :=
  runWith id s signal limit first

/-! ## Acts from outside -/

/-- Something that is done with transports under supervision. -/
inductive Act where
  /-- Starting everything. -/
  | startAll
  /-- Waiting for a trigger, for some time at most. What comes at one time is looked at from some place on. -/
  | wait (signal : Option Signal) (patience : Option Nat) (first : Nat)
  /-- Letting time pass. -/
  | sleep (span : Nat)

/-- What comes of it. -/
inductive Answer where
  /-- Nothing. -/
  | done
  /-- The transports that were started. -/
  | started (kinds : List Transport)
  /-- The trigger, unless the wait was given up. -/
  | waited (trigger : Option Trigger)

/-- Does something with transports under supervision. -/
def step (s : Supervisor) : Act → Answer × Supervisor
  | .startAll =>
    let (s, kinds) := s.startAll
    (.started kinds, s)
  | .wait signal patience first =>
    let (trigger, s) := s.waitAny signal (patience.map (s.slots.crew.now + ·)) first
    (.waited trigger, s)
  | .sleep span => (.done, s.onCrew fun c => c.sleepUntil (c.now + span))

end Supervisor

end Phrasebook.Lifecycle
