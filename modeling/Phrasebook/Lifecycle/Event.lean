import Phrasebook.Lifecycle.Transport
import Phrasebook.Chain
import Phrasebook.Log
import Phrasebook.Span
/-!
# What happens in a lifecycle

The events of building, running and shutting down, and the lines that some of them leave in the log.
-/

set_option autoImplicit false

namespace Phrasebook.Lifecycle

/-- Where the service stands. -/
inductive Phase where
  | constructing
  | starting
  | running
  | shuttingDown
  | exited
deriving DecidableEq, Inhabited, Repr

/-- The name of a phase. -/
def Phase.name : Phase → String
  | .constructing => "Constructing"
  | .starting => "Starting"
  | .running => "Running"
  | .shuttingDown => "ShuttingDown"
  | .exited => "Exited"

/-- How the body of a transport ended without being asked to. -/
inductive Exit where
  /-- It failed. -/
  | failed (c : Chain)
  /-- It ended some other way. -/
  | terminated
deriving DecidableEq, Inhabited

/-- What ends the running phase. -/
inductive Trigger where
  /-- A signal from outside. -/
  | signal (name : String)
  /-- A transport that ended. -/
  | service (kind : Transport) (exit : Exit)
deriving DecidableEq, Inhabited

/-- Whether a transport gave the trigger. -/
def Trigger.isServiceExit : Trigger → Bool
  | .signal _ => false
  | .service .. => true

/-- The text of a trigger. -/
def Trigger.text : Trigger → String
  | .signal name => "signal " ++ name
  | .service kind (.failed c) => kind.name ++ " failed: " ++ c.full
  | .service kind .terminated => kind.name ++ " terminated"

/-- Why a transport did not shut down well. -/
inductive ShutdownError where
  /-- It took too long. -/
  | timeout (after : Span)
  /-- It said why. -/
  | failed (c : Chain)
deriving DecidableEq, Inhabited

/-- The text of a shutdown error. -/
def ShutdownError.text : ShutdownError → String
  | .timeout after => "shutdown timed out after " ++ after.text
  | .failed c => "shutdown failed: " ++ c.full

/-- Something that happens. -/
inductive Event where
  /-- A transport is not wanted. -/
  | disabled (kind : Transport)
  /-- The building of a transport begins. -/
  | constructing (kind : Transport)
  /-- A transport has been built. -/
  | constructed (kind : Transport)
  /-- A transport that was built is gone before it was started. -/
  | dropped (kind : Transport)
  /-- The service moves to another phase. -/
  | moved (old new : Phase)
  /-- A call to start everything comes at the wrong time. -/
  | startIgnored (phase : Phase)
  /-- A transport is told to start. -/
  | starting (kind : Transport)
  /-- A transport has been started. -/
  | started (kind : Transport)
  /-- A task is told to start once more. -/
  | alreadyStarted (task : String)
  /-- The body of a task ends of itself. -/
  | exited (task : String)
  /-- The body of a task sees the request to stop. -/
  | stopping (task : String)
  /-- The body of a task has cleared up. -/
  | stopped (task : String)
  /-- The body of a task failed. -/
  | failed (task : String) (c : Chain)
  /-- Something ends the running phase. -/
  | triggered (t : Trigger)
  /-- A transport is told to shut down. -/
  | shuttingDown (kind : Transport)
  /-- A transport has shut down. -/
  | shutDown (kind : Transport)
  /-- A transport did not shut down well. -/
  | shutdownFailed (kind : Transport) (e : ShutdownError)
  /-- All transports have been told to shut down. -/
  | passed (failures total : Nat)
  /-- The release of a resource begins. -/
  | releasing (resource : String)
  /-- The release of a resource has run to its end. -/
  | releaseEnded (resource : String)
  /-- A resource has been released. -/
  | released (resource : String)
  /-- A resource could not be released. -/
  | releaseFailed (resource : String) (c : Chain)
  /-- The release of a resource took too long. -/
  | releaseTimedOut (resource : String) (after : Span)
  /-- The guarded work failed. -/
  | exiting (c : Chain)
  /-- Some other part of the service writes to the log. -/
  | said (e : LogEntry)
deriving DecidableEq, Inhabited

/-- The line that an event leaves in the log, if any. -/
def Event.line? : Event → Option LogLine
  | .disabled k => some ⟨.info, k.name ++ " disabled"⟩
  | .constructed k => some ⟨.info, k.name ++ " constructed"⟩
  | .moved a b => some ⟨.info, "Lifecycle " ++ a.name ++ " -> " ++ b.name⟩
  | .startIgnored p => some ⟨.warn, "start_all called in phase " ++ p.name ++ ", ignored"⟩
  | .started k => some ⟨.info, k.name ++ " started"⟩
  | .alreadyStarted t => some ⟨.warn, t ++ " already started"⟩
  | .failed t c => some ⟨.error, t ++ " stopped with error: " ++ c.full⟩
  | .triggered t => some ⟨if t.isServiceExit then .error else .info, "Shutdown triggered by " ++ t.text⟩
  | .shutDown k => some ⟨.info, k.name ++ " shut down"⟩
  | .shutdownFailed k e => some ⟨.error, k.name ++ " " ++ e.text⟩
  | .passed 0 total =>
    some ⟨.info, "Shutdown pass completed, " ++ toString total ++ " services stopped cleanly"⟩
  | .passed failures total =>
    some ⟨.warn, "Shutdown pass completed, " ++ toString failures ++ " of " ++ toString total ++
      " services failed to stop cleanly"⟩
  | .released r => some ⟨.info, r ++ " released"⟩
  | .releaseFailed r c => some ⟨.error, "Failed to release " ++ r ++ ": " ++ c.full⟩
  | .releaseTimedOut r after => some ⟨.error, "Release of " ++ r ++ " timed out after " ++ after.text⟩
  | .exiting c => some ⟨.error, "Exiting on error: " ++ c.full⟩
  | .said e => some e.line
  | .constructing _ | .dropped _ | .starting _ | .exited _ | .stopping _ | .stopped _ | .shuttingDown _
  | .releasing _ | .releaseEnded _ => none

/-- The mark that an event leaves for somebody who watches the tasks and resources, if any. -/
def Event.mark? : Event → Option String
  | .constructing k => some ("construct:" ++ k.name)
  | .starting k => some ("start:" ++ k.name)
  | .exited t => some ("exit:" ++ t)
  | .stopping t => some ("stopping:" ++ t)
  | .stopped t => some ("stopped:" ++ t)
  | .shuttingDown k => some ("shutdown:" ++ k.name)
  | .releasing r => some ("release:" ++ r)
  | .releaseEnded r => some ("released:" ++ r)
  | _ => none

/-- The part of the service in which an event happens. -/
def Event.part : Event → Part
  | .disabled _ | .constructing _ | .constructed _ | .dropped _ => .slots
  | .alreadyStarted _ | .exited _ | .stopping _ | .stopped _ | .failed .. => .task
  | .releasing _ | .releaseEnded _ | .released _ | .releaseFailed .. | .releaseTimedOut .. | .exiting _ =>
    .resources
  | .said e => e.part
  | _ => .supervisor

/-- The entry that an event leaves in the log, if any. -/
def Event.entry? (e : Event) : Option LogEntry := e.line?.map (⟨e.part, ·⟩)

end Phrasebook.Lifecycle
