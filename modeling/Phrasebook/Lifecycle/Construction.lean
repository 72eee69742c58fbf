import Phrasebook.Lifecycle.Resources
import Phrasebook.Lifecycle.Supervisor
/-!
# Building under guard

The transports are built while resources are held, on one clock. What cannot be built is told to the guard,
which then releases the resources; transports that were built before it are gone.
-/

set_option autoImplicit false

namespace Phrasebook.Lifecycle

/-- Lets go of the transports that are there: they are gone, and their tasks with them. -/
def Slots.drop (s : Slots) : Slots :=
  (s.kinds.foldl (fun s k => s.emit (.dropped k)) s).onCrew fun c => { c with tasks := [] }

namespace Scope

/-- Builds the wanted transports on the clock of a scope. Those that are there when one cannot be built are
dropped. Without a result one of the builds never ends. -/
def construct (s : Scope) (conduct : Transport → Conduct) (wanted : Transport → Bool)
    (build : Transport → Work) : Option (Except Failure Slots) × Scope :=
  let (r, slots) := Slots.construct { conduct, crew := { now := s.now, trace := s.trace } } wanted build
  let slots := match r with
    | some (.error _) => slots.drop
    | _ => slots
  (r.map fun v => v.map fun _ => { slots with crew := { slots.crew with trace := [] } },
    { s with now := slots.crew.now, trace := slots.crew.trace })

/-- The building as work to be guarded. Such work ends: a build that never does counts as a breakdown that
says nothing. -/
def buildAll (conduct : Transport → Conduct) (wanted : Transport → Bool) (build : Transport → Work)
    (s : Scope) : Except Failure Slots × Scope :=
  let (r, s) := s.construct conduct wanted build
  (r.getD (.error (.broke "")), s)

/-- Supervises transports on the clock of a scope: starts them, is busy, and shuts them down when a signal
comes or one of them ends. -/
def supervise (s : Scope) (slots : Slots) (timeout : Nat) (busy : Supervisor → Supervisor)
    (signal : Option Signal) : Option (Except Failure RunReport) × Scope :=
  let slots := { slots with crew := { slots.crew with now := s.now, trace := s.trace } }
  let (r, v) := (Supervisor.ofSlots slots timeout).runWith busy signal none
  (r, { s with now := v.slots.crew.now, trace := v.slots.crew.trace })

end Scope

end Phrasebook.Lifecycle
