import Phrasebook.App
import Phrasebook.Logging.Setup
import Phrasebook.Settings.Load
import Phrasebook.Tracing
/-!
# The program

The program loads the environment and the settings, then prepares tracing and the log, and runs the service.
What it prints before there is a log goes to the standard output. An error ends it with its causes on the
error output; its exit code tells whether something went wrong, be it only that a transport ended of itself.
-/

set_option autoImplicit false

namespace Phrasebook.Program

/-- What is left when the program has ended. -/
structure Outcome where
  /-- The exit code. -/
  exit : Nat
  /-- What was printed before there was a log. -/
  printed : List String
  /-- Where the log went, if there was one. -/
  sink : Option Logging.Sink := none
  /-- The lines in the log. -/
  log : List LogLine := []
  /-- The lines on the error output. -/
  errors : List String := []

/-- A cause, with its number if there are several. -/
def causeLine (numbered : Bool) (number : Nat) (cause : String) : String :=
  if numbered then "".pushn ' ' (5 - (toString number).length) ++ toString number ++ ": " ++ cause else "    " ++ cause

/-- How an error is told on the error output. -/
def errorLines (c : Chain) : List String :=
  let causes := c.causes
  ("Error: " ++ c.outermost) ::
    (if causes.isEmpty then []
      else "" :: "Caused by:" ::
        causes.zipIdx.map fun (cause, n) => causeLine (causes.length > 1) n cause)

/-- Whether a log lets the spans of requests through, so that there are traces to send. -/
def seesRequests (f : Logging.Filter) : Bool := f.lets Part.site.target .info

/-- A tracer whose collector is not there: closing it fails if there is something to send. -/
def lonelyTracer (f : Logging.Filter) : Tracer where
  release exchanges :=
    if seesRequests f && exchanges.any fun e => !e.notices.isEmpty then
      { ending := some (.error (.failed ⟨"tracer shutdown failed", []⟩)) }
    else {}

/-- What a failed run says on the error output. -/
def failureLines : Lifecycle.Failure → List String
  | .failed c => errorLines c
  | .broke message => [message]

/-- Prepares tracing, if it is wanted: the address of the collector is looked at, and what there is to say
is said. -/
def prepareTracing (s : Settings) : Except Chain (List LogLine) :=
  if s.tracer.enabled then
    match Tracing.check s.tracer.url with
    | .ok () => .ok [Tracing.readyLine s.tracer.url]
    | .error f => .error ⟨Tracing.complaint s.tracer.url f, []⟩
  else .ok []

/-- What can be said about the settings before the service runs. -/
def prepare (s : Settings) : Except Chain (Logging.Sink × Logging.Filter) := do
  -- Nobody hears yet what is said here, as the log comes after.
  let _ ← prepareTracing s
  (Logging.setUp s.logging false).mapError Logging.SetupError.chain

/-- The exit code of a run. -/
def exitCode : Except Lifecycle.Failure Lifecycle.RunReport → Nat
  | .ok r => if r.trigger.isServiceExit then 1 else 0
  | .error (.failed _) => 1
  | .error (.broke _) => 101

/-- Runs the program. -/
def run (h : Host) (o : Outside) (d : Day) : Outcome :=
  let loaded := Settings.loadAll h
  match loaded.result with
  | .error e => { exit := 1, printed := loaded.printed, errors := errorLines e.chain }
  | .ok (s, e) =>
    match prepare s with
    | .error c => { exit := 1, printed := loaded.printed, errors := errorLines c }
    | .ok (sink, filter) =>
      let tracer := if s.tracer.enabled then some (lonelyTracer filter) else none
      let r := App.run o s e tracer s.tracer.enabled d
      let entries := ⟨.logging, sink.greeting⟩ :: r.log
      { exit := exitCode r.result
        printed := loaded.printed
        sink := some sink
        log := (entries.filter fun n => filter.lets n.part.target n.line.level).map (·.line)
        errors := match r.result with
          | .ok _ => []
          | .error f => failureLines f }

end Phrasebook.Program
