import Phrasebook.Lifecycle.Event
/-!
# Entry points with a socket of their own

Such an entry point takes its socket when it is built, answers from its start on and gives the socket back
when it is shut down. The start is announced as soon as the entry point gets a turn.
-/

set_option autoImplicit false

namespace Phrasebook.Lifecycle

/-- Where an entry point stands. -/
inductive Standing where
  /-- It has its socket. -/
  | bound
  /-- It has been started and had no turn yet. -/
  | starting
  /-- It answers. -/
  | serving
  /-- It has given its socket back; it may have been started before. -/
  | over (started : Bool)
deriving DecidableEq, Inhabited

/-- An entry point with a socket of its own. -/
structure Listener where
  /-- Which one. -/
  kind : Transport
  /-- Where its socket is. -/
  place : String
  /-- Where it stands. -/
  standing : Standing := .bound
  /-- Whether somebody has asked for its exit. -/
  heard : Bool := false
deriving DecidableEq, Inhabited

namespace Listener

/-- How the socket is called when it cannot be had. -/
def socketName : Transport → String
  | .grpc => "grpc"
  | _ => "http"

/-- The failure to get the socket. -/
def bindFailure (kind : Transport) (place : String) : Chain :=
  ⟨"failed to bind " ++ socketName kind ++ " listener " ++ place ++ ": Address already in use (os error 98)", []⟩

/-- Takes the socket. -/
def bind (kind : Transport) (place : String) (busy : Bool) : Except Chain Listener :=
  if busy then .error (bindFailure kind place) else .ok { kind, place }

/-- What is said when it begins to answer. -/
def announcement (l : Listener) : LogLine :=
  match l.kind with
  | .grpc => ⟨.info, "gRPC server is running at " ++ l.place⟩
  | _ => ⟨.info, "🚀 HTTP server is running at " ++ l.place⟩

/-- What is said when it is over. -/
def farewell (l : Listener) : LogLine :=
  match l.kind with
  | .grpc => ⟨.info, "gRPC server stopped"⟩
  | _ => ⟨.info, "HTTP server stopped"⟩

/-- Starts it, the first time. -/
def start (l : Listener) : Listener :=
  match l.standing with
  | .bound => { l with standing := .starting }
  | _ => l

/-- Gives it a turn. -/
def turn (l : Listener) : Listener × List LogLine :=
  match l.standing with
  | .starting => ({ l with standing := .serving }, [l.announcement])
  | _ => (l, [])

/-- Whether it answers. -/
def isServing (l : Listener) : Bool := l.standing == .serving

/-- What whoever asks for its exit hears at once. Only the first to ask hears anything, and only if it was
started. -/
def listen (l : Listener) : Option Exit × Listener :=
  (if !l.heard && l.standing == .over true then some .terminated else none, { l with heard := true })

/-- Shuts it down. -/
def shutdown (l : Listener) : Listener × List LogLine :=
  let (l, lines) := l.turn
  match l.standing with
  | .serving => ({ l with standing := .over true }, lines ++ [l.farewell])
  | .bound => ({ l with standing := .over false }, lines)
  | _ => (l, lines)

end Listener

end Phrasebook.Lifecycle
