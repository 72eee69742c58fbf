/-!
# Chains of causes

A failure is told as a chain: the root cause, and around it the contexts in which it arose. `Chain.full`
tells all of it from the outside in, `Chain.outermost` only what a caller sees first.
-/

set_option autoImplicit false

namespace Phrasebook

/-- A failure: its root cause and the contexts around it, outermost first. -/
structure Chain where
  /-- The cause. -/
  root : String
  /-- The contexts, outermost first. -/
  contexts : List String := []
deriving DecidableEq, Inhabited

namespace Chain

/-- Puts a context around a failure. -/
def context (c : Chain) (message : String) : Chain := { c with contexts := message :: c.contexts }

/-- All messages, outermost first. -/
def messages (c : Chain) : List String := c.contexts ++ [c.root]

/-- The whole chain on one line. -/
def full (c : Chain) : String := ": ".intercalate c.messages

/-- The outermost message. -/
def outermost (c : Chain) : String := c.messages.headD c.root

/-- The messages below the outermost one. -/
def causes (c : Chain) : List String := c.messages.drop 1

/-- The chain with these messages, innermost first. -/
def ofInnermostFirst : List String → Chain
  | [] => ⟨"", []⟩
  | root :: contexts => ⟨root, contexts.reverse⟩

end Chain

end Phrasebook
