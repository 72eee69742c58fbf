import Phrasebook.Book.Call
/-!
# The desk

Every entry point of the service turns to a desk with its calls. Usually a book stands behind the desk, and a
call breaks down where one of the facilities around the book does; a desk can also give fixed answers, or break
down, so that the entry points can be looked at on their own.
-/

set_option autoImplicit false

namespace Phrasebook

/-- What calls are made to. -/
inductive Desk where
  | book (b : Book)
  | fixed (history : Outcome History) (phrase : Outcome Phrase)

/-- A call that has ended, with the desk and what was seen. -/
structure Served (α : Type) where
  /-- How it ended. -/
  outcome : Outcome α
  /-- The desk afterwards. -/
  desk : Desk
  /-- What was seen. -/
  events : List BookEvent := []

/-- Lists the newest phrases. -/
def Desk.recall (w : World) : Desk → Served History
  | .book b => let (outcome, b, events) := Book.runRecall w b; ⟨outcome, .book b, events⟩
  | .fixed h p => ⟨h, .fixed h p, []⟩

/-- Renders a text. -/
def Desk.render (w : World) (q : Query) : Desk → Served Phrase
  | .book b => let (outcome, b, events) := Book.runRender w b q; ⟨outcome, .book b, events⟩
  | .fixed h p => ⟨p, .fixed h p, []⟩

/-- The uses of facilities among events. -/
def facilityUses (events : List BookEvent) : List FacilityUse :=
  events.filterMap fun
    | .use c => some c
    | .notice _ => none

/-- The notices among events. -/
def cacheNotices (events : List BookEvent) : List CacheNotice :=
  events.filterMap fun
    | .use _ => none
    | .notice n => some n

end Phrasebook
