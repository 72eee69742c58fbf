import Phrasebook.Phrase
import Phrasebook.Log
/-!
# The phrase book and what stands around it

A book keeps every phrase that was ever rendered, oldest first, and counts them in its generation. In front
of the book there may be a cache with one list, which is meant to be the newest page. Book, cache and the
outside service are reached through facilities, each of which may fail or break down.
-/

set_option autoImplicit false

namespace Phrasebook

/-- A phrase book with its cache. -/
structure Book where
  /-- The phrases, oldest first. -/
  records : List Phrase := []
  /-- Whether there is a cache at all. -/
  hasCache : Bool := false
  /-- What the cache holds. -/
  cached : Option History := none
  /-- How many phrases were stored since the start. It is kept in a counter of 64 bits, and no run of fewer than
  `2 ^ 64` calls can tell the counter from this number (`Book.Run.wrapped_eq_iff`). -/
  generation : Nat := 0
deriving Inhabited

/-- How many phrases a page has. -/
def Book.pageSize : Nat := 100

/-- A page of the book, newest phrase first. -/
def Book.page (b : Book) (limit offset : Nat) : History := ⟨(b.records.reverse.drop offset).take limit⟩

/-- The newest page. -/
def Book.newest (b : Book) : History := b.page Book.pageSize 0

/-- What a call can turn to. -/
inductive Facility where
  | repoGet
  | repoStore
  | web
  | cacheGet
  | cacheSet
  | cacheInvalidate
deriving DecidableEq, Inhabited

/-- The name of a facility. -/
def Facility.name : Facility → String
  | .repoGet => "repo.get"
  | .repoStore => "repo.store"
  | .web => "web"
  | .cacheGet => "cache.get"
  | .cacheSet => "cache.set"
  | .cacheInvalidate => "cache.invalidate"

/-- The facility of a name. -/
def Facility.ofName? (name : String) : Option Facility :=
  [Facility.repoGet, .repoStore, .web, .cacheGet, .cacheSet, .cacheInvalidate].find? (·.name == name)

/-- A use of a facility, with what can be seen of it. -/
inductive FacilityUse where
  /-- Reading a page. -/
  | repoGet (limit offset : Nat)
  /-- Storing a phrase. -/
  | repoStore (p : Phrase)
  /-- Asking the outside service. -/
  | web (q : Query)
  /-- Reading the cache, which holds a list or not. -/
  | cacheGet (hit : Bool)
  /-- Writing a list to the cache. -/
  | cacheSet (list : History)
  /-- Emptying the cache. -/
  | cacheInvalidate
deriving DecidableEq

/-- The facility that was used. -/
def FacilityUse.facility : FacilityUse → Facility
  | .repoGet .. => .repoGet
  | .repoStore _ => .repoStore
  | .web _ => .web
  | .cacheGet _ => .cacheGet
  | .cacheSet _ => .cacheSet
  | .cacheInvalidate => .cacheInvalidate

/-- What can be seen of a use besides its facility. -/
def FacilityUse.detail : FacilityUse → String
  | .repoGet limit offset => toString limit ++ " " ++ toString offset
  | .repoStore p => "|".intercalate p.fields
  | .web q => "|".intercalate q.fields
  | .cacheGet hit => if hit then "hit" else "miss"
  | .cacheSet list => toString list.phrases.length
  | .cacheInvalidate => ""

/-- A use in one line. -/
def FacilityUse.text (u : FacilityUse) : String :=
  if u.detail.isEmpty then u.facility.name else u.facility.name ++ " " ++ u.detail

/-- The world around a book: which facilities fail or break down at the moment, and what the outside service
answers. -/
structure World where
  /-- The failure of a facility, if it fails. -/
  fails : Facility → Option Chain := fun _ => none
  /-- What a facility says when it breaks down, if it does. By then it has done what it was asked for, unless it
  fails as well. -/
  panics : Facility → Option Panic := fun _ => none
  /-- The phrase that the outside service brings for a query, whatever it has to do with the query. -/
  brings : Query → Except Chain Phrase

/-- A failure of the cache. No call fails because of it. -/
inductive CacheNotice where
  | readFailed (cause : Chain)
  | writeFailed (cause : Chain)
  | invalidateFailed (cause : Chain)
deriving DecidableEq

/-- The log line of a notice. -/
def CacheNotice.line : CacheNotice → LogLine
  | .readFailed c => ⟨.warn, "History cache read failed: " ++ c.full⟩
  | .writeFailed c => ⟨.warn, "History cache write failed: " ++ c.full⟩
  | .invalidateFailed c => ⟨.warn, "History cache invalidate failed: " ++ c.full⟩

/-- What can be seen of a call while it runs. -/
inductive BookEvent where
  | use (c : FacilityUse)
  | notice (n : CacheNotice)
deriving DecidableEq

namespace World

/-- What a facility answers: the value, unless it fails. -/
def answer {α : Type} (w : World) (p : Facility) (value : α) : Except Chain α :=
  match w.fails p with
  | some c => .error c
  | none => .ok value

/-- What the outside service answers to a query. -/
def reply (w : World) (q : Query) : Except Chain Phrase :=
  match w.fails .web with
  | some c => .error c
  | none => w.brings q

/-- A change that a facility makes, unless it fails. -/
def change (w : World) (p : Facility) (b changed : Book) : Book :=
  match w.fails p with
  | some _ => b
  | none => changed

end World

end Phrasebook
