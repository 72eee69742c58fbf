import Phrasebook.Book.State
/-!
# Calls, step by step

Two calls are made on a book: `recall` lists the newest phrases, `render` asks the outside service for a
rendering and stores it. A call moves through stages; each step does at most one thing that another call
could notice, so that any number of calls can be interleaved step by step.

A recall reads the cache first. If that gives nothing it remembers the generation, reads the newest page
and puts it into the cache, but only if no phrase was stored in the meantime; and if one was stored while
the cache was being written, it empties the cache again. A render stores its phrase, counts up the
generation and empties the cache, in this order.
-/

set_option autoImplicit false

namespace Phrasebook.Book

/-- Where a call stands. A stage named for something done carries its outcome, which the next step looks
at. -/
inductive Stage where
  /-- A recall that has not begun. -/
  | recall
  /-- The cache has been read. -/
  | looked (found : Except Chain (Option History))
  /-- The generation has been noted; the page comes next. -/
  | reading (generation : Nat)
  /-- The page has been read. -/
  | haveRead (generation : Nat) (page : Except Chain History)
  /-- The generation was still the same; the cache is written next. -/
  | filling (generation : Nat) (page : History)
  /-- The cache has been written. -/
  | filled (generation : Nat) (page : History) (done : Except Chain Unit)
  /-- The generation has changed; the cache is emptied next. -/
  | clearing (generation : Nat) (page : History)
  /-- The cache has been emptied. -/
  | cleared (page : History) (done : Except Chain Unit)
  /-- A recall that has ended. -/
  | recalled (answer : Except ServiceError History)
  /-- A render that has not begun. -/
  | render (q : Query)
  /-- The outside service has answered. -/
  | asked (q : Query) (answer : Except Chain Phrase)
  /-- The phrase has been stored. -/
  | stored (p : Phrase) (done : Except Chain Unit)
  /-- The generation has been counted up; the cache is emptied next. -/
  | counted (p : Phrase)
  /-- The cache has been emptied. -/
  | invalidated (p : Phrase) (done : Except Chain Unit)
  /-- A render that has ended. -/
  | rendered (answer : Except ServiceError Phrase)

/-- What a step makes of a call and the book, and what can be seen of it. -/
structure Step where
  /-- Where the call stands now. -/
  stage : Stage
  /-- The book now. -/
  book : Book
  /-- What can be seen. -/
  events : List BookEvent := []

/-- The context of a failed page. -/
def readContext : String := "TranslationUseCase - history - repo.get_history"

/-- The context of a failed rendering. -/
def webContext : String := "TranslationUseCase - translate - web_api.translate"

/-- The context of a failed store. -/
def storeContext : String := "TranslationUseCase - translate - repo.store"

/-- One step of a call. A call that has ended stays as it is. -/
def step (w : World) (b : Book) : Stage → Step
  | .recall =>
    if b.hasCache then
      ⟨.looked (w.answer .cacheGet b.cached), b, [.use (.cacheGet b.cached.isSome)]⟩
    else ⟨.reading b.generation, b, []⟩
  | .looked (.ok (some h)) => ⟨.recalled (.ok h), b, []⟩
  | .looked (.ok none) => ⟨.reading b.generation, b, []⟩
  | .looked (.error c) => ⟨.reading b.generation, b, [.notice (.readFailed c)]⟩
  | .reading g =>
    ⟨.haveRead g (w.answer .repoGet b.newest), b, [.use (.repoGet pageSize 0)]⟩
  | .haveRead _ (.error c) => ⟨.recalled (.error (.internal (c.context readContext))), b, []⟩
  -- a page is put into the cache only if no phrase was counted while it was read
  | .haveRead g (.ok h) =>
    if b.hasCache && b.generation == g then ⟨.filling g h, b, []⟩ else ⟨.recalled (.ok h), b, []⟩
  | .filling g h =>
    ⟨.filled g h (w.answer .cacheSet ()), w.change .cacheSet b { b with cached := some h },
      [.use (.cacheSet h)]⟩
  | .filled _ h (.error c) => ⟨.recalled (.ok h), b, [.notice (.writeFailed c)]⟩
  -- a phrase counted while the cache was written may be missing in what was written
  | .filled g h (.ok ()) =>
    if b.generation == g then ⟨.recalled (.ok h), b, []⟩ else ⟨.clearing g h, b, []⟩
  | .clearing _ h =>
    ⟨.cleared h (w.answer .cacheInvalidate ()),
      w.change .cacheInvalidate b { b with cached := none }, [.use .cacheInvalidate]⟩
  | .cleared h (.ok ()) => ⟨.recalled (.ok h), b, []⟩
  | .cleared h (.error c) => ⟨.recalled (.ok h), b, [.notice (.invalidateFailed c)]⟩
  | .recalled a => ⟨.recalled a, b, []⟩
  | .render q =>
    match q.validate with
    | .error e => ⟨.rendered (.error e), b, []⟩
    | .ok () => ⟨.asked q (w.reply q), b, [.use (.web q)]⟩
  | .asked _ (.error c) => ⟨.rendered (.error (.external (c.context webContext))), b, []⟩
  | .asked _ (.ok p) =>
    ⟨.stored p (w.answer .repoStore ()),
      w.change .repoStore b { b with records := b.records ++ [p] }, [.use (.repoStore p)]⟩
  | .stored _ (.error c) => ⟨.rendered (.error (.internal (c.context storeContext))), b, []⟩
  -- counted before the cache is emptied, so that a recall that has read too early sees it
  | .stored p (.ok ()) => ⟨.counted p, { b with generation := b.generation + 1 }, []⟩
  | .counted p =>
    if b.hasCache then
      ⟨.invalidated p (w.answer .cacheInvalidate ()),
        w.change .cacheInvalidate b { b with cached := none }, [.use .cacheInvalidate]⟩
    else ⟨.rendered (.ok p), b, []⟩
  | .invalidated p (.ok ()) => ⟨.rendered (.ok p), b, []⟩
  | .invalidated p (.error c) => ⟨.rendered (.ok p), b, [.notice (.invalidateFailed c)]⟩
  | .rendered a => ⟨.rendered a, b, []⟩

/-- Whether the call has ended. -/
def Stage.isDone : Stage → Bool
  | .recalled _ | .rendered _ => true
  | _ => false

/-- The facility that has just been used, when its outcome has not been looked at yet. -/
def Stage.justUsed : Stage → Option Facility
  | .looked _ => some .cacheGet
  | .haveRead .. => some .repoGet
  | .filled .. => some .cacheSet
  | .cleared .. | .invalidated .. => some .cacheInvalidate
  | .asked .. => some .web
  | .stored .. => some .repoStore
  | _ => none

/-- How many steps a call takes at most. -/
def Stage.stepsLeft : Stage → Nat
  | .recall => 8
  | .looked _ => 7
  | .reading _ => 6
  | .haveRead .. => 5
  | .filling .. => 4
  | .filled .. => 3
  | .clearing .. => 2
  | .cleared .. => 1
  | .recalled _ => 0
  | .render _ => 5
  | .asked .. => 4
  | .stored .. => 3
  | .counted _ => 2
  | .invalidated .. => 1
  | .rendered _ => 0

/-- Goes on until the call has ended or has just used one of the facilities in `stops`. -/
def runTo (w : World) (stops : Facility → Bool) : Nat → Book → Stage → Step
  | 0, b, s => ⟨s, b, []⟩
  | fuel + 1, b, s =>
    if s.isDone then ⟨s, b, []⟩
    else
      let next := step w b s
      if (next.stage.justUsed.map stops).getD false then next
      else
        let rest := runTo w stops fuel next.book next.stage
        { rest with events := next.events ++ rest.events }

/-- Goes on to the next stop or the end. -/
def advance (w : World) (stops : Facility → Bool) (b : Book) (s : Stage) : Step :=
  runTo w stops s.stepsLeft b s

/-- Goes on right after the next use of a facility, or to the end. -/
def segment (w : World) (b : Book) (s : Stage) : Step := advance w (fun _ => true) b s

/-- Goes on to the end, or to the first facility that breaks down. -/
def finish (w : World) (b : Book) (s : Stage) : Step := advance w (fun f => (w.panics f).isSome) b s

/-- The breakdown of the facility that has just been used. -/
def Stage.breakdown? (w : World) (s : Stage) : Option Panic := s.justUsed.bind w.panics

/-- The answer of a recall that has ended. -/
def Stage.recalled? : Stage → Option (Except ServiceError History)
  | .recalled a => some a
  | _ => none

/-- The answer of a render that has ended. -/
def Stage.rendered? : Stage → Option (Except ServiceError Phrase)
  | .rendered a => some a
  | _ => none

/-- How a call ends that has its answer or has just used a facility that breaks down. -/
def Stage.outcome {α : Type} (w : World) (answer? : Stage → Option (Except ServiceError α)) (s : Stage) :
    Outcome α :=
  match s.breakdown? w with
  | some p => .broke p
  | none => .answer ((answer? s).getD (.error .notFound))

/-- How a recall ends, and the book and events after it. -/
def runRecall (w : World) (b : Book) : Outcome History × Book × List BookEvent :=
  let r := finish w b .recall
  (r.stage.outcome w Stage.recalled?, r.book, r.events)

/-- How a render ends, and the book and events after it. -/
def runRender (w : World) (b : Book) (q : Query) : Outcome Phrase × Book × List BookEvent :=
  let r := finish w b (.render q)
  (r.stage.outcome w Stage.rendered?, r.book, r.events)

/-- A step uses up one of the steps that are left. -/
theorem stepsLeft_step_lt (w : World) (b : Book) (s : Stage) (h : s.isDone = false) :
    (step w b s).stage.stepsLeft < s.stepsLeft := by
  cases s with
  | «recall» => simp only [step]; split <;> simp [Stage.stepsLeft]
  | looked f => rcases f with c | (_ | h) <;> simp [step, Stage.stepsLeft]
  | reading g => simp [step, Stage.stepsLeft]
  | haveRead g p => cases p <;> simp only [step] <;> (try split) <;> simp [Stage.stepsLeft]
  | filling g p => simp [step, Stage.stepsLeft]
  | filled g p d => rcases d with c | ⟨⟩ <;> simp only [step] <;> (try split) <;> simp [Stage.stepsLeft]
  | clearing g p => simp [step, Stage.stepsLeft]
  | cleared p d => rcases d with c | ⟨⟩ <;> simp [step, Stage.stepsLeft]
  | recalled a => simp [Stage.isDone] at h
  | render q => simp only [step]; split <;> simp [Stage.stepsLeft]
  | asked q a => cases a <;> simp [step, Stage.stepsLeft]
  | stored p d => rcases d with c | ⟨⟩ <;> simp [step, Stage.stepsLeft]
  | counted p => simp only [step]; split <;> simp [Stage.stepsLeft]
  | invalidated p d => rcases d with c | ⟨⟩ <;> simp [step, Stage.stepsLeft]
  | rendered a => simp [Stage.isDone] at h

end Phrasebook.Book
