import Phrasebook.Desk
/-!
# Calls without their causes

`bare` takes out of a failure why it happened: the chain of causes gives way to an empty one, and what a
breakdown says to nothing. That a failure happened, and at which facility, remains.

A call does not look at causes. It passes them on in its answer and in notices, but where it goes next, what
it does to the book and what it answers is the same without them: `step_bare` for one step of a call, and
from it `recall_alike` and `render_alike` for whole calls at two desks that differ in causes only.
-/

set_option autoImplicit false

namespace Phrasebook

/-! ## What remains without the causes -/

/-- A result without the cause of its failure. -/
def blank {α : Type} (r : Except Chain α) : Except Chain α := r.mapError fun _ => default

/-- A failure without its causes. -/
def ServiceError.bare : ServiceError → ServiceError
  | .validation message => .validation message
  | .notFound => .notFound
  | .external _ => .external default
  | .internal _ => .internal default

/-- The world fails and breaks down where it does, but does not say why. -/
def World.bare (w : World) : World where
  fails f := (w.fails f).map fun _ => default
  panics f := (w.panics f).map fun _ => .untold
  brings q := blank (w.brings q)

/-- An outcome without causes. -/
def Outcome.bare {α : Type} : Outcome α → Outcome α
  | .answer r => .answer (r.mapError ServiceError.bare)
  | .broke _ => .broke .untold

/-- A desk without causes: only fixed answers can have any. -/
def Desk.bare : Desk → Desk
  | .book b => .book b
  | .fixed h p => .fixed h.bare p.bare

/-- A call at the desk without causes. What was seen of it is left out. -/
def Served.bare {α : Type} (s : Served α) : Served α := ⟨s.outcome.bare, s.desk.bare, []⟩

namespace Book

/-- A stage without causes. -/
def Stage.bare : Stage → Stage
  | .looked found => .looked (blank found)
  | .haveRead g page => .haveRead g (blank page)
  | .filled g page done => .filled g page (blank done)
  | .cleared page done => .cleared page (blank done)
  | .recalled a => .recalled (a.mapError ServiceError.bare)
  | .asked q a => .asked q (blank a)
  | .stored p done => .stored p (blank done)
  | .invalidated p done => .invalidated p (blank done)
  | .rendered a => .rendered (a.mapError ServiceError.bare)
  | s => s

/-- A step without causes. What was seen is left out. -/
def Step.bare (r : Step) : Step := ⟨r.stage.bare, r.book, []⟩

end Book

@[simp]
theorem blank_ok {α : Type} (v : α) : blank (.ok v) = .ok v := rfl

@[simp]
theorem Outcome.bare_ok {α : Type} (v : α) : (Outcome.answer (.ok v)).bare = .answer (.ok v) := rfl

/-- A failed answer without causes is the failure without its causes. -/
@[simp]
theorem Outcome.bare_error {α : Type} (e : ServiceError) :
    (Outcome.answer (.error e) : Outcome α).bare = .answer (.error e.bare) := rfl

@[simp]
theorem Outcome.bare_broke {α : Type} (p : Panic) : (Outcome.broke p : Outcome α).bare = .broke .untold := rfl

/-- To leave causes out twice is to leave them out once. -/
@[simp]
theorem blank_blank {α : Type} (r : Except Chain α) : blank (blank r) = blank r := by
  cases r <;> rfl

/-- The same of a failure. -/
theorem ServiceError.bare_bare (e : ServiceError) : e.bare.bare = e.bare := by
  cases e <;> rfl

/-- The same of an outcome. -/
theorem Outcome.bare_bare {α : Type} (o : Outcome α) : o.bare.bare = o.bare := by
  rcases o with (e | v) | p
  · rw [bare_error, bare_error, ServiceError.bare_bare]
  · rfl
  · rfl

/-- The same of a desk. -/
theorem Desk.bare_bare (d : Desk) : d.bare.bare = d.bare := by
  cases d <;> simp only [bare, Outcome.bare_bare]

/-! ## Facilities -/

namespace World

variable (w : World)

/-- A facility answers without causes where the world does. -/
@[simp]
theorem answer_bare {α : Type} (f : Facility) (value : α) :
    w.bare.answer f value = blank (w.answer f value) := by
  unfold answer
  cases h : w.fails f <;> simp only [bare, h, Option.map_none, Option.map_some] <;> rfl

/-- So does the outside service. -/
@[simp]
theorem reply_bare (q : Query) : w.bare.reply q = blank (w.reply q) := by
  unfold reply
  cases h : w.fails .web with
  | none => simp only [bare, h, Option.map_none]
  | some c =>
    simp only [bare, h, Option.map_some]
    rfl

/-- What changes in the book does not depend on causes. -/
@[simp]
theorem change_bare (f : Facility) (b changed : Book) : w.bare.change f b changed = w.change f b changed := by
  unfold change
  cases h : w.fails f <;> simp only [bare, h, Option.map_none, Option.map_some]

end World

/-! ## A call -/

namespace Book

/-- Whether a call is over does not depend on causes. -/
theorem Stage.isDone_bare (s : Stage) : s.bare.isDone = s.isDone := by
  cases s <;> rfl

/-- Nor does which facility it has just used. -/
theorem Stage.justUsed_bare (s : Stage) : s.bare.justUsed = s.justUsed := by
  cases s <;> rfl

/-- **A step does not look at causes.** -/
theorem step_bare (w : World) (b : Book) (s : Stage) : (step w.bare b s.bare).bare = (step w b s).bare := by
  cases s with
  | «recall» =>
    simp only [Stage.bare, step, World.answer_bare]
    split <;> simp only [Step.bare, Stage.bare, blank_blank]
  | looked found => rcases found with c | (_ | h) <;> rfl
  | reading g => simp only [Stage.bare, step, World.answer_bare, Step.bare, blank_blank]
  | haveRead g page => rcases page with c | h <;> rfl
  | filling g page =>
    simp only [Stage.bare, step, World.answer_bare, World.change_bare, Step.bare, blank_blank]
  | filled g page done => rcases done with c | ⟨⟩ <;> rfl
  | clearing g page =>
    simp only [Stage.bare, step, World.answer_bare, World.change_bare, Step.bare, blank_blank]
  | cleared page done => rcases done with c | ⟨⟩ <;> rfl
  | recalled a =>
    rcases a with e | h
    · cases e <;> rfl
    · rfl
  | render q =>
    simp only [Stage.bare, step, World.reply_bare]
    split <;> simp only [Step.bare, Stage.bare, blank_blank]
  | asked q a =>
    -- a failure ends the call; a rendering is stored, which may fail in turn
    rcases a with c | p
    · rfl
    · simp only [Stage.bare, blank_ok, step, World.answer_bare, World.change_bare, Step.bare]
      cases w.answer .repoStore () <;> rfl
  | stored p done => rcases done with c | ⟨⟩ <;> rfl
  | counted p =>
    simp only [Stage.bare, step, World.answer_bare, World.change_bare]
    split <;> simp only [Step.bare, Stage.bare, blank_blank]
  | invalidated p done => rcases done with c | ⟨⟩ <;> rfl
  | rendered a =>
    rcases a with e | p
    · cases e <;> rfl
    · rfl

variable {w w' : World} {s s' : Stage}

/-- Two steps that differ in causes only. -/
theorem step_alike (hw : w.bare = w'.bare) (b : Book) (hs : s.bare = s'.bare) :
    (step w b s).bare = (step w' b s').bare := by
  rw [← step_bare w, hw, hs, step_bare w']

/-- Any number of steps. -/
theorem runTo_alike (hw : w.bare = w'.bare) (stops : Facility → Bool) (fuel : Nat) (b : Book)
    (hs : s.bare = s'.bare) : (runTo w stops fuel b s).bare = (runTo w' stops fuel b s').bare := by
  induction fuel generalizing b s s' with
  | zero => rw [runTo, runTo, Step.bare, Step.bare, hs]
  | succ fuel ih =>
    have hdone : s.isDone = s'.isDone := by rw [← Stage.isDone_bare s, hs, Stage.isDone_bare]
    have hstep := step_alike hw b hs
    obtain ⟨hstage, hbook, -⟩ := Step.mk.inj hstep
    have hused : (step w b s).stage.justUsed = (step w' b s').stage.justUsed := by
      rw [← Stage.justUsed_bare, hstage, Stage.justUsed_bare]
    -- both calls stop at the same stages, so they take the same branch
    simp only [runTo, hdone, hused, hbook]
    split
    · rw [Step.bare, Step.bare, hs]
    · split
      · exact hstep
      · exact ih (step w' b s').book hstage

/-- Two worlds that differ in causes only break down at the same facilities. -/
theorem World.isSome_panics_alike (hw : w.bare = w'.bare) (f : Facility) :
    (w.panics f).isSome = (w'.panics f).isSome := by
  have h := congrArg Option.isSome (congrFun (congrArg World.panics hw) f)
  simpa only [World.bare, Option.isSome_map] using h

/-- Two calls that go on to their ends, or to the first breakdown. -/
theorem finish_alike (hw : w.bare = w'.bare) (b : Book) (s : Stage) :
    (finish w b s).bare = (finish w' b s).bare := by
  have hstops : (fun f => (w.panics f).isSome) = fun f => (w'.panics f).isSome :=
    funext (World.isSome_panics_alike hw)
  unfold finish
  rw [hstops]
  exact runTo_alike hw _ _ b rfl

/-- What comes of a call does not tell of causes once they are taken out of it. -/
theorem Stage.outcome_bare {α : Type} {answer? : Stage → Option (Except ServiceError α)}
    (hanswer : ∀ s, answer? s.bare = (answer? s).map (·.mapError ServiceError.bare)) (s : Stage) :
    (s.bare.outcome w.bare answer?).bare = (s.outcome w answer?).bare := by
  have hbreak : s.bare.breakdown? w.bare = (s.breakdown? w).map fun _ => .untold := by
    rw [breakdown?, breakdown?, justUsed_bare]
    cases s.justUsed <;> rfl
  unfold outcome
  rw [hbreak, hanswer]
  cases s.breakdown? w with
  | some p => rfl
  | none =>
    rcases answer? s with _ | (e | v)
    · rfl
    · exact congrArg (fun e => Outcome.answer (.error e)) e.bare_bare
    · rfl

/-- The outcomes of two stages that differ in causes only. -/
theorem Stage.outcome_alike {α : Type} {answer? : Stage → Option (Except ServiceError α)}
    (hanswer : ∀ s, answer? s.bare = (answer? s).map (·.mapError ServiceError.bare))
    (hw : w.bare = w'.bare) (hs : s.bare = s'.bare) :
    (s.outcome w answer?).bare = (s'.outcome w' answer?).bare := by
  rw [← outcome_bare hanswer, hw, hs, outcome_bare hanswer]

/-- What a recall has come to is the same without causes, but for the causes of its failure. -/
theorem Stage.recalled?_bare (s : Stage) :
    s.bare.recalled? = s.recalled?.map (·.mapError ServiceError.bare) := by
  cases s <;> rfl

/-- So is what a render has come to. -/
theorem Stage.rendered?_bare (s : Stage) :
    s.bare.rendered? = s.rendered?.map (·.mapError ServiceError.bare) := by
  cases s <;> rfl

end Book

/-! ## Calls at a desk -/

namespace Desk

variable {w w' : World} {d d' : Desk}

/-- Two desks that differ in causes only have the same book behind them, or both give fixed answers. -/
theorem cases_of_bare (hd : d.bare = d'.bare) :
    (∃ b, d = .book b ∧ d' = .book b) ∨
      ∃ h p h' p', d = .fixed h p ∧ d' = .fixed h' p' ∧ h.bare = h'.bare ∧ p.bare = p'.bare := by
  cases d with
  | book b =>
    cases d' with
    | book b' =>
      cases hd
      exact Or.inl ⟨b, rfl, rfl⟩
    | fixed h p => cases hd
  | fixed h p =>
    cases d' with
    | book b => cases hd
    | fixed h' p' =>
      obtain ⟨hhistory, hphrase⟩ := Desk.fixed.inj hd
      exact Or.inr ⟨h, p, h', p', rfl, rfl, hhistory, hphrase⟩

/-- **Two recalls that differ in causes only.** -/
theorem recall_alike (hw : w.bare = w'.bare) (hd : d.bare = d'.bare) :
    (d.recall w).bare = (d'.recall w').bare := by
  rcases cases_of_bare hd with ⟨b, rfl, rfl⟩ | ⟨h, p, h', p', rfl, rfl, hhistory, hphrase⟩
  · obtain ⟨hstage, hbook, -⟩ := Book.Step.mk.inj (Book.finish_alike hw b .recall)
    have houtcome := Book.Stage.outcome_alike Book.Stage.recalled?_bare hw hstage
    simp only [«recall», Book.runRecall, Served.bare, Desk.bare, houtcome, hbook]
  · simp only [«recall», Served.bare, Desk.bare, hhistory, hphrase]

/-- **Two renders that differ in causes only.** -/
theorem render_alike (hw : w.bare = w'.bare) (hd : d.bare = d'.bare) (q : Query) :
    (d.render w q).bare = (d'.render w' q).bare := by
  rcases cases_of_bare hd with ⟨b, rfl, rfl⟩ | ⟨h, p, h', p', rfl, rfl, hhistory, hphrase⟩
  · obtain ⟨hstage, hbook, -⟩ := Book.Step.mk.inj (Book.finish_alike hw b (.render q))
    have houtcome := Book.Stage.outcome_alike Book.Stage.rendered?_bare hw hstage
    simp only [render, Book.runRender, Served.bare, Desk.bare, houtcome, hbook]
  · simp only [render, Served.bare, Desk.bare, hhistory, hphrase]

end Desk

end Phrasebook
