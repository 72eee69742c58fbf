import Mathlib.Data.List.Induction
import Phrasebook.Proofs.Lifecycle.Holding
/-!
# An exit is delivered once, and to the right side

A task is held for some time, and whatever can be done with it is done, in any order and any number of times.
Only the first body is run. What comes of it is heard by whoever was promised it first; only a failure of
which that one does not hear any more, because the promise was given up before it, is told to whoever stops
the task (`Holder.exit_is_delivered_once`).

The result speaks of histories: of what has been done so far, and what came of it (`Holder.log`). How the task
stands follows from its history. Who has the receiver is told by `lent_after`, whether the handle is there by
`held_after`, and on which side of giving up a failure came by `failed_after`. Each is an induction over the
history from its end, and takes from `Holder.Does` what one more thing comes to.
-/

set_option autoImplicit false

namespace Phrasebook.Lifecycle

namespace Task

variable {t : Task} {f : Fate} {c : Chain}

/-- The failure that its body came to its end by. -/
def failure? (t : Task) : Option Chain :=
  t.fate?.bind fun
    | .failed c _ => some c
    | _ => none

/-- A body has failed exactly if that is its fate, whoever was to hear of it. -/
theorem failure?_eq_some : t.failure? = some c ↔ ∃ heard, t.fate? = some (.failed c heard) := by
  unfold failure?
  constructor
  · intro h
    obtain ⟨f, hf, hc⟩ := Option.bind_eq_some_iff.1 h
    cases f with
    | failed c' heard =>
      obtain rfl := Option.some.inj hc
      exact ⟨heard, hf⟩
    | ok => cases hc
    | broke m => cases hc
    | aborted => cases hc
  · rintro ⟨heard, hf⟩
    rw [hf]
    rfl

/-- A failure is heard as an exit exactly if the body has failed with it. -/
theorem exit?_eq_failed_iff : t.exit? = some (.failed c) ↔ t.failure? = some c := by
  rw [failure?_eq_some]
  unfold exit?
  cases t.fate? with
  | none => exact ⟨nofun, fun h => nomatch h.choose_spec⟩
  | some f =>
    cases f with
    | failed c' heard =>
      refine ⟨fun h => ?_, fun ⟨heard', h⟩ => ?_⟩
      · obtain rfl := Exit.failed.inj (Option.some.inj h)
        exact ⟨heard, rfl⟩
      · obtain ⟨rfl, rfl⟩ := Fate.failed.inj (Option.some.inj h)
        rfl
    | ok => exact ⟨nofun, fun h => nomatch h.choose_spec⟩
    | broke m => exact ⟨nofun, fun h => nomatch h.choose_spec⟩
    | aborted => exact ⟨nofun, fun h => nomatch h.choose_spec⟩

/-- A mere exit is heard of a body that ended well, broke down or was cut off. -/
theorem exit?_eq_terminated_iff : t.exit? = some .terminated ↔
    t.fate? = some .ok ∨ (∃ m, t.fate? = some (.broke m)) ∨ t.fate? = some .aborted := by
  unfold exit?
  constructor
  · intro h
    obtain ⟨f, hf, hx⟩ := Option.map_eq_some_iff.1 h
    rw [hf]
    cases f with
    | failed c heard => cases hx
    | ok => exact Or.inl rfl
    | broke m => exact Or.inr (Or.inl ⟨m, rfl⟩)
    | aborted => exact Or.inr (Or.inr rfl)
  · rintro (hf | ⟨m, hf⟩ | hf)
    · rw [hf]; rfl
    · rw [hf]; rfl
    · rw [hf]; rfl

/-- No exit is to be heard exactly if the body has not come to its end. -/
theorem exit?_eq_none_iff : t.exit? = none ↔ t.fate? = none := Option.map_eq_none_iff

/-- Whoever stops a task is told of a failure exactly if nobody else was to hear of it. -/
theorem verdict_eq_failed_iff : t.verdict f = .error (.failed c) ↔ f = .failed c false := by
  cases f with
  | failed c' heard =>
    cases heard with
    | true => exact ⟨nofun, nofun⟩
    | false =>
      refine ⟨fun h => ?_, fun h => ?_⟩
      · rw [StopFailure.failed.inj (Except.error.inj h)]
      · rw [(Fate.failed.inj h).1]
        rfl
  | ok => exact ⟨nofun, nofun⟩
  | broke m => exact ⟨nofun, nofun⟩
  | aborted => exact ⟨nofun, nofun⟩

/-- He is told of a breakdown exactly if there was one: there is no other side to hear of it. -/
theorem verdict_eq_broke_iff {m : String} : t.verdict f = .error (.broke t.name m) ↔ f = .broke m := by
  cases f with
  | failed c heard => cases heard <;> exact ⟨nofun, nofun⟩
  | ok => exact ⟨nofun, nofun⟩
  | broke m' =>
    refine ⟨fun h => ?_, fun h => ?_⟩
    · rw [(StopFailure.broke.inj (Except.error.inj h)).2]
    · rw [Fate.broke.inj h]
      rfl
  | aborted => exact ⟨nofun, nofun⟩

/-- He is told that all went well if it did, if somebody else was to hear of the failure, or if the body had been
cut off. -/
theorem verdict_eq_ok_iff : t.verdict f = .ok () ↔ f = .ok ∨ (∃ c, f = .failed c true) ∨ f = .aborted := by
  cases f with
  | failed c heard =>
    cases heard with
    | true => exact ⟨fun _ => Or.inr (Or.inl ⟨c, rfl⟩), fun _ => rfl⟩
    | false =>
      refine ⟨nofun, ?_⟩
      rintro (h | ⟨c, h⟩ | h)
      · cases h
      · cases h
      · cases h
  | ok => exact ⟨fun _ => Or.inl rfl, fun _ => rfl⟩
  | broke m =>
    refine ⟨nofun, ?_⟩
    rintro (h | ⟨c, h⟩ | h)
    · cases h
    · cases h
    · cases h
  | aborted => exact ⟨fun _ => Or.inr (Or.inr rfl), fun _ => rfl⟩

/-- That a body took too long is never said of its end. -/
theorem verdict_ne_overdue (name : String) (deadline : Span) :
    t.verdict f ≠ .error (.overdue name deadline) := by
  cases f with
  | failed c heard => cases heard <;> exact nofun
  | ok => exact nofun
  | broke m => exact nofun
  | aborted => exact nofun

end Task

namespace Holder

/-- The body that it is to run, if that is what is done. -/
def Act.plan? : Act → Option Plan
  | .spawn p => some p
  | _ => none

/-- The exit that is told. -/
def Answer.exit? : Answer → Option Exit
  | .heard x => x
  | _ => none

/-- The failure of the body that is told, on whichever side. -/
def Answer.failure? : Answer → Option Chain
  | .heard (some (.failed c)) | .stopped (.error (.failed c)) => some c
  | _ => none

/-- The body took too long and is cut off. -/
def Answer.IsOverdue : Answer → Prop
  | .stopped (.error (.overdue ..)) => True
  | _ => False

/-! ## What one more thing comes to -/

namespace Does

variable {t t' : Task} {a : Act} {r : Answer}

/-- A task has the body that it was given first. -/
theorem plan?_eq (h : Does t a r t') : t'.plan? = t.plan?.or a.plan? := by
  cases h with
  | began p m hbody =>
    unfold Task.plan?
    rw [hbody]
    rfl
  | hadBegun p hstarted =>
    obtain ⟨b, hb⟩ := Option.isSome_iff_exists.1 hstarted
    unfold Task.plan?
    rw [hb]
    rfl
  | cutOff _ m _ _ =>
    unfold Task.plan? Task.setStage
    rw [Option.map_map]
    exact (Option.or_none).symm
  | _ => exact (Option.or_none).symm

/-- The handle comes with the body, and is let go of when the task is stopped. -/
theorem held_iff (h : Does t a r t') :
    t'.held = true ↔ (t.held = true ∨ t.plan? = none ∧ a.plan?.isSome = true) ∧ ∀ d, a ≠ .stop d := by
  have hsame {b : Act} (hb : b.plan? = none) (hstop : ∀ d, b ≠ .stop d) :
      t.held = true ↔ (t.held = true ∨ t.plan? = none ∧ b.plan?.isSome = true) ∧ ∀ d, b ≠ .stop d := by
    have hspawn : ¬ (t.plan? = none ∧ b.plan?.isSome = true) := by
      rw [hb]
      exact fun h => Bool.false_ne_true h.2
    rw [or_iff_left hspawn, and_iff_left hstop]
  have hstop {d : Nat} {held : Bool} (hheld : held = false) : held = true ↔
      (t.held = true ∨ t.plan? = none ∧ (Act.stop d).plan?.isSome = true) ∧ ∀ d', Act.stop d ≠ .stop d' := by
    rw [hheld]
    exact ⟨fun h => absurd h Bool.false_ne_true, fun h => absurd rfl (h.2 d)⟩
  have hplan (p : Plan) : ∀ d, Act.spawn p ≠ .stop d := by
    intro d
    exact Act.noConfusion
  -- a spawn of a fresh task takes hold of it, a stop lets go, and no other act touches the handle
  cases h with
  | began p m hbody =>
    refine ⟨fun _ => ⟨Or.inr ⟨?_, rfl⟩, hplan p⟩, fun _ => rfl⟩
    unfold Task.plan?
    rw [hbody]
    rfl
  | hadBegun p hstarted =>
    refine ⟨fun h => ⟨Or.inl h, hplan p⟩, fun h => h.1.resolve_right ?_⟩
    rintro ⟨hnone, -⟩
    rw [Task.isStarted, Option.map_eq_none_iff.1 hnone] at hstarted
    cases hstarted
  | joined d _ _ => exact hstop rfl
  | cutOff d m _ _ => exact hstop rfl
  | idle d hheld => exact hstop hheld
  | _ =>
    refine hsame rfl ?_
    rintro d ⟨⟩

/-- The task has its receiver until the exit is asked for. -/
theorem kept_iff (h : Does t a r t') : t'.receiver = .kept ↔ t.receiver = .kept ∧ a ≠ .notify := by
  have hgone {b : Act} (hlent : t.receiver = .lent) :
      Receiver.gone = .kept ↔ t.receiver = .kept ∧ b ≠ .notify := by
    rw [hlent]
    exact ⟨nofun, fun h => nomatch h.1⟩
  cases h with
  | lent _ => exact ⟨nofun, fun h => absurd rfl h.2⟩
  | hadLent hnot => exact ⟨fun h => absurd h hnot, fun h => absurd rfl h.2⟩
  | gaveUp hlent => exact hgone hlent
  | heard _ hlent _ => exact hgone hlent
  | _ => exact ⟨fun h => ⟨h, nofun⟩, And.left⟩

/-- The receiver is lent from the first time that the exit is asked for, until the promise is given up or the
exit comes of it. -/
theorem lent_iff (h : Does t a r t') : t'.receiver = .lent ↔
    (t.receiver = .lent ∨ t.receiver = .kept ∧ a = .notify) ∧ a ≠ .drop 0 ∧ r.exit? = none := by
  cases h with
  | lent hkept => exact ⟨fun _ => ⟨Or.inr ⟨hkept, rfl⟩, nofun, rfl⟩, fun _ => rfl⟩
  | hadLent hnot =>
    exact ⟨fun h => ⟨Or.inl h, nofun, rfl⟩, fun h => h.1.resolve_right fun hkept => hnot hkept.1⟩
  | gaveUp _ => exact ⟨nofun, fun h => absurd rfl h.2.1⟩
  | dropped i hnot =>
    refine ⟨fun h => ⟨Or.inl h, ?_, rfl⟩, fun h => h.1.resolve_right fun hkept => nomatch hkept.2⟩
    rintro ⟨⟩
    exact hnot ⟨rfl, h⟩
  | heard _ _ hx => exact ⟨nofun, fun h => nomatch h.2.2⟩
  | missed i span _ hr =>
    have hnone : r.exit? = none := by
      rcases hr with rfl | rfl
      · rfl
      · rfl
    exact ⟨fun h => ⟨Or.inl h, nofun, hnone⟩, fun h => h.1.resolve_right fun hkept => nomatch hkept.2⟩
  | _ => exact ⟨fun h => ⟨Or.inl h, nofun, rfl⟩, fun h => h.1.resolve_right fun hkept => nomatch hkept.2⟩

/-- What is done brings no end and takes none away; for that, time has to pass. -/
theorem fate?_eq (h : Does t a r t') : t'.fate? = t.fate? := by
  cases h with
  | began p m hbody =>
    unfold Task.fate?
    rw [hbody]
    rfl
  | cutOff _ m _ hf =>
    rw [hf]
    unfold Task.fate? Task.setStage
    cases t.body <;> rfl
  | _ => rfl

/-- What is done brings no body to an end that it was not to come to. -/
theorem planned (h : Does t a r t') (hp : t.Planned) : t'.Planned := by
  cases h with
  | began p m hbody =>
    rintro b f ⟨⟩ hover
    cases hover
  | cutOff _ m _ _ => exact t.planned_setStage fun f => nofun
  | _ => exact hp

/-- The body is cut off when it takes too long, and only then. -/
theorem uncut_iff (h : Does t a r t') (hstarted : t.held = true → t.isStarted = true) :
    t'.Uncut ↔ t.Uncut ∧ ¬ r.IsOverdue := by
  have hsame {r : Answer} (hr : ¬ r.IsOverdue) : t.Uncut ↔ t.Uncut ∧ ¬ r.IsOverdue :=
    ⟨fun h => ⟨h, hr⟩, And.left⟩
  -- only the stop that cuts the body off turns an uncut task into a cut one, and it answers so
  cases h with
  | began p m hbody =>
    refine ⟨fun _ => ⟨fun b hb => ?_, id⟩, fun _ => ?_⟩
    · rw [hbody] at hb
      cases hb
    · rintro b ⟨⟩
      exact id
  | missed i span _ hr =>
    refine hsame ?_
    rcases hr with rfl | rfl
    · exact id
    · exact id
  | joined d _ hf =>
    refine hsame ?_
    rename_i f
    cases f with
    | failed c heard => cases heard <;> exact id
    | ok => exact id
    | broke m => exact id
    | aborted => exact id
  | cutOff d m hheld _ =>
    refine ⟨fun h => ?_, fun h => absurd trivial h.2⟩
    obtain ⟨b, hb⟩ := Option.isSome_iff_exists.1 (hstarted hheld)
    refine absurd trivial (h { b with stage := .dropped m } ?_)
    show t.body.map _ = _
    rw [hb]
    rfl
  | _ => exact hsame id

/-- An exit that is told came of the first promise, and the body has come to it. -/
theorem of_exit (h : Does t a r t') {x : Exit} (hx : r.exit? = some x) :
    (∃ span, a = .await 0 span) ∧ r = .heard (some x) ∧ t.receiver = .lent ∧ t.exit? = some x := by
  cases h with
  | heard span hlent hexit =>
    obtain rfl := Option.some.inj hx
    exact ⟨⟨span, rfl⟩, rfl, hlent, hexit⟩
  | missed i span _ hr =>
    rcases hr with rfl | rfl
    · cases hx
    · cases hx
  | _ => cases hx

/-- A failure that is told to whoever stops the task is one of which nobody else has heard. -/
theorem of_stopped_failed (h : Does t a r t') {c : Chain} (hr : r = .stopped (.error (.failed c))) :
    (∃ d, a = .stop d) ∧ t.held = true ∧ t.fate? = some (.failed c false) := by
  cases h with
  | joined d hheld hf =>
    obtain rfl := Task.verdict_eq_failed_iff.1 (Answer.stopped.inj hr)
    exact ⟨⟨d, rfl⟩, hheld, hf⟩
  | missed i span _ hmissed =>
    subst hr
    rcases hmissed with hr | hr
    · cases hr
    · cases hr
  | _ => cases hr

end Does

/-! ## Histories -/

/-- How a task is held when some things have been done with it. -/
def after (name : String) (acts : List Act) : Holder := ((ofName name).run acts).2

/-- What was done, and what came of it. -/
def log (name : String) (acts : List Act) : List (Act × Answer) := ((ofName name).run acts).1

/-- What comes of one more thing. -/
def answer (name : String) (acts : List Act) (a : Act) : Answer := ((after name acts).step a).1

/-- What has been told of some matter, in the order of telling. -/
def told {α : Type} (matter? : Answer → Option α) (name : String) (acts : List Act) : List α :=
  (log name acts).filterMap fun e => matter? e.2

/-- The body that is to run: the first. -/
def firstPlan? (acts : List Act) : Option Plan := acts.findSome? Act.plan?

/-- The first promise has been given up. -/
def GivenUp (acts : List Act) : Prop := ∃ before, before ++ [.drop 0] <+: acts ∧ .notify ∈ before

/-- The task has been stopped with a body in it. -/
def Stopped (acts : List Act) : Prop :=
  ∃ before d, before ++ [.stop d] <+: acts ∧ (firstPlan? before).isSome = true

/-- The exit has been asked for, and has been neither heard nor given up. -/
def Open (name : String) (acts : List Act) : Prop :=
  .notify ∈ acts ∧ ¬ GivenUp acts ∧ told Answer.exit? name acts = []

/-- The first promise was given up when the body had not come to its end. -/
def GivenUpInTime (name : String) (acts : List Act) : Prop :=
  ∃ before, before <+: acts ∧ GivenUp before ∧ (after name before).task.fate? = none

/-- The body took too long to stop, and was cut off. -/
def Overdue (name : String) (acts : List Act) : Prop := ∃ e ∈ log name acts, e.2.IsOverdue

/-- What the body has shown of itself. -/
def shown (h : Holder) : List (Nat × Event) := h.crew.trace.filter (·.2 != .alreadyStarted h.name)

/-- What is done in two parts is done one part after the other. -/
theorem run_append (h : Holder) (acts acts' : List Act) :
    h.run (acts ++ acts') = ((h.run acts).1 ++ ((h.run acts).2.run acts').1, ((h.run acts).2.run acts').2) := by
  induction acts generalizing h with
  | nil => rfl
  | cons a acts ih =>
    have hcons (rest : List Act) : h.run (a :: rest) =
        ((a, (h.step a).1) :: ((h.step a).2.run rest).1, ((h.step a).2.run rest).2) := rfl
    rw [List.cons_append, hcons, hcons, ih]
    rfl

/-- A history that ends so is part of a longer one if it is part of what came before, or is all of it and this is
the last thing. -/
theorem append_singleton_prefix_concat {α : Type} {before acts : List α} {b a : α} :
    before ++ [b] <+: acts ++ [a] ↔ before ++ [b] <+: acts ∨ before = acts ∧ a = b := by
  rw [List.prefix_concat_iff, or_comm]
  refine or_congr_right ⟨fun h => ?_, ?_⟩
  · obtain ⟨rfl, hlast⟩ := List.append_inj' h rfl
    exact ⟨rfl, (List.singleton_inj.1 hlast).symm⟩
  · rintro ⟨rfl, rfl⟩
    rfl

section History

variable (name : String) (acts : List Act) (a : Act)

/-- The last thing is done to the task as it is held after the others. -/
theorem after_concat : after name (acts ++ [a]) = ((after name acts).step a).2 := by
  unfold after
  rw [run_append]
  rfl

/-- What came of the last thing is written down last. -/
theorem log_concat : log name (acts ++ [a]) = log name acts ++ [(a, answer name acts a)] := by
  unfold log
  rw [run_append]
  rfl

/-- What was told last comes last, if it was told of the matter at all. -/
theorem told_concat {α : Type} (matter? : Answer → Option α) :
    told matter? name (acts ++ [a]) = told matter? name acts ++ (matter? (answer name acts a)).toList := by
  unfold told
  rw [log_concat, List.filterMap_append]
  unfold List.filterMap
  dsimp only
  cases matter? (answer name acts a) <;> rfl

/-- A body that is to run last is the first only if there was none before. -/
theorem firstPlan?_concat : firstPlan? (acts ++ [a]) = (firstPlan? acts).or a.plan? := by
  unfold firstPlan?
  rw [List.findSome?_append, List.findSome?_singleton]

/-- The promise has been given up if it had been before, or is so now, after it was made. -/
theorem givenUp_concat : GivenUp (acts ++ [a]) ↔ GivenUp acts ∨ a = .drop 0 ∧ .notify ∈ acts := by
  unfold GivenUp
  simp only [append_singleton_prefix_concat, or_and_right, exists_or, and_assoc, exists_eq_left]

/-- The task has been stopped if it had been before, or is so now, with a body in it. -/
theorem stopped_concat :
    Stopped (acts ++ [a]) ↔ Stopped acts ∨ (∃ d, a = .stop d) ∧ (firstPlan? acts).isSome = true := by
  unfold Stopped
  simp only [append_singleton_prefix_concat, or_and_right, exists_or, and_assoc, exists_and_left,
    exists_and_right, exists_eq_left]

/-- A body took too long if it did before, or does so now. -/
theorem overdue_concat : Overdue name (acts ++ [a]) ↔ Overdue name acts ∨ (answer name acts a).IsOverdue := by
  unfold Overdue
  simp only [log_concat, List.mem_append, List.mem_singleton, or_and_right, exists_or, exists_eq_left]

/-- The promise was given up in time if it had been before, or has been given up and the body has still not come
to its end. -/
theorem givenUpInTime_concat : GivenUpInTime name (acts ++ [a]) ↔
    GivenUpInTime name acts ∨ GivenUp (acts ++ [a]) ∧ (after name (acts ++ [a])).task.fate? = none := by
  unfold GivenUpInTime
  simp only [List.prefix_concat_iff, or_and_right, exists_or, exists_eq_left, or_comm]

end History

variable {name : String} {acts acts' : List Act}

/-- What has been given up stays so. -/
theorem GivenUp.mono (h : GivenUp acts) (hpre : acts <+: acts') : GivenUp acts' := by
  obtain ⟨before, hbefore, hmem⟩ := h
  exact ⟨before, hbefore.trans hpre, hmem⟩

/-- What has been stopped stays so. -/
theorem Stopped.mono (h : Stopped acts) (hpre : acts <+: acts') : Stopped acts' := by
  obtain ⟨before, d, hbefore, hsome⟩ := h
  exact ⟨before, d, hbefore.trans hpre, hsome⟩

/-- A promise that was given up had been made. -/
theorem GivenUp.notified (h : GivenUp acts) : .notify ∈ acts := by
  obtain ⟨before, hbefore, hmem⟩ := h
  exact hbefore.subset (List.mem_append_left _ hmem)

/-- As long as the exit is open nobody has given up the promise. -/
theorem Open.not_givenUpInTime (h : Open name acts) : ¬ GivenUpInTime name acts := by
  rintro ⟨before, hpre, hgiven, -⟩
  exact h.2.1 (hgiven.mono hpre)

/-- A task that was stopped has had a body. -/
theorem Stopped.started (h : Stopped acts) : (firstPlan? acts).isSome = true := by
  obtain ⟨before, d, ⟨rest, rfl⟩, hsome⟩ := h
  obtain ⟨p, hp⟩ := Option.isSome_iff_exists.1 hsome
  unfold firstPlan? at hp ⊢
  rw [List.append_assoc, List.findSome?_append, hp]
  rfl

/-! ## What a task is after a history -/

/-- Whatever has been done, the task in hand is sound, and has its name. -/
theorem sound_after (name : String) (acts : List Act) : (after name acts).Sound ∧ (after name acts).name = name := by
  induction acts using List.reverseRecOn with
  | nil => exact ⟨sound_ofName name, rfl⟩
  | append_singleton acts a ih =>
    rw [after_concat]
    obtain ⟨hname, hsound, -⟩ := step_does ih.1 a
    exact ⟨hsound, hname.trans ih.2⟩

/-- One more thing is done after a history: time passes, and then it is done. -/
theorem does_after (name : String) (acts : List Act) (a : Act) : ∃ t, (after name acts).task.Passes t ∧
    Does t a (answer name acts a) (after name (acts ++ [a])).task := by
  rw [after_concat]
  exact (step_does (sound_after name acts).1 a).does

/-- At first the task is a fresh one. -/
theorem task_after_nil (name : String) : (after name []).task = { name } := task_ofName name

/-- **The body that runs** is the first that was to run. -/
theorem plan?_after (name : String) (acts : List Act) : (after name acts).task.plan? = firstPlan? acts := by
  induction acts using List.reverseRecOn with
  | nil => rw [task_after_nil]; rfl
  | append_singleton acts a ih =>
    obtain ⟨t, hpass, hdoes⟩ := does_after name acts a
    rw [hdoes.plan?_eq, Task.plan?_of_sameBody hpass.same hpass.goesOn.started, ih, firstPlan?_concat]

/-- A body has been spawned exactly if one was to run. -/
theorem isStarted_after (name : String) (acts : List Act) :
    (after name acts).task.isStarted = (firstPlan? acts).isSome := by
  rw [← plan?_after name acts, Task.plan?, Option.isSome_map]
  rfl

/-- **The handle is there** from the time that a body is run until the task is stopped. -/
theorem held_after (name : String) (acts : List Act) :
    (after name acts).task.held = true ↔ (firstPlan? acts).isSome = true ∧ ¬ Stopped acts := by
  induction acts using List.reverseRecOn with
  | nil =>
    rw [task_after_nil]
    exact ⟨nofun, fun h => nomatch h.1⟩
  | append_singleton acts a ih =>
    obtain ⟨t, hpass, hdoes⟩ := does_after name acts a
    rw [hdoes.held_iff, hpass.goesOn.held, ih, Task.plan?_of_sameBody hpass.same hpass.goesOn.started,
      plan?_after, firstPlan?_concat, stopped_concat]
    by_cases hstop : ∃ d, a = .stop d
    · -- nothing is there when it has been stopped
      obtain ⟨d, rfl⟩ := hstop
      refine ⟨fun h => absurd rfl (h.2 d), ?_⟩
      rintro ⟨hsome, hnot⟩
      rw [show (Act.stop d).plan? = none from rfl, Option.or_none] at hsome
      exact absurd (Or.inr ⟨⟨d, rfl⟩, hsome⟩) hnot
    · have hne : ∀ d, a ≠ .stop d := fun d hd => hstop ⟨d, hd⟩
      cases hfirst : firstPlan? acts with
      | none =>
        -- nothing was there to stop
        have hnot : ¬ Stopped acts := by
          intro hstopped
          have hstarted := hstopped.started
          rw [hfirst] at hstarted
          cases hstarted
        refine ⟨fun h => ⟨(h.1.resolve_left fun h => nomatch h.1).2, ?_⟩,
          fun h => ⟨Or.inr ⟨rfl, h.1⟩, hne⟩⟩
        rintro (h | h)
        · exact hnot h
        · cases h.2
      | some p =>
        refine ⟨fun h => ⟨rfl, ?_⟩, fun h => ⟨Or.inl ⟨rfl, fun hs => h.2 (Or.inl hs)⟩, hne⟩⟩
        rintro (hs | hs)
        · exact (h.1.resolve_right fun h => nomatch h.1).2 hs
        · exact hstop hs.1

/-- The task keeps its receiver until the exit is asked for. -/
theorem kept_after (name : String) (acts : List Act) :
    (after name acts).task.receiver = .kept ↔ .notify ∉ acts := by
  induction acts using List.reverseRecOn with
  | nil =>
    rw [task_after_nil]
    exact ⟨fun _ => List.not_mem_nil, fun _ => rfl⟩
  | append_singleton acts a ih =>
    obtain ⟨t, hpass, hdoes⟩ := does_after name acts a
    rw [hdoes.kept_iff, hpass.goesOn.receiver, ih, List.mem_append, List.mem_singleton, not_or]
    exact and_congr_right fun _ => ne_comm

/-- An exit comes only if it was asked for. -/
theorem notified_of_exits (h : told Answer.exit? name acts ≠ []) : .notify ∈ acts := by
  induction acts using List.reverseRecOn with
  | nil => exact absurd rfl h
  | append_singleton acts a ih =>
    refine List.mem_append_left _ ?_
    by_cases hold : told Answer.exit? name acts = []
    · -- it comes now, so the receiver is lent
      obtain ⟨t, hpass, hdoes⟩ := does_after name acts a
      have hexit : (answer name acts a).exit? ≠ none := by
        intro hnone
        rw [told_concat, hold, hnone] at h
        exact h rfl
      obtain ⟨x, hx⟩ := Option.ne_none_iff_exists'.1 hexit
      have hlent := (hdoes.of_exit hx).2.2.1
      refine Classical.byContradiction fun hnot => ?_
      have hkept := (kept_after name acts).2 hnot
      rw [← hpass.goesOn.receiver, hlent] at hkept
      cases hkept
    · exact ih hold

/-- **The receiver is lent** as long as the exit has been asked for, and has been neither heard nor given
up. -/
theorem lent_after (name : String) (acts : List Act) :
    (after name acts).task.receiver = .lent ↔ Open name acts := by
  -- by induction on the acts, the last one giving, taking back or spending the receiver
  induction acts using List.reverseRecOn with
  | nil =>
    rw [task_after_nil]
    exact ⟨nofun, fun h => nomatch h.1⟩
  | append_singleton acts a ih =>
    obtain ⟨t, hpass, hdoes⟩ := does_after name acts a
    rw [hdoes.lent_iff, hpass.goesOn.receiver, ih, kept_after, Open, Open, givenUp_concat, told_concat,
      List.append_eq_nil_iff, Option.toList_eq_nil_iff, List.mem_append, List.mem_singleton]
    constructor
    · rintro ⟨⟨hmem, hgiven, hnone⟩ | ⟨hnew, rfl⟩, hdrop, hexit⟩
      · -- it was lent before, and is not taken back now
        refine ⟨Or.inl hmem, ?_, hnone, hexit⟩
        rintro (h | h)
        · exact hgiven h
        · exact hdrop h.1
      · -- it is lent now: what was not asked for was neither given up nor heard
        refine ⟨Or.inr rfl, ?_, ?_, hexit⟩
        · rintro (h | h)
          · exact hnew h.notified
          · cases h.1
        · exact Classical.byContradiction fun h => hnew (notified_of_exits h)
    · rintro ⟨hmem, hgiven, hnone, hexit⟩
      by_cases hold : .notify ∈ acts
      · refine ⟨Or.inl ⟨hold, fun h => hgiven (Or.inl h), hnone⟩, ?_, hexit⟩
        rintro rfl
        exact hgiven (Or.inr ⟨rfl, hold⟩)
      · obtain rfl : .notify = a := hmem.resolve_left hold
        exact ⟨Or.inr ⟨hold, rfl⟩, nofun, hexit⟩

/-- What has come to its end stays so. -/
theorem fate?_after_concat {f : Fate} (h : (after name acts).task.fate? = some f) (a : Act) :
    (after name (acts ++ [a])).task.fate? = some f := by
  obtain ⟨t, hpass, hdoes⟩ := does_after name acts a
  exact hdoes.fate?_eq.trans (hpass.goesOn.ended f h)

/-- An exit that has been heard is the one that the body came to. -/
theorem exit?_of_mem_exits {x : Exit} (h : x ∈ told Answer.exit? name acts) :
    (after name acts).task.exit? = some x := by
  induction acts using List.reverseRecOn with
  | nil => cases h
  | append_singleton acts a ih =>
    obtain ⟨t, hpass, hdoes⟩ := does_after name acts a
    have hsame : (after name (acts ++ [a])).task.exit? = t.exit? := congrArg (Option.map _) hdoes.fate?_eq
    rw [hsame]
    rw [told_concat] at h
    rcases List.mem_append.1 h with hold | hnew
    · obtain ⟨f, hf, hx⟩ := Option.map_eq_some_iff.1 (ih hold)
      unfold Task.exit?
      rw [hpass.goesOn.ended f hf, Option.map_some, hx]
    · exact (hdoes.of_exit (Option.mem_toList.1 hnew)).2.2.2

/-- As long as the body has not come to its end, a failure would go unheard if the first promise has been given
up, and only then. -/
theorem heard_after (hopen : (after name acts).task.fate? = none) :
    (after name acts).task.heard = true ↔ ¬ GivenUp acts := by
  have hnone : told Answer.exit? name acts = [] := by
    refine List.eq_nil_iff_forall_not_mem.2 fun x hx => ?_
    have hexit := exit?_of_mem_exits hx
    rw [Task.exit?, hopen] at hexit
    cases hexit
  have hkept := kept_after name acts
  have hlent := lent_after name acts
  unfold Task.heard
  cases hr : (after name acts).task.receiver with
  | kept => exact ⟨fun _ hgiven => hkept.1 hr hgiven.notified, fun _ => rfl⟩
  | lent => exact ⟨fun _ => (hlent.1 hr).2.1, fun _ => rfl⟩
  | gone =>
    -- it has been asked for, and is not to be had any more
    have hmem : .notify ∈ acts := by
      refine Classical.byContradiction fun hnot => ?_
      rw [hkept.2 hnot] at hr
      cases hr
    refine ⟨fun h => absurd h Bool.false_ne_true, fun hgiven => ?_⟩
    rw [hlent.2 ⟨hmem, hgiven, hnone⟩] at hr
    cases hr

/-- **A failure went unheard** if the first promise had been given up before it came, and only then. -/
theorem failed_after {c : Chain} {heard : Bool} (hf : (after name acts).task.fate? = some (.failed c heard)) :
    heard = true ↔ ¬ GivenUpInTime name acts := by
  induction acts using List.reverseRecOn with
  | nil =>
    rw [task_after_nil] at hf
    cases hf
  | append_singleton acts a ih =>
    obtain ⟨t, hpass, hdoes⟩ := does_after name acts a
    have hover : ¬ (GivenUp (acts ++ [a]) ∧ (after name (acts ++ [a])).task.fate? = none) := by
      rw [hf]
      exact fun h => nomatch h.2
    rw [givenUpInTime_concat, or_iff_left hover]
    cases hfate : (after name acts).task.fate? with
    | some f =>
      -- it had come before
      obtain rfl := Option.some.inj ((fate?_after_concat hfate a).symm.trans hf)
      exact ih hfate
    | none =>
      -- it comes now, and up to now the promise could be given up in time
      have hnow : t.fate? = some (.failed c heard) := hdoes.fate?_eq.symm.trans hf
      rw [hpass.goesOn.heard hfate c heard hnow, heard_after hfate]
      refine not_congr ⟨fun hgiven => ⟨acts, List.prefix_rfl, hgiven, hfate⟩, ?_⟩
      rintro ⟨before, hpre, hgiven, -⟩
      exact hgiven.mono hpre

/-- What is done last makes no difference to the side of a failure, whether it came then or before. -/
theorem failed_after_concat {a : Act} {c : Chain} {heard : Bool}
    (hf : (after name (acts ++ [a])).task.fate? = some (.failed c heard)) :
    heard = true ↔ ¬ GivenUpInTime name acts := by
  have hover := failed_after hf
  rw [givenUpInTime_concat, hf] at hover
  rwa [or_iff_left fun h => nomatch h.2] at hover

/-- Whatever has been done, a body that has come to its end has come to one that its plan has, or was cut off. -/
theorem planned_after (name : String) (acts : List Act) : (after name acts).task.Planned := by
  induction acts using List.reverseRecOn with
  | nil =>
    rw [task_after_nil]
    rintro b f ⟨⟩
  | append_singleton acts a ih =>
    obtain ⟨t, hpass, hdoes⟩ := does_after name acts a
    exact hdoes.planned (hpass.planned ih)

/-- **The body is cut off** when it took too long to stop, and only then. -/
theorem uncut_after (name : String) (acts : List Act) : (after name acts).task.Uncut ↔ ¬ Overdue name acts := by
  induction acts using List.reverseRecOn with
  | nil =>
    rw [task_after_nil]
    refine ⟨?_, ?_⟩
    · rintro - ⟨e, he, -⟩
      cases he
    · rintro - b ⟨⟩
  | append_singleton acts a ih =>
    obtain ⟨t, hpass, hdoes⟩ := does_after name acts a
    have hstarted : t.held = true → t.isStarted = true := by
      rw [hpass.goesOn.held, hpass.goesOn.started, isStarted_after]
      exact fun h => ((held_after name acts).1 h).1
    rw [hdoes.uncut_iff hstarted, hpass.uncut_iff, ih, overdue_concat, not_or]

/-- A failure that has been told is the one that the body came to. It was told on the side on which it was to
be heard. -/
theorem side_of_mem_log {e : Act × Answer} (he : e ∈ log name acts) {c : Chain} :
    (e.2 = .heard (some (.failed c)) → (after name acts).task.fate? = some (.failed c true)) ∧
      (e.2 = .stopped (.error (.failed c)) →
        (after name acts).task.fate? = some (.failed c false) ∧ Stopped acts) := by
  -- what was told stays true, since a fate is final; so only the last answer has to be looked at
  induction acts using List.reverseRecOn with
  | nil => cases he
  | append_singleton acts a ih =>
    rw [log_concat] at he
    rcases List.mem_append.1 he with hold | hnew
    · obtain ⟨hheard, hstopped⟩ := ih hold
      refine ⟨fun h => fate?_after_concat (hheard h) a, fun h => ?_⟩
      exact ⟨fate?_after_concat (hstopped h).1 a, (hstopped h).2.mono (List.prefix_append _ _)⟩
    · obtain rfl := List.mem_singleton.1 hnew
      obtain ⟨t, hpass, hdoes⟩ := does_after name acts a
      refine ⟨fun h => ?_, fun h => ?_⟩
      · -- the receiver was lent, so the promise had not been given up
        obtain ⟨⟨span, rfl⟩, -, hlent, hexit⟩ := hdoes.of_exit (x := .failed c) (congrArg Answer.exit? h)
        obtain ⟨heard, hf⟩ := Task.failure?_eq_some.1 (Task.exit?_eq_failed_iff.1 hexit)
        rw [hpass.goesOn.receiver, lent_after] at hlent
        have hover := hdoes.fate?_eq.trans hf
        rw [hover, (failed_after_concat hover).2 hlent.not_givenUpInTime]
      · obtain ⟨⟨d, rfl⟩, hheld, hf⟩ := hdoes.of_stopped_failed h
        rw [hpass.goesOn.held, held_after] at hheld
        exact ⟨hdoes.fate?_eq.trans hf, (stopped_concat _ _).2 (Or.inr ⟨⟨d, rfl⟩, hheld.1⟩)⟩

/-- A failure is told on one of two sides: to whoever hears of the exit, or to whoever stops the task. -/
theorem Answer.failure?_eq_some {r : Answer} {c : Chain} :
    r.failure? = some c ↔ r = .heard (some (.failed c)) ∨ r = .stopped (.error (.failed c)) := by
  constructor
  · intro h
    unfold failure? at h
    split at h
    · rw [Option.some.inj h]
      exact Or.inl rfl
    · rw [Option.some.inj h]
      exact Or.inr rfl
    · cases h
  · rintro (rfl | rfl)
    · rfl
    · rfl

/-- **An exit is heard once at most.** -/
theorem length_exits_le (name : String) (acts : List Act) : (told Answer.exit? name acts).length ≤ 1 := by
  induction acts using List.reverseRecOn with
  | nil => exact Nat.zero_le 1
  | append_singleton acts a ih =>
    rw [told_concat, List.length_append]
    cases hx : (answer name acts a).exit? with
    | none => exact ih
    | some x =>
      obtain ⟨t, hpass, hdoes⟩ := does_after name acts a
      have hlent := (hdoes.of_exit hx).2.2.1
      rw [hpass.goesOn.receiver, lent_after] at hlent
      rw [hlent.2.2]
      exact Nat.le_refl 1

/-- **A failure is told once at most**, and so not on both sides. -/
theorem length_failures_le (name : String) (acts : List Act) : (told Answer.failure? name acts).length ≤ 1 := by
  -- by induction on the acts: a second report would contradict the first, whichever side had it
  induction acts using List.reverseRecOn with
  | nil => exact Nat.zero_le 1
  | append_singleton acts a ih =>
    rw [told_concat, List.length_append]
    cases hc : (answer name acts a).failure? with
    | none => exact ih
    | some c =>
      obtain ⟨t, hpass, hdoes⟩ := does_after name acts a
      have hnew : (a, answer name acts a) ∈ log name (acts ++ [a]) := by
        rw [log_concat]
        exact List.mem_append_right _ (List.mem_singleton_self _)
      have hnone : told Answer.failure? name acts = [] := by
        refine List.eq_nil_iff_forall_not_mem.2 fun c' hc' => ?_
        obtain ⟨e, he, hc'⟩ := List.mem_filterMap.1 hc'
        have hold : e ∈ log name (acts ++ [a]) := by
          rw [log_concat]
          exact List.mem_append_left _ he
        rcases Answer.failure?_eq_some.1 hc with hr | hr <;> rcases Answer.failure?_eq_some.1 hc' with hr' | hr'
        · -- twice to the one who listens: the promise is spent the first time
          have hlent := (hdoes.of_exit (x := .failed c) (by rw [hr]; rfl)).2.2.1
          rw [hpass.goesOn.receiver, lent_after] at hlent
          have hmem : Exit.failed c' ∈ told Answer.exit? name acts :=
            List.mem_filterMap.2 ⟨e, he, by rw [hr']; rfl⟩
          rw [hlent.2.2] at hmem
          cases hmem
        · -- once on each side: a failure has one side only
          have hheard := (side_of_mem_log hnew).1 hr
          rw [((side_of_mem_log hold).2 hr').1] at hheard
          cases hheard
        · have hheard := (side_of_mem_log hold).1 hr'
          rw [((side_of_mem_log hnew).2 hr).1] at hheard
          cases hheard
        · -- twice to the one who stops: the handle is let go of the first time
          have hheld := (hdoes.of_stopped_failed hr).2.1
          rw [hpass.goesOn.held, held_after] at hheld
          exact hheld.2 ((side_of_mem_log he).2 hr').2
      rw [hnone]
      exact Nat.le_refl 1

/-! ## Nothing more is shown

A body whose handle has been let go of shows nothing any more. -/

end Holder

namespace Crew

variable {c : Crew}

/-- Where every body has come to its end, nothing more is seen as time passes. -/
theorem trace_advance_of_ended (h : ∀ t ∈ c.tasks, ∀ b, t.body = some b → b.stage.Ended) (limit : Nat) :
    (c.advance limit).trace = c.trace := by
  have hnone : (c.tasks.map (·.advance limit)).flatMap (·.2) = [] := by
    rw [List.flatMap_eq_nil_iff]
    intro x hx
    obtain ⟨t, ht, rfl⟩ := List.mem_map.1 hx
    exact Task.quiet_of_ended (h t ht) limit
  unfold advance
  dsimp only
  rw [hnone, List.mergeSort_nil, List.map_nil, List.append_nil]

/-- Nor is anything seen as somebody waits. -/
theorem trace_await_of_ended (h : ∀ t ∈ c.tasks, ∀ b, t.body = some b → b.stage.Ended) (names : List String)
    (signal : Option Nat) (limit first : Nat) : (c.await names signal (some limit) first).2.trace = c.trace := by
  rcases c.await_cases names signal (some limit) first with
    ⟨w, -, -, heq⟩ | ⟨-, ⟨w, -, time, -, heq⟩ | ⟨-, heq⟩⟩
  · rw [heq]
  · rw [heq]
    cases w with
    | signal => exact trace_advance_of_ended h time
    | task name => exact trace_advance_of_ended h (time + 1)
  · rw [heq]
    exact trace_advance_of_ended h limit

end Crew

namespace Holder

variable {h : Holder} {name : String} {acts : List Act}

/-- To be done with a promise shows nothing. -/
theorem shown_spend (h : Holder) (i : Nat) : (h.spend i).shown = h.shown := by
  unfold shown spend
  dsimp only
  split <;> rfl

/-- Where the body has come to its end, waiting for what was promised shows nothing. -/
theorem shown_await (hended : ∀ t ∈ h.crew.tasks, ∀ b, t.body = some b → b.stage.Ended) (i span : Nat) :
    (h.await i span).2.shown = h.shown := by
  have htrace (live : Bool) : (h.crew.listen h.name live (h.crew.now + span)).2.trace = h.crew.trace :=
    Crew.trace_await_of_ended hended _ none _ 0
  unfold await
  split
  · rfl
  · rfl
  · rename_i p _ _
    have hlisten : shown { h with crew := (h.crew.listen h.name (p == .live) (h.crew.now + span)).2 } = h.shown := by
      unfold shown
      dsimp only
      rw [htrace]
    dsimp only
    split
    · exact (shown_spend _ i).trans hlisten
    · exact hlisten

/-- With a task whose body has run and whose handle is gone nothing that can be done shows anything. -/
theorem shown_step (hs : h.Sound) (hstarted : h.task.isStarted = true) (hheld : h.task.held = false) (a : Act) :
    (h.step a).2.shown = h.shown := by
  -- the task in hand is the only one
  have hended : ∀ t ∈ h.crew.tasks, ∀ b, t.body = some b → b.stage.Ended := by
    intro t ht
    rw [hs.eq_task ht]
    exact hs.ended hheld
  cases a with
  | spawn p =>
    have hspawn : h.crew.spawn h.name p =
        (((h.crew.modify h.name fun _ => h.task).tick).emit (.alreadyStarted h.name), false) := by
      unfold Crew.spawn
      rw [hs.get?]
      dsimp only
      unfold Task.spawn
      rw [hstarted]
      rfl
    have hstep : (h.step (.spawn p)).2 = { h with crew := (h.crew.spawn h.name p).1 } := rfl
    rw [hstep, hspawn]
    unfold shown
    show (h.crew.trace ++ [(h.crew.now, Event.alreadyStarted h.name)]).filter _ = _
    rw [List.filter_append, List.filter_cons_of_neg]
    · exact List.append_nil _
    · show ¬ (Event.alreadyStarted h.name != .alreadyStarted h.name) = true
      rw [bne_self_eq_false]
      exact Bool.false_ne_true
  | notify =>
    have htrace : (h.crew.notify h.name).2.trace = h.crew.trace := by
      unfold Crew.notify
      split <;> rfl
    show ((h.crew.notify h.name).2.trace).filter _ = _
    rw [htrace]
    rfl
  | await i span => exact shown_await hended i span
  | drop i => exact shown_spend h i
  | stop d =>
    rw [step_stop_idle hs hheld d]
    rfl
  | sleep span =>
    have htrace := Crew.trace_advance_of_ended hended (h.crew.now + span)
    show ((h.crew.advance (h.crew.now + span)).trace).filter _ = _
    rw [htrace]
    rfl

/-- **When the task has been stopped** the body shows nothing any more. -/
theorem shown_of_stopped (hstopped : Stopped acts) (more : List Act) :
    (after name (acts ++ more)).shown = (after name acts).shown := by
  induction more using List.reverseRecOn with
  | nil => rw [List.append_nil]
  | append_singleton more a ih =>
    have hstopped' := hstopped.mono (List.prefix_append acts more)
    have hstarted : (after name (acts ++ more)).task.isStarted = true := by
      rw [isStarted_after]
      exact hstopped'.started
    have hheld : (after name (acts ++ more)).task.held = false :=
      Bool.eq_false_iff.2 fun hheld => ((held_after _ _).1 hheld).2 hstopped'
    rw [← List.append_assoc, after_concat]
    exact (shown_step (sound_after name _).1 hstarted hheld a).trans ih

/-! ## Waiting and stopping -/

/-- **What waiting for the first promise comes to.** -/
theorem await_after (hopen : Open name acts) (span : Nat) :
    answer name acts (.await 0 span) = .heard (after name (acts ++ [.await 0 span])).task.exit? := by
  obtain ⟨t, -, hr, hc⟩ := step_await_first (sound_after name acts).1 ((lent_after name acts).2 hopen) span
  rw [answer, hr, after_concat, hc.task]
  split <;> rfl

/-- **What stopping the task comes to** the first time that there is a body in it. -/
theorem stop_after (hstarted : (firstPlan? acts).isSome = true) (hnot : ¬ Stopped acts) (d : Nat) :
    let r := answer name acts (.stop d)
    let h := after name acts
    let h' := after name (acts ++ [.stop d])
    (∃ f, h'.task.fate? = some f ∧ f ≠ .aborted ∧ r = .stopped (h'.task.verdict f) ∧
        (h.task.fate? ≠ none ∧ h'.crew.now = h.crew.now ∨ h'.crew.now < h.crew.now + d)) ∨
      h'.task.fate? = none ∧ r = .stopped (.error (.overdue name (.ofMillis d))) ∧
        h'.crew.now = h.crew.now + d := by
  intro r h h'
  obtain ⟨hs, hname⟩ := sound_after name acts
  have hheld := (held_after name acts).2 ⟨hstarted, hnot⟩
  have hafter : h' = (h.step (.stop d)).2 := after_concat name acts (.stop d)
  rw [hafter]
  rcases step_stop hs hheld d with ⟨t, f, hpass, hf, hr, hc, hnow⟩ | ⟨t, m, hpass, hf, hr, hc, hnow⟩
  · rw [hc.task]
    refine Or.inl ⟨f, hf, ?_, ?_, ?_⟩
    · rintro rfl
      exact (hpass.uncut (hs.uncut hheld)).fate_ne_aborted hf
    · refine hr.trans (congrArg Answer.stopped ?_)
      cases f <;> rfl
    · exact hnow.imp_left fun hold => ⟨fun hnone => Option.some_ne_none f (hold.1.symm.trans hnone), hold.2⟩
  · rw [hc.task]
    refine Or.inr ⟨?_, ?_, hnow⟩
    · exact (t.fate?_abort m).trans hf
    · rw [hname] at hr
      exact hr

/-- What waiting for the first promise tells, as long as the exit can come of it: a failure if the body failed
while the promise stood, a mere exit if it came to any other end, and nothing if it has not come to its end. -/
structure AwaitTells (name : String) (acts : List Act) (r : Answer) (t : Task) : Prop where
  failed : ∀ c, r = .heard (some (.failed c)) ↔ t.failure? = some c ∧ ¬ GivenUpInTime name acts
  terminated : r = .heard (some .terminated) ↔
    t.fate? = some .ok ∨ (∃ m, t.fate? = some (.broke m)) ∨ t.fate? = some .aborted
  pending : r = .heard none ↔ t.fate? = none

/-- What stopping the task tells the first time that there is a body in it: a failure if the body failed and the
promise had been given up before that, a breakdown if it broke down, that it took too long if it did not come to
its end before the deadline, and nothing otherwise. -/
structure StopTells (name : String) (acts : List Act) (deadline : Nat) (r : Answer) (h h' : Holder) : Prop where
  failed : ∀ c, r = .stopped (.error (.failed c)) ↔ h'.task.failure? = some c ∧ GivenUpInTime name acts
  broke : ∀ m, r = .stopped (.error (.broke name m)) ↔ h'.task.fate? = some (.broke m)
  overdue : r = .stopped (.error (.overdue name (.ofMillis deadline))) ↔ h'.task.fate? = none
  ok : r = .stopped (.ok ()) ↔
    h'.task.fate? = some .ok ∨ (∃ c, h'.task.failure? = some c) ∧ ¬ GivenUpInTime name acts
  late : h'.task.fate? = none → h'.crew.now = h.crew.now + deadline
  inTime : h'.task.fate? ≠ none →
    h.task.fate? ≠ none ∧ h'.crew.now = h.crew.now ∨ h'.crew.now < h.crew.now + deadline

/-- Waiting for the first promise, as long as the exit can come of it, tells what it should. -/
theorem awaitTells_after (hopen : Open name acts) (span : Nat) : AwaitTells name acts
    (answer name acts (.await 0 span)) (after name (acts ++ [.await 0 span])).task := by
  rw [await_after hopen]
  refine ⟨fun c => ?_, ?_, ?_⟩
  · rw [Answer.heard.injEq, and_iff_left hopen.not_givenUpInTime]
    exact Task.exit?_eq_failed_iff
  · rw [Answer.heard.injEq]
    exact Task.exit?_eq_terminated_iff
  · rw [Answer.heard.injEq]
    exact Task.exit?_eq_none_iff

/-- Stopping the task, the first time that there is a body in it, tells what it should. -/
theorem stopTells_after (hstarted : (firstPlan? acts).isSome = true) (hnot : ¬ Stopped acts) (d : Nat) :
    StopTells name acts d (answer name acts (.stop d)) (after name acts) (after name (acts ++ [.stop d])) := by
  have hname : (after name (acts ++ [.stop d])).task.name = name := by
    obtain ⟨hs, hname⟩ := sound_after name (acts ++ [.stop d])
    exact hs.task_name.trans hname
  rcases @stop_after name acts hstarted hnot d with ⟨f, hf, hcut, hr, hnow⟩ | ⟨hf, hr, hnow⟩
  · -- the body has come to an end, and a failure was heard if the promise stood when it came
    have hside {c : Chain} {heard : Bool} (hfailed : f = .failed c heard) :
        heard = true ↔ ¬ GivenUpInTime name acts := failed_after_concat (hfailed ▸ hf)
    have hopen : (after name (acts ++ [.stop d])).task.fate? ≠ none := by
      rw [hf]
      exact Option.some_ne_none f
    refine ⟨fun c => ?_, fun m => ?_, ?_, ?_, fun h => absurd h hopen, fun _ => hnow⟩
    · rw [hr, Answer.stopped.injEq, Task.verdict_eq_failed_iff, Task.failure?_eq_some, hf]
      constructor
      · intro hfailed
        refine ⟨⟨false, congrArg some hfailed⟩, Classical.byContradiction fun hnever => ?_⟩
        cases (hside hfailed).2 hnever
      · rintro ⟨⟨heard, hfailed⟩, hgiven⟩
        have hfailed := Option.some.inj hfailed
        cases heard with
        | true => exact absurd hgiven ((hside hfailed).1 rfl)
        | false => exact hfailed
    · have hbroke := Task.verdict_eq_broke_iff (t := (after name (acts ++ [.stop d])).task) (f := f) (m := m)
      rw [hname] at hbroke
      rw [hr, Answer.stopped.injEq, hbroke, hf, Option.some_inj]
    · rw [hr, Answer.stopped.injEq]
      exact ⟨fun h => absurd h (Task.verdict_ne_overdue _ _), fun h => absurd h hopen⟩
    · rw [hr, Answer.stopped.injEq, Task.verdict_eq_ok_iff, hf, Option.some_inj]
      refine or_congr_right ⟨?_, ?_⟩
      · rintro (⟨c, hfailed⟩ | haborted)
        · exact ⟨⟨c, Task.failure?_eq_some.2 ⟨true, hfailed ▸ hf⟩⟩, (hside hfailed).1 rfl⟩
        · exact absurd haborted hcut
      · rintro ⟨⟨c, hfailure⟩, hnever⟩
        obtain ⟨heard, hfailed⟩ := Task.failure?_eq_some.1 hfailure
        have hfailed := Option.some.inj (hf.symm.trans hfailed)
        rw [(hside hfailed).2 hnever] at hfailed
        exact Or.inl ⟨c, hfailed⟩
  · -- the body took too long
    have hfailure (c : Chain) : (after name (acts ++ [.stop d])).task.failure? ≠ some c := by
      intro h
      obtain ⟨heard, hfailed⟩ := Task.failure?_eq_some.1 h
      exact Option.some_ne_none _ (hfailed.symm.trans hf)
    have hfate (f : Fate) : (after name (acts ++ [.stop d])).task.fate? ≠ some f :=
      fun h => Option.some_ne_none f (h.symm.trans hf)
    rw [hr]
    refine ⟨fun c => ⟨?_, fun h => absurd h.1 (hfailure c)⟩, fun m => ⟨?_, fun h => absurd h (hfate _)⟩,
      ⟨fun _ => hf, fun _ => rfl⟩, ⟨?_, ?_⟩, fun _ => hnow, fun h => absurd hf h⟩
    · rintro ⟨⟩
    · rintro ⟨⟩
    · rintro ⟨⟩
    · rintro (h | ⟨⟨c, h⟩, -⟩)
      · exact absurd h (hfate _)
      · exact absurd h (hfailure c)

/-! ## The whole -/

/-- What a task does for whoever holds it, at any point of any history.

* Only the first body is run, and it comes to an end that its plan has, or is cut off having taken too long.
* The exit comes only of the first promise, and only as long as it has been neither given up nor heard.
* The first time that the task is stopped with a body in it, whoever stops it is told how that went. After that
  the body shows nothing any more, and one that took too long comes to no end but that it is cut off.
* Stopping the task at any other time does nothing.
* No exit is heard twice, and no failure told of twice, be it on one side or on both. -/
structure DeliversOnce (name : String) (acts : List Act) : Prop where
  spawned : ∀ p, answer name acts (.spawn p) = .spawned (firstPlan? acts).isNone
  runs : (after name acts).task.plan? = firstPlan? acts
  ends : ∀ f, (after name acts).task.fate? = some f →
    f = .aborted ∧ Overdue name acts ∨
      ∃ p ending heard, firstPlan? acts = some p ∧ p.MayEnd ending ∧ f = .ofEnding heard ending
  first : ∀ i span x, answer name acts (.await i span) = .heard (some x) → i = 0 ∧ Open name acts
  awaited : Open name acts → ∀ span, AwaitTells name acts
    (answer name acts (.await 0 span)) (after name (acts ++ [.await 0 span])).task
  stopped : (firstPlan? acts).isSome = true → ¬ Stopped acts → ∀ d, StopTells name acts d
    (answer name acts (.stop d)) (after name acts) (after name (acts ++ [.stop d]))
  silent : Stopped acts → ∀ more, (after name (acts ++ more)).shown = (after name acts).shown
  cut : Overdue name acts → (after name acts).task.fate? = none ∨ (after name acts).task.fate? = some .aborted
  idle : firstPlan? acts = none ∨ Stopped acts → ∀ d,
    answer name acts (.stop d) = .stopped (.ok ()) ∧
      after name (acts ++ [.stop d]) = { after name acts with crew := (after name acts).crew.tick }
  exits : (told Answer.exit? name acts).length ≤ 1
  failures : (told Answer.failure? name acts).length ≤ 1

/-- **An exit is delivered once**, and to the right side, whatever is done with the task. -/
theorem exit_is_delivered_once (name : String) (acts : List Act) : DeliversOnce name acts where
  spawned p := by
    rw [answer, (step_spawn (sound_after name acts).1 p).1, isStarted_after]
    cases firstPlan? acts <;> rfl
  runs := plan?_after name acts
  ends f hf := by
    obtain ⟨b, hb, -⟩ := Option.bind_eq_some_iff.1 hf
    rcases planned_after name acts b f hb (Task.fate?_of_body hb hf) with rfl | ⟨ending, heard, hmay, rfl⟩
    · refine Or.inl ⟨rfl, Classical.byContradiction fun hnot => ?_⟩
      exact ((uncut_after name acts).2 hnot).fate_ne_aborted hf
    · refine Or.inr ⟨b.plan, ending, heard, ?_, hmay, rfl⟩
      rw [← plan?_after name, Task.plan?, hb]
      rfl
  first i span x hr := by
    obtain ⟨t, hpass, hdoes⟩ := does_after name acts (.await i span)
    obtain ⟨⟨span', hact⟩, -, hlent, -⟩ := hdoes.of_exit (x := x) (congrArg Answer.exit? hr)
    rw [hpass.goesOn.receiver, lent_after] at hlent
    exact ⟨(Act.await.inj hact).1, hlent⟩
  awaited hopen span := awaitTells_after hopen span
  stopped hstarted hnot d := stopTells_after hstarted hnot d
  silent := shown_of_stopped
  cut hover := by
    cases hf : (after name acts).task.fate? with
    | none => exact Or.inl rfl
    | some f =>
      have hcut : ¬ (after name acts).task.Uncut := fun h => (uncut_after name acts).1 h hover
      exact Or.inr (congrArg some ((Task.cannotFail_of_not_uncut hcut).fate_eq_aborted hf))
  idle hidle d := by
    have hheld : (after name acts).task.held = false := by
      refine Bool.eq_false_iff.2 fun hheld => ?_
      obtain ⟨hstarted, hnot⟩ := (held_after name acts).1 hheld
      rcases hidle with hnone | hstopped
      · rw [hnone] at hstarted
        cases hstarted
      · exact hnot hstopped
    rw [answer, after_concat, step_stop_idle (sound_after name acts).1 hheld d]
    exact ⟨rfl, rfl⟩
  exits := length_exits_le name acts
  failures := length_failures_le name acts

/-- A body fails after the promise has been given up, and whoever stops the task is told. -/
example : (log "worker" [.spawn { serve := some { delay := 5, ending := some (.error (.failed ⟨"no", []⟩)) } },
    .notify, .await 0 3, .drop 0, .notify, .await 1 10, .stop 7, .stop 7]).map (·.2) =
    [.spawned true, .done, .heard none, .done, .done, .heard none, .stopped (.error (.failed ⟨"no", []⟩)),
      .stopped (.ok ())] := rfl

end Holder

end Phrasebook.Lifecycle
