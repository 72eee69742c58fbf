import Phrasebook.Proofs.Lifecycle.Slots
/-!
# A task while other things are done

Most of what the hand does to a crew is nothing to a given task but that time passes. What the task keeps
through all of it is said by `Task.GoesOn`: who would hear of a failure, whether its end is still to be
taken, and an end that it has come to. A failure that is new was heard exactly if somebody could hear of it.

`Crew.GoesOn` is the same for the task of a name, and there is one lemma for each thing that the hand does.
Stopping the task itself is told apart. It goes in one of four ways (`Crew.stops_of_get?`), and all that is
said of it is read off these (`Crew.stop_cases`, `Slots.shutdown_cases`): what comes back is what
the end of its body means for whoever stops it, unless the body cannot fail any more or the wait is given up.
-/

set_option autoImplicit false

namespace Phrasebook.Lifecycle

/-- A time before another one that keeps to a limit is before the limit. -/
theorem before_of_lt {time due : Nat} {limit : Option Nat} (hlt : time < due)
    (hwithin : within due limit = true) : before time limit = true := by
  cases limit with
  | none => rfl
  | some l =>
    simp only [within, decide_eq_true_eq] at hwithin
    simp only [before, decide_eq_true_eq]
    omega

/-- The body is being cut off or has been. -/
def Stage.IsCut : Stage → Prop
  | .dropped _ | .over .aborted => True
  | _ => False

/-- A failure is told of as heard exactly if it was. -/
theorem Fate.heard_of_ofEnding {heard heard' : Bool} {r : Except Failure Unit} {c : Chain}
    (h : Fate.ofEnding heard r = .failed c heard') : heard' = heard := by
  rcases r with (c' | m) | u
  · exact (Fate.failed.inj h).2.symm
  · cases h
  · cases h

namespace Task

/-- The task has no body that could still fail: none at all, or one that is being cut off or has been. -/
def CannotFail (t : Task) : Prop := ∀ b, t.body = some b → b.stage.IsCut

/-- The fate of a task is the one that its body has come to. -/
theorem fate?_of_body {t : Task} {b : Body} {f : Fate} (hb : t.body = some b) (hf : t.fate? = some f) :
    b.stage = .over f := by
  simp only [fate?, hb, Option.bind_some] at hf
  split at hf
  · rename_i f' hstage
    rw [hstage, Option.some.inj hf]
  · cases hf

/-- A task that cannot fail has not failed. -/
theorem CannotFail.fate_ne_failed {t : Task} (h : t.CannotFail) (c : Chain) (heard : Bool) :
    t.fate? ≠ some (.failed c heard) := by
  intro hf
  obtain ⟨b, hb, -⟩ := Option.bind_eq_some_iff.1 hf
  have hcut := h b hb
  rw [fate?_of_body hb hf] at hcut
  exact hcut

/-- Nothing was done to the task itself, but time has passed or it was asked to stop. -/
structure GoesOn (t t' : Task) : Prop where
  receiver : t'.receiver = t.receiver
  held : t'.held = t.held
  started : t'.isStarted = t.isStarted
  ended : ∀ f, t.fate? = some f → t'.fate? = some f
  heard : t.fate? = none → ∀ c heard, t'.fate? = some (.failed c heard) → heard = t.heard
  cannotFail : t.CannotFail → t'.CannotFail

theorem GoesOn.refl (t : Task) : t.GoesOn t := by
  refine ⟨rfl, rfl, rfl, fun _ hf => hf, ?_, id⟩
  intro hnone c heard hf
  rw [hnone] at hf
  cases hf

/-- To go on from where something has gone on is to go on. -/
theorem GoesOn.trans {t t' t'' : Task} (h : t.GoesOn t') (h' : t'.GoesOn t'') : t.GoesOn t'' := by
  refine ⟨h'.receiver.trans h.receiver, h'.held.trans h.held, h'.started.trans h.started,
    fun f hf => h'.ended f (h.ended f hf), ?_, fun hc => h'.cannotFail (h.cannotFail hc)⟩
  intro hnone c heard hf
  cases hmid : t'.fate? with
  | none =>
    -- it came in the second part, and the receiver was still where it had been
    have hsame : t'.heard = t.heard := by rw [Task.heard, Task.heard, h.receiver]
    exact (h'.heard hmid c heard hf).trans hsame
  | some f =>
    have hsame := (h'.ended f hmid).symm.trans hf
    exact h.heard hnone c heard (hmid.trans hsame)

/-- A step of a body keeps to what the task is to keep. -/
theorem goesOn_of_next {t : Task} {c : Change} (h : t.next? = some c) : t.GoesOn (t.setStage c.stage) := by
  obtain ⟨b, hb, hnext⟩ := next?_eq_some h
  have hbody : (t.setStage c.stage).body = some { b with stage := c.stage } := by
    simp only [setStage, hb, Option.map_some]
  have hstarted : (t.setStage c.stage).isStarted = t.isStarted := by
    rw [isStarted, isStarted, hbody, hb]
    rfl
  refine ⟨rfl, rfl, hstarted, ?_, ?_, ?_⟩
  · -- a body that is over takes no step
    intro f hf
    simp only [Body.next?, fate?_of_body hb hf] at hnext
    cases hnext
  · intro _ e heard hf
    have hstage : c.stage = .over (.failed e heard) := fate?_of_body hbody hf
    cases Body.does_of_next hnext with
    | quits _ _ _ _ => exact Fate.heard_of_ofEnding (Stage.over.inj hstage)
    | sees _ _ => cases hstage
    | leaves _ _ _ _ => exact Fate.heard_of_ofEnding (Stage.over.inj hstage)
    | isCut _ _ => cases hstage
  · intro hcannot b' hb'
    obtain rfl := Option.some.inj (hbody.symm.trans hb')
    have hcut := hcannot b hb
    -- the receiver stands while the body can fail, so a failure is sent to where it stood
    cases Body.does_of_next hnext with
    | quits _ _ hstage _ =>
      rw [hstage] at hcut
      cases hcut
    | sees _ hstage =>
      rw [hstage] at hcut
      cases hcut
    | leaves _ _ hstage _ =>
      rw [hstage] at hcut
      cases hcut
    | isCut _ _ => trivial

/-- Whatever a body does of itself, its task goes on. -/
theorem goesOn_advanceSteps (limit n : Nat) (t : Task) : t.GoesOn (advanceSteps limit n t).1 := by
  induction n generalizing t with
  | zero => exact .refl t
  | succ n ih =>
    simp only [advanceSteps]
    split
    · rename_i c hc
      split
      · exact (goesOn_of_next hc).trans (ih _)
      · exact .refl t
    · exact .refl t

/-- **Time passing is going on.** -/
theorem goesOn_advance (t : Task) (limit : Nat) : t.GoesOn (t.advance limit).1 :=
  goesOn_advanceSteps limit 2 t

/-- **A body that has come to its end by a time was to end before it.** -/
theorem endTime_of_fate {t : Task} {limit : Nat} (hnone : t.fate? = none)
    (h : (t.advance limit).1.fate? ≠ none) : ∃ time, t.endTime? = some time ∧ time < limit := by
  -- a body takes two steps at most, and the time of the last is foreseen from the start
  simp only [advance, advanceSteps] at h
  cases hc : t.next? with
  | none =>
    simp only [hc] at h
    exact absurd hnone h
  | some c =>
    simp only [hc] at h
    by_cases hl : c.moment.time < limit
    · obtain ⟨b, hb, hnext⟩ := next?_eq_some hc
      rcases Body.next_cases hnext with ⟨f, hf⟩ | ⟨a, -, rfl⟩
      · -- its next step is its end
        exact ⟨c.moment.time, by rw [endTime?, hc, Option.bind_some, hf], hl⟩
      · -- it sees the request first, so its end is the step after that
        have hopen : (t.setStage (.leaving a)).fate? = none := by
          simp only [fate?, setStage, hb, Option.map_some, Option.bind_some]
        rw [if_pos hl] at h
        cases hc' : (t.setStage (.leaving a)).next? with
        | none =>
          simp only [hc'] at h
          exact absurd hopen h
        | some c' =>
          simp only [hc'] at h
          by_cases hl' : c'.moment.time < limit
          · refine ⟨c'.moment.time, ?_, hl'⟩
            simp only [endTime?, hc, Option.bind_some, hc', Option.map_some]
          · rw [if_neg hl'] at h
            exact absurd hopen h
    · rw [if_neg hl] at h
      exact absurd hnone h

/-- A task that is asked to stop goes on: its body is to see the request yet. -/
theorem goesOn_ask (t : Task) (m : Moment) : t.GoesOn (t.ask m) := by
  cases hb : t.body with
  | none =>
    simp only [ask, hb]
    exact .refl t
  | some b =>
    simp only [ask, hb]
    split
    · -- only a serving body takes notice of the request, and it is not over
      rename_i hstage
      have hbody : (t.setStage (.serving (some m))).body = some { b with stage := .serving (some m) } := by
        simp only [setStage, hb, Option.map_some]
      have hnone : (t.setStage (.serving (some m))).fate? = none := by
        simp only [fate?, hbody, Option.bind_some]
      refine ⟨rfl, rfl, ?_, ?_, ?_, ?_⟩
      · rw [isStarted, isStarted, hbody, hb]
        rfl
      · intro f hf
        rw [fate?_of_body hb hf] at hstage
        cases hstage
      · intro _ c heard hf
        rw [hnone] at hf
        cases hf
      · intro hcannot
        have hcut := hcannot b hb
        rw [hstage] at hcut
        cases hcut
    · exact .refl t

/-- Running a body brings no end. -/
theorem fate?_spawn (t : Task) (m : Moment) (p : Plan) : (t.spawn m p).1.fate? = t.fate? := by
  unfold spawn
  split
  · rfl
  · rename_i hnot
    rw [isStarted, Option.not_isSome_iff_eq_none] at hnot
    rw [fate?, fate?, hnot]
    rfl

/-- Asking a body to stop brings no end. -/
theorem fate?_ask (t : Task) (m : Moment) : (t.ask m).fate? = t.fate? := by
  unfold ask
  split
  · rename_i b hb
    split
    · rename_i hstage
      rw [fate?, fate?, setStage, hb, Option.map_some, Option.bind_some, Option.bind_some, hstage]
    · rfl
  · rfl

/-- Cutting off brings no end, and takes none away. -/
theorem fate?_abort (t : Task) (m : Moment) : (t.abort m).fate? = t.fate? := by
  unfold abort
  split
  · -- it was running, so it is being cut off
    rename_i hopen
    rw [Bool.and_eq_true, Option.isNone_iff_eq_none] at hopen
    rw [hopen.2]
    cases hb : t.body with
    | none => simp only [fate?, setStage, hb, Option.map_none, Option.bind_none]
    | some b => simp only [fate?, setStage, hb, Option.map_some, Option.bind_some]
  · rfl

/-- A body that is cut off before it has come to its end cannot fail any more. -/
theorem cannotFail_abort {t : Task} (hheld : t.held = true) (hfate : t.fate? = none) (m : Moment) :
    (t.abort m).CannotFail := by
  have habort : t.abort m = { t.setStage (.dropped m) with held := false } := by
    simp only [abort, hheld, hfate, Option.isNone_none, Bool.and_self, if_true]
  rw [habort]
  intro b hb
  obtain ⟨b', -, rfl⟩ := Option.map_eq_some_iff.1 hb
  trivial

end Task

namespace Crew

/-- Nothing was done to the task of a name. -/
def GoesOn (c c' : Crew) (name : String) : Prop :=
  ∀ t, c.get? name = some t → ∃ t', c'.get? name = some t' ∧ t.GoesOn t'

variable {name : String}

theorem GoesOn.refl (c : Crew) (name : String) : c.GoesOn c name := fun t ht => ⟨t, ht, .refl t⟩

/-- To go on from where a crew has gone on is to go on. -/
theorem GoesOn.trans {c c' c'' : Crew} (h : c.GoesOn c' name) (h' : c'.GoesOn c'' name) :
    c.GoesOn c'' name := by
  intro t ht
  obtain ⟨t', ht', hgo⟩ := h t ht
  obtain ⟨t'', ht'', hgo'⟩ := h' t' ht'
  exact ⟨t'', ht'', hgo.trans hgo'⟩

/-- As time passes every task goes on. -/
theorem goesOn_advance (c : Crew) (limit : Nat) (name : String) : c.GoesOn (c.advance limit) name := by
  intro t ht
  refine ⟨_, ?_, t.goesOn_advance limit⟩
  rw [get?_advance, ht, Option.map_some]

/-- So it does as a limit is waited out. -/
theorem goesOn_sleepOut (c : Crew) (limit : Option Nat) (name : String) :
    c.GoesOn (c.sleepOut limit) name := by
  cases limit with
  | none => exact .refl c name
  | some time => exact c.goesOn_advance time name

/-- So it does as a piece of work is done or given up. -/
theorem goesOn_work (c : Crew) (w : Work) (limit : Option Nat) (name : String) :
    c.GoesOn (c.work w limit).2 name := by
  simp only [work]
  split
  · split
    · exact c.goesOn_advance _ name
    · exact c.goesOn_sleepOut limit name
  · exact c.goesOn_sleepOut limit name

/-- So it does up to the thing that ends a wait. -/
theorem goesOn_wakeAt (c : Crew) (time : Nat) (w : Wake) (name : String) :
    c.GoesOn (c.wakeAt time w) name := by
  cases w with
  | signal => exact c.goesOn_advance time name
  | task _ => exact c.goesOn_advance (time + 1) name

/-- So it does as the first of several things is waited for. -/
theorem goesOn_await (c : Crew) (names : List String) (signal limit : Option Nat) (first : Nat)
    (name : String) : c.GoesOn (c.await names signal limit first).2 name := by
  rcases c.await_cases names signal limit first with ⟨w, -, -, h⟩ | ⟨-, ⟨w, -, t, -, h⟩ | ⟨-, h⟩⟩
  · rw [h]
    exact .refl c name
  · rw [h]
    exact c.goesOn_wakeAt t w name
  · rw [h]
    exact c.goesOn_sleepOut limit name

/-- What is done to one task leaves the others going on. -/
theorem goesOn_modify_of_ne (c : Crew) {other : String} (hne : name ≠ other) {f : Task → Task}
    (hf : ∀ t, t.name = other → (f t).name = other) : c.GoesOn (c.modify other f) name := by
  intro t ht
  refine ⟨t, ?_, .refl t⟩
  rw [get?_modify c hf, if_neg hne, ht]

/-- Cutting everything off brings no ends. -/
theorem fate_of_close {c : Crew} {f : Fate} (h : (c.close.get? name).bind (·.fate?) = some f) :
    (c.get? name).bind (·.fate?) = some f := by
  have hget : c.close.get? name = (c.get? name).map (·.abort c.moment) :=
    find?_map_name (fun t => Task.abort_name t c.moment) c.tasks name
  rw [hget] at h
  cases ht : c.get? name with
  | none =>
    rw [ht] at h
    cases h
  | some t =>
    rw [ht, Option.map_some, Option.bind_some] at h
    exact (t.fate?_abort c.moment).symm.trans h

/-! ## Stopping a task -/

/-- The crew when a task has been asked to stop. -/
def asked (c : Crew) (name : String) : Crew := (c.modify name (·.ask c.moment)).tick

/-- The crew when the end of a task's body has been taken. -/
def taken (c : Crew) (name : String) : Crew := c.modify name ({ · with held := false })

/-- The crew when a task has been left until a time and cut off then. -/
def cutOff (c : Crew) (name : String) (time : Nat) : Crew :=
  (c.sleepUntil time).modify name (·.abort (c.sleepUntil time).moment)

/-- A task that is asked to stop has been asked. -/
theorem get?_asked {c : Crew} {t : Task} (ht : c.get? name = some t) :
    (c.asked name).get? name = some (t.ask c.moment) := by
  have hget := @get?_modify c name (·.ask c.moment) (fun t h => (Task.ask_name t _).trans h) name
  rw [if_pos rfl, ht] at hget
  exact hget

/-- A task whose end is taken has lost its handle and nothing else. -/
theorem get?_taken {c : Crew} {t : Task} (ht : c.get? name = some t) :
    (c.taken name).get? name = some { t with held := false } := by
  have hget := @get?_modify c name ({ · with held := false }) (fun _ h => h) name
  rw [if_pos rfl, ht] at hget
  exact hget

/-- A task that is cut off at a time has gone on until then and is cut off at the next turn. -/
theorem get?_cutOff {c : Crew} {t : Task} (ht : c.get? name = some t) (time : Nat) :
    (c.cutOff name time).get? name = some ((t.advance time).1.abort (c.sleepUntil time).moment) := by
  have hget := @get?_modify (c.sleepUntil time) name (·.abort (c.sleepUntil time).moment)
    (fun t h => (Task.abort_name t _).trans h) name
  have hslept : (c.sleepUntil time).get? name = some (t.advance time).1 := by
    refine (c.get?_advance time name).trans ?_
    rw [ht, Option.map_some]
  rw [if_pos rfl, hslept, Option.map_some] at hget
  exact hget

/-- Asking one task to stop leaves the others going on. -/
theorem goesOn_asked_of_ne (c : Crew) {other : String} (hne : name ≠ other) :
    c.GoesOn (c.asked other) name :=
  c.goesOn_modify_of_ne hne fun t ht => by rw [Task.ask_name, ht]

/-- So does taking its end. -/
theorem goesOn_taken_of_ne (c : Crew) {other : String} (hne : name ≠ other) :
    c.GoesOn (c.taken other) name :=
  c.goesOn_modify_of_ne hne fun _ h => h

/-- Stopping another task is nothing to a task but that time passes. -/
theorem goesOn_stop_of_ne (c : Crew) {other : String} (hne : name ≠ other) (deadline : Nat)
    (limit : Option Nat) : c.GoesOn (c.stop other deadline limit).2 name := by
  have hask := c.goesOn_asked_of_ne hne
  simp only [stop]
  split
  · split
    · split
      · -- the body has ended before
        split
        · exact hask.trans (goesOn_taken_of_ne _ hne)
        · exact hask
      · exact hask
    · split
      · -- the body ends in time
        rename_i e _
        have hend := hask.trans (goesOn_advance _ (e + 1) name)
        split
        · exact hend.trans (goesOn_taken_of_ne _ hne)
        · exact hend
      · split
        · -- the body is cut off
          have hdue := hask.trans (goesOn_advance _ ((c.asked other).now + deadline) name)
          exact hdue.trans (goesOn_modify_of_ne _ hne fun t ht => by rw [Task.abort_name, ht])
        · exact hask.trans (goesOn_sleepOut _ limit name)
  · exact hask

/-- And so is stopping it with some last work after it. -/
theorem goesOn_stopAnd_of_ne (c : Crew) {other : String} (hne : name ≠ other) (deadline : Nat)
    (last : Except Chain Unit → Work) (limit : Option Nat) :
    c.GoesOn (c.stopAnd other deadline last limit).2 name := by
  have hstop := c.goesOn_stop_of_ne hne deadline limit
  rcases c.stopAnd_eq other deadline last limit with ⟨v, -, heq⟩ | ⟨-, heq⟩
  · rw [heq]
    exact hstop.trans (goesOn_work _ _ limit name)
  · rw [heq]
    exact hstop

section Stop

variable {c : Crew} {t : Task} {deadline : Nat} {limit : Option Nat}

/-- A task without a body is not stopped but asked to. -/
theorem stop_of_idle (ht : (c.asked name).get? name = some t) (hheld : t.held = false) :
    c.stop name deadline limit = (some (.ok ()), c.asked name) := by
  unfold asked at ht
  simp only [stop, ht, hheld, Bool.not_false, Bool.true_or, if_true, Bool.false_eq_true, if_false]
  rfl

/-- A body that has ended by the time its task has been asked to stop. -/
theorem stop_of_over {f : Fate} (ht : (c.asked name).get? name = some t) (hheld : t.held = true)
    (hfate : t.fate? = some f) :
    c.stop name deadline limit = (some (t.verdict f), (c.asked name).taken name) := by
  unfold asked at ht
  simp only [stop, ht, hheld, hfate, Option.isSome_some, Bool.not_true, Bool.or_true, if_true,
    Option.bind_some, Option.map_some]
  rfl

/-- A body that runs on, and ends before the deadline: its end is taken, unless the limit comes first. -/
theorem stop_of_end {e : Nat} (ht : (c.asked name).get? name = some t) (hheld : t.held = true)
    (hfate : t.fate? = none) (htime : t.endTime? = some e) (hlt : e < c.now + deadline) :
    ∃ f, (t.advance (e + 1)).1.fate? = some f ∧ ∀ limit, c.stop name deadline limit =
      if before e limit then (some ((t.advance (e + 1)).1.verdict f), ((c.asked name).settle e).taken name)
      else (none, (c.asked name).sleepOut limit) := by
  obtain ⟨f, hf⟩ := Option.isSome_iff_exists.1 (Task.fate_of_endTime htime (Nat.lt_succ_self e))
  have hsettled : ((c.asked name).settle e).get? name = some (t.advance (e + 1)).1 := by
    refine ((c.asked name).get?_advance (e + 1) name).trans ?_
    rw [ht, Option.map_some]
  refine ⟨f, hf, ?_⟩
  intro limit
  change e < (c.asked name).now + deadline at hlt
  unfold asked at ht hlt hsettled
  by_cases hbefore : before e limit = true
  · simp only [stop, ht, hheld, hfate, htime, Option.isSome_none, Bool.not_true, Bool.or_self,
      Bool.false_eq_true, if_false, Option.filter_some, hlt, hbefore, decide_true, Bool.and_self, if_true,
      hsettled, hf, Option.bind_some, Option.map_some]
    rfl
  · -- the deadline is after the end of the body, and so after the limit
    have hwithin : ¬ within ((c.modify name (·.ask c.moment)).tick.now + deadline) limit = true :=
      fun h => hbefore (before_of_lt hlt h)
    simp only [stop, ht, hheld, hfate, htime, Option.isSome_none, Bool.not_true, Bool.or_self,
      Bool.false_eq_true, if_false, Option.filter_some, hlt, Bool.eq_false_iff.2 hbefore, decide_true,
      Bool.and_false, Bool.eq_false_iff.2 hwithin]
    rfl

/-- A body that runs on, and does not end before the deadline: it is cut off then, unless the limit comes
first. -/
theorem stop_of_late (ht : (c.asked name).get? name = some t) (hheld : t.held = true)
    (hfate : t.fate? = none) (hlate : ∀ e, t.endTime? = some e → c.now + deadline ≤ e)
    (limit : Option Nat) :
    c.stop name deadline limit =
      if within (c.now + deadline) limit then
        (some (.error (.overdue name (.ofMillis deadline))),
          ((c.asked name).cutOff name (c.now + deadline)).tick)
      else (none, (c.asked name).sleepOut limit) := by
  have hnone : t.endTime?.filter
      (fun e => e < (c.modify name (·.ask c.moment)).tick.now + deadline && before e limit) = none := by
    rw [Option.filter_eq_none_iff]
    intro e he hboth
    exact absurd (of_decide_eq_true (Bool.and_eq_true_iff.1 hboth).1) (Nat.not_lt.2 (hlate e he))
  unfold asked at ht
  simp only [stop, ht, hheld, hfate, hnone, Option.isSome_none, Bool.not_true, Bool.or_self,
    Bool.false_eq_true, if_false]
  rfl

/-- The ways in which stopping a task can go that has been asked to stop: nobody waits for its body, its body
has ended, it ends before the deadline, or it is cut off then. In the last two the limit may come first. -/
inductive Stops (c : Crew) (name : String) (deadline : Nat) (t : Task) : Prop where
  | idle (hheld : t.held = false)
      (hstop : ∀ limit, c.stop name deadline limit = (some (.ok ()), c.asked name))
  | ended (f : Fate) (hheld : t.held = true) (hf : t.fate? = some f)
      (hstop : ∀ limit, c.stop name deadline limit = (some (t.verdict f), (c.asked name).taken name))
  | ending (e : Nat) (f : Fate) (hheld : t.held = true) (hopen : t.fate? = none) (htime : t.endTime? = some e)
      (hlt : e < c.now + deadline) (hf : (t.advance (e + 1)).1.fate? = some f)
      (hget : ((c.asked name).settle e).get? name = some (t.advance (e + 1)).1)
      (hstop : ∀ limit, c.stop name deadline limit =
        if before e limit then
          (some ((t.advance (e + 1)).1.verdict f), ((c.asked name).settle e).taken name)
        else (none, (c.asked name).sleepOut limit))
  | late (hheld : t.held = true) (hlate : ∀ e, t.endTime? = some e → c.now + deadline ≤ e)
      (hopen : t.fate? = none) (hrest : (t.advance (c.now + deadline)).1.fate? = none)
      (hstop : ∀ limit, c.stop name deadline limit =
        if within (c.now + deadline) limit then
          (some (.error (.overdue name (.ofMillis deadline))),
            ((c.asked name).cutOff name (c.now + deadline)).tick)
        else (none, (c.asked name).sleepOut limit))

/-- **Stopping a task** goes in one of these ways. -/
theorem stops_of_get? (ht : c.get? name = some t) (deadline : Nat) :
    c.Stops name deadline (t.ask c.moment) := by
  have hasked := get?_asked ht
  cases hheld : (t.ask c.moment).held with
  | false => exact .idle hheld fun limit => stop_of_idle hasked hheld
  | true =>
    cases hfate : (t.ask c.moment).fate? with
    | some f => exact .ended f hheld hfate fun limit => stop_of_over hasked hheld hfate
    | none =>
      by_cases htimely : ∃ e, (t.ask c.moment).endTime? = some e ∧ e < c.now + deadline
      · obtain ⟨e, htime, hlt⟩ := htimely
        obtain ⟨f, hf, hstop⟩ := stop_of_end hasked hheld hfate htime hlt
        have hget := (c.asked name).get?_advance (e + 1) name
        rw [hasked, Option.map_some] at hget
        exact .ending e f hheld hfate htime hlt hf hget hstop
      · have hlate : ∀ e, (t.ask c.moment).endTime? = some e → c.now + deadline ≤ e :=
          fun e he => Nat.not_lt.1 fun hlt => htimely ⟨e, he, hlt⟩
        -- it would have an end before the deadline if it came to one by then
        have hrest : ((t.ask c.moment).advance (c.now + deadline)).1.fate? = none := by
          refine Classical.byContradiction fun hover => ?_
          obtain ⟨e, he, hlt⟩ := Task.endTime_of_fate hfate hover
          exact absurd (hlate e he) (Nat.not_le.2 hlt)
        exact .late hheld hlate hfate hrest (stop_of_late hasked hheld hfate hlate)

/-- **What stopping a task comes to**, as long as the end of its body has not been taken: the body has an
end, which is taken; or it cannot fail any more; or the limit comes first. -/
theorem stop_cases (ht : c.get? name = some t) (hheld : t.held = t.isStarted) (deadline : Nat)
    (limit : Option Nat) :
    (∃ t' f, t.GoesOn t' ∧ t'.fate? = some f ∧ (c.stop name deadline limit).1 = some (t'.verdict f) ∧
        (c.stop name deadline limit).2.get? name = some { t' with held := false }) ∨
      (∃ t', (c.stop name deadline limit).2.get? name = some t' ∧ t'.CannotFail) ∨
      (c.stop name deadline limit).1 = none := by
  have hasked := get?_asked ht
  have hgo := t.goesOn_ask c.moment
  cases stops_of_get? ht deadline with
  | idle hidle hstop =>
    -- there is no body
    rw [hstop]
    refine Or.inr (Or.inl ⟨_, hasked, ?_⟩)
    intro b hb
    have hsome : (t.ask c.moment).isStarted = true := by rw [Task.isStarted, hb]; rfl
    rw [hgo.started, ← hheld, ← hgo.held, hidle] at hsome
    cases hsome
  | ended f _ hf hstop =>
    rw [hstop]
    exact Or.inl ⟨_, f, hgo, hf, rfl, get?_taken hasked⟩
  | ending e f _ _ _ _ hf hget hstop =>
    rw [hstop]
    by_cases hbefore : before e limit = true
    · rw [if_pos hbefore]
      exact Or.inl ⟨_, f, hgo.trans (Task.goesOn_advance _ _), hf, rfl, get?_taken hget⟩
    · rw [if_neg hbefore]
      exact Or.inr (Or.inr rfl)
  | late hheld' _ _ hrest hstop =>
    rw [hstop]
    by_cases hwithin : within (c.now + deadline) limit = true
    · rw [if_pos hwithin]
      have hadvanced := ((t.ask c.moment).goesOn_advance (c.now + deadline)).held.trans hheld'
      exact Or.inr (Or.inl ⟨_, get?_cutOff hasked _, Task.cannotFail_abort hadvanced hrest _⟩)
    · rw [if_neg hwithin]
      exact Or.inr (Or.inr rfl)

/-- **Stopping a task and handing on how that went** comes to the same, whatever time the last work takes. -/
theorem stopAnd_cases {last : Except Chain Unit → Work}
    (hlast : ∀ r, (last r).ending = some (r.mapError .failed)) (ht : c.get? name = some t)
    (hheld : t.held = t.isStarted) (deadline : Nat) (limit : Option Nat) :
    (∃ t' t'' f, t.GoesOn t' ∧ t'.fate? = some f ∧
        (c.stopAnd name deadline last limit).1 = some ((t'.verdict f).mapError fun e => .failed e.chain) ∧
        (c.stopAnd name deadline last limit).2.get? name = some t'' ∧ t''.fate? = some f) ∨
      (∃ t', (c.stopAnd name deadline last limit).2.get? name = some t' ∧ t'.CannotFail) ∨
      (c.stopAnd name deadline last limit).1 = none := by
  rcases c.stopAnd_eq name deadline last limit with ⟨v, hv, heq⟩ | ⟨-, heq⟩
  · rw [heq]
    generalize hcrew : (c.stop name deadline limit).2 = crew
    -- the last work is nothing to the task but that time passes
    have hwork := crew.goesOn_work (last (v.mapError StopFailure.chain)) limit name
    have hcases := stop_cases ht hheld deadline limit
    rw [hcrew, hv] at hcases
    rcases hcases with ⟨t', f, hgo, hf, hverdict, hget⟩ | ⟨t', hget, hcannot⟩ | hnone
    · obtain rfl := Option.some.inj hverdict
      obtain ⟨t'', hget'', hgo''⟩ := hwork _ hget
      rcases hended : (crew.work (last ((t'.verdict f).mapError StopFailure.chain)) limit).1 with _ | e
      · exact Or.inr (Or.inr rfl)
      · refine Or.inl ⟨t', t'', f, hgo, hf, ?_, hget'', hgo''.ended f hf⟩
        have hhanded := (work_ending hended).symm.trans (hlast _)
        rw [Option.some.inj hhanded]
        cases t'.verdict f <;> rfl
    · obtain ⟨t'', hget'', hgo''⟩ := hwork _ hget
      exact Or.inr (Or.inl ⟨t'', hget'', hgo''.cannotFail hcannot⟩)
    · cases hnone
  · rw [heq]
    exact Or.inr (Or.inr rfl)

end Stop

end Crew

/-! ## Shutting down a transport -/

namespace Slots

/-- Shutting down another transport is nothing to a task but that time passes. -/
theorem goesOn_shutdown_of_ne (s : Slots) {name : String} {k : Transport} (hne : name ≠ k.name)
    (deadline : Nat) (limit : Option Nat) : s.crew.GoesOn (s.shutdown k deadline limit).2.crew name := by
  unfold shutdown
  dsimp only
  split
  · rename_i w _
    exact Crew.goesOn_work (s.emit (.shuttingDown k)).crew w limit name
  · rename_i w last _
    have hwork := Crew.goesOn_work (s.emit (.shuttingDown k)).crew w limit name
    split
    · rename_i crew heq
      rw [heq] at hwork
      exact hwork.trans (crew.goesOn_stopAnd_of_ne hne deadline last limit)
    · rename_i r crew _ heq
      rw [heq] at hwork
      exact hwork

/-- **What shutting down a transport comes to**, where it stops its task and hands on how that went, and the
end of the task's body has not been taken: the end is taken and handed on; or the body cannot fail any more; or
the limit comes first. -/
theorem shutdown_cases {s : Slots} {k : Transport} {t : Task} (hclosing : (s.conduct k).closing.HandsOn)
    (ht : s.crew.get? k.name = some t) (hheld : t.held = t.isStarted) (deadline : Nat)
    (limit : Option Nat) :
    (∃ t' t'' f, t.GoesOn t' ∧ t'.fate? = some f ∧
        (s.shutdown k deadline limit).1 = some ((t'.verdict f).mapError fun e => .failed e.chain) ∧
        (s.shutdown k deadline limit).2.crew.get? k.name = some t'' ∧ t''.fate? = some f) ∨
      (∃ t', (s.shutdown k deadline limit).2.crew.get? k.name = some t' ∧ t'.CannotFail) ∨
      (s.shutdown k deadline limit).1 = none := by
  obtain ⟨w, last, heqs, hwell, hlast⟩ := hclosing
  have hclosing' : ((s.emit (.shuttingDown k)).conduct k).closing = .stopping w last := heqs
  obtain ⟨t₁, ht₁, hgo⟩ := Crew.goesOn_work (s.emit (.shuttingDown k)).crew w limit k.name t ht
  -- the first work of the closing, which leaves the task alone but for its own time
  rcases hwork : (s.emit (.shuttingDown k)).crew.work w limit with ⟨r, crew⟩
  rw [hwork] at ht₁
  cases r with
  | none =>
    refine Or.inr (Or.inr ?_)
    simp only [shutdown, hclosing', hwork]
  | some r =>
    have hr : w.ending = some r := Crew.work_ending (by rw [hwork])
    obtain rfl := Option.some.inj (hr.symm.trans hwell)
    have heq : s.shutdown k deadline limit =
        ((crew.stopAnd k.name deadline last limit).1,
          { s.emit (.shuttingDown k) with crew := (crew.stopAnd k.name deadline last limit).2 }) := by
      simp only [shutdown, hclosing', hwork]
    rw [heq]
    have hheld₁ : t₁.held = t₁.isStarted := hgo.held.trans (hheld.trans hgo.started.symm)
    rcases Crew.stopAnd_cases hlast ht₁ hheld₁ deadline limit with
      ⟨t', t'', f, hgo', hf, hresult, hget, hf'⟩ | ⟨t', hget, hcannot⟩ | hnone
    · exact Or.inl ⟨t', t'', f, hgo.trans hgo', hf, hresult, hget, hf'⟩
    · exact Or.inr (Or.inl ⟨t', hget, hcannot⟩)
    · exact Or.inr (Or.inr hnone)

end Slots

end Phrasebook.Lifecycle
