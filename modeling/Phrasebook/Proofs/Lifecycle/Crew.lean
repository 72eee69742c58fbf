import Phrasebook.Lifecycle.Crew
import Phrasebook.Proofs.Lifecycle.Task
/-!
# What the hand does to a crew

The trace of a crew holds what the tasks tell of themselves and what the hand tells. The second part, the
plot, is what laws about the whole service speak of. Nothing that the hand does to tasks or waits for adds
to the plot or takes a task away (`Crew.Tells`); only `emit` adds to it, and only `put` puts a task in.

Waiting for one of several things is told in one place, by `Crew.await_cases`.
-/

set_option autoImplicit false

namespace Phrasebook.Lifecycle

namespace Crew

/-- What has happened, without what the tasks tell of themselves. -/
def plot (c : Crew) : List Event := (c.trace.map (·.2)).filter (·.part != .task)

/-- The names of the tasks. -/
def names (c : Crew) : List String := c.tasks.map (·.name)

/-- From one crew to the other some events have been told; the tasks are still the same ones. -/
structure Tells (c c' : Crew) (events : List Event) : Prop where
  plot : c'.plot = c.plot ++ events
  names : c'.names = c.names

theorem Tells.refl (c : Crew) : c.Tells c [] := ⟨(List.append_nil _).symm, rfl⟩

/-- What is told one after the other is told together. -/
theorem Tells.trans {c c' c'' : Crew} {events events' : List Event} (h : c.Tells c' events)
    (h' : c'.Tells c'' events') : c.Tells c'' (events ++ events') := by
  refine ⟨?_, h'.names.trans h.names⟩
  rw [h'.plot, h.plot, List.append_assoc]

/-- A silent step adds nothing. -/
theorem Tells.silent {c c' c'' : Crew} {events : List Event} (h : c.Tells c' events) (h' : c'.Tells c'' []) :
    c.Tells c'' events := by
  have := h.trans h'
  rwa [List.append_nil] at this

/-! ## What is told -/

/-- What bodies leave behind in the trace is not told by the hand. -/
theorem plot_append (c : Crew) (events : List (Nat × Event)) (h : ∀ x ∈ events, x.2.part = .task) :
    Crew.plot { c with trace := c.trace ++ events } = c.plot := by
  have hnone : (events.map (·.2)).filter (·.part != .task) = [] := by
    rw [List.filter_eq_nil_iff]
    intro e he
    obtain ⟨x, hx, rfl⟩ := List.mem_map.1 he
    rw [h x hx]
    decide
  simp only [plot, List.map_append, List.filter_append, hnone, List.append_nil]

/-- What the hand notes is told last. -/
theorem plot_emit (c : Crew) {e : Event} (h : e.part ≠ .task) : (c.emit e).plot = c.plot ++ [e] := by
  have he : [e].filter (·.part != .task) = [e] := List.filter_cons_of_pos (bne_iff_ne.2 h)
  simp only [plot, emit, List.map_append, List.filter_append, List.map_cons, List.map_nil, he]

/-- To note something of its own is all that the hand tells by it. -/
theorem tells_emit (c : Crew) {e : Event} (h : e.part ≠ .task) : c.Tells (c.emit e) [e] :=
  ⟨c.plot_emit h, rfl⟩

/-- What is noted of a body is told by the body, and not by the hand. -/
theorem tells_emit_of_task (c : Crew) {e : Event} (h : e.part = .task) : c.Tells (c.emit e) [] := by
  refine ⟨?_, rfl⟩
  have hsame : (c.emit e).plot = c.plot := by
    refine c.plot_append [(c.now, e)] ?_
    intro x hx
    rw [List.mem_singleton.1 hx]
    exact h
  rw [hsame, List.append_nil]

/-! ## Tasks by name -/

/-- There is a task of a name exactly if the name is among those of the crew. -/
theorem get?_isSome (c : Crew) (name : String) : (c.get? name).isSome = true ↔ name ∈ c.names := by
  simp only [get?, names, List.find?_isSome, List.mem_map, beq_iff_eq]

/-- The task that is found under a name has it. -/
theorem name_of_get? {c : Crew} {name : String} {t : Task} (h : c.get? name = some t) : t.name = name := by
  have ht := List.find?_some h
  exact eq_of_beq ht

/-- Tasks are still there when the names are the same. -/
theorem isSome_get?_of_names {c c' : Crew} (h : c'.names = c.names) (name : String) :
    (c'.get? name).isSome = (c.get? name).isSome := by
  rw [Bool.eq_iff_iff, get?_isSome, get?_isSome, h]

/-- Where each task is changed and keeps its name, the task of a name is the changed one. -/
theorem find?_map_name {f : Task → Task} (hf : ∀ t, (f t).name = t.name) (tasks : List Task)
    (name : String) :
    (tasks.map f).find? (·.name == name) = (tasks.find? (·.name == name)).map f := by
  rw [List.find?_map]
  congr 2
  funext t
  simp only [Function.comp_apply, hf]

/-- Changing the task of a name changes what is found under that name, and nothing else. -/
theorem get?_modify (c : Crew) {name : String} {f : Task → Task}
    (hf : ∀ t, t.name = name → (f t).name = name) (other : String) :
    (c.modify name f).get? other = if other = name then (c.get? other).map f else c.get? other := by
  -- the change keeps every name, so the same task is found, changed or not
  have hname : ∀ t : Task, (if t.name == name then f t else t).name = t.name := by
    intro t
    by_cases ht : t.name = name
    · rw [if_pos (beq_iff_eq.2 ht), hf t ht, ht]
    · rw [if_neg (mt eq_of_beq ht)]
  have hget : (c.modify name f).get? other =
      (c.get? other).map fun t => if t.name == name then f t else t := find?_map_name hname _ _
  rw [hget]
  cases ht : c.get? other with
  | none => simp only [Option.map_none, ite_self]
  | some t =>
    have hother : t.name = other := name_of_get? ht
    by_cases hon : other = name
    · simp only [Option.map_some, hother, if_pos hon, beq_iff_eq.2 hon, if_true]
    · simp only [Option.map_some, hother, if_neg hon, beq_iff_eq]

/-- A change that keeps the names tells nothing. -/
theorem tells_modify (c : Crew) {name : String} {f : Task → Task}
    (hf : ∀ t, t.name = name → (f t).name = name) : c.Tells (c.modify name f) [] := by
  refine ⟨(List.append_nil _).symm, ?_⟩
  simp only [names, modify, List.map_map]
  refine List.map_congr_left ?_
  intro t _
  simp only [Function.comp_apply]
  by_cases ht : t.name = name
  · rw [if_pos (beq_iff_eq.2 ht), hf t ht, ht]
  · rw [if_neg (mt eq_of_beq ht)]

/-- Puts another task in the place of one that keeps its name. -/
theorem tells_replace {c : Crew} {name : String} {t t' : Task} (h : c.get? name = some t)
    (ht : t'.name = t.name) : c.Tells (c.modify name fun _ => t') [] :=
  c.tells_modify fun _ _ => ht.trans (name_of_get? h)

/-- Another task of the same name in the place of one is found there, and the others are as they were. -/
theorem get?_replace {c : Crew} {name : String} {t t' : Task} (h : c.get? name = some t)
    (ht : t'.name = t.name) (other : String) :
    (c.modify name fun _ => t').get? other = if other = name then some t' else c.get? other := by
  rw [c.get?_modify (f := fun _ => t') (fun _ _ => ht.trans (name_of_get? h)) other]
  by_cases hon : other = name
  · rw [if_pos hon, if_pos hon, hon, h, Option.map_some]
  · rw [if_neg hon, if_neg hon]

theorem tells_tick (c : Crew) : c.Tells c.tick [] := ⟨(List.append_nil _).symm, rfl⟩

/-! ## Letting time pass -/

/-- **While time passes only the tasks tell something.** -/
theorem tells_advance (c : Crew) (limit : Nat) : c.Tells (c.advance limit) [] := by
  constructor
  · -- sorting the events by moment keeps them events of tasks
    rw [List.append_nil]
    refine Eq.trans (c.plot_append _ ?_) rfl
    intro x hx
    obtain ⟨y, hy, rfl⟩ := List.mem_map.1 hx
    obtain ⟨p, hp, hy⟩ := List.mem_flatMap.1 (List.mem_mergeSort.1 hy)
    obtain ⟨t, -, rfl⟩ := List.mem_map.1 hp
    exact Task.part_of_advance y hy
  · simp only [names, advance, List.map_map]
    refine List.map_congr_left ?_
    intro t _
    exact Task.advance_name limit t

/-- Under each name one finds, after some time, what its task has become by then. -/
theorem get?_advance (c : Crew) (limit : Nat) (name : String) :
    (c.advance limit).get? name = (c.get? name).map fun t => (t.advance limit).1 := by
  have h := find?_map_name (f := fun t => (t.advance limit).1) (Task.advance_name limit) c.tasks name
  simp only [get?, advance, List.map_map]
  exact h

/-- Waiting until a time: the hand tells nothing of it. -/
theorem tells_sleepUntil (c : Crew) (time : Nat) : c.Tells (c.sleepUntil time) [] :=
  (c.tells_advance time).silent ⟨(List.append_nil _).symm, rfl⟩

/-- Nor of waiting for a body that ends at a time. -/
theorem tells_settle (c : Crew) (time : Nat) : c.Tells (c.settle time) [] :=
  (c.tells_advance (time + 1)).silent ⟨(List.append_nil _).symm, rfl⟩

/-- Nor of waiting a limit out. -/
theorem tells_sleepOut (c : Crew) (limit : Option Nat) : c.Tells (c.sleepOut limit) [] := by
  cases limit with
  | none => exact .refl c
  | some time => exact c.tells_sleepUntil time

/-- Nor of a piece of work. -/
theorem tells_work (c : Crew) (w : Work) (limit : Option Nat) : c.Tells (c.work w limit).2 [] := by
  simp only [work]
  split
  · split
    · exact c.tells_sleepUntil _
    · exact c.tells_sleepOut limit
  · exact c.tells_sleepOut limit

/-- Work ends the way it is to end, or not by the limit. -/
theorem work_ending {c : Crew} {w : Work} {limit : Option Nat} {e : Except Failure Unit}
    (h : (c.work w limit).1 = some e) : w.ending = some e := by
  simp only [work] at h
  split at h
  · rename_i q heq
    obtain ⟨e', he', hq⟩ := Option.map_eq_some_iff.1 heq
    split at h
    · rw [he', ← Option.some.inj h, ← (Prod.mk.inj hq).2]
    · cases h
  · cases h

/-- Work that has an ending comes to it when there is no limit. -/
theorem work_of_ending (c : Crew) {w : Work} {e : Except Failure Unit} (h : w.ending = some e) :
    (c.work w none).1 = some e := by
  simp only [work, Work.endAt?, h, Option.map_some, within, if_true]

/-! ## Tasks that have not run yet -/

/-- While time passes tasks without bodies stay as they are. -/
theorem tasks_advance {c : Crew} (h : ∀ t ∈ c.tasks, t.body = none) (limit : Nat) :
    (c.advance limit).tasks = c.tasks := by
  have hsame : ∀ t ∈ c.tasks, (t.advance limit).1 = id t := by
    intro t ht
    rw [Task.advance_of_body_none limit (h t ht)]
    rfl
  simp only [advance, List.map_map]
  exact (List.map_congr_left hsame).trans (List.map_id _)

/-- Where no task has a body, work leaves the tasks as they are. -/
theorem tasks_work {c : Crew} (h : ∀ t ∈ c.tasks, t.body = none) (w : Work) (limit : Option Nat) :
    (c.work w limit).2.tasks = c.tasks := by
  have hout : (c.sleepOut limit).tasks = c.tasks := by
    cases limit with
    | none => rfl
    | some time => exact tasks_advance h time
  simp only [work]
  split
  · split
    · exact tasks_advance h _
    · exact hout
  · exact hout

/-- A task put in under a new name comes last. -/
theorem tasks_put {c : Crew} {name : String} (h : name ∉ c.names) :
    (c.put name).tasks = c.tasks ++ [{ name := name }] := by
  have hother : c.tasks.filter (·.name != name) = c.tasks := by
    rw [List.filter_eq_self]
    intro t ht
    refine bne_iff_ne.2 ?_
    rintro rfl
    exact h (List.mem_map_of_mem ht)
  simp only [put, hother]

/-! ## Handling one task -/

/-- Spawning is told of only where a body has run before, and that in the task's own words. -/
theorem tells_spawn (c : Crew) (name : String) (p : Plan) : c.Tells (c.spawn name p).1 [] := by
  simp only [spawn]
  split
  · rename_i t ht
    have hmod := (tells_replace ht (Task.spawn_name t c.moment p)).silent (tells_tick _)
    split
    · exact hmod
    · exact hmod.silent (tells_emit_of_task _ rfl)
  · exact .refl c

/-- Spawning takes no time. -/
theorem now_spawn (c : Crew) (name : String) (p : Plan) : (c.spawn name p).1.now = c.now := by
  simp only [spawn]
  split
  · split <;> rfl
  · rfl

/-- Spawning a body in the task of a name makes of that task what `Task.spawn` does, and leaves the others. -/
theorem get?_spawn (c : Crew) (name : String) (p : Plan) (other : String) :
    (c.spawn name p).1.get? other =
      if other = name then (c.get? name).map fun t => (t.spawn c.moment p).1 else c.get? other := by
  simp only [spawn]
  split
  · rename_i t ht
    rw [ht, Option.map_some]
    split
    · exact get?_replace ht (Task.spawn_name t c.moment p) other
    · exact get?_replace ht (Task.spawn_name t c.moment p) other
  · rename_i hnone
    rw [hnone, Option.map_none]
    by_cases hon : other = name
    · rw [if_pos hon, hon, hnone]
    · rw [if_neg hon]

/-- Asking for the exit of a task is silent. -/
theorem tells_notify (c : Crew) (name : String) : c.Tells (c.notify name).2 [] := by
  simp only [notify]
  split
  · rename_i t ht
    exact tells_replace ht (Task.notify_name t)
  · exact .refl c

/-- Asking for the exit of a task lends the end at which it is heard, and leaves the other tasks. -/
theorem get?_notify (c : Crew) (name : String) (other : String) :
    (c.notify name).2.get? other =
      if other = name then (c.get? name).map fun t => t.notify.1 else c.get? other := by
  simp only [notify]
  split
  · rename_i t ht
    rw [ht, Option.map_some]
    exact get?_replace ht (Task.notify_name t) other
  · rename_i hnone
    rw [hnone, Option.map_none]
    by_cases hon : other = name
    · rw [if_pos hon, hon, hnone]
    · rw [if_neg hon]

/-- Giving up listening is silent. -/
theorem tells_unhear (c : Crew) (name : String) : c.Tells (c.unhear name) [] :=
  c.tells_modify fun _ h => h

/-- So is cutting all bodies off. -/
theorem tells_close (c : Crew) : c.Tells c.close [] := by
  refine ⟨(List.append_nil _).symm, ?_⟩
  simp only [names, close, List.map_map]
  refine List.map_congr_left ?_
  intro t _
  exact Task.abort_name t _

/-- So is stopping a task, however it ends: what is seen of it is seen of the body. -/
theorem tells_stop (c : Crew) (name : String) (deadline : Nat) (limit : Option Nat) :
    c.Tells (c.stop name deadline limit).2 [] := by
  -- nothing but time passes on any path: the request, the waiting and the cut are silent
  have hask : c.Tells (c.modify name (·.ask c.moment)).tick [] :=
    (c.tells_modify fun t ht => by rw [Task.ask_name, ht]).silent (tells_tick _)
  have htaken : ∀ d : Crew, c.Tells d [] → c.Tells (d.modify name ({ · with held := false })) [] :=
    fun d hd => hd.silent (d.tells_modify fun _ h => h)
  simp only [stop]
  split
  · split
    · split
      · -- the body has ended before
        split
        · exact htaken _ hask
        · exact hask
      · exact hask
    · split
      · -- the body ends in time
        split
        · exact htaken _ (hask.silent (tells_settle _ _))
        · exact hask.silent (tells_settle _ _)
      · split
        · -- the body is cut off
          have hdue := hask.silent (tells_sleepUntil _ ((c.modify name (·.ask c.moment)).tick.now + deadline))
          exact (hdue.silent (tells_modify _ fun t ht => by rw [Task.abort_name, ht])).silent (tells_tick _)
        · exact hask.silent (tells_sleepOut _ limit)
  · exact hask

section StopAnd

variable {c : Crew} {name : String} {deadline : Nat} {last : Except Chain Unit → Work} {limit : Option Nat}

/-- The last work is done once the task has been stopped. -/
theorem stopAnd_of_stopped {v : Except StopFailure Unit} {c' : Crew} (h : c.stop name deadline limit = (some v, c'))
    (last : Except Chain Unit → Work) :
    c.stopAnd name deadline last limit = c'.work (last (v.mapError StopFailure.chain)) limit := by
  simp only [stopAnd, h]

/-- If the limit comes before that there is no last work. -/
theorem stopAnd_of_cut {c' : Crew} (h : c.stop name deadline limit = (none, c')) (last : Except Chain Unit → Work) :
    c.stopAnd name deadline last limit = (none, c') := by
  simp only [stopAnd, h]

/-- The last work is done once the task has been stopped, and not at all if the limit comes before that. -/
theorem stopAnd_eq (c : Crew) (name : String) (deadline : Nat) (last : Except Chain Unit → Work)
    (limit : Option Nat) :
    (∃ v, (c.stop name deadline limit).1 = some v ∧
        c.stopAnd name deadline last limit =
          (c.stop name deadline limit).2.work (last (v.mapError StopFailure.chain)) limit) ∨
      (c.stop name deadline limit).1 = none ∧
        c.stopAnd name deadline last limit = (none, (c.stop name deadline limit).2) := by
  rcases hstop : c.stop name deadline limit with ⟨_ | v, c'⟩
  · exact Or.inr ⟨rfl, stopAnd_of_cut hstop last⟩
  · exact Or.inl ⟨v, rfl, stopAnd_of_stopped hstop last⟩

/-- So is stopping a task with some last work after it. -/
theorem tells_stopAnd : c.Tells (c.stopAnd name deadline last limit).2 [] := by
  have hstop := c.tells_stop name deadline limit
  rcases c.stopAnd_eq name deadline last limit with ⟨v, -, heq⟩ | ⟨-, heq⟩
  · rw [heq]
    exact hstop.silent (tells_work _ _ limit)
  · rw [heq]
    exact hstop

/-- How the last work ends is how it all ends. -/
theorem ending_of_stopAnd {e : Except Failure Unit}
    (h : (c.stopAnd name deadline last limit).1 = some e) : ∃ r, (last r).ending = some e := by
  rcases c.stopAnd_eq name deadline last limit with ⟨v, -, heq⟩ | ⟨-, heq⟩
  · rw [heq] at h
    exact ⟨_, work_ending h⟩
  · rw [heq] at h
    cases h

end StopAnd

/-! ## Waiting for one of several things -/

/-- A wait is for its signal and for the bodies that are named, whatever the place where the looking begins. -/
theorem mem_wakes {names : List String} {first : Nat} {w : Wake} :
    w ∈ wakes names first ↔ w = .signal ∨ ∃ name ∈ names, w = .task name := by
  -- the order of looking does not matter for what is looked at
  have hall : w ∈ wakes names first ↔ w ∈ Wake.signal :: names.map .task := by
    simp only [wakes, List.mem_append]
    rw [Or.comm, ← List.mem_append, List.take_append_drop]
  rw [hall, List.mem_cons, List.mem_map]
  refine or_congr_right ?_
  constructor
  · rintro ⟨name, hn, rfl⟩
    exact ⟨name, hn, rfl⟩
  · rintro ⟨name, hn, rfl⟩
    exact ⟨name, hn, rfl⟩

/-- The earliest of some things is one of them. -/
theorem earliest_mem {xs : List (Wake × Nat)} {x : Wake × Nat} (h : earliest xs = some x) : x ∈ xs := by
  induction xs generalizing x with
  | nil => cases h
  | cons y rest ih =>
    simp only [earliest] at h
    split at h
    · rename_i z hz
      split at h
      · obtain rfl := Option.some.inj h
        exact List.mem_cons_self
      · obtain rfl := Option.some.inj h
        exact List.mem_cons_of_mem _ (ih hz)
    · obtain rfl := Option.some.inj h
      exact List.mem_cons_self

/-- There is an earliest unless there is nothing. -/
theorem earliest_eq_none {xs : List (Wake × Nat)} : earliest xs = none ↔ xs = [] := by
  cases xs with
  | nil => exact ⟨fun _ => rfl, fun _ => rfl⟩
  | cons y rest =>
    simp only [earliest, reduceCtorEq, iff_false]
    split
    · split <;> exact Option.some_ne_none _
    · exact Option.some_ne_none _

/-- No other is earlier than the earliest. -/
theorem le_of_earliest {xs : List (Wake × Nat)} {x : Wake × Nat} (h : earliest xs = some x) :
    ∀ y ∈ xs, x.2 ≤ y.2 := by
  -- by induction on the wakes, the least of the rest being compared with the first
  induction xs generalizing x with
  | nil => cases h
  | cons z rest ih =>
    intro y hy
    simp only [earliest] at h
    split at h
    · rename_i w hw
      have hleast := ih hw
      split at h
      · -- the first is no later than the earliest of the rest
        rename_i hle
        obtain rfl := Option.some.inj h
        rcases List.mem_cons.1 hy with rfl | hy
        · exact Nat.le_refl _
        · exact Nat.le_trans hle (hleast y hy)
      · rename_i hlt
        obtain rfl := Option.some.inj h
        rcases List.mem_cons.1 hy with rfl | hy
        · exact Nat.le_of_lt (Nat.not_le.1 hlt)
        · exact hleast y hy
    · rename_i hnone
      obtain rfl := Option.some.inj h
      rw [earliest_eq_none.1 hnone, List.mem_singleton] at hy
      exact Nat.le_of_eq (congrArg Prod.snd hy.symm)

/-- **What a wait comes to when nothing is there already**: it lasts until the earliest of the things that
come, or nothing comes by the limit. -/
theorem await_of_not_ready (c : Crew) (names : List String) (signal limit : Option Nat) (first : Nat)
    (hready : ∀ w ∈ wakes names first, c.isReady signal w = false) :
    (∃ w ∈ wakes names first, ∃ t, c.wakeTime? signal limit w = some t ∧
        (∀ w' ∈ wakes names first, ∀ t', c.wakeTime? signal limit w' = some t' → t ≤ t') ∧
        c.await names signal limit first = (some w, c.wakeAt t w)) ∨
      (∀ w ∈ wakes names first, c.wakeTime? signal limit w = none) ∧
        c.await names signal limit first = (none, c.sleepOut limit) := by
  have hnone : (wakes names first).find? (c.isReady signal) = none :=
    List.find?_eq_none.2 fun w hw => Bool.eq_false_iff.1 (hready w hw)
  simp only [await, hnone]
  split
  · rename_i w t hearliest
    obtain ⟨w', hw', heq⟩ := List.mem_filterMap.1 (earliest_mem hearliest)
    obtain ⟨t', ht', hpair⟩ := Option.map_eq_some_iff.1 heq
    obtain ⟨rfl, rfl⟩ := Prod.mk.inj hpair
    refine Or.inl ⟨_, hw', _, ht', ?_, rfl⟩
    intro w hw u hu
    have hmem : (w, u) ∈ (wakes names first).filterMap fun w =>
        (c.wakeTime? signal limit w).map (w, ·) :=
      List.mem_filterMap.2 ⟨w, hw, by rw [hu, Option.map_some]⟩
    exact le_of_earliest hearliest _ hmem
  · rename_i hearliest
    refine Or.inr ⟨?_, rfl⟩
    intro w hw
    have hempty := List.filterMap_eq_nil_iff.1 (earliest_eq_none.1 hearliest) w hw
    exact Option.map_eq_none_iff.1 hempty

/-- **What a wait comes to.** Something is there already; or nothing is, and the wait lasts until something
comes; or nothing comes by the limit. -/
theorem await_cases (c : Crew) (names : List String) (signal limit : Option Nat) (first : Nat) :
    (∃ w ∈ wakes names first, c.isReady signal w = true ∧
        c.await names signal limit first = (some w, c)) ∨
      (∀ w ∈ wakes names first, c.isReady signal w = false) ∧
        ((∃ w ∈ wakes names first, ∃ t, c.wakeTime? signal limit w = some t ∧
            c.await names signal limit first = (some w, c.wakeAt t w)) ∨
          (∀ w ∈ wakes names first, c.wakeTime? signal limit w = none) ∧
            c.await names signal limit first = (none, c.sleepOut limit)) := by
  cases hfind : (wakes names first).find? (c.isReady signal) with
  | some w =>
    refine Or.inl ⟨w, List.mem_of_find?_eq_some hfind, List.find?_some hfind, ?_⟩
    simp only [await, hfind]
  | none =>
    have hready : ∀ w ∈ wakes names first, c.isReady signal w = false :=
      fun w hw => Bool.eq_false_iff.2 (List.find?_eq_none.1 hfind w hw)
    refine Or.inr ⟨hready, ?_⟩
    rcases c.await_of_not_ready names signal limit first hready with ⟨w, hw, t, ht, -, heq⟩ | hnone
    · exact Or.inl ⟨w, hw, t, ht, heq⟩
    · exact Or.inr hnone

/-- Waiting up to the thing that ends the wait is silent. -/
theorem tells_wakeAt (c : Crew) (time : Nat) (w : Wake) : c.Tells (c.wakeAt time w) [] := by
  cases w with
  | signal => exact c.tells_sleepUntil time
  | task name => exact c.tells_settle time

/-- So is the whole wait for the first of several things. -/
theorem tells_await (c : Crew) (names : List String) (signal limit : Option Nat) (first : Nat) :
    c.Tells (c.await names signal limit first).2 [] := by
  rcases c.await_cases names signal limit first with ⟨w, -, -, h⟩ | ⟨-, ⟨w, -, t, -, h⟩ | ⟨-, h⟩⟩
  · rw [h]
    exact .refl c
  · rw [h]
    exact c.tells_wakeAt t w
  · rw [h]
    exact c.tells_sleepOut limit

/-- A body that ends a wait is one of those waited for, and has ended. -/
theorem fate_of_await {c : Crew} {names : List String} {signal limit : Option Nat} {first : Nat}
    {name : String} (h : (c.await names signal limit first).1 = some (.task name)) :
    name ∈ names ∧
      ∃ t f, (c.await names signal limit first).2.get? name = some t ∧ t.fate? = some f := by
  have hmem : Wake.task name ∈ wakes names first → name ∈ names := by
    intro hw
    rcases mem_wakes.1 hw with hw | ⟨name', hn, hw⟩
    · cases hw
    · rw [Wake.task.inj hw]
      exact hn
  rcases c.await_cases names signal limit first with
    ⟨w, hw, hready, heq⟩ | ⟨-, ⟨w, hw, t, ht, heq⟩ | ⟨-, heq⟩⟩
  · -- it had ended before the wait
    rw [heq] at h ⊢
    obtain rfl := Option.some.inj h
    obtain ⟨f, hf⟩ := Option.isSome_iff_exists.1 hready
    obtain ⟨t, ht, hf⟩ := Option.bind_eq_some_iff.1 hf
    exact ⟨hmem hw, t, f, ht, hf⟩
  · -- its end was foreseen, and the crew has settled at that time
    rw [heq] at h ⊢
    obtain rfl := Option.some.inj h
    refine ⟨hmem hw, ?_⟩
    obtain ⟨hend, -⟩ := Option.filter_eq_some_iff.1 ht
    obtain ⟨task, htask, hend⟩ := Option.bind_eq_some_iff.1 hend
    have hget : (c.settle t).get? name = some (task.advance (t + 1)).1 := by
      have := c.get?_advance (t + 1) name
      rw [htask] at this
      exact this
    obtain ⟨f, hf⟩ := Option.isSome_iff_exists.1 (Task.fate_of_endTime hend (Nat.lt_succ_self t))
    exact ⟨_, f, hget, hf⟩
  · rw [heq] at h
    cases h

/-- A signal ends a wait only if it is waited for. -/
theorem signal_of_await {c : Crew} {names : List String} {signal limit : Option Nat} {first : Nat}
    (h : (c.await names signal limit first).1 = some .signal) : signal.isSome = true := by
  rcases c.await_cases names signal limit first with
    ⟨w, hw, hready, heq⟩ | ⟨-, ⟨w, hw, t, ht, heq⟩ | ⟨-, heq⟩⟩
  · rw [heq] at h
    obtain rfl := Option.some.inj h
    rw [eq_of_beq hready]
    rfl
  · rw [heq] at h
    obtain rfl := Option.some.inj h
    rw [(Option.filter_eq_some_iff.1 ht).1]
    rfl
  · rw [heq] at h
    cases h

/-- A wait comes to nothing exactly if none of the things is there already and none comes by the limit. -/
theorem await_eq_none_iff {c : Crew} {names : List String} {signal limit : Option Nat} {first : Nat} :
    (c.await names signal limit first).1 = none ↔
      ∀ w ∈ wakes names first, c.isReady signal w = false ∧ c.wakeTime? signal limit w = none := by
  rcases c.await_cases names signal limit first with
    ⟨w, hw, hready, heq⟩ | ⟨hready, ⟨w, hw, t, ht, heq⟩ | ⟨htime, heq⟩⟩
  · refine ⟨fun h => ?_, fun h => ?_⟩
    · rw [heq] at h
      cases h
    · rw [(h w hw).1] at hready
      cases hready
  · refine ⟨fun h => ?_, fun h => ?_⟩
    · rw [heq] at h
      cases h
    · rw [(h w hw).2] at ht
      cases ht
  · rw [heq]
    exact ⟨fun _ w hw => ⟨hready w hw, htime w hw⟩, fun _ => rfl⟩

end Crew

end Phrasebook.Lifecycle
