import Phrasebook.Lifecycle.Task
/-!
# What a body does in time

A body takes at most two steps: it sees that it was asked to stop, and it ends. `Body.next_cases` says so of
its next step. From this it follows that what a task tells of is told by the task alone
(`Task.part_of_advance`), and that a body whose end is foreseen for a time has ended after that time
(`Task.fate_of_endTime`).
-/

set_option autoImplicit false

namespace Phrasebook.Lifecycle

/-- Whether a body with this plan ends even if nobody asks it to stop. -/
def Plan.ends (p : Plan) : Bool := (p.serve.bind (·.ending)).isSome

/-! ## One step of a body -/

/-- What a body can do next: end of itself, see the request to stop, end having been asked to stop, or be cut
off. -/
inductive Body.Does (name : String) (heard : Bool) (b : Body) : Change → Prop where
  | quits (asked : Option Moment) (q : Nat × Except Failure Unit) (hstage : b.stage = .serving asked)
      (hquits : b.quits? asked = some q) :
      Does name heard b
        ⟨⟨q.1, b.spawned.turn⟩, .over (.ofEnding heard q.2), .exited name :: failureEvents name q.2⟩
  | sees (a : Moment) (hstage : b.stage = .serving (some a)) :
      Does name heard b ⟨a, .leaving a, [.stopping name]⟩
  | leaves (a : Moment) (q : Nat × Except Failure Unit) (hstage : b.stage = .leaving a)
      (hleave : b.plan.leave.endAt? a.time = some q) :
      Does name heard b ⟨⟨q.1, a.turn⟩, .over (.ofEnding heard q.2), clearedEvents name q.2⟩
  | isCut (m : Moment) (hstage : b.stage = .dropped m) : Does name heard b ⟨m, .over .aborted, []⟩

/-- What a body does next is one of the four things listed in `Body.Does`. -/
theorem Body.does_of_next {name : String} {heard : Bool} {b : Body} {c : Change}
    (h : b.next? name heard = some c) : b.Does name heard c := by
  simp only [Body.next?] at h
  split at h
  · -- serving: it is due to end, or has been asked to stop, or neither
    rename_i asked hstage
    cases hquits : b.quits? asked with
    | some q =>
      rw [hquits] at h
      obtain rfl := Option.some.inj h
      exact .quits asked q hstage hquits
    | none =>
      rw [hquits] at h
      cases asked with
      | some a =>
        obtain rfl := Option.some.inj h
        exact .sees a hstage
      | none => cases h
  · rename_i a hstage
    obtain ⟨q, hleave, rfl⟩ := Option.map_eq_some_iff.1 h
    exact .leaves a q hstage hleave
  · rename_i m hstage
    obtain rfl := Option.some.inj h
    exact .isCut m hstage
  · cases h

/-- **The next step of a body** ends it, or is that it sees the request to stop. -/
theorem Body.next_cases {name : String} {heard : Bool} {b : Body} {c : Change}
    (h : b.next? name heard = some c) :
    (∃ f, c.stage = .over f) ∨
      ∃ a, b.stage = .serving (some a) ∧ c = ⟨a, .leaving a, [.stopping name]⟩ := by
  cases does_of_next h with
  | quits _ _ _ _ => exact Or.inl ⟨_, rfl⟩
  | sees a hstage => exact Or.inr ⟨a, hstage, rfl⟩
  | leaves _ _ _ _ => exact Or.inl ⟨_, rfl⟩
  | isCut _ _ => exact Or.inl ⟨_, rfl⟩

/-- What is seen of a failure is seen of the task, and not of the hand. -/
theorem part_of_failureEvents {name : String} {e : Except Failure Unit} :
    ∀ x ∈ failureEvents name e, x.part = .task := by
  intro x hx
  rcases e with (c | m) | u
  · obtain rfl := List.mem_singleton.1 hx
    rfl
  · cases hx
  · cases hx

/-- The same of what is seen when a body has cleared up. -/
theorem part_of_clearedEvents {name : String} {e : Except Failure Unit} :
    ∀ x ∈ clearedEvents name e, x.part = .task := by
  intro x hx
  rcases e with (c | m) | u
  · rcases List.mem_cons.1 hx with rfl | hx
    · rfl
    · exact part_of_failureEvents x hx
  · cases hx
  · rcases List.mem_cons.1 hx with rfl | hx
    · rfl
    · exact part_of_failureEvents x hx

/-- What is seen of a step of a body is told by its task. -/
theorem Body.part_of_next {name : String} {heard : Bool} {b : Body} {c : Change}
    (h : b.next? name heard = some c) : ∀ x ∈ c.events, x.part = .task := by
  cases does_of_next h with
  | quits _ _ _ _ => exact List.forall_mem_cons.2 ⟨rfl, part_of_failureEvents⟩
  | sees _ _ =>
    intro x hx
    obtain rfl := List.mem_singleton.1 hx
    rfl
  | leaves _ _ _ _ => exact part_of_clearedEvents
  | isCut _ _ =>
    intro x hx
    cases hx

/-- The end of a body that is clearing up comes after it was asked to stop. -/
theorem Body.le_of_leaving {name : String} {heard : Bool} {b : Body} {a : Moment} {c : Change}
    (hb : b.stage = .leaving a) (h : b.next? name heard = some c) :
    a.time ≤ c.moment.time ∧ ∃ f, c.stage = .over f := by
  simp only [Body.next?, hb] at h
  obtain ⟨q, hq, rfl⟩ := Option.map_eq_some_iff.1 h
  obtain ⟨e, -, rfl⟩ := Option.map_eq_some_iff.1 hq
  exact ⟨Nat.le_add_right _ _, _, rfl⟩

namespace Task

@[simp] theorem spawn_name (t : Task) (m : Moment) (p : Plan) : (t.spawn m p).1.name = t.name := by
  simp only [spawn]
  split <;> rfl

@[simp] theorem spawn_receiver (t : Task) (m : Moment) (p : Plan) :
    (t.spawn m p).1.receiver = t.receiver := by
  simp only [spawn]
  split <;> rfl

@[simp] theorem notify_name (t : Task) : t.notify.1.name = t.name := by
  simp only [notify]
  split <;> rfl

@[simp] theorem notify_body (t : Task) : t.notify.1.body = t.body := by
  simp only [notify]
  split <;> rfl

@[simp] theorem ask_name (t : Task) (m : Moment) : (t.ask m).name = t.name := by
  simp only [ask]
  split
  · split <;> rfl
  · rfl

@[simp] theorem abort_name (t : Task) (m : Moment) : (t.abort m).name = t.name := by
  simp only [abort]
  split <;> rfl

/-! ## A task in time -/

/-- Only a task with a body does anything next, and then it is what its body does. -/
theorem next?_eq_some {t : Task} {c : Change} (h : t.next? = some c) :
    ∃ b, t.body = some b ∧ b.next? t.name t.heard = some c :=
  Option.bind_eq_some_iff.1 h

/-- Whatever its body does, a task keeps its name. -/
theorem advanceSteps_name (limit n : Nat) (t : Task) : (advanceSteps limit n t).1.name = t.name := by
  induction n generalizing t with
  | zero => rfl
  | succ n ih =>
    simp only [advanceSteps]
    split
    · split
      · exact ih _
      · rfl
    · rfl

@[simp] theorem advance_name (limit : Nat) (t : Task) : (t.advance limit).1.name = t.name :=
  advanceSteps_name limit 2 t

/-- All that is seen while time passes is seen of the task. -/
theorem part_of_advanceSteps {limit n : Nat} {t : Task} :
    ∀ x ∈ (advanceSteps limit n t).2, x.2.part = .task := by
  induction n generalizing t with
  | zero =>
    intro x hx
    cases hx
  | succ n ih =>
    intro x hx
    simp only [advanceSteps] at hx
    split at hx
    · rename_i c hc
      obtain ⟨b, -, hnext⟩ := next?_eq_some hc
      split at hx
      · rcases List.mem_append.1 hx with hx | hx
        · obtain ⟨e, he, rfl⟩ := List.mem_map.1 hx
          exact Body.part_of_next hnext e he
        · exact ih x hx
      · cases hx
    · cases hx

/-- **What a task does in time is told by the task.** -/
theorem part_of_advance {limit : Nat} {t : Task} : ∀ x ∈ (t.advance limit).2, x.2.part = .task :=
  part_of_advanceSteps

/-- A task without a body does nothing. -/
theorem advance_of_body_none (limit : Nat) {t : Task} (h : t.body = none) : t.advance limit = (t, []) := by
  have hnext : t.next? = none := by rw [next?, h, Option.bind_none]
  simp only [advance, advanceSteps, hnext]

/-- A task whose body is over has the fate of the body. -/
theorem fate_of_setStage {t : Task} {b : Body} (h : t.body = some b) (f : Fate) :
    (t.setStage (.over f)).fate? = some f := by
  simp only [fate?, setStage, h, Option.map_some, Option.bind_some]

/-- There is nothing that comes after the end of a body. -/
theorem next?_of_over {t : Task} {b : Body} (h : t.body = some b) (f : Fate) :
    (t.setStage (.over f)).next? = none := by
  simp only [next?, setStage, h, Option.map_some, Option.bind_some, Body.next?]

/-- **A body whose end is foreseen for a time has ended after it.** -/
theorem fate_of_endTime {t : Task} {time limit : Nat} (h : t.endTime? = some time) (hl : time < limit) :
    (t.advance limit).1.fate?.isSome = true := by
  obtain ⟨c, hc, hend⟩ := Option.bind_eq_some_iff.1 h
  obtain ⟨b, hb, hnext⟩ := next?_eq_some hc
  rcases Body.next_cases hnext with ⟨f, hf⟩ | ⟨a, -, rfl⟩
  · -- it ends in its next step
    rw [hf] at hend
    obtain rfl := Option.some.inj hend
    simp only [advance, advanceSteps, hc, if_pos hl, hf, next?_of_over hb, fate_of_setStage hb,
      Option.isSome_some]
  · -- it sees the request first, and then ends
    obtain ⟨c', hc', rfl⟩ := Option.map_eq_some_iff.1 hend
    obtain ⟨b', hb', hnext'⟩ := next?_eq_some hc'
    have hstage : b'.stage = .leaving a := by
      simp only [setStage, hb, Option.map_some] at hb'
      rw [← Option.some.inj hb']
    obtain ⟨hle, f, hf⟩ := Body.le_of_leaving hstage hnext'
    have ha : a.time < limit := Nat.lt_of_le_of_lt hle hl
    simp only [advance, advanceSteps, hc, if_pos ha, hc', if_pos hl, hf, fate_of_setStage hb',
      Option.isSome_some]

/-! ## Tasks that serve -/

/-- Nobody has used the task: no body was spawned in it, and nobody has asked for its exit. -/
structure IsFresh (t : Task) : Prop where
  body : t.body = none
  receiver : t.receiver = .kept

/-- The task runs a body with this plan, and nobody has asked it to stop. -/
def Serves (t : Task) (p : Plan) : Prop := ∃ m, t.body = some { plan := p, spawned := m }

/-- It has run that body since a time. -/
def ServesSince (t : Task) (p : Plan) (time : Nat) : Prop :=
  ∃ turn, t.body = some { plan := p, spawned := ⟨time, turn⟩ }

/-- A body that serves since a time serves. -/
theorem ServesSince.serves {t : Task} {p : Plan} {time : Nat} (h : t.ServesSince p time) : t.Serves p := by
  obtain ⟨turn, hbody⟩ := h
  exact ⟨_, hbody⟩

/-- A body that has just been spawned serves since now. -/
theorem servesSince_of_spawn {t : Task} (h : t.body = none) (m : Moment) (p : Plan) :
    (t.spawn m p).1.ServesSince p m.time := by
  refine ⟨m.turn, ?_⟩
  simp only [spawn, isStarted, h, Option.isSome_none, Bool.false_eq_true, if_false]

/-- A body that serves has no fate yet. -/
theorem fate_of_serves {t : Task} {p : Plan} (h : t.Serves p) : t.fate? = none := by
  obtain ⟨m, hm⟩ := h
  simp only [fate?, hm, Option.bind_some]

/-- The end of a body that serves is foreseen exactly if its plan ends. -/
theorem endTime_of_serves {t : Task} {p : Plan} (h : t.Serves p) : t.endTime?.isSome = p.ends := by
  obtain ⟨m, hm⟩ := h
  -- nobody has asked it to stop, so no time comes before its end
  simp only [endTime?, next?, hm, Option.bind_some, Body.next?, Body.quits?, Option.map_none, within,
    Plan.ends]
  cases hs : p.serve with
  | none => rfl
  | some w =>
    simp only [Option.bind_some, Work.endAt?]
    cases he : w.ending with
    | none => rfl
    | some e => rfl

end Task

end Phrasebook.Lifecycle
