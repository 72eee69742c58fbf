import Mathlib.Data.List.Induction
import Phrasebook.Lifecycle.Upkeep
import Phrasebook.Proofs.Lifecycle.GoingOn
/-!
# Who stops the collector

The collector of the HTTP entry point is stopped by the body that has set it going, and by nobody else: it is
stopped exactly if the body has come to the end of what it does, because serving ended, well or with a failure.
Where the body broke down or was cut off, at a deadline or because the entry point was thrown away, the collector
makes its rounds for ever (`Upkeep.collector_stops_iff`), and `abandoned_collector_goes_on` shows it at it half
an hour later in each of these cases.
-/

set_option autoImplicit false

namespace Phrasebook.Lifecycle

open RateLimit

namespace Task

/-- A body that still does something has not come to its end. -/
theorem fate?_of_next {t : Task} {c : Change} (h : t.next? = some c) : t.fate? = none := by
  obtain ⟨b, hb, hnext⟩ := next?_eq_some h
  rw [fate?, hb, Option.bind_some]
  cases Body.does_of_next hnext with
  | quits _ _ hstage _ => rw [hstage]
  | sees _ hstage => rw [hstage]
  | leaves _ _ hstage _ => rw [hstage]
  | isCut _ hstage => rw [hstage]

/-- The end that a change brings, if it is one. -/
theorem fate?_setStage_of_next {t : Task} {c : Change} (h : t.next? = some c) :
    (t.setStage c.stage).fate? = match c.stage with
      | .over f => some f
      | _ => none := by
  obtain ⟨b, hb, -⟩ := next?_eq_some h
  rw [fate?, setStage, hb]
  rfl

end Task

namespace Upkeep

variable {u v : Upkeep}

/-- What can happen in one move to the end of the body, the collector and its passes. -/
inductive Does (u v : Upkeep) : Prop where
  | nothing (hf : v.task.fate? = u.task.fate?) (hc : v.collector = u.collector) (hp : v.passes = u.passes)
  | begins (hopen : u.task.fate? = none) (hf : v.task.fate? = none) (habsent : u.collector = .absent)
      (hc : v.collector = .fresh) (hp : v.passes = u.passes)
  | ends (f : Fate) (hopen : u.task.fate? = none) (hf : v.task.fate? = some f)
      (hc : v.collector = if f.isReturn then .stopped else u.collector) (hp : v.passes = u.passes)
  | goesRound (next : Nat) (halive : u.collector.isAlive = true) (hf : v.task.fate? = u.task.fate?)
      (hc : v.collector = .waiting next) (hp : u.passes <+: v.passes)

/-- A turn of the body is one of the things that happen. -/
theorem does_turn (u : Upkeep) : u.Does u.turn := by
  unfold turn
  split
  · rename_i hnew
    rw [isNew, Bool.and_eq_true] at hnew
    obtain ⟨habsent, hserving⟩ := hnew
    -- a body that serves has not ended
    have hopen : u.task.fate? = none := by
      cases hb : u.task.body with
      | none =>
        rw [hb] at hserving
        cases hserving
      | some b =>
        rw [hb, Option.map_some] at hserving
        rw [Task.fate?, hb, Option.bind_some]
        rcases hstage : b.stage with asked | asked | cut | f
        · rfl
        · rfl
        · rfl
        · rw [hstage] at hserving
          cases hserving
    exact .begins hopen hopen (eq_of_beq habsent) rfl rfl
  · split
    · rename_i c hc
      have hopen := Task.fate?_of_next hc
      have hfate := Task.fate?_setStage_of_next hc
      split
      · rcases hstage : c.stage with asked | asked | cut | f <;> rw [hstage] at hfate
        · exact .nothing (hfate.trans hopen.symm) rfl rfl
        · exact .nothing (hfate.trans hopen.symm) rfl rfl
        · exact .nothing (hfate.trans hopen.symm) rfl rfl
        · exact .ends f hopen hfate rfl rfl
      · exact .nothing rfl rfl rfl
    · exact .nothing rfl rfl rfl

/-- So is a round of the collector. -/
theorem does_round (u : Upkeep) (skips : Bool) (order : List String) (time : Millis) :
    u.Does (u.round skips order time) := by
  unfold round
  split
  · rename_i hfresh
    exact .goesRound _ (by rw [hfresh]; rfl) rfl rfl (List.prefix_refl _)
  · rename_i next hwaiting
    have halive : u.collector.isAlive = true := by rw [hwaiting]; rfl
    split
    · exact .nothing rfl rfl rfl
    · split
      · exact .goesRound _ halive rfl rfl (List.prefix_refl _)
      · exact .goesRound _ halive rfl rfl (List.prefix_append _ _)
  · exact .nothing rfl rfl rfl
  · exact .nothing rfl rfl rfl

/-- **One move**, whichever it is. -/
theorem does_step (u : Upkeep) (m : Move) : u.Does (u.step m) := by
  cases m with
  | start =>
    change u.Does u.start
    unfold start
    split
    · exact .nothing (Task.fate?_spawn _ _ _) rfl rfl
    · exact .nothing rfl rfl rfl
  | shutdown deadline => exact .nothing (Task.fate?_ask _ _) rfl rfl
  | giveUp => exact .nothing rfl rfl rfl
  | expire =>
    change u.Does u.expire
    unfold expire
    split
    · split
      · exact .nothing (Task.fate?_abort _ _) rfl rfl
      · exact .nothing rfl rfl rfl
    · exact .nothing rfl rfl rfl
  | drop => exact .nothing (Task.fate?_abort _ _) rfl rfl
  | turn => exact u.does_turn
  | round skips order time => exact u.does_round skips order time
  | request client time => exact .nothing rfl rfl rfl
  | pass span => exact .nothing rfl rfl rfl

/-! ## A collector that is stopped -/

/-- The collector is stopped exactly if the body has come to the end of what it does. -/
def Tidy (u : Upkeep) : Prop := u.collector = .stopped ↔ ∃ f, u.task.fate? = some f ∧ f.isReturn = true

/-- Whatever happens, the collector is stopped just when the body returns. -/
theorem Tidy.does (h : u.Tidy) (hdoes : u.Does v) : v.Tidy := by
  -- the collector is stopped in the very move that sees the body return, and by no other
  unfold Tidy at h ⊢
  cases hdoes with
  | nothing hf hc _ =>
    rw [hf, hc]
    exact h
  | begins _ hf _ hc _ =>
    rw [hf, hc]
    exact ⟨nofun, fun hex => nomatch hex.choose_spec.1⟩
  | ends f hopen hf hc _ =>
    have hnot : u.collector ≠ .stopped := by
      intro hs
      obtain ⟨f', hf', -⟩ := h.1 hs
      rw [hopen] at hf'
      cases hf'
    rw [hf, hc]
    cases hret : f.isReturn with
    | true => exact ⟨fun _ => ⟨f, rfl, hret⟩, fun _ => rfl⟩
    | false =>
      refine ⟨fun hs => absurd hs hnot, ?_⟩
      rintro ⟨f', hf', hret'⟩
      obtain rfl := Option.some.inj hf'
      rw [hret] at hret'
      cases hret'
  | goesRound next halive hf hc _ =>
    rw [hf, hc]
    refine ⟨nofun, fun hex => ?_⟩
    rw [h.2 hex] at halive
    cases halive

/-- The last move is made from where the others have led. -/
theorem run_concat (u : Upkeep) (moves : List Move) (m : Move) :
    u.run (moves ++ [m]) = (u.run moves).step m := by
  simp only [run, List.foldl_append, List.foldl_cons, List.foldl_nil]

/-- Moves in two parts are made one part after the other. -/
theorem run_append (u : Upkeep) (moves later : List Move) : u.run (moves ++ later) = (u.run moves).run later :=
  List.foldl_append

/-- So it is after any moves. -/
theorem Tidy.run (h : u.Tidy) (moves : List Move) : (u.run moves).Tidy := by
  induction moves using List.reverseRecOn with
  | nil => exact h
  | append_singleton moves m ih =>
    rw [run_concat]
    exact ih.does (does_step _ m)

/-- The body is over and the collector at rest, which then it stays. -/
structure AtRest (u v : Upkeep) : Prop where
  fate : v.task.fate? = u.task.fate?
  collector : v.collector = u.collector
  passes : v.passes = u.passes

/-- **Without a collector there are no passes.** -/
theorem atRest_run {f : Fate} (hf : u.task.fate? = some f) (hc : u.collector.isAlive = false) (later : List Move) :
    u.AtRest (u.run later) := by
  induction later using List.reverseRecOn with
  | nil => exact ⟨rfl, rfl, rfl⟩
  | append_singleton later m ih =>
    rw [run_concat]
    cases does_step (u.run later) m with
    | nothing hf' hc' hp' => exact ⟨hf'.trans ih.fate, hc'.trans ih.collector, hp'.trans ih.passes⟩
    | begins hopen =>
      rw [ih.fate, hf] at hopen
      cases hopen
    | ends _ hopen =>
      rw [ih.fate, hf] at hopen
      cases hopen
    | goesRound _ halive =>
      rw [ih.collector, hc] at halive
      cases halive

/-! ## A collector that is not stopped -/

/-- A body that has ended has ended, and does not stop the collector any more. -/
theorem alive_run {f : Fate} (hf : u.task.fate? = some f) (hc : u.collector.isAlive = true) (later : List Move) :
    (u.run later).task.fate? = some f ∧ (u.run later).collector.isAlive = true := by
  induction later using List.reverseRecOn with
  | nil => exact ⟨hf, hc⟩
  | append_singleton later m ih =>
    rw [run_concat]
    cases does_step (u.run later) m with
    | nothing hf' hc' _ => exact ⟨hf'.trans ih.1, by rw [hc']; exact ih.2⟩
    | begins hopen =>
      rw [ih.1] at hopen
      cases hopen
    | ends _ hopen =>
      rw [ih.1] at hopen
      cases hopen
    | goesRound _ _ hf' hc' => exact ⟨hf'.trans ih.1, by rw [hc']; rfl⟩

/-- **A collector that is alive makes another pass**, the next time that it has a turn when it is due and does
not skip the round. -/
theorem passes_of_alive (hc : u.collector.isAlive = true) :
    ∃ span, ∀ order time, ∃ removed,
      (u.run [.round true [] 0, .pass span, .round false order time]).passes =
        u.passes ++ [(u.now + span, removed)] := by
  cases hcollector : u.collector with
  | absent =>
    rw [hcollector] at hc
    cases hc
  | stopped =>
    rw [hcollector] at hc
    cases hc
  | fresh =>
    refine ⟨period, fun order time => ?_⟩
    simp [run, step, round, hcollector]
  | waiting next =>
    by_cases hdue : u.now < next
    · refine ⟨next - u.now, fun order time => ?_⟩
      have hthen : ¬ u.now + (next - u.now) < next := by omega
      simp [run, step, round, hcollector, hdue, hthen]
    · -- it skips the round that is due, and makes the one after it
      refine ⟨next + period - u.now, fun order time => ?_⟩
      have hthen : ¬ u.now + (next + period - u.now) < next + period := by omega
      simp [run, step, round, hcollector, hdue, hthen]

/-! ## When passes end -/

/-- **Who stops the collector.** Let the body of the HTTP task be over, after whatever moves: whenever and however
often the entry point was asked to stop, given up, cut off or thrown away, however serving went, and whatever turns
the collector and the requests had. No pass is made from then on, whatever follows, exactly if no collector was set
going or the body came to the end of what it does, well or with a failure. Otherwise, if it broke down or was cut
off, then whatever follows there is a time at which the collector makes another pass, if it does not skip the
round. -/
theorem collector_stops_iff (plan : Plan) (limiter : Limiter) (moves : List Move) {f : Fate}
    (hover : (run { plan, limiter } moves).task.fate? = some f) :
    let u := run { plan, limiter } moves
    ((∀ later, (u.run later).passes = u.passes) ↔
      u.collector = .absent ∨ f = .ok ∨ ∃ c heard, f = .failed c heard) ∧
    (u.collector ≠ .absent → (f = .aborted ∨ ∃ m, f = .broke m) →
      ∀ later, ∃ span, ∀ order time, ∃ removed,
        (u.run (later ++ [.round true [] 0, .pass span, .round false order time])).passes =
          (u.run later).passes ++ [((u.run later).now + span, removed)]) := by
  intro u
  have htidy : u.Tidy := Tidy.run (by simp [Tidy, Task.fate?]) moves
  have hgoesOn (halive : u.collector.isAlive = true) (later : List Move) : ∃ span, ∀ order time, ∃ removed,
      (u.run (later ++ [.round true [] 0, .pass span, .round false order time])).passes =
        (u.run later).passes ++ [((u.run later).now + span, removed)] := by
    simp only [run_append]
    exact passes_of_alive (alive_run hover halive later).2
  have hreturn : f.isReturn = true ↔ f = .ok ∨ ∃ c heard, f = .failed c heard := by
    cases f <;> simp [Fate.isReturn]
  -- it was set going and the body has not stopped it
  have hcollector : u.collector.isAlive = true ↔ u.collector ≠ .absent ∧ ¬ f.isReturn = true := by
    have hstopped : u.collector = .stopped ↔ f.isReturn = true := by
      refine Iff.trans htidy ?_
      rw [hover]
      constructor
      · rintro ⟨f', hf, hret⟩
        rwa [Option.some.inj hf]
      · exact fun hret => ⟨f, rfl, hret⟩
    rw [← hstopped]
    cases u.collector <;> simp [Collector.isAlive]
  constructor
  · rw [← hreturn]
    constructor
    · -- the pass that it would make belies that there are none
      intro hquiet
      by_contra hnot
      push Not at hnot
      obtain ⟨span, hpass⟩ := hgoesOn (hcollector.2 ⟨hnot.1, hnot.2⟩) []
      obtain ⟨removed, hpass⟩ := hpass [] 0
      rw [hquiet, hquiet] at hpass
      simp at hpass
    · intro hrest later
      have hdead : u.collector.isAlive = false := by
        rw [← Bool.not_eq_true, hcollector]
        tauto
      exact (atRest_run hover hdead later).passes
  · intro hbegun hcut
    refine hgoesOn (hcollector.2 ⟨hbegun, ?_⟩)
    rcases hcut with rfl | ⟨m, rfl⟩ <;> simp [Fate.isReturn]

/-- An entry point before its start, with a client that has not been seen for long. -/
def idle (plan : Plan) : Upkeep := { plan, limiter := { rule := ⟨1, 1⟩, buckets := [("10.0.0.1", ⟨0, 1000, 0⟩)] } }

/-- It stops by the deadline. -/
def graceful : List Move := [.start, .turn, .round true [] 0, .shutdown 50, .turn, .turn]

/-- A body that stops by its deadline stops the collector, and no pass is made however long one waits. -/
theorem graceful_end_stops_collector :
    ((idle {}).run graceful).task.fate? = some .ok ∧
      ∀ later, (((idle {}).run graceful).run later).passes = [] := by
  have hover : ((idle {}).run graceful).task.fate? = some .ok := rfl
  refine ⟨hover, fun later => ?_⟩
  exact (collector_stops_iff {} (idle {}).limiter graceful hover).1.2 (Or.inr (Or.inl rfl)) later

/-- Its body does not stop by the deadline and is cut off. -/
def overdue : Upkeep :=
  (idle { leave := { ending := none } }).run [.start, .turn, .shutdown 50, .turn, .pass 50, .expire, .turn]

/-- Its body does not stop. The wait for that is given up, and the entry point thrown away. -/
def thrownAway : Upkeep :=
  (idle { leave := { ending := none } }).run [.start, .turn, .shutdown 50, .turn, .pass 30, .giveUp, .drop, .turn]

/-- Its body breaks down. -/
def brokenDown : Upkeep :=
  (idle { serve := some { delay := 30, ending := some (.error (.broke "boom")) } }).run
    [.start, .turn, .pass 30, .turn]

/-- Half an hour and a bit. -/
def halfHour : List Move := [.round true [] 0, .pass 1800050, .round false ["10.0.0.1"] 1800050]

/-- **The collector outlives the task** that is cut off at the deadline, that is cut off because the entry point is
thrown away, or that breaks down: half an hour later it makes a pass and removes a bucket. -/
theorem abandoned_collector_goes_on :
    (overdue.task.fate? = some .aborted ∧ overdue.passes = [] ∧
      (overdue.run halfHour).passes = [(1800100, 1)]) ∧
    (thrownAway.task.fate? = some .aborted ∧ thrownAway.passes = [] ∧
      (thrownAway.run halfHour).passes = [(1800080, 1)]) ∧
    (brokenDown.task.fate? = some (.broke "boom") ∧ brokenDown.passes = [] ∧
      (brokenDown.run halfHour).passes = [(1800080, 1)]) := by
  refine ⟨⟨rfl, rfl, ?_⟩, ⟨rfl, rfl, ?_⟩, ⟨rfl, rfl, ?_⟩⟩ <;> decide

end Upkeep

end Phrasebook.Lifecycle
