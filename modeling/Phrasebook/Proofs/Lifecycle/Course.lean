import Phrasebook.Proofs.Lifecycle.Supervisor
/-!
# The course of a whole run

Transports are built, started, waited for and shut down. Whatever their bodies do and whenever, however
their shutting down goes, whatever the time limit and whenever a signal comes, a run that comes to its end
has taken one course (`course`), which depends on nothing but what is wanted, the trigger and the records.

The lead result is `Supervisor.run_keeps_course`. It also says when a run comes to its end: if there is a
signal or a body that ends, and only then.
-/

set_option autoImplicit false

namespace Phrasebook.Lifecycle

/-- What is told until everything runs. -/
def opening (wanted : Transport → Bool) : List Event :=
  Transport.constructOrder.flatMap (Slots.building wanted) ++ [.moved .constructing .starting] ++
    (Transport.startOrder.filter wanted).flatMap (fun k => [.starting k, .started k]) ++
    [.moved .starting .running]

/-- What is told in a whole run. -/
def course (wanted : Transport → Bool) (report : RunReport) : List Event :=
  opening wanted ++ [.triggered report.trigger, .moved .running .shuttingDown] ++
    report.outcome.records.flatMap Supervisor.closing ++
    [.passed report.outcome.failures.length report.outcome.records.length, .moved .shuttingDown .exited]

/-- A run has come to its end by the course, with a record for each wanted transport in the order of
shutting down, and not because of a transport that is not wanted. -/
structure Lawful (wanted : Transport → Bool) (report : RunReport) (s : Supervisor) : Prop where
  plot : s.slots.crew.plot = course wanted report
  kinds : report.outcome.kinds = Transport.shutdownOrder.filter wanted
  phase : s.phase = .exited
  trigger : ∀ k e, report.trigger = .service k e → wanted k = true

/-! ## Everything runs -/

/-- The transports that were built: those that are wanted, with a fresh task each. -/
structure Built (conduct : Transport → Conduct) (wanted : Transport → Bool) (s : Slots) : Prop where
  conduct : s.conduct = conduct
  plot : s.crew.plot = Transport.constructOrder.flatMap (Slots.building wanted)
  tasks : s.crew.tasks = (Transport.constructOrder.filter wanted).map fun k => { name := k.name }

/-- Every transport is built at its place in the order. -/
theorem mem_constructOrder (k : Transport) : k ∈ Transport.constructOrder := by
  cases k <;> decide

/-- If the builds of all wanted transports go well they are built. -/
theorem construct_of_built (conduct : Transport → Conduct) {wanted : Transport → Bool}
    {build : Transport → Work} (hbuild : ∀ k, wanted k = true → (build k).ending = some (.ok ()))
    (begun : Nat) :
    ∃ slots, Slots.construct { conduct, crew := { now := begun } } wanted build = (some (.ok ()), slots) ∧
      Built conduct wanted slots := by
  obtain ⟨slots, heq, hconduct, hplot, htasks⟩ :=
    Slots.constructEach_of_built wanted build Transport.constructOrder
      (fun k _ => hbuild k) (Slots.unbuilt_of_tasks_nil (s := { conduct, crew := { now := begun } })
        (by decide) rfl)
  exact ⟨slots, heq, hconduct, hplot, htasks⟩

namespace Built

variable {conduct : Transport → Conduct} {wanted : Transport → Bool} {slots : Slots}

/-- What has been built is what was wanted. -/
theorem enabled (h : Built conduct wanted slots) : slots.enabled = wanted := by
  funext k
  rw [Bool.eq_iff_iff]
  unfold Slots.enabled
  rw [Crew.get?_isSome, Crew.names, h.tasks, List.map_map, List.mem_map]
  constructor
  · rintro ⟨k', hk', hname⟩
    rw [← Transport.name_inj hname]
    exact (List.mem_filter.1 hk').2
  · intro hk
    exact ⟨k, List.mem_filter.2 ⟨mem_constructOrder k, hk⟩, rfl⟩

/-- Its tasks are fresh. -/
theorem fresh (h : Built conduct wanted slots) {name : String} {t : Task}
    (ht : slots.crew.get? name = some t) : t.IsFresh := by
  have hmem := List.mem_of_find?_eq_some ht
  rw [h.tasks] at hmem
  obtain ⟨k, -, rfl⟩ := List.mem_map.1 hmem
  exact ⟨rfl, rfl⟩

/-- Everything has run since the building was done, and nobody has asked for the exits. -/
theorem servesSince (h : Built conduct wanted slots) (timeout : Nat) {k : Transport} {t : Task}
    (ht : (Supervisor.ofSlots slots timeout).startAll.1.slots.crew.get? k.name = some t) :
    t.ServesSince (conduct k).plan slots.crew.now ∧ t.receiver = .kept := by
  have hfresh : ∀ k ∈ Transport.startOrder, ∀ t, slots.crew.get? k.name = some t → t.IsFresh :=
    fun k _ t ht => h.fresh ht
  rw [← h.conduct]
  exact Supervisor.serves_startEach Transport.startOrder (by decide) (Supervisor.ofSlots slots timeout) hfresh
    (k := k) (mem_constructOrder k) (t := t) ht

/-- **Everything that is wanted runs** once all is started. -/
theorem startAll (h : Built conduct wanted slots) (timeout : Nat) :
    let s := (Supervisor.ofSlots slots timeout).startAll.1
    s.slots.crew.plot = opening wanted ∧ s.slots.enabled = wanted ∧ s.slots.conduct = conduct ∧
      s.phase = .running ∧ s.Serving := by
  let new : Supervisor := { slots, timeout }
  let given := Supervisor.ofSlots slots timeout
  have hgiven : new.Tells given [.moved .constructing .starting] := new.tells_move .starting
  have hnew : given.slots.enabled = wanted := hgiven.slots.enabled.trans h.enabled
  obtain ⟨hstarted, hphase, -⟩ := Supervisor.tells_startAll (s := given) rfl
  rw [hnew] at hstarted
  have hall := hgiven.trans hstarted
  refine ⟨?_, hall.slots.enabled.trans h.enabled, hall.slots.conduct.trans h.conduct, hphase, ?_⟩
  · refine hall.slots.crew.plot.trans ?_
    rw [show new.slots.crew.plot = _ from h.plot]
    simp only [opening, List.append_assoc]
  · intro k t ht
    obtain ⟨hserves, hkept⟩ := h.servesSince timeout ht
    have hsame := (hall.slots.conduct.trans h.conduct).symm
    exact ⟨congrFun hsame k ▸ hserves.serves, hkept⟩

end Built

namespace Supervisor

/-- **Every run keeps to the course.** Builds that succeed build what is wanted; the exits of what is wanted
are listened for and no others; a run never breaks down, and when it ends it has kept to the course. Without
an outer limit it ends exactly if there is a signal or a body that ends; without either it stays in the
running phase, up to any limit. -/
theorem run_keeps_course (conduct : Transport → Conduct) (wanted : Transport → Bool)
    (build : Transport → Work) (hbuild : ∀ k, wanted k = true → (build k).ending = some (.ok ()))
    (hsound : ∀ k, wanted k = true → (conduct k).closing.Sound) (begun timeout : Nat)
    (signal : Option Signal) (limit : Option Nat) (first : Nat) :
    ∃ slots, Slots.construct { conduct, crew := { now := begun } } wanted build = (some (.ok ()), slots) ∧
      (notifyEach Transport.shutdownOrder (ofSlots slots timeout).startAll.1).2 =
        Transport.shutdownOrder.filter wanted ∧
      (∀ f, ((ofSlots slots timeout).run signal limit first).1 ≠ some (.error f)) ∧
      (∀ report s, (ofSlots slots timeout).run signal limit first = (some (.ok report), s) →
        Lawful wanted report s) ∧
      (limit = none → (((ofSlots slots timeout).run signal limit first).1 = none ↔
        signal = none ∧ ∀ k, wanted k = true → (conduct k).plan.ends = false)) ∧
      (signal = none → (∀ k, wanted k = true → (conduct k).plan.ends = false) →
        ∃ s, (ofSlots slots timeout).run signal limit first = (none, s) ∧ s.phase = .running ∧
          s.slots.crew.plot = opening wanted) := by
  obtain ⟨slots, hconstruct, hbuilt⟩ := construct_of_built conduct hbuild begun
  obtain ⟨hplot, henabled, hconduct, hphase, hserving⟩ := hbuilt.startAll timeout
  have hheard := hserving.heard
  have hcases := (ofSlots slots timeout).run_cases signal limit first
    (by rw [henabled, hconduct]; exact hsound)
  rw [henabled] at hheard
  have hnothing : signal = none → (∀ k, wanted k = true → (conduct k).plan.ends = false) →
      ((ofSlots slots timeout).startAll.1.waited signal limit first).1 = none := by
    rintro rfl hends
    exact hserving.waited_of_nothing (by rw [henabled, hconduct]; exact hends) limit first
  refine ⟨slots, hconstruct, hheard, ?_⟩
  rcases hcases with ⟨report, s, hrun, htells, hexited, hkinds, htrigger, hwaited⟩ |
      ⟨s, hrun, hlimit, hwaited⟩ | ⟨s, hrun, htells, hrunning, hwaited⟩
  · -- it has ended
    rw [hrun]
    refine ⟨?_, ?_, ?_, ?_⟩
    · rintro f ⟨⟩
    · intro report' s' heq
      obtain ⟨hreport, rfl⟩ := Prod.mk.inj heq
      obtain rfl := Except.ok.inj (Option.some.inj hreport)
      refine ⟨?_, ?_, hexited, ?_⟩
      · rw [htells.slots.crew.plot, hplot, hphase]
        simp only [course, List.append_assoc]
      · rw [hkinds, henabled]
      · intro k e hk
        have hmem := htrigger k e hk
        rw [hheard] at hmem
        exact (List.mem_filter.1 hmem).2
    · intro _
      constructor
      · rintro ⟨⟩
      · rintro ⟨hsignal, hends⟩
        exact absurd (hnothing hsignal hends) hwaited
    · intro hsignal hends
      exact absurd (hnothing hsignal hends) hwaited
  · -- the outer limit came while it was shutting down
    rw [hrun]
    refine ⟨?_, ?_, ?_, ?_⟩
    · rintro f ⟨⟩
    · rintro report s' ⟨⟩
    · rintro rfl
      cases hlimit
    · intro hsignal hends
      exact absurd (hnothing hsignal hends) hwaited
  · -- nothing has ended the wait
    rw [hrun]
    refine ⟨?_, ?_, ?_, ?_⟩
    · rintro f ⟨⟩
    · rintro report s' ⟨⟩
    · rintro rfl
      have hnone := hserving.nothing_of_waited hwaited
      rw [henabled, hconduct] at hnone
      exact ⟨fun _ => hnone, fun _ => rfl⟩
    · intro _ _
      refine ⟨s, rfl, hrunning.trans hphase, ?_⟩
      rw [htells.slots.crew.plot, hplot, List.append_nil]

/-! ## A troubled run

The body of one transport fails, another one cannot be shut down in time, a third one stops its task and then
says that it cannot be shut down, and the fourth is not wanted. -/

/-- How the transports of the troubled run behave. -/
def troubled : Transport → Conduct
  | .http => { plan := { serve := some { delay := 5, ending := some (.error (.failed ⟨"boom", []⟩)) } } }
  | .grpc => { closing := .instead { ending := none } }
  | .amqp => { closing := .stopping {} fun _ => { ending := some (.error (.failed ⟨"stuck", []⟩)) } }
  | .nats => {}

/-- A run with a body that fails, a shutdown that hangs and one that fails keeps its course all the same. -/
theorem troubled_run_keeps_course :
    (∀ k, (k != .nats) = true → (troubled k).closing.Sound) ∧
      ∃ slots, Slots.construct { conduct := troubled } (· != .nats) (fun _ => { delay := 3 }) =
          (some (.ok ()), slots) ∧
        ∃ report s, (ofSlots slots 10).run none none = (some (.ok report), s) ∧
          Lawful (· != .nats) report s ∧ report.outcome.kinds = [.http, .grpc, .amqp] := by
  have hsound : ∀ k, (k != .nats) = true → (troubled k).closing.Sound := by
    intro k _
    cases k with
    | grpc => rintro m ⟨⟩
    | http | amqp | nats => exact Closing.sound_stopping (fun m h => nomatch h) (by rintro ⟨⟩ m ⟨⟩)
  obtain ⟨slots, hconstruct, -, herror, hlawful, hends, -⟩ :=
    run_keeps_course troubled (· != .nats) (fun _ => { delay := 3 })
      (fun _ _ => rfl) hsound 0 10 none none 0
  refine ⟨hsound, slots, hconstruct, ?_⟩
  rcases hrun : (ofSlots slots 10).run none none 0 with ⟨r, s⟩
  rw [hrun] at herror hends
  rcases r with _ | (f | report)
  · have hnone := ((hends rfl).1 rfl).2 .http (by decide)
    cases hnone
  · exact absurd rfl (herror f)
  · exact ⟨report, s, rfl, hlawful report s hrun, (hlawful report s hrun).kinds.trans (by decide)⟩

end Supervisor

end Phrasebook.Lifecycle
