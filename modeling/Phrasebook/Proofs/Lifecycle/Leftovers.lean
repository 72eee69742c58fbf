import Phrasebook.Proofs.Lifecycle.Supervisor
import Phrasebook.Proofs.Lifecycle.Tending
/-!
# Nothing is left running

Once the supervisor is done with shutting down, whether it has come through or the wait for it was given up,
no body runs any more: each has come to its end or is being cut off (`Supervisor.no_body_outlives`). This
holds whatever the bodies do and however their transports shut down, because the transports stay tended
through everything that is done to them, and the supervisor lets go of them last.

The transports and supervisors that the result speaks of are those that can come about: transports that were
built, and then whatever can be done to them, first by hand and then by the supervisor.
-/

set_option autoImplicit false

namespace Phrasebook.Lifecycle

/-! ## Through everything that is done to the transports -/

namespace Slots

/-- Starting a transport spawns a body or does nothing. -/
theorem leads_start (s : Slots) (k : Transport) : s.crew.Leads (s.start k).1.crew := by
  unfold start
  split
  · exact (s.crew.leads_emit _).trans (Crew.leads_spawn _ _ _)
  · exact .refl _

/-- Asking a transport for its exit keeps every body. -/
theorem leads_notify (s : Slots) (k : Transport) : s.crew.Leads (s.notify k).1.crew :=
  s.crew.leads_notify k.name

/-- Shutting a transport down is made of work and of stopping its task, each of which leads on. -/
theorem leads_shutdown_of_told (s : Slots) (k : Transport) (deadline : Nat) (limit : Option Nat) :
    (s.emit (.shuttingDown k)).crew.Leads (s.shutdown k deadline limit).2.crew := by
  unfold shutdown
  dsimp only
  split
  · rename_i w _
    exact Crew.leads_work _ w limit
  · rename_i w last _
    have hwork := Crew.leads_work (s.emit (.shuttingDown k)).crew w limit
    split
    · rename_i crew heq
      rw [heq] at hwork
      exact hwork.trans (crew.leads_stopAnd k.name deadline last limit)
    · rename_i r crew _ heq
      rw [heq] at hwork
      exact hwork

/-- So shutting it down leads on, with the note that it begins. -/
theorem leads_shutdown (s : Slots) (k : Transport) (deadline : Nat) (limit : Option Nat) :
    s.crew.Leads (s.shutdown k deadline limit).2.crew :=
  (s.crew.leads_emit _).trans (s.leads_shutdown_of_told k deadline limit)

end Slots

/-- Building leaves a crew tended: no body runs yet. -/
theorem Slots.tended_constructEach (wanted : Transport → Bool) (build : Transport → Work) (ks : List Transport)
    {s : Slots} (h : s.crew.Tended) : (constructEach wanted build ks s).2.crew.Tended := by
  induction ks generalizing s with
  | nil => exact h
  | cons k rest ih =>
    unfold constructEach
    split
    · exact ih ((s.crew.leads_emit _).tended h)
    · have hwork : ((s.emit (.constructing k)).crew.work (build k) none).2.Tended :=
        ((s.crew.leads_emit _).trans (Crew.leads_work _ _ none)).tended h
      dsimp only
      split
      · exact ih (((Crew.leads_emit _ _).tended hwork).put k.name)
      · exact hwork
      · exact hwork

namespace Supervisor

/-- The supervisor's own starting of a transport leads on. -/
theorem leads_launched (s : Supervisor) (k : Transport) : s.slots.crew.Leads (s.launched k).slots.crew := by
  unfold launched
  split
  · exact (s.slots.leads_start k).trans (Crew.leads_emit _ _)
  · exact .refl _

/-- Starting one transport after the other leads on. -/
theorem leads_startEach (ks : List Transport) (s : Supervisor) :
    s.slots.crew.Leads (startEach ks s).1.slots.crew := by
  induction ks generalizing s with
  | nil => exact .refl _
  | cons k rest ih =>
    rw [startEach_cons]
    exact (s.leads_launched k).trans (ih _)

/-- So does starting them all, or ignoring the request. -/
theorem leads_startAll (s : Supervisor) : s.slots.crew.Leads s.startAll.1.slots.crew := by
  unfold startAll
  split
  · have hmove := Crew.leads_emit (startEach Transport.startOrder s).1.slots.crew
    exact (s.leads_startEach Transport.startOrder).trans (hmove _)
  · exact Crew.leads_emit _ _

/-- So does asking for exits. -/
theorem leads_notifyEach (ks : List Transport) (s : Supervisor) :
    s.slots.crew.Leads (notifyEach ks s).1.slots.crew := by
  induction ks generalizing s with
  | nil => exact .refl _
  | cons k rest ih => exact (s.slots.leads_notify k).trans (ih { s with slots := (s.slots.notify k).1 })

/-- So does giving up listening. -/
theorem leads_unhear (s : Supervisor) (ks : List Transport) : s.slots.crew.Leads (s.unhear ks).slots.crew := by
  show s.slots.crew.Leads (ks.foldl (fun c k => c.unhear k.name) s.slots.crew)
  generalize s.slots.crew = c
  induction ks generalizing c with
  | nil => exact .refl c
  | cons k rest ih => exact (c.leads_unhear k.name).trans (ih _)

/-- So does the whole wait for a trigger. -/
theorem leads_waitAny (s : Supervisor) (signal : Option Signal) (limit : Option Nat) (first : Nat) :
    s.slots.crew.Leads (s.waitAny signal limit first).2.slots.crew := by
  have hawake : s.slots.crew.Leads (s.awake signal limit first).slots.crew :=
    (s.leads_notifyEach Transport.shutdownOrder).trans (Crew.leads_await _ _ _ _ _)
  have hunhear := hawake.trans
    ((s.awake signal limit first).leads_unhear (notifyEach Transport.shutdownOrder s).2)
  rw [waitAny_eq]
  split
  · exact (hunhear.trans (Crew.leads_emit _ _)).trans (Crew.leads_emit _ _)
  · exact hunhear

/-- So does noting how a transport shut down. -/
theorem leads_closed {s : Supervisor} {slots : Slots} (h : s.slots.crew.Leads slots.crew)
    (r : ShutdownRecord) : s.slots.crew.Leads (s.closed slots r).slots.crew :=
  h.trans (Crew.leads_emit _ _)

/-- Shutting one transport down after the other leads on, whatever becomes of each. -/
theorem leads_shutdownEach (limit : Option Nat) (ks : List Transport) (s : Supervisor) :
    s.slots.crew.Leads (shutdownEach limit ks s).2.slots.crew := by
  induction ks generalizing s with
  | nil => exact .refl _
  | cons k rest ih =>
    by_cases h : s.slots.enabled k = true
    · have hround := s.slots.leads_shutdown k s.timeout
        (some (sooner (s.slots.crew.now + s.timeout) limit))
      rcases shutdownEach_of_enabled limit rest h with ⟨result, -, heq⟩ | ⟨m, -, heq⟩ | ⟨-, heq⟩
      · have hclosed := leads_closed hround ⟨k, result⟩
        rw [heq]
        exact hclosed.trans (ih _)
      · rw [heq]
        exact hround
      · rw [heq]
        exact hround
    · rw [shutdownEach_of_not_enabled limit rest h]
      exact ih s

/-- Without an outer limit shutting down comes to an end. -/
theorem shutdownEach_ne_none (ks : List Transport) (s : Supervisor) : (shutdownEach none ks s).1 ≠ none := by
  induction ks generalizing s with
  | nil => exact Option.some_ne_none _
  | cons k rest ih =>
    by_cases h : s.slots.enabled k = true
    · rcases shutdownEach_of_enabled none rest h with ⟨result, -, heq⟩ | ⟨m, -, heq⟩ | ⟨hlimit, -⟩
      · rw [heq]
        exact mt Option.map_eq_none_iff.1 (ih _)
      · rw [heq]
        exact Option.some_ne_none _
      · cases hlimit
    · rw [shutdownEach_of_not_enabled none rest h]
      exact ih s

/-- Turning to shutting down leads on. -/
theorem leads_entered (s : Supervisor) : s.slots.crew.Leads s.entered.slots.crew := by
  unfold entered
  split
  · exact .refl _
  · exact Crew.leads_emit _ _

/-- So does exiting. -/
theorem leads_exited (s : Supervisor) (o : ShutdownOutcome) : s.slots.crew.Leads (s.exited o).slots.crew :=
  (Crew.leads_emit _ _).trans (Crew.leads_emit _ _)

/-- When all has been shut down, what still runs is cut off, last of all and whatever came of the shutting down. -/
theorem leads_shutdownAll (s : Supervisor) (limit : Option Nat) :
    ∃ v : Supervisor, s.slots.crew.Leads v.slots.crew ∧ (s.shutdownAll limit).2 = v.close := by
  have hall := s.leads_entered.trans (leads_shutdownEach limit Transport.shutdownOrder s.entered)
  rcases s.shutdownAll_eq limit with ⟨records, -, heq⟩ | ⟨f, -, heq⟩ | ⟨-, heq⟩
  · exact ⟨_, hall.trans (leads_exited _ _), by rw [heq]⟩
  · exact ⟨_, hall, by rw [heq]⟩
  · exact ⟨_, hall, by rw [heq]⟩

/-- Without an outer limit something comes of shutting all down. -/
theorem shutdownAll_ne_none (s : Supervisor) : (s.shutdownAll none).1 ≠ none := by
  rcases s.shutdownAll_eq none with ⟨records, -, heq⟩ | ⟨f, -, heq⟩ | ⟨hnone, -⟩
  · rw [heq]
    exact Option.some_ne_none _
  · rw [heq]
    exact Option.some_ne_none _
  · exact absurd hnone (shutdownEach_ne_none _ _)

end Supervisor

/-! ## What can come about -/

/-- Transports that have been built, and have then been started, asked for their exits and shut down in any
order. -/
inductive Slots.Reached : Slots → Prop where
  | constructed (conduct : Transport → Conduct) (wanted : Transport → Bool) (build : Transport → Work)
      (begun : Nat) {s : Slots}
      (h : construct { conduct, crew := { now := begun } } wanted build = (some (.ok ()), s)) : Reached s
  | started {s : Slots} (h : Reached s) (k : Transport) : Reached (s.start k).1
  | notified {s : Slots} (h : Reached s) (k : Transport) : Reached (s.notify k).1
  | unheard {s : Slots} (h : Reached s) (k : Transport) : Reached (s.onCrew (·.unhear k.name))
  | shutDown {s : Slots} (h : Reached s) (k : Transport) (deadline : Nat) (limit : Option Nat) :
      Reached (s.shutdown k deadline limit).2
  | slept {s : Slots} (h : Reached s) (time : Nat) : Reached (s.onCrew (·.sleepUntil time))

/-- Transports are tended wherever they can get. -/
theorem Slots.Reached.tended {s : Slots} (h : s.Reached) : s.crew.Tended := by
  induction h with
  | constructed conduct wanted build begun h =>
    have hbuilt := tended_constructEach wanted build Transport.constructOrder
      (s := { conduct, crew := { now := begun } }) ⟨List.nodup_nil, fun _ h => nomatch h⟩
    unfold construct at h
    rwa [h] at hbuilt
  | started _ k ih => exact (leads_start _ k).tended ih
  | notified _ k ih => exact (leads_notify _ k).tended ih
  | unheard _ k ih => exact (Crew.leads_unhear _ k.name).tended ih
  | shutDown _ k deadline limit ih => exact (leads_shutdown _ k deadline limit).tended ih
  | slept _ time ih => exact (Crew.leads_sleepUntil _ time).tended ih

namespace Supervisor

/-- What the supervisor comes to by starting everything, by waiting for a trigger and by letting time pass, in
any order and any number of times. -/
inductive Onward (s : Supervisor) : Supervisor → Prop where
  | refl : Onward s s
  | started {s' : Supervisor} (h : Onward s s') : Onward s s'.startAll.1
  | waited {s' : Supervisor} (h : Onward s s') (signal : Option Signal) (limit : Option Nat) (first : Nat) :
      Onward s (s'.waitAny signal limit first).2
  | slept {s' : Supervisor} (h : Onward s s') (time : Nat) : Onward s (s'.onCrew (·.sleepUntil time))

/-- What supervisors of transports can come to. -/
def Reached (s : Supervisor) : Prop :=
  ∃ slots timeout, Slots.Reached slots ∧ (ofSlots slots timeout).Onward s

/-- What the supervisor does on the way leads on. -/
theorem Onward.leads {s s' : Supervisor} (h : s.Onward s') : s.slots.crew.Leads s'.slots.crew := by
  induction h with
  | refl => exact .refl _
  | started _ ih => exact ih.trans (leads_startAll _)
  | waited _ signal limit first ih => exact ih.trans (leads_waitAny _ signal limit first)
  | slept _ time ih => exact ih.trans (Crew.leads_sleepUntil _ time)

/-- So its transports are tended wherever it can get. -/
theorem Reached.tended {s : Supervisor} (h : s.Reached) : s.slots.crew.Tended := by
  obtain ⟨slots, timeout, hslots, honward⟩ := h
  exact ((Crew.leads_emit _ _).trans honward.leads).tended hslots.tended

/-- **No body outlives the supervisor.** Shutting everything down comes to an end, and after it, or after the
wait for it was given up, each body that was ever spawned has come to its end or is being cut off, and shows
nothing any more. -/
theorem no_body_outlives {s s' : Supervisor} (h : s.Reached) (h' : s.Onward s') (limit : Option Nat) :
    (limit = none → (s'.shutdownAll limit).1 ≠ none) ∧
      ∀ name t b, s.slots.crew.get? name = some t → t.body = some b →
        ∃ t' b', (s'.shutdownAll limit).2.slots.crew.get? name = some t' ∧ t'.body = some b' ∧
          b'.plan = b.plan ∧ b'.spawned = b.spawned ∧ b'.stage.Ended ∧
          ∀ time, (t'.advance time).2 = [] := by
  obtain ⟨v, hleads, hclose⟩ := s'.leads_shutdownAll limit
  refine ⟨fun hnone => hnone ▸ s'.shutdownAll_ne_none, ?_⟩
  intro name t b ht hb
  have hall := h'.leads.trans hleads
  obtain ⟨t', ht', hsame⟩ := (hall.trans v.slots.crew.leads_close).bodies name t ht
  obtain ⟨b', hb', hplan, hspawned⟩ := hsame b hb
  -- whatever was not let go of before is let go of now
  have hended : ∀ b, t'.body = some b → b.stage.Ended :=
    fun b hb => (hall.tended h.tended).ended_close ht' hb
  rw [hclose]
  exact ⟨t', b', ht', hb', hplan, hspawned, hended b' hb', Task.quiet_of_ended hended⟩

/-! ### Stubborn transports

One body does not end when it is asked to stop, and is cut off by the one who stops it. The transport of the
second never comes to stopping it, and that of the third says that it cannot. The fourth has been asked to stop
when the time limit comes, and is not waited for any longer. -/

/-- How the stubborn transports behave. -/
def stubborn : Transport → Conduct
  | .http => { plan := { leave := { ending := none } } }
  | .grpc => { closing := .stopping { ending := none } }
  | .amqp => { closing := .instead { ending := some (.error (.failed ⟨"stuck", []⟩)) } }
  | .nats => { plan := { leave := { delay := 20 } }, closing := .stopping { delay := 1 } }

/-- The stubborn transports, started under supervision. -/
def stubbornStart : Supervisor :=
  (ofSlots (Slots.construct { conduct := stubborn } (fun _ => true) fun _ => {}).2 10).startAll.1

/-- No body of the stubborn transports outlives the shutting down, although one is slow to leave, one does not
leave at all, and one is never stopped. -/
theorem stubborn_bodies_do_not_outlive :
    let s := (stubbornStart.waitAny (some ⟨"SIGTERM", 5⟩) none).2
    stubbornStart.Reached ∧ stubbornStart.Onward s ∧
      (∀ k : Transport, ((stubbornStart.slots.crew.get? k.name).bind (·.body)).isSome = true ∧
        ((s.slots.crew.get? k.name).bind (·.fate?)) = none) ∧
      ∀ k : Transport, ∃ t b, (s.shutdownAll none).2.slots.crew.get? k.name = some t ∧ t.body = some b ∧
        b.stage.Ended := by
  intro s
  have hreached : stubbornStart.Reached :=
    ⟨_, 10, .constructed stubborn (fun _ => true) (fun _ => {}) 0 rfl, .started .refl⟩
  have honward : stubbornStart.Onward s := .waited .refl (some ⟨"SIGTERM", 5⟩) none 0
  have hrunning : ∀ k : Transport, ((stubbornStart.slots.crew.get? k.name).bind (·.body)).isSome = true ∧
      ((s.slots.crew.get? k.name).bind (·.fate?)) = none := by
    intro k
    cases k <;> exact ⟨rfl, rfl⟩
  refine ⟨hreached, honward, hrunning, ?_⟩
  intro k
  obtain ⟨b, hb⟩ := Option.isSome_iff_exists.1 (hrunning k).1
  obtain ⟨t, ht, hb⟩ := Option.bind_eq_some_iff.1 hb
  obtain ⟨t', b', ht', hb', -, -, hended, -⟩ := (no_body_outlives hreached honward none).2 k.name t b ht hb
  exact ⟨t', b', ht', hb', hended⟩

end Supervisor

end Phrasebook.Lifecycle
