import Mathlib.Data.List.Induction
import Phrasebook.Acts
import Phrasebook.Proofs.Lifecycle.Failures
/-!
# Handling a supervisor in any order

A supervisor can be handled in any way from outside: everything is started again and again, waits are given up
and begun anew, in whatever order. Nothing bad comes of it (`Supervisor.handling_is_safe`). The phase only
climbs, each transport that is there is started at most once, only the first wait hears of an exit, and
shutting everything down tells each transport once, unless one of them breaks down, which leaves the later
ones untold (`Supervisor.breakdown_leaves_later_ones`).

What one act comes to is said by `Supervisor.Comes`. What a whole history keeps is `Supervisor.Handled`, and
it is told for one act more (`Supervisor.Handled.step`).
-/

set_option autoImplicit false

namespace Phrasebook.Lifecycle

/-- How far a phase is from the first one. -/
def Phase.rank : Phase → Nat
  | .constructing => 0
  | .starting => 1
  | .running => 2
  | .shuttingDown => 3
  | .exited => 4

/-- The move that an event tells of, if it tells of one. -/
def Event.move? : Event → Option (Phase × Phase)
  | .moved p q => some (p, q)
  | _ => none

/-- The transport that an event tells to shut down, if it tells one. -/
def Event.shutdown? : Event → Option Transport
  | .shuttingDown k => some k
  | _ => none

/-- The moves lead from one phase to another and none of them leads back. -/
def Phase.Climbs : Phase → List (Phase × Phase) → Phase → Prop
  | p, [], q => p = q
  | p, (a, b) :: moves, q => a = p ∧ p.rank ≤ b.rank ∧ Climbs b moves q

/-- Climbs that meet make one climb. -/
theorem Phase.Climbs.trans {p q r : Phase} {moves moves' : List (Phase × Phase)} (h : p.Climbs moves q)
    (h' : q.Climbs moves' r) : p.Climbs (moves ++ moves') r := by
  induction moves generalizing p with
  | nil =>
    obtain rfl : p = q := h
    exact h'
  | cons m moves ih => exact ⟨h.1, h.2.1, ih h.2.2⟩

/-- Nothing but the way out is ahead of shutting down. -/
theorem Phase.rank_le {p : Phase} (h : p ≠ .exited) : p.rank ≤ Phase.shuttingDown.rank := by
  cases p with
  | exited => exact absurd rfl h
  | _ => decide

/-- What is told of starting tells of each transport as often as it is among those started. -/
theorem count_starting (k : Transport) (ks : List Transport) :
    (ks.flatMap fun k => [Event.starting k, .started k]).count (.starting k) = ks.count k := by
  induction ks with
  | nil => rfl
  | cons j ks ih =>
    rw [List.flatMap_cons, List.count_append, ih, List.count_cons, Nat.add_comm]
    simp [List.count_cons]

/-- A reading that takes no notice of starting finds nothing in it. -/
theorem filterMap_starting {β : Type} {f : Event → Option β} (hstarting : ∀ k, f (.starting k) = none)
    (hstarted : ∀ k, f (.started k) = none) (ks : List Transport) :
    (ks.flatMap fun k => [Event.starting k, .started k]).filterMap f = [] := by
  rw [List.filterMap_flatMap]
  simp [hstarting, hstarted]

/-- Each transport is started at its place and nowhere else. -/
theorem count_startOrder (wanted : Transport → Bool) (k : Transport) :
    (Transport.startOrder.filter wanted).count k = if wanted k = true then 1 else 0 := by
  by_cases h : wanted k = true
  · rw [List.count_filter h, if_pos h]
    cases k <;> rfl
  · rw [if_neg h, List.count_eq_zero]
    intro hmem
    exact h (List.mem_filter.1 hmem).2

/-- An exit that is asked for is with the task no more. -/
theorem Task.notify_receiver_ne (t : Task) : t.notify.1.receiver ≠ .kept := by
  unfold notify
  split
  · rintro ⟨⟩
  · assumption

namespace Slots

/-- All exits have been asked for. -/
def Deaf (s : Slots) : Prop :=
  ∀ (k : Transport) (t : Task), s.crew.get? k.name = some t → t.receiver ≠ .kept

/-- Who asks once more hears nothing. -/
theorem Deaf.notify {s : Slots} (h : s.Deaf) (k : Transport) :
    (s.notify k).2 = false ∧ (s.notify k).1.Deaf := by
  have hsame : ∀ t, s.crew.get? k.name = some t → t.notify = (t, false) := by
    intro t ht
    have hr := h k t ht
    cases hreceiver : t.receiver with
    | kept => exact absurd hreceiver hr
    | lent | gone => simp only [Task.notify, hreceiver]
  constructor
  · unfold Slots.notify Crew.notify
    cases ht : s.crew.get? k.name with
    | none => rfl
    | some t => simp only [hsame t ht]
  · intro j t ht
    have hget : (s.notify k).1.crew.get? j.name = _ := s.crew.get?_notify k.name j.name
    rw [ht] at hget
    by_cases hj : j.name = k.name
    · rw [if_pos hj] at hget
      obtain ⟨t', ht', rfl⟩ := Option.map_eq_some_iff.1 hget.symm
      rw [hsame t' ht']
      exact h k t' ht'
    · rw [if_neg hj] at hget
      exact h j t hget.symm

end Slots

namespace Supervisor

variable {s s' : Supervisor}

/-! ## Who hears of an exit -/

/-- A supervisor that has asked for all exits listens to nobody. -/
theorem heard_of_deaf (ks : List Transport) (h : s.slots.Deaf) : (notifyEach ks s).2 = [] := by
  induction ks generalizing s with
  | nil => rfl
  | cons k rest ih =>
    obtain ⟨hlive, hdeaf⟩ := h.notify k
    rw [heard_cons, hlive, if_neg Bool.false_ne_true]
    exact ih (s := { s with slots := (s.slots.notify k).1 }) hdeaf

/-- Where all exits have been asked for, that is so when everything has been started as well. -/
theorem deaf_startAll (h : s.slots.Deaf) : s.startAll.1.slots.Deaf := by
  by_cases hphase : s.phase = .starting
  · intro k t' ht'
    obtain ⟨t, ht⟩ := (tells_startAll hphase).1.slots.get? ht'
    obtain ⟨t'', ht'', hkept⟩ := keeps_startAll (P := fun t => t.receiver ≠ .kept)
      (fun t m p h => by rwa [Task.spawn_receiver]) ht (h k t ht)
    rw [ht'] at ht''
    rwa [Option.some.inj ht'']
  · rw [startAll_of_ne hphase]
    exact h

/-- A wait asks every transport for its exit, so nobody who asks later hears of it. -/
theorem deaf_waitAny (s : Supervisor) (signal : Option Signal) (limit : Option Nat) (first : Nat) :
    (s.waitAny signal limit first).2.slots.Deaf := by
  intro k t' ht'
  rw [get?_waitAny] at ht'
  obtain ⟨ta, hta, rfl⟩ := Option.map_eq_some_iff.1 ht'
  obtain ⟨t, ht⟩ := (s.tells_awake signal limit first).1.slots.get? hta
  obtain ⟨⟨ta', hta', hgo⟩, -⟩ := get?_awake signal limit first ht
  obtain rfl := Option.some.inj (hta'.symm.trans hta)
  split
  · rintro ⟨⟩
  · -- it had been asked for before
    show ta'.receiver ≠ .kept
    rw [hgo.receiver]
    exact t.notify_receiver_ne

/-! ## One act -/

/-- Whether an act is a wait. -/
def Act.isWait : Act → Bool
  | .wait .. => true
  | _ => false

/-- What an act comes to, what is told of it and where it leads. -/
inductive Comes (s : Supervisor) : Act → Answer → Supervisor → Prop where
  /-- Everything starts. -/
  | begun {s' : Supervisor} (phase : s.phase = .starting)
      (tells : s.Tells s' (((Transport.startOrder.filter s.slots.enabled).flatMap fun k =>
        [.starting k, .started k]) ++ [.moved .starting .running]))
      (next : s'.phase = .running) :
      Comes s .startAll (.started (Transport.startOrder.filter s.slots.enabled)) s'
  /-- It is not the time to start. -/
  | ignored {s' : Supervisor} (phase : s.phase ≠ .starting) (tells : s.Tells s' [.startIgnored s.phase])
      (next : s'.phase = s.phase) : Comes s .startAll (.started []) s'
  /-- A wait comes to a trigger. -/
  | triggered {signal : Option Signal} {patience : Option Nat} {first : Nat} {t : Trigger} {s' : Supervisor}
      (tells : s.Tells s' [.triggered t, .moved s.phase .shuttingDown]) (next : s'.phase = .shuttingDown)
      (heard : ∀ k x, t = .service k x → k ∈ (notifyEach Transport.shutdownOrder s).2) :
      Comes s (.wait signal patience first) (.waited (some t)) s'
  /-- A wait is given up. -/
  | givenUp {signal : Option Signal} {patience : Option Nat} {first : Nat} {s' : Supervisor}
      (tells : s.Tells s' []) (next : s'.phase = s.phase) :
      Comes s (.wait signal patience first) (.waited none) s'
  /-- Time passes. -/
  | slept {span : Nat} {s' : Supervisor} (tells : s.Tells s' []) (next : s'.phase = s.phase) :
      Comes s (.sleep span) .done s'

/-- **Every act** comes to one of these things. -/
theorem comes (s : Supervisor) (a : Act) : s.Comes a (s.step a).1 (s.step a).2 := by
  cases a with
  | startAll =>
    show s.Comes .startAll (.started s.startAll.2) s.startAll.1
    by_cases h : s.phase = .starting
    · obtain ⟨htells, hnext, hkinds⟩ := tells_startAll h
      rw [hkinds]
      exact .begun h htells hnext
    · rw [startAll_of_ne h]
      exact .ignored h (s.tells_emit (by rintro ⟨⟩)) rfl
  | wait signal patience first =>
    rcases s.waitAny_cases signal (patience.map (s.slots.crew.now + ·)) first with
      ⟨t, s', heq, htells, hnext, hheard, -⟩ | ⟨s', heq, htells, hnext, -⟩
    · simp only [Supervisor.step, heq]
      exact .triggered htells hnext hheard
    · simp only [Supervisor.step, heq]
      exact .givenUp htells hnext
  | sleep span => exact .slept (tells_slots (Slots.tells_crew (Crew.tells_sleepUntil _ _))) rfl

/-- Once all exits have been asked for it stays so; and every wait asks for them. -/
theorem deaf_step (s : Supervisor) (a : Act) (h : a.isWait = true ∨ s.slots.Deaf) :
    (s.step a).2.slots.Deaf := by
  cases a with
  | startAll => exact deaf_startAll (h.resolve_left Bool.false_ne_true)
  | wait signal patience first => exact s.deaf_waitAny signal _ first
  | sleep span =>
    have hdeaf := h.resolve_left Bool.false_ne_true
    intro k t' ht'
    have hget : (s.slots.crew.advance (s.slots.crew.now + span)).get? k.name = some t' := ht'
    rw [Crew.get?_advance] at hget
    obtain ⟨t, ht, rfl⟩ := Option.map_eq_some_iff.1 hget
    rw [(t.goesOn_advance _).receiver]
    exact hdeaf k t ht

/-! ## A whole history -/

/-- What has been told since the supervisor took the transports. -/
def told (slots : Slots) (s : Supervisor) : List Event := s.slots.crew.plot.drop slots.crew.plot.length

/-- No wait has come to a trigger. -/
def Quiet (log : List (Act × Answer)) : Prop := ∀ e ∈ log, ∀ t, e.2 ≠ .waited (some t)

/-- Everything was told to start before any wait had come to a trigger. -/
def InTime (log : List (Act × Answer)) : Prop :=
  ∃ earlier answer later, log = earlier ++ (.startAll, answer) :: later ∧ Quiet earlier

/-- A wait that comes to a trigger ends the quiet. -/
theorem quiet_concat (log : List (Act × Answer)) (a : Act) (answer : Answer) :
    Quiet (log ++ [(a, answer)]) ↔ Quiet log ∧ ∀ t, answer ≠ .waited (some t) := by
  simp [Quiet, or_imp, forall_and]

/-- Everything was told to start in time if it was before, or is so now and all has been quiet. -/
theorem inTime_concat (log : List (Act × Answer)) (a : Act) (answer : Answer) :
    InTime (log ++ [(a, answer)]) ↔ InTime log ∨ (a = .startAll ∧ Quiet log) := by
  constructor
  · rintro ⟨earlier, answer', later, hlog, hquiet⟩
    rcases List.eq_nil_or_concat later with rfl | ⟨later', e, rfl⟩
    · -- the new act is the one that starts everything
      obtain ⟨rfl, hlast⟩ := List.append_inj' hlog rfl
      exact Or.inr ⟨(Prod.mk.inj (List.cons.inj hlast).1).1, hquiet⟩
    · rw [List.concat_eq_append, ← List.cons_append, ← List.append_assoc] at hlog
      exact Or.inl ⟨earlier, answer', later', (List.append_inj' hlog rfl).1, hquiet⟩
  · rintro (⟨earlier, answer', later, rfl, hquiet⟩ | ⟨rfl, hquiet⟩)
    · exact ⟨earlier, answer', later ++ [(a, answer)], by simp, hquiet⟩
    · exact ⟨log, answer, [], rfl, hquiet⟩

open Classical in
/-- How a supervisor stands that has taken some transports and been handled from outside. -/
structure Handled (slots : Slots) (log : List (Act × Answer)) (s : Supervisor) : Prop where
  tells : slots.Tells s.slots (told slots s)
  climbs : Phase.constructing.Climbs ((told slots s).filterMap Event.move?) s.phase
  starts : ∀ k, (told slots s).count (.starting k) = if slots.enabled k = true ∧ InTime log then 1 else 0
  shutdowns : (told slots s).filterMap Event.shutdown? = []
  fresh : s.phase = .starting ↔ Quiet log ∧ ¬ InTime log
  inside : s.phase ≠ .exited
  deaf : (∃ e ∈ log, e.1.isWait = true) → s.slots.Deaf

/-- What has been told since the transports were built is what led from there to here. -/
theorem told_of_tells {slots : Slots} {events : List Event} (h : slots.Tells s.slots events) :
    told slots s = events := by
  rw [told, h.crew.plot, List.drop_left]

variable {slots : Slots} {log : List (Act × Answer)}

namespace Handled

/-- What is told later is told after it. -/
theorem told_append (h : Handled slots log s) {events : List Event} (h' : s.Tells s' events) :
    told slots s' = told slots s ++ events :=
  told_of_tells (h.tells.trans h'.slots)

/-- A supervisor that has just taken the transports has told that it is ready to start them. -/
theorem ofSlots (slots : Slots) (timeout : Nat) : Handled slots [] (ofSlots slots timeout) := by
  have hmoved := tells_move { slots, timeout } .starting
  have htold : told slots (Supervisor.ofSlots slots timeout) = [.moved .constructing .starting] :=
    told_of_tells hmoved.slots
  have hearly : ¬ InTime [] := by
    rintro ⟨earlier, answer, later, hlog, -⟩
    simp at hlog
  refine ⟨?_, ?_, ?_, ?_, ?_, by rintro ⟨⟩, ?_⟩
  · rw [htold]
    exact hmoved.slots
  · rw [htold]
    exact ⟨rfl, by decide, rfl⟩
  · intro k
    rw [htold, if_neg fun h => hearly h.2]
    rfl
  · rw [htold]
    rfl
  · simp [Quiet, hearly, Supervisor.ofSlots, move]
  · rintro ⟨e, he, -⟩
    cases he

open Classical in
/-- What comes after some events. -/
theorem next {log' : List (Act × Answer)} {events : List Event} (h : Handled slots log s)
    (htells : s.Tells s' events) (hclimbs : s.phase.Climbs (events.filterMap Event.move?) s'.phase)
    (hstarts : ∀ k, (told slots s).count (.starting k) + events.count (.starting k) =
      if slots.enabled k = true ∧ InTime log' then 1 else 0)
    (hshutdowns : events.filterMap Event.shutdown? = [])
    (hfresh : s'.phase = .starting ↔ Quiet log' ∧ ¬ InTime log') (hinside : s'.phase ≠ .exited)
    (hdeaf : (∃ e ∈ log', e.1.isWait = true) → s'.slots.Deaf) : Handled slots log' s' := by
  have htold := h.told_append htells
  refine ⟨?_, ?_, ?_, ?_, hfresh, hinside, hdeaf⟩
  · rw [htold]
    exact h.tells.trans htells.slots
  · rw [htold, List.filterMap_append]
    exact h.climbs.trans hclimbs
  · intro k
    rw [htold, List.count_append, hstarts]
  · rw [htold, List.filterMap_append, h.shutdowns, hshutdowns]
    rfl

open Classical in
/-- **One act more**, whichever it is. -/
theorem step (h : Handled slots log s) (a : Act) :
    Handled slots (log ++ [(a, (s.step a).1)]) (s.step a).2 := by
  have hdeaf : (∃ e ∈ log ++ [(a, (s.step a).1)], e.1.isWait = true) → (s.step a).2.slots.Deaf := by
    rintro ⟨e, he, hwait⟩
    apply deaf_step
    rcases List.mem_append.1 he with he | he
    · exact Or.inr (h.deaf ⟨e, he, hwait⟩)
    · rw [List.mem_singleton.1 he] at hwait
      exact Or.inl hwait
  have hcomes := s.comes a
  have hquiet := quiet_concat log a (s.step a).1
  have hinTime := inTime_concat log a (s.step a).1
  generalize (s.step a).1 = answer at *
  generalize (s.step a).2 = s' at *
  generalize log ++ [(a, answer)] = log' at *
  -- the events of an act and the phase it leaves decide every count that is kept
  cases hcomes with
  | begun hphase htells hnext =>
    obtain ⟨hbefore, hnot⟩ := h.fresh.1 hphase
    have hnow : InTime log' := hinTime.2 (Or.inr ⟨rfl, hbefore⟩)
    refine h.next htells ?_ ?_ ?_ (by simp [hnext, hnow]) (by simp [hnext]) hdeaf
    · rw [List.filterMap_append, filterMap_starting (fun _ => rfl) fun _ => rfl, hphase, hnext]
      exact ⟨rfl, by decide, rfl⟩
    · -- nothing had been started, and each transport that is there is started now
      intro k
      rw [h.starts, if_neg fun h => hnot h.2, List.count_append, count_starting, count_startOrder,
        h.tells.enabled]
      simp [hnow]
    · rw [List.filterMap_append, filterMap_starting (fun _ => rfl) fun _ => rfl]
      rfl
  | ignored hphase htells hnext =>
    have hsame : InTime log' ↔ InTime log := by
      rw [hinTime]
      have := mt h.fresh.2 hphase
      tauto
    refine h.next htells hnext.symm ?_ rfl ?_ (hnext ▸ h.inside) hdeaf
    · simp [h.starts, hsame]
    · simp [hnext, h.fresh, hquiet, hsame]
  | triggered htells hnext _ =>
    have hsame : InTime log' ↔ InTime log := by simp [hinTime]
    refine h.next htells ⟨rfl, Phase.rank_le h.inside, hnext.symm⟩ ?_ rfl ?_ (by simp [hnext]) hdeaf
    · simp [h.starts, hsame]
    · simp [hnext, hquiet]
  | givenUp htells hnext | slept htells hnext =>
    have hsame : InTime log' ↔ InTime log := by simp [hinTime]
    refine h.next htells hnext.symm ?_ rfl ?_ (hnext ▸ h.inside) hdeaf
    · simp [h.starts, hsame]
    · simp [hnext, h.fresh, hquiet, hsame]

/-- **Every history is kept to**, however long and in whatever order. -/
theorem after (slots : Slots) (timeout : Nat) (acts : List Act) :
    Handled slots (Acts.log Supervisor.step (Supervisor.ofSlots slots timeout) acts)
      (Acts.after Supervisor.step (Supervisor.ofSlots slots timeout) acts) := by
  induction acts using List.reverseRecOn with
  | nil => exact ofSlots slots timeout
  | append_singleton acts a ih =>
    rw [Acts.log_concat, Acts.after_concat]
    exact ih.step a

/-- Once there has been a wait, no other hears of an exit. -/
theorem first_of_trigger (h : Handled slots log s) {a : Act} {k : Transport} {x : Exit}
    (ha : (s.step a).1 = .waited (some (.service k x))) : ∀ e ∈ log, e.1.isWait = false := by
  intro e he
  rw [Bool.eq_false_iff]
  intro hwait
  have hdeaf := h.deaf ⟨e, he, hwait⟩
  have hcomes := s.comes a
  rw [ha] at hcomes
  generalize (s.step a).2 = s' at hcomes
  cases hcomes with
  | triggered _ _ hheard =>
    have hmem := hheard k x rfl
    rw [heard_of_deaf _ hdeaf] at hmem
    cases hmem

end Handled

/-- A wait that is given up leaves the phase as it is. -/
theorem phase_of_givenUp {a : Act} (ha : (s.step a).1 = .waited none) : (s.step a).2.phase = s.phase := by
  have hcomes := s.comes a
  rw [ha] at hcomes
  generalize (s.step a).2 = s' at *
  cases hcomes with
  | givenUp _ hnext => exact hnext

/-! ## Shutting down after it -/

/-- How shutting everything down ends, and what has been told until then. -/
inductive Ends (slots : Slots) (s : Supervisor) : Option (Except Failure ShutdownOutcome) → Prop where
  /-- Each transport that is there has been told, in order, and has its record. -/
  | through {o : ShutdownOutcome} (kinds : o.kinds = Transport.shutdownOrder.filter slots.enabled)
      (told : (told slots s).filterMap Event.shutdown? = Transport.shutdownOrder.filter slots.enabled)
      (phase : s.phase = .exited) : Ends slots s (some (.ok o))
  /-- One of them breaks down. The later ones have not been told. -/
  | brokenOff {m : String} {earlier later : List Transport} {k : Transport}
      (kinds : Transport.shutdownOrder.filter slots.enabled = earlier ++ k :: later)
      (breaks : (slots.conduct k).closing.Breaks m)
      (told : (told slots s).filterMap Event.shutdown? = earlier ++ [k])
      (phase : s.phase = .shuttingDown) : Ends slots s (some (.error (.broke m)))

/-- Where no transport can break down while it shuts down, all of them are told and everything is over. -/
theorem Ends.phase_of_sound {out : Option (Except Failure ShutdownOutcome)} (h : Ends slots s out)
    (hsound : ∀ k, slots.enabled k = true → (slots.conduct k).closing.Sound) : s.phase = .exited := by
  cases h with
  | through _ _ phase => exact phase
  | @brokenOff m earlier later k kinds breaks _ _ =>
    have hk : k ∈ Transport.shutdownOrder.filter slots.enabled := by
      rw [kinds]
      exact List.mem_append_right _ List.mem_cons_self
    exact absurd breaks (hsound k (List.mem_filter.1 hk).2 m)

/-- What shutting everything down comes to, from where the supervisor stands. It is over for good unless some
transport breaks down while it shuts down. -/
structure ShutsDown (slots : Slots) (s s' : Supervisor) (out : Option (Except Failure ShutdownOutcome)) :
    Prop where
  climbs : Phase.constructing.Climbs ((told slots s').filterMap Event.move?) s'.phase
  starts : ∀ k, (told slots s').count (.starting k) = (told slots s).count (.starting k)
  ends : Ends slots s' out
  exited : (∀ k, slots.enabled k = true → (slots.conduct k).closing.Sound) → s'.phase = .exited

/-- What is told of records tells of no move and of no start. -/
theorem silent_closing (records : List ShutdownRecord) :
    (records.flatMap closing).filterMap Event.move? = [] ∧
      ∀ k, (records.flatMap closing).count (.starting k) = 0 := by
  constructor
  · rw [List.filterMap_flatMap, List.flatMap_eq_nil_iff]
    rintro ⟨k, (e | u)⟩ _ <;> rfl
  · intro k
    rw [List.count_eq_zero, List.mem_flatMap]
    rintro ⟨⟨k, (e | u)⟩, -, hmem⟩ <;> simp [closing] at hmem

/-- The records of a shutting down are told in their order, one transport each. -/
theorem shutdowns_closing (records : List ShutdownRecord) :
    (records.flatMap closing).filterMap Event.shutdown? = records.map (·.kind) := by
  induction records with
  | nil => rfl
  | cons r rest ih =>
    rw [List.flatMap_cons, List.filterMap_append, ih]
    rcases r with ⟨k, (e | u)⟩ <;> rfl

/-- Turning to shutting down is at most one move, and it does not lead back. -/
theorem turn_climbs {p : Phase} (h : p ≠ .exited) :
    let turn : List Event := if p = .shuttingDown then [] else [.moved p .shuttingDown]
    p.Climbs (turn.filterMap Event.move?) .shuttingDown ∧ turn.filterMap Event.shutdown? = [] ∧
      ∀ k, turn.count (.starting k) = 0 := by
  by_cases hp : p = .shuttingDown
  · simp [hp, Phase.Climbs]
  · simp only [if_neg hp]
    exact ⟨⟨rfl, Phase.rank_le h, rfl⟩, rfl, fun k => by simp⟩

/-- What has been told in all when some records have been written down and something has come after them. -/
theorem Handled.told_of_records (h : Handled slots log s) (records : List ShutdownRecord) {rest : List Event}
    (htells : s.entered.Tells s' (records.flatMap closing ++ rest))
    (hclimbs : Phase.shuttingDown.Climbs (rest.filterMap Event.move?) s'.phase)
    (hcount : ∀ k, rest.count (.starting k) = 0) :
    Phase.constructing.Climbs ((told slots s').filterMap Event.move?) s'.phase ∧
      (∀ k, (told slots s').count (.starting k) = (told slots s).count (.starting k)) ∧
      (told slots s').filterMap Event.shutdown? =
        records.map (·.kind) ++ rest.filterMap Event.shutdown? := by
  obtain ⟨hturn, hnone, hturned⟩ := turn_climbs h.inside
  obtain ⟨hmoves, hstarts⟩ := silent_closing records
  rw [h.told_append (s.tells_turn.trans htells)]
  refine ⟨?_, ?_, ?_⟩
  · simp only [List.filterMap_append, hmoves, List.nil_append]
    exact h.climbs.trans (hturn.trans hclimbs)
  · intro k
    simp [hturned, hstarts, hcount]
  · simp only [List.filterMap_append, h.shutdowns, hnone, shutdowns_closing, List.nil_append]

/-- **Shutting everything down**, wherever the supervisor stands. -/
theorem Handled.shutsDown (h : Handled slots log s) :
    ShutsDown slots s (s.shutdownAll none).2 (s.shutdownAll none).1 := by
  have henabled : s.entered.slots.enabled = slots.enabled :=
    s.tells_turn.slots.enabled.trans h.tells.enabled
  have hconduct : s.entered.slots.conduct = slots.conduct :=
    s.tells_turn.slots.conduct.trans h.tells.conduct
  have hall := s.shutdownAll_eq none
  rcases shutdownEach_comes none Transport.shutdownOrder s.entered with
    -- the loop has come to its end, or broke at one of the transports
    ⟨records, s', heq, htells, hphase, hkinds⟩ |
    ⟨records, k, later, m, s', heq, htells, hphase, hkinds, hbreaks⟩ | ⟨hlimit, -⟩
  · rw [heq] at hall
    rcases hall with ⟨records', hrecords, hrun⟩ | ⟨f, hf, -⟩ | ⟨hnothing, -⟩
    · obtain rfl := Except.ok.inj (Option.some.inj hrecords)
      have hexited := tells_exited (hphase.trans s.phase_entered) ⟨records⟩
      obtain ⟨hclimbs, hstarts, htold⟩ := h.told_of_records records
        ((htells.trans hexited).silent (tells_close _).1) ⟨rfl, by decide, rfl⟩ (fun k => by simp)
      rw [hkinds, henabled] at htold
      rw [hrun]
      have hends : Ends slots _ (some (.ok ⟨records⟩)) :=
        .through (henabled ▸ hkinds) (htold.trans (List.append_nil _)) rfl
      exact ⟨hclimbs, hstarts, hends, hends.phase_of_sound⟩
    · cases hf
    · cases hnothing
  · rw [heq] at hall
    rcases hall with ⟨records', hrecords, -⟩ | ⟨f, hf, hrun⟩ | ⟨hnothing, -⟩
    · cases hrecords
    · obtain rfl := Except.error.inj (Option.some.inj hf)
      have hclosed : s'.close.phase = .shuttingDown := hphase.trans s.phase_entered
      obtain ⟨hclimbs, hstarts, htold⟩ := h.told_of_records records
        (htells.silent (tells_close _).1) hclosed.symm (fun k => by simp)
      rw [henabled] at hkinds
      rw [hconduct] at hbreaks
      rw [hrun]
      have hends := Ends.brokenOff hkinds hbreaks htold hclosed
      exact ⟨hclimbs, hstarts, hends, hends.phase_of_sound⟩
    · cases hnothing
  · cases hlimit

/-- What is promised of a supervisor after a history, and of whatever is done to it next. -/
structure Safe (slots : Slots) (log : List (Act × Answer)) (s : Supervisor) : Prop where
  climbs : Phase.constructing.Climbs ((told slots s).filterMap Event.move?) s.phase
  atMostOnce : ∀ k, (told slots s).count (.starting k) ≤ 1
  once : ∀ k, slots.enabled k = true → ((told slots s).count (.starting k) = 1 ↔ InTime log)
  givenUp : ∀ a, (s.step a).1 = .waited none → (s.step a).2.phase = s.phase
  first : ∀ a k x, (s.step a).1 = .waited (some (.service k x)) → ∀ e ∈ log, e.1.isWait = false
  shutdown : ShutsDown slots s (s.shutdownAll none).2 (s.shutdownAll none).1

/-- **A supervisor can be handled in any order.** -/
theorem handling_is_safe (slots : Slots) (timeout : Nat) (acts : List Act) :
    Safe slots (Acts.log step (ofSlots slots timeout) acts) (Acts.after step (ofSlots slots timeout) acts) := by
  have h := Handled.after slots timeout acts
  refine ⟨h.climbs, ?_, ?_, fun a => phase_of_givenUp, fun a k x => h.first_of_trigger, h.shutsDown⟩
  · intro k
    rw [h.starts]
    split <;> omega
  · intro k hk
    rw [h.starts]
    simp [hk]

/-! ### A breakdown while shutting down

The first transport that is told to shut down breaks down. The second is there and is not told any more. -/

/-- Two transports, the first of which breaks down when it is told to shut down. -/
def brittle : Slots :=
  let conduct : Transport → Conduct
    | .http => { closing := .instead { ending := some (.error (.broke "boom")) } }
    | _ => {}
  (Slots.construct { conduct } (fun k => k == .http || k == .grpc) fun _ => {}).2

/-- The first shutdown breaks down: the transport after it is there and is never told, and the supervisor does not
get to its exit. -/
theorem breakdown_leaves_later_ones :
    let s := Acts.after step (ofSlots brittle 50) []
    brittle.enabled .grpc = true ∧ (s.shutdownAll none).1 = some (.error (.broke "boom")) ∧
      (told brittle (s.shutdownAll none).2).count (.shuttingDown .grpc) = 0 ∧
      (s.shutdownAll none).2.phase ≠ .exited := by
  refine ⟨by decide, rfl, by decide +kernel, by decide⟩

end Supervisor

end Phrasebook.Lifecycle
