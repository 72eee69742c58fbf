import Phrasebook.Proofs.Lifecycle.Slots
/-!
# What the supervisor does

The supervisor goes through transports in three loops, to start them, to ask for their exits and to shut
them down, and between the second and the third it waits. Each loop has a lemma about one round and, by
induction on the list it goes through, a lemma about the whole: `tells_startEach`, `heard_notifyEach` and
`shutdownEach_cases`. What a wait comes to is said by `waitAny_eq` and `waitAny_cases`.
-/

set_option autoImplicit false

namespace Phrasebook.Lifecycle

namespace Supervisor

/-- From one supervisor to the other some events have been told. -/
structure Tells (s s' : Supervisor) (events : List Event) : Prop where
  slots : s.slots.Tells s'.slots events
  timeout : s'.timeout = s.timeout

theorem Tells.refl (s : Supervisor) : s.Tells s [] := ⟨.refl s.slots, rfl⟩

/-- What is told one after the other is told together. -/
theorem Tells.trans {s s' s'' : Supervisor} {events events' : List Event} (h : s.Tells s' events)
    (h' : s'.Tells s'' events') : s.Tells s'' (events ++ events') :=
  ⟨h.slots.trans h'.slots, h'.timeout.trans h.timeout⟩

/-- What is told by nobody adds nothing. -/
theorem Tells.silent {s s' s'' : Supervisor} {events : List Event} (h : s.Tells s' events)
    (h' : s'.Tells s'' []) : s.Tells s'' events :=
  ⟨h.slots.silent h'.slots, h'.timeout.trans h.timeout⟩

/-- To note something of its own is all that the supervisor tells by it. -/
theorem tells_emit (s : Supervisor) {e : Event} (h : e.part ≠ .task) : s.Tells (s.emit e) [e] :=
  ⟨s.slots.tells_emit h, rfl⟩

/-- Moving to another phase tells of the move and of nothing else. -/
theorem tells_move (s : Supervisor) (p : Phase) : s.Tells (s.move p) [.moved s.phase p] :=
  ⟨s.slots.tells_emit (by rintro ⟨⟩), rfl⟩

/-- What the transports tell the supervisor has told. -/
theorem tells_slots {s : Supervisor} {slots : Slots} {events : List Event} (h : s.slots.Tells slots events) :
    s.Tells { s with slots } events := ⟨h, rfl⟩

/-! ## Starting -/

/-- The supervisor once it has started a transport, if it is there. -/
def launched (s : Supervisor) (k : Transport) : Supervisor :=
  if s.slots.enabled k then emit { s with slots := (s.slots.start k).1 } (.started k) else s

/-- Transports are started one after the other, and those that are there are listed in that order. -/
theorem startEach_cons (k : Transport) (rest : List Transport) (s : Supervisor) :
    startEach (k :: rest) s =
      ((startEach rest (s.launched k)).1,
        if s.slots.enabled k then k :: (startEach rest (s.launched k)).2
        else (startEach rest (s.launched k)).2) := by
  unfold launched
  by_cases h : s.slots.enabled k = true
  · have hstart := (Slots.start_of_enabled h).1
    rcases heq : s.slots.start k with ⟨slots, started⟩
    rw [heq] at hstart
    obtain rfl : started = true := hstart
    simp only [startEach, heq, if_pos h]
  · simp only [startEach, Slots.start_of_not_enabled h, if_neg h]

/-- Starting a transport that is there is told in two events, and starting one that is not there in none. -/
theorem tells_launched (s : Supervisor) (k : Transport) :
    s.Tells (s.launched k) (if s.slots.enabled k then [.starting k, .started k] else []) := by
  unfold launched
  by_cases h : s.slots.enabled k = true
  · rw [if_pos h, if_pos h]
    exact (tells_slots (Slots.start_of_enabled h).2).trans (tells_emit _ (by rintro ⟨⟩))
  · rw [if_neg h, if_neg h]
    exact .refl s

/-- Starting a transport does not move the supervisor. -/
theorem phase_launched (s : Supervisor) (k : Transport) : (s.launched k).phase = s.phase := by
  unfold launched
  split <;> rfl

/-- Starting a transport takes no time. -/
theorem now_launched (s : Supervisor) (k : Transport) :
    (s.launched k).slots.crew.now = s.slots.crew.now := by
  unfold launched
  split
  · exact s.slots.now_start k
  · rfl

/-- Starting a transport spawns its body in its own task. -/
theorem get?_launched (s : Supervisor) (k : Transport) (name : String) :
    (s.launched k).slots.crew.get? name =
      if name = k.name then
        (s.slots.crew.get? k.name).map fun t => (t.spawn s.slots.crew.moment (s.slots.conduct k).plan).1
      else s.slots.crew.get? name := by
  have hstart := s.slots.get?_start k name
  unfold launched
  by_cases h : s.slots.enabled k = true
  · rw [if_pos h]
    exact hstart
  · rw [Slots.start_of_not_enabled h] at hstart
    rw [if_neg h]
    exact hstart

/-- **What is told of starting**: each transport that is there is started once, in order. -/
theorem tells_startEach (ks : List Transport) (s : Supervisor) :
    s.Tells (startEach ks s).1
        ((ks.filter s.slots.enabled).flatMap fun k => [.starting k, .started k]) ∧
      (startEach ks s).1.phase = s.phase ∧ (startEach ks s).2 = ks.filter s.slots.enabled := by
  induction ks generalizing s with
  | nil => exact ⟨.refl s, rfl, rfl⟩
  | cons k rest ih =>
    -- the rest starts from where this round has come to, with the same transports there
    obtain ⟨htells, hphase, hstarted⟩ := ih (s.launched k)
    have hlaunch := s.tells_launched k
    have henabled := hlaunch.slots.enabled
    rw [startEach_cons]
    refine ⟨?_, hphase.trans (s.phase_launched k), ?_⟩
    · have hboth := hlaunch.trans htells
      rw [henabled] at hboth
      by_cases h : s.slots.enabled k = true
      · rw [if_pos h] at hboth
        rw [List.filter_cons_of_pos h, List.flatMap_cons]
        exact hboth
      · rw [if_neg h] at hboth
        rw [List.filter_cons_of_neg h]
        exact hboth
    · rw [hstarted, henabled]
      by_cases h : s.slots.enabled k = true
      · rw [if_pos h, List.filter_cons_of_pos h]
      · rw [if_neg h, List.filter_cons_of_neg h]

/-- What starting everything comes to, where it is time for it. -/
theorem tells_startAll {s : Supervisor} (h : s.phase = .starting) :
    s.Tells s.startAll.1 (((Transport.startOrder.filter s.slots.enabled).flatMap fun k =>
        [.starting k, .started k]) ++ [.moved .starting .running]) ∧
      s.startAll.1.phase = .running ∧ s.startAll.2 = Transport.startOrder.filter s.slots.enabled := by
  obtain ⟨hstarted, hphase, hkinds⟩ := s.tells_startEach Transport.startOrder
  have hmoved := (startEach Transport.startOrder s).1.tells_move .running
  rw [hphase, h] at hmoved
  unfold startAll
  rw [if_pos (beq_iff_eq.2 h)]
  exact ⟨hstarted.trans hmoved, rfl, hkinds⟩

/-- In any other phase there is nothing to start, and the request is noted as ignored. -/
theorem startAll_of_ne {s : Supervisor} (h : s.phase ≠ .starting) :
    s.startAll = (s.emit (.startIgnored s.phase), []) := by
  unfold startAll
  rw [if_neg (mt eq_of_beq h)]

/-- What spawning leaves true of a task, starting does. -/
theorem keeps_startEach {P : Task → Prop} (hspawn : ∀ t m p, P t → P (t.spawn m p).1) (ks : List Transport)
    {s : Supervisor} {name : String} {t : Task} (ht : s.slots.crew.get? name = some t) (h : P t) :
    ∃ t', (startEach ks s).1.slots.crew.get? name = some t' ∧ P t' := by
  induction ks generalizing s t with
  | nil => exact ⟨t, ht, h⟩
  | cons k rest ih =>
    rw [startEach_cons]
    have hget := s.get?_launched k name
    by_cases hname : name = k.name
    · rw [if_pos hname, ← hname, ht, Option.map_some] at hget
      exact ih hget (hspawn t _ _ h)
    · rw [if_neg hname] at hget
      exact ih (hget.trans ht) h

/-- What spawning keeps of a task, starting everything keeps of it. -/
theorem keeps_startAll {P : Task → Prop} (hspawn : ∀ t m p, P t → P (t.spawn m p).1) {s : Supervisor}
    {name : String} {t : Task} (ht : s.slots.crew.get? name = some t) (h : P t) :
    ∃ t', s.startAll.1.slots.crew.get? name = some t' ∧ P t' := by
  unfold startAll
  split
  · exact keeps_startEach hspawn Transport.startOrder ht h
  · exact ⟨t, ht, h⟩

/-- Starting leaves other tasks alone. -/
theorem get?_startEach {ks : List Transport} {name : String} (h : ∀ k ∈ ks, k.name ≠ name) (s : Supervisor) :
    (startEach ks s).1.slots.crew.get? name = s.slots.crew.get? name := by
  induction ks generalizing s with
  | nil => rfl
  | cons k rest ih =>
    rw [startEach_cons, ih (fun k hk => h k (List.mem_cons_of_mem _ hk)), get?_launched,
      if_neg (h k List.mem_cons_self).symm]

/-- **After starting, every task serves**, and nobody has asked for its exit. -/
theorem serves_startEach (ks : List Transport) (hks : ks.Nodup) (s : Supervisor)
    (hfresh : ∀ k ∈ ks, ∀ t, s.slots.crew.get? k.name = some t → t.IsFresh) {k : Transport} (hk : k ∈ ks)
    {t : Task} (ht : (startEach ks s).1.slots.crew.get? k.name = some t) :
    t.ServesSince (s.slots.conduct k).plan s.slots.crew.now ∧ t.receiver = .kept := by
  -- by induction on the kinds, each of which starts its own task and no other
  induction ks generalizing s with
  | nil => cases hk
  | cons k₀ rest ih =>
    obtain ⟨hk₀, hrest⟩ := List.nodup_cons.1 hks
    rw [startEach_cons] at ht
    rcases List.mem_cons.1 hk with rfl | hk
    · -- started in this round, and left alone in the others
      have hother : ∀ k' ∈ rest, k'.name ≠ k.name := by
        rintro k' hk' hname
        exact hk₀ (Transport.name_inj hname ▸ hk')
      rw [get?_startEach hother, get?_launched, if_pos rfl] at ht
      obtain ⟨t₀, ht₀, rfl⟩ := Option.map_eq_some_iff.1 ht
      have h₀ := hfresh k List.mem_cons_self t₀ ht₀
      exact ⟨Task.servesSince_of_spawn h₀.body s.slots.crew.moment _,
        (Task.spawn_receiver _ _ _).trans h₀.receiver⟩
    · have hconduct : (s.launched k₀).slots.conduct = s.slots.conduct := (s.tells_launched k₀).slots.conduct
      rw [← hconduct, ← s.now_launched k₀]
      refine ih hrest (s.launched k₀) ?_ hk ht
      intro k' hk' t' ht'
      rw [get?_launched] at ht'
      by_cases hname : k'.name = k₀.name
      · exact absurd (Transport.name_inj hname ▸ hk') hk₀
      · rw [if_neg hname] at ht'
        exact hfresh k' (List.mem_cons_of_mem _ hk') t' ht'

/-! ## Listening -/

/-- Asking for exits is silent, and moves to no phase. -/
theorem tells_notifyEach (ks : List Transport) (s : Supervisor) :
    s.Tells (notifyEach ks s).1 [] ∧ (notifyEach ks s).1.phase = s.phase := by
  induction ks generalizing s with
  | nil => exact ⟨.refl s, rfl⟩
  | cons k rest ih =>
    obtain ⟨htells, hphase⟩ := ih { s with slots := (s.slots.notify k).1 }
    exact ⟨(tells_slots (s.slots.tells_notify k)).silent htells, hphase⟩

/-- Asking for exits leaves every body as it is. -/
theorem get?_notifyEach (ks : List Transport) (s : Supervisor) (name : String) :
    ((notifyEach ks s).1.slots.crew.get? name).map (·.body) = (s.slots.crew.get? name).map (·.body) := by
  induction ks generalizing s with
  | nil => rfl
  | cons k rest ih =>
    refine (ih { s with slots := (s.slots.notify k).1 }).trans ?_
    have hget : (s.slots.notify k).1.crew.get? name =
        if name = k.name then (s.slots.crew.get? k.name).map fun t => t.notify.1
        else s.slots.crew.get? name := s.slots.crew.get?_notify k.name name
    show ((s.slots.notify k).1.crew.get? name).map (·.body) = _
    rw [hget]
    by_cases hname : name = k.name
    · rw [if_pos hname, hname, Option.map_map]
      congr 1
      funext t
      exact Task.notify_body t
    · rw [if_neg hname]

/-- The transports that give an exit are listed in the order of asking. -/
theorem heard_cons (k : Transport) (rest : List Transport) (s : Supervisor) :
    (notifyEach (k :: rest) s).2 =
      if (s.slots.notify k).2 then k :: (notifyEach rest { s with slots := (s.slots.notify k).1 }).2
      else (notifyEach rest { s with slots := (s.slots.notify k).1 }).2 := rfl

/-- A transport that is not asked keeps its task, and is not listed. -/
theorem get?_notifyEach_of_not_mem {ks : List Transport} {k : Transport} (hk : k ∉ ks) (s : Supervisor) :
    (notifyEach ks s).1.slots.crew.get? k.name = s.slots.crew.get? k.name ∧ k ∉ (notifyEach ks s).2 := by
  induction ks generalizing s with
  | nil => exact ⟨rfl, List.not_mem_nil⟩
  | cons j rest ih =>
    have hne : k ≠ j := List.ne_of_not_mem_cons hk
    have hrest : k ∉ rest := List.not_mem_of_not_mem_cons hk
    obtain ⟨hget, hnot⟩ := ih hrest { s with slots := (s.slots.notify j).1 }
    have hother := s.slots.crew.get?_notify j.name k.name
    rw [if_neg (fun hname => hne (Transport.name_inj hname))] at hother
    refine ⟨hget.trans hother, ?_⟩
    rw [heard_cons]
    split
    · exact List.not_mem_cons_of_ne_of_not_mem hne hnot
    · exact hnot

/-- **One transport among those that are asked for their exits**: it is heard from if nobody had asked
before. -/
theorem get?_notifyEach_of_mem {ks : List Transport} (hks : ks.Nodup) {s : Supervisor} {k : Transport}
    {t : Task} (hk : k ∈ ks) (ht : s.slots.crew.get? k.name = some t) :
    (notifyEach ks s).1.slots.crew.get? k.name = some t.notify.1 ∧
      (k ∈ (notifyEach ks s).2 ↔ t.receiver = .kept) := by
  -- by induction on the kinds: the notice is given in its own round and stands in the others
  induction ks generalizing s with
  | nil => cases hk
  | cons j rest ih =>
    obtain ⟨hj, hrest⟩ := List.nodup_cons.1 hks
    have hnotify := s.slots.crew.get?_notify j.name k.name
    rcases List.mem_cons.1 hk with rfl | hmem
    · obtain ⟨hget, hnot⟩ := get?_notifyEach_of_not_mem hj { s with slots := (s.slots.notify k).1 }
      rw [if_pos rfl, ht, Option.map_some] at hnotify
      refine ⟨hget.trans hnotify, ?_⟩
      have hlive : (s.slots.notify k).2 = t.notify.2 := by
        unfold Slots.notify Crew.notify
        rw [ht]
      rw [heard_cons, hlive]
      cases hr : t.receiver with
      | kept => simp only [Task.notify, hr, if_true, List.mem_cons_self]
      | lent => simp only [Task.notify, hr, Bool.false_eq_true, if_false, hnot, reduceCtorEq]
      | gone => simp only [Task.notify, hr, Bool.false_eq_true, if_false, hnot, reduceCtorEq]
    · have hne : k ≠ j := fun h => hj (h ▸ hmem)
      rw [if_neg (fun hname => hne (Transport.name_inj hname))] at hnotify
      obtain ⟨hget, hiff⟩ := ih hrest hmem (s := { s with slots := (s.slots.notify j).1 }) (hnotify.trans ht)
      refine ⟨hget, ?_⟩
      rw [heard_cons, ← hiff]
      split
      · exact ⟨fun h => (List.mem_cons.1 h).resolve_left hne, List.mem_cons_of_mem j⟩
      · exact Iff.rfl

/-- **The exits that are listened for** are those of the transports that are there, if nobody has asked for
them before. -/
theorem heard_notifyEach {ks : List Transport} (hks : ks.Nodup) (s : Supervisor)
    (hkept : ∀ k ∈ ks, ∀ t, s.slots.crew.get? k.name = some t → t.receiver = .kept) :
    (notifyEach ks s).2 = ks.filter s.slots.enabled := by
  induction ks generalizing s with
  | nil => rfl
  | cons k rest ih =>
    obtain ⟨hk, hrest⟩ := List.nodup_cons.1 hks
    have hheard : (s.slots.notify k).2 = s.slots.enabled k := by
      unfold Slots.notify Crew.notify Slots.enabled
      cases ht : s.slots.crew.get? k.name with
      | none => rfl
      | some t =>
        have hr := hkept k List.mem_cons_self t ht
        simp only [Task.notify, hr, Option.isSome_some]
    -- asking one transport leaves the exits of the others to be asked for
    have hrec := ih hrest { s with slots := (s.slots.notify k).1 } (by
      intro k' hk' t ht
      have hget := s.slots.crew.get?_notify k.name k'.name
      have hne : k'.name ≠ k.name := fun hname => hk (Transport.name_inj hname ▸ hk')
      rw [if_neg hne] at hget
      exact hkept k' (List.mem_cons_of_mem _ hk') t (hget.symm.trans ht))
    have henabled : (s.slots.notify k).1.enabled = s.slots.enabled := (s.slots.tells_notify k).enabled
    rw [heard_cons, hrec, hheard, henabled]
    by_cases h : s.slots.enabled k = true
    · rw [if_pos h, List.filter_cons_of_pos h]
    · rw [if_neg h, List.filter_cons_of_neg h]

/-- To stop listening is silent, and moves to no phase. -/
theorem tells_unhear (s : Supervisor) (ks : List Transport) :
    s.Tells (s.unhear ks) [] ∧ (s.unhear ks).phase = s.phase := by
  refine ⟨tells_slots (Slots.tells_crew ?_), rfl⟩
  generalize s.slots.crew = c
  induction ks generalizing c with
  | nil => exact .refl c
  | cons k rest ih => exact (c.tells_unhear k.name).silent (ih _)

/-! ## Waiting -/

/-- Each transport is found by its name. -/
theorem find?_name (k : Transport) : Transport.constructOrder.find? (·.name == k.name) = some k := by
  cases k <;> decide

/-- What the wait of the supervisor comes to, and the crew after it. -/
def waited (s : Supervisor) (signal : Option Signal) (limit : Option Nat) (first : Nat) :
    Option Wake × Crew :=
  let v := notifyEach Transport.shutdownOrder s
  let crew := v.1.slots.crew
  crew.await (v.2.map Transport.name) (signal.map fun g => crew.now + g.after) limit first

/-- The supervisor when the wait has come to an end. -/
def awake (s : Supervisor) (signal : Option Signal) (limit : Option Nat) (first : Nat) : Supervisor :=
  let v := (notifyEach Transport.shutdownOrder s).1
  { v with slots := { v.slots with crew := (s.waited signal limit first).2 } }

/-- So is the wait, with the listening before it and after it. -/
theorem tells_awake (s : Supervisor) (signal : Option Signal) (limit : Option Nat) (first : Nat) :
    s.Tells (s.awake signal limit first) [] ∧ (s.awake signal limit first).phase = s.phase := by
  obtain ⟨htells, hphase⟩ := s.tells_notifyEach Transport.shutdownOrder
  exact ⟨htells.silent (tells_slots (Slots.tells_crew (Crew.tells_await _ _ _ _ _))), hphase⟩

/-- **Whatever ends the wait is a trigger**, and if it is the exit of a transport, that one was listened
for. -/
theorem trigger_of_waited {s : Supervisor} {signal : Option Signal} {limit : Option Nat} {first : Nat}
    {w : Wake} (h : (s.waited signal limit first).1 = some w) :
    ∃ t, (s.awake signal limit first).triggerOf signal w = some t ∧
      ∀ k e, t = .service k e → k ∈ (notifyEach Transport.shutdownOrder s).2 := by
  cases w with
  | signal =>
    have hsome := Crew.signal_of_await h
    rw [Option.isSome_map] at hsome
    obtain ⟨g, rfl⟩ := Option.isSome_iff_exists.1 hsome
    exact ⟨.signal g.name, rfl, fun k e ht => by cases ht⟩
  | task name =>
    obtain ⟨hmem, t, f, ht, hf⟩ := Crew.fate_of_await h
    have hheard : name ∈ (notifyEach Transport.shutdownOrder s).2.map Transport.name := hmem
    obtain ⟨k, hk, rfl⟩ := List.mem_map.1 hheard
    obtain ⟨e, he⟩ : ∃ e, (s.awake signal limit first).slots.exit? k = some e := by
      have hget : (s.awake signal limit first).slots.crew.get? k.name = some t := ht
      unfold Slots.exit?
      rw [hget, Option.bind_some, Task.exit?, hf]
      exact ⟨_, rfl⟩
    refine ⟨.service k e, ?_, ?_⟩
    · simp only [triggerOf, find?_name, Option.bind_some, he, Option.map_some]
    · intro k' e' he
      obtain ⟨rfl, -⟩ := Trigger.service.inj he
      exact hk

/-- The end of the wait: nobody listens any more, and if it has a trigger, that is told. -/
theorem waitAny_eq (s : Supervisor) (signal : Option Signal) (limit : Option Nat) (first : Nat) :
    s.waitAny signal limit first =
      match (s.waited signal limit first).1.bind ((s.awake signal limit first).triggerOf signal) with
      | some trigger =>
        (some trigger, (((s.awake signal limit first).unhear
          (notifyEach Transport.shutdownOrder s).2).emit (.triggered trigger)).move .shuttingDown)
      | none => (none, (s.awake signal limit first).unhear (notifyEach Transport.shutdownOrder s).2) := rfl

/-- **What waiting comes to**: one trigger and the move to the next phase, or nothing yet. -/
theorem waitAny_cases (s : Supervisor) (signal : Option Signal) (limit : Option Nat) (first : Nat) :
    (∃ t s', s.waitAny signal limit first = (some t, s') ∧
        s.Tells s' [.triggered t, .moved s.phase .shuttingDown] ∧ s'.phase = .shuttingDown ∧
        (∀ k e, t = .service k e → k ∈ (notifyEach Transport.shutdownOrder s).2) ∧
        (s.waited signal limit first).1 ≠ none) ∨
      ∃ s', s.waitAny signal limit first = (none, s') ∧ s.Tells s' [] ∧ s'.phase = s.phase ∧
        (s.waited signal limit first).1 = none := by
  obtain ⟨hawake, hphase⟩ := s.tells_awake signal limit first
  have hunhear := (s.awake signal limit first).tells_unhear (notifyEach Transport.shutdownOrder s).2
  -- either the wait saw a task end or the signal come, or it goes on
  cases hw : (s.waited signal limit first).1 with
  | some w =>
    obtain ⟨t, ht, hmem⟩ := trigger_of_waited hw
    let quiet := (s.awake signal limit first).unhear (notifyEach Transport.shutdownOrder s).2
    have heq : s.waitAny signal limit first = (some t, (quiet.emit (.triggered t)).move .shuttingDown) := by
      rw [waitAny_eq, hw, Option.bind_some, ht]
    refine Or.inl ⟨t, _, heq, ?_, rfl, hmem, Option.some_ne_none w⟩
    have hmove := (quiet.emit (.triggered t)).tells_move .shuttingDown
    rw [show (quiet.emit (.triggered t)).phase = s.phase from hunhear.2.trans hphase] at hmove
    exact ((hawake.silent hunhear.1).trans (tells_emit quiet (by rintro ⟨⟩))).trans hmove
  | none =>
    refine Or.inr ⟨_, ?_, hawake.silent hunhear.1, hunhear.2.trans hphase, rfl⟩
    rw [waitAny_eq, hw, Option.bind_none]

/-- Every transport that is there runs its body, and nobody has asked for its exit. -/
def Serving (s : Supervisor) : Prop :=
  ∀ (k : Transport) (t : Task), s.slots.crew.get? k.name = some t →
    t.Serves (s.slots.conduct k).plan ∧ t.receiver = .kept

/-- Every transport is told to shut down at its place in the order. -/
theorem mem_shutdownOrder (k : Transport) : k ∈ Transport.shutdownOrder := by
  cases k <;> decide

/-- While all serve, every transport that is there gives its exit to the first who asks. -/
theorem Serving.heard {s : Supervisor} (h : s.Serving) :
    (notifyEach Transport.shutdownOrder s).2 = Transport.shutdownOrder.filter s.slots.enabled :=
  heard_notifyEach (by decide) s fun k _ t ht => (h k t ht).2

/-- Asking for the exits changes no body. -/
theorem Serving.serves_of_notified {s : Supervisor} (h : s.Serving) {k : Transport}
    (hk : s.slots.enabled k = true) :
    ∃ t, (notifyEach Transport.shutdownOrder s).1.slots.crew.get? k.name = some t ∧
      t.Serves (s.slots.conduct k).plan := by
  obtain ⟨t, ht⟩ := Option.isSome_iff_exists.1 hk
  obtain ⟨⟨m, hm⟩, -⟩ := h k t ht
  have hget := get?_notifyEach Transport.shutdownOrder s k.name
  rw [ht, Option.map_some, hm] at hget
  obtain ⟨t', ht', hbody⟩ := Option.map_eq_some_iff.1 hget
  exact ⟨t', ht', m, hbody⟩

/-- **Without a signal and without a body that ends the wait does not end**, however long it lasts. -/
theorem Serving.waited_of_nothing {s : Supervisor} (h : s.Serving)
    (hends : ∀ k, s.slots.enabled k = true → (s.slots.conduct k).plan.ends = false) (limit : Option Nat)
    (first : Nat) : (s.waited none limit first).1 = none := by
  refine Crew.await_eq_none_iff.2 ?_
  intro w hw
  rcases Crew.mem_wakes.1 hw with rfl | ⟨name, hname, rfl⟩
  · exact ⟨rfl, rfl⟩
  · obtain ⟨k, hk, rfl⟩ := List.mem_map.1 hname
    rw [h.heard, List.mem_filter] at hk
    obtain ⟨t, ht, hserves⟩ := h.serves_of_notified hk.2
    have hend : t.endTime? = none := by
      rw [← Option.not_isSome_iff_eq_none, Task.endTime_of_serves hserves, hends k hk.2]
      decide
    simp only [Crew.isReady, Crew.wakeTime?, ht, Option.bind_some, Task.fate_of_serves hserves, hend]
    exact ⟨rfl, rfl⟩

/-- **A wait without a limit that does not end** has neither a signal nor a body that ends. -/
theorem Serving.nothing_of_waited {s : Supervisor} (h : s.Serving) {signal : Option Signal} {first : Nat}
    (hw : (s.waited signal none first).1 = none) :
    signal = none ∧ ∀ k, s.slots.enabled k = true → (s.slots.conduct k).plan.ends = false := by
  have hall := Crew.await_eq_none_iff.1 hw
  constructor
  · have htime := (hall .signal (Crew.mem_wakes.2 (Or.inl rfl))).2
    cases signal with
    | none => rfl
    | some g => cases htime
  · intro k hk
    have hmem : k ∈ (notifyEach Transport.shutdownOrder s).2 := by
      rw [h.heard, List.mem_filter]
      exact ⟨mem_shutdownOrder k, hk⟩
    obtain ⟨t, ht, hserves⟩ := h.serves_of_notified hk
    have htime := (hall (.task k.name) (Crew.mem_wakes.2 (Or.inr ⟨_, List.mem_map_of_mem hmem, rfl⟩))).2
    simp only [Crew.wakeTime?, ht, Option.bind_some] at htime
    rw [← Task.endTime_of_serves hserves]
    cases hend : t.endTime? with
    | none => rfl
    | some time =>
      rw [hend] at htime
      cases htime

/-! ## Shutting down -/

/-- What is told of the shutting down of one transport. -/
def closing (r : ShutdownRecord) : List Event :=
  [.shuttingDown r.kind,
    match r.result with
    | .ok () => .shutDown r.kind
    | .error e => .shutdownFailed r.kind e]

/-- The supervisor when it has shut down a transport and told how that ended. -/
def closed (s : Supervisor) (slots : Slots) (r : ShutdownRecord) : Supervisor :=
  emit { s with slots } (match r.result with
    | .ok () => .shutDown r.kind
    | .error e => .shutdownFailed r.kind e)

/-- A transport that has been shut down is told of in its two events. -/
theorem tells_closed {s : Supervisor} {slots : Slots} {r : ShutdownRecord}
    (h : s.slots.Tells slots [.shuttingDown r.kind]) : s.Tells (s.closed slots r) (closing r) := by
  refine (tells_slots h).trans (tells_emit _ ?_)
  split <;> rintro ⟨⟩

/-- What is written down of the way in which a transport was shut down, unless that breaks everything off. -/
def resultOf (after : Span) : Option (Except Failure Unit) → Option (Except ShutdownError Unit)
  | some (.ok ()) => some (.ok ())
  | some (.error (.failed c)) => some (.error (.failed c))
  | some (.error (.broke _)) => none
  | none => some (.error (.timeout after))

/-- A transport that is not there is passed over. -/
theorem shutdownEach_of_not_enabled (limit : Option Nat) {k : Transport} (rest : List Transport)
    {s : Supervisor} (h : ¬ s.slots.enabled k = true) :
    shutdownEach limit (k :: rest) s = shutdownEach limit rest s := by
  simp only [shutdownEach, Bool.eq_false_iff.2 h, Bool.not_false, if_true]

/-- **One round of shutting down**, of a transport that is there: it is told to shut down, and whatever comes
of it goes into its record; or it breaks everything off; or the outer limit comes first. -/
theorem shutdownEach_of_enabled (limit : Option Nat) {k : Transport} (rest : List Transport) {s : Supervisor}
    (h : s.slots.enabled k = true) :
    let out := s.slots.shutdown k s.timeout (some (sooner (s.slots.crew.now + s.timeout) limit))
    (∃ result, resultOf (.ofMillis s.timeout) out.1 = some result ∧
        shutdownEach limit (k :: rest) s =
          let next := shutdownEach limit rest (s.closed out.2 ⟨k, result⟩)
          (next.1.map fun v => v.map (⟨k, result⟩ :: ·), next.2)) ∨
      (∃ m, out.1 = some (.error (.broke m)) ∧
        shutdownEach limit (k :: rest) s = (some (.error (.broke m)), { s with slots := out.2 })) ∨
      (limit.isSome = true ∧ shutdownEach limit (k :: rest) s = (none, { s with slots := out.2 })) := by
  rcases heq : s.slots.shutdown k s.timeout (some (sooner (s.slots.crew.now + s.timeout) limit))
    with ⟨r, slots⟩
  rcases r with _ | ((c | m) | u)
  · -- not by the limit: the transport's own, or the outer one
    by_cases hwithin : within (s.slots.crew.now + s.timeout) limit = true
    · refine Or.inl ⟨.error (.timeout (.ofMillis s.timeout)), rfl, ?_⟩
      simp only [shutdownEach, h, heq, hwithin, Bool.not_true, Bool.false_eq_true, if_false, if_true]
      rfl
    · refine Or.inr (Or.inr ⟨?_, ?_⟩)
      · cases limit with
        | none => exact absurd rfl hwithin
        | some time => rfl
      · simp only [shutdownEach, h, heq, hwithin, Bool.not_true, Bool.false_eq_true, if_false]
  · refine Or.inl ⟨.error (.failed c), rfl, ?_⟩
    simp only [shutdownEach, h, heq, Bool.not_true, Bool.false_eq_true, if_false]
    rfl
  · refine Or.inr (Or.inl ⟨m, rfl, ?_⟩)
    simp only [shutdownEach, h, heq, Bool.not_true, Bool.false_eq_true, if_false]
  · refine Or.inl ⟨.ok (), rfl, ?_⟩
    simp only [shutdownEach, h, heq, Bool.not_true, Bool.false_eq_true, if_false]
    rfl

/-- **What shutting down comes to**: each transport that is there is told once to shut down, in order, and
gets its record, unless one of them breaks down, which ends it, or the outer limit comes first. -/
theorem shutdownEach_comes (limit : Option Nat) (ks : List Transport) (s : Supervisor) :
    (∃ records s', shutdownEach limit ks s = (some (.ok records), s') ∧
        s.Tells s' (records.flatMap closing) ∧ s'.phase = s.phase ∧
        records.map (·.kind) = ks.filter s.slots.enabled) ∨
      (∃ (records : List ShutdownRecord) (k : Transport) (later : List Transport) (m : String) (s' : Supervisor),
        shutdownEach limit ks s = (some (.error (.broke m)), s') ∧
        s.Tells s' (records.flatMap closing ++ [.shuttingDown k]) ∧ s'.phase = s.phase ∧
        ks.filter s.slots.enabled = records.map (·.kind) ++ k :: later ∧ (s.slots.conduct k).closing.Breaks m) ∨
      (limit.isSome = true ∧ ∃ s', shutdownEach limit ks s = (none, s')) := by
  induction ks generalizing s with
  | nil => exact Or.inl ⟨[], s, rfl, .refl s, rfl, rfl⟩
  | cons k rest ih =>
    by_cases h : s.slots.enabled k = true
    · rw [List.filter_cons_of_pos h]
      let out := s.slots.shutdown k s.timeout (some (sooner (s.slots.crew.now + s.timeout) limit))
      have htold : s.slots.Tells out.2 [.shuttingDown k] := s.slots.tells_shutdown k s.timeout _
      rcases shutdownEach_of_enabled limit rest h with ⟨result, -, heq⟩ | ⟨m, hbroke, heq⟩ | ⟨hlimit, heq⟩
      · have hclosed := tells_closed (r := ⟨k, result⟩) htold
        have henabled := hclosed.slots.enabled
        -- whatever came of this one, the next round begins with the same transports there
        rcases ih (s.closed out.2 ⟨k, result⟩) with ⟨records, s', hrun, htells, hphase, hkinds⟩ |
            ⟨records, k', later, m, s', hrun, htells, hphase, hkinds, hbreaks⟩ | ⟨hlimit, s', hrun⟩
        · refine Or.inl ⟨⟨k, result⟩ :: records, s', ?_, hclosed.trans htells, hphase, ?_⟩
          · rw [heq, hrun]
            rfl
          · rw [List.map_cons, hkinds, henabled]
        · rw [henabled] at hkinds
          rw [hclosed.slots.conduct] at hbreaks
          refine Or.inr (Or.inl ⟨⟨k, result⟩ :: records, k', later, m, s', ?_, ?_, hphase, ?_, hbreaks⟩)
          · rw [heq, hrun]
            rfl
          · exact hclosed.trans htells
          · rw [hkinds]
            rfl
        · refine Or.inr (Or.inr ⟨hlimit, s', ?_⟩)
          rw [heq, hrun]
          rfl
      · exact Or.inr (Or.inl ⟨[], k, _, m, _, heq, tells_slots htold, rfl, rfl, Slots.breaks_of_shutdown hbroke⟩)
      · exact Or.inr (Or.inr ⟨hlimit, _, heq⟩)
    · rw [shutdownEach_of_not_enabled limit rest h, List.filter_cons_of_neg h]
      exact ih s

/-- Where no transport breaks down, each that is there gets its record, unless the outer limit comes first. -/
theorem shutdownEach_cases (limit : Option Nat) (ks : List Transport) {s : Supervisor}
    (hsound : ∀ k ∈ ks, s.slots.enabled k = true → (s.slots.conduct k).closing.Sound) :
    (∃ records s', shutdownEach limit ks s = (some (.ok records), s') ∧
        s.Tells s' (records.flatMap closing) ∧ s'.phase = s.phase ∧
        records.map (·.kind) = ks.filter s.slots.enabled) ∨
      (limit.isSome = true ∧ ∃ s', shutdownEach limit ks s = (none, s')) := by
  rcases shutdownEach_comes limit ks s with hdone | ⟨records, k, later, m, s', -, -, -, hkinds, hbreaks⟩ | hlimit
  · exact Or.inl hdone
  · have hmem : k ∈ ks.filter s.slots.enabled := by
      rw [hkinds]
      exact List.mem_append_right _ List.mem_cons_self
    obtain ⟨hk, henabled⟩ := List.mem_filter.1 hmem
    exact absurd hbreaks (hsound k hk henabled m)
  · exact Or.inr hlimit

/-- Cutting off what still runs is silent, and moves to no phase. -/
theorem tells_close (s : Supervisor) : s.Tells s.close [] ∧ s.close.phase = s.phase :=
  ⟨tells_slots (Slots.tells_crew s.slots.crew.tells_close), rfl⟩

/-- The supervisor when it turns to shutting down. -/
def entered (s : Supervisor) : Supervisor :=
  if s.phase == .shuttingDown then s else s.move .shuttingDown

/-- The supervisor when it has shut all transports down and has told so. -/
def exited (s : Supervisor) (o : ShutdownOutcome) : Supervisor :=
  (s.emit (.passed o.failures.length o.records.length)).move .exited

/-- **What shutting everything down ends with**: everything is let go of. -/
theorem shutdownAll_eq (s : Supervisor) (limit : Option Nat) :
    let out := shutdownEach limit Transport.shutdownOrder s.entered
    (∃ records, out.1 = some (.ok records) ∧
        s.shutdownAll limit = (some (.ok ⟨records⟩), (out.2.exited ⟨records⟩).close)) ∨
      (∃ f, out.1 = some (.error f) ∧ s.shutdownAll limit = (some (.error f), out.2.close)) ∨
      (out.1 = none ∧ s.shutdownAll limit = (none, out.2.close)) := by
  rcases heq : shutdownEach limit Transport.shutdownOrder s.entered with ⟨r, u⟩
  unfold entered at heq
  rcases r with _ | (f | records)
  · refine Or.inr (Or.inr ⟨rfl, ?_⟩)
    simp only [shutdownAll, heq]
  · refine Or.inr (Or.inl ⟨f, rfl, ?_⟩)
    simp only [shutdownAll, heq]
  · refine Or.inl ⟨records, rfl, ?_⟩
    simp only [shutdownAll, heq, exited]

/-- A supervisor that is shutting down already does not turn to it again. -/
theorem entered_of_phase {s : Supervisor} (h : s.phase = .shuttingDown) : s.entered = s := by
  unfold entered
  rw [if_pos (by rw [h]; rfl)]

/-- Having turned to shutting down it is in that phase. -/
theorem phase_entered (s : Supervisor) : s.entered.phase = .shuttingDown := by
  by_cases h : s.phase = .shuttingDown
  · rw [entered_of_phase h, h]
  · unfold entered
    rw [if_neg (mt eq_of_beq h)]
    rfl

/-- Turning to shutting down is told, unless the supervisor has done so before. -/
theorem tells_turn (s : Supervisor) :
    s.Tells s.entered (if s.phase = .shuttingDown then [] else [.moved s.phase .shuttingDown]) := by
  by_cases h : s.phase = .shuttingDown
  · rw [entered_of_phase h, if_pos h]
    exact .refl s
  · unfold entered
    rw [if_neg (mt eq_of_beq h), if_neg h]
    exact s.tells_move .shuttingDown

/-- That all is over is told with the numbers of failures and of transports, and then the supervisor exits. -/
theorem tells_exited {s : Supervisor} (h : s.phase = .shuttingDown) (o : ShutdownOutcome) :
    s.Tells (s.exited o) [.passed o.failures.length o.records.length, .moved .shuttingDown .exited] := by
  have hpassed : s.Tells (s.emit (.passed o.failures.length o.records.length))
      [.passed o.failures.length o.records.length] := tells_emit s (by rintro ⟨⟩)
  have hmoved := (s.emit (.passed o.failures.length o.records.length)).tells_move .exited
  rw [show (s.emit _).phase = .shuttingDown from h] at hmoved
  exact hpassed.trans hmoved

/-- **What shutting everything down comes to**, where no transport breaks down. -/
theorem shutdownAll_cases (limit : Option Nat) {s : Supervisor} (hphase : s.phase = .shuttingDown)
    (hsound : ∀ k, s.slots.enabled k = true → (s.slots.conduct k).closing.Sound) :
    (∃ o s', s.shutdownAll limit = (some (.ok o), s') ∧
        s.Tells s' (o.records.flatMap closing ++
          [.passed o.failures.length o.records.length, .moved .shuttingDown .exited]) ∧
        s'.phase = .exited ∧ o.kinds = Transport.shutdownOrder.filter s.slots.enabled) ∨
      (limit.isSome = true ∧ ∃ s', s.shutdownAll limit = (none, s')) := by
  have hall := s.shutdownAll_eq limit
  rw [entered_of_phase hphase] at hall
  rcases shutdownEach_cases limit Transport.shutdownOrder fun k _ => hsound k with
    ⟨records, s', heq, htells, hphase', hkinds⟩ | ⟨hlimit, s', heq⟩
  · rw [heq] at hall
    rcases hall with ⟨records', hrecords, hrun⟩ | ⟨f, hf, -⟩ | ⟨hnone, -⟩
    · obtain rfl := Except.ok.inj (Option.some.inj hrecords)
      have hexited := htells.trans (tells_exited (hphase'.trans hphase) ⟨records⟩)
      exact Or.inl ⟨_, _, hrun, hexited.silent (tells_close _).1, rfl, hkinds⟩
    · cases hf
    · cases hnone
  · rw [heq] at hall
    rcases hall with ⟨records, hrecords, -⟩ | ⟨f, hf, -⟩ | ⟨-, hrun⟩
    · cases hrecords
    · cases hf
    · exact Or.inr ⟨hlimit, _, hrun⟩

/-! ## A run -/

/-- **What a run comes to** once everything has been started: it has been triggered and has shut everything
down; or it has been triggered and the outer limit came first; or nothing has ended the wait. -/
theorem run_cases (s : Supervisor) (signal : Option Signal) (limit : Option Nat) (first : Nat)
    (hsound : ∀ k, s.startAll.1.slots.enabled k = true → (s.startAll.1.slots.conduct k).closing.Sound) :
    (∃ report s', s.run signal limit first = (some (.ok report), s') ∧
        s.startAll.1.Tells s' ([.triggered report.trigger, .moved s.startAll.1.phase .shuttingDown] ++
          (report.outcome.records.flatMap closing ++
            [.passed report.outcome.failures.length report.outcome.records.length,
              .moved .shuttingDown .exited])) ∧
        s'.phase = .exited ∧
        report.outcome.kinds = Transport.shutdownOrder.filter s.startAll.1.slots.enabled ∧
        (∀ k e, report.trigger = .service k e →
          k ∈ (notifyEach Transport.shutdownOrder s.startAll.1).2) ∧
        (s.startAll.1.waited signal limit first).1 ≠ none) ∨
      (∃ s', s.run signal limit first = (none, s') ∧ limit.isSome = true ∧
        (s.startAll.1.waited signal limit first).1 ≠ none) ∨
      ∃ s', s.run signal limit first = (none, s') ∧ s.startAll.1.Tells s' [] ∧
        s'.phase = s.startAll.1.phase ∧ (s.startAll.1.waited signal limit first).1 = none := by
  -- the run ends where the wait ends without an event, or the closing does
  rcases s.startAll.1.waitAny_cases signal limit first with
    ⟨t, v, hwait, htells, hphase, htrigger, hwaited⟩ | ⟨v, hwait, htells, hphase, hwaited⟩
  · have hsound' : ∀ k, v.slots.enabled k = true → (v.slots.conduct k).closing.Sound := by
      rw [htells.slots.enabled, htells.slots.conduct]
      exact hsound
    rcases shutdownAll_cases limit hphase hsound' with
      ⟨o, s', hshut, hshutTells, hexited, hkinds⟩ | ⟨hlimit, s', hshut⟩
    · refine Or.inl ⟨⟨t, o⟩, s', ?_, htells.trans hshutTells, hexited, ?_, htrigger, hwaited⟩
      · simp only [run, runWith, id, hwait, hshut, Option.map_some]
        rfl
      · rw [hkinds, htells.slots.enabled]
    · refine Or.inr (Or.inl ⟨s', ?_, hlimit, hwaited⟩)
      simp only [run, runWith, id, hwait, hshut, Option.map_none]
  · refine Or.inr (Or.inr ⟨v.close, ?_, htells.silent v.tells_close.1, ?_, hwaited⟩)
    · simp only [run, runWith, id, hwait]
    · exact v.tells_close.2.trans hphase

end Supervisor

end Phrasebook.Lifecycle
