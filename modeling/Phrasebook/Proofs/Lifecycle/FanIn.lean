import Phrasebook.Proofs.Lifecycle.Course
import Phrasebook.Proofs.Lifecycle.GoingOn
/-!
# The earliest event ends the wait

Once everything runs, the supervisor waits for the first of a signal and the ends of the bodies. What it comes
back with is the earliest of them, at the very time at which it occurs (`Supervisor.earliest_event_wins`). An
end of a body is told as what it was, a failure or any other end, and for the transport whose body it was.

The wait looks at what is there when it begins, and only then lets time pass. A signal is there if it came by
that time; a body has its turn after the hand, so its end is there only if it came before. Of several things
that are there at once any may be picked, whichever is looked at first, so there must be one at most.
-/

set_option autoImplicit false

namespace Phrasebook.Lifecycle

/-- When and how a body with this plan, begun at a time, ends if nobody asks it to stop. -/
def Plan.quits? (p : Plan) (begun : Nat) : Option (Nat × Except Failure Unit) :=
  p.serve.bind (·.endAt? begun)

/-- The exit that an ending of a body is heard as. -/
def Exit.ofEnding : Except Failure Unit → Exit
  | .error (.failed c) => .failed c
  | .error (.broke _) | .ok () => .terminated

/-! ## A body that serves -/

namespace Task

variable {t : Task} {p : Plan} {begun : Nat}

/-- What a body that nobody has asked to stop does next is to end. -/
theorem next?_of_servesSince (h : t.ServesSince p begun) :
    ∃ turn, t.next? = (p.quits? begun).map fun q =>
      ⟨⟨q.1, turn⟩, .over (.ofEnding t.heard q.2), .exited t.name :: failureEvents t.name q.2⟩ := by
  obtain ⟨turn, hbody⟩ := h
  refine ⟨turn, ?_⟩
  have hquits : Body.quits? { plan := p, spawned := ⟨begun, turn⟩ } none = p.quits? begun := by
    unfold Body.quits?
    show (p.quits? begun).filter _ = _
    cases p.quits? begun with
    | none => rfl
    | some q => rfl
  unfold next?
  rw [hbody, Option.bind_some]
  unfold Body.next?
  dsimp only
  rw [hquits]
  cases p.quits? begun with
  | none => rfl
  | some q => rfl

/-- A body that serves ends when its plan has it end. -/
theorem endTime?_of_servesSince (h : t.ServesSince p begun) : t.endTime? = (p.quits? begun).map (·.1) := by
  obtain ⟨turn, hnext⟩ := next?_of_servesSince h
  unfold endTime?
  rw [hnext]
  cases p.quits? begun with
  | none => rfl
  | some q => rfl

/-- **A body that is due to end before a time** has ended by then, in the way it was to end. -/
theorem fate?_of_quits (h : t.ServesSince p begun) {time : Nat} {ending : Except Failure Unit}
    (hquits : p.quits? begun = some (time, ending)) {limit : Nat} (hlt : time < limit) :
    (t.advance limit).1.fate? = some (.ofEnding t.heard ending) := by
  obtain ⟨turn, hnext⟩ := next?_of_servesSince h
  obtain ⟨turn', hbody⟩ := h
  rw [hquits, Option.map_some] at hnext
  unfold advance advanceSteps
  rw [hnext]
  dsimp only
  rw [if_pos hlt]
  unfold advanceSteps
  rw [next?_of_over hbody]
  exact fate_of_setStage hbody _

/-- Until it ends, such a body stays as it is. -/
theorem advance_of_serving (h : t.ServesSince p begun) {limit : Nat}
    (hlate : ∀ q, p.quits? begun = some q → limit ≤ q.1) : (t.advance limit).1 = t := by
  obtain ⟨turn, hnext⟩ := next?_of_servesSince h
  unfold advance advanceSteps
  rw [hnext]
  cases hquits : p.quits? begun with
  | none => rfl
  | some q =>
    have hnot : ¬ q.1 < limit := Nat.not_lt.2 (hlate q hquits)
    rw [Option.map_some]
    dsimp only
    rw [if_neg hnot]

/-- A body that has come to an end is heard with the exit for that end. -/
theorem exit?_of_fate {heard : Bool} {ending : Except Failure Unit}
    (h : t.fate? = some (.ofEnding heard ending)) : t.exit? = some (.ofEnding ending) := by
  unfold exit?
  rw [h, Option.map_some]
  rcases ending with (c | m) | u
  · rfl
  · rfl
  · rfl

/-- A body was begun at a time. It has ended before another time, or it still runs and is not to end before
that time. -/
def Stands (t : Task) (p : Plan) (begun now : Nat) : Prop :=
  (∃ q heard, p.quits? begun = some q ∧ q.1 < now ∧ t.fate? = some (.ofEnding heard q.2)) ∨
    t.ServesSince p begun ∧ t.fate? = none ∧ ∀ q, p.quits? begun = some q → now ≤ q.1

/-- As time passes, a body that serves comes to stand where it should. -/
theorem stands_of_servesSince (h : t.ServesSince p begun) (now : Nat) :
    (t.advance now).1.Stands p begun now := by
  by_cases hdue : ∃ q, p.quits? begun = some q ∧ q.1 < now
  · obtain ⟨q, hquits, hlt⟩ := hdue
    exact Or.inl ⟨q, t.heard, hquits, hlt, fate?_of_quits h hquits hlt⟩
  · have hlate : ∀ q, p.quits? begun = some q → now ≤ q.1 :=
      fun q hq => Nat.not_lt.1 fun hlt => hdue ⟨q, hq, hlt⟩
    rw [advance_of_serving h hlate]
    exact Or.inr ⟨h, fate_of_serves h.serves, hlate⟩

/-- Where a body stands does not depend on its handle or on who hears of it. -/
theorem Stands.of_body {t' : Task} {now : Nat} (h : t.Stands p begun now) (hbody : t'.body = t.body) :
    t'.Stands p begun now := by
  have hfate : t'.fate? = t.fate? := by rw [fate?, fate?, hbody]
  rcases h with ⟨q, heard, hquits, hlt, hover⟩ | ⟨⟨turn, hserves⟩, hopen, hlate⟩
  · exact Or.inl ⟨q, heard, hquits, hlt, hfate.trans hover⟩
  · exact Or.inr ⟨⟨turn, hbody.trans hserves⟩, hfate.trans hopen, hlate⟩

end Task

/-! ## What may occur -/

/-- What may end the wait, and when: a signal, and the ends of the bodies of the wanted transports, which have
all run since one time. -/
inductive Occurs (conduct : Transport → Conduct) (wanted : Transport → Bool) (begun : Nat)
    (signal : Option (String × Nat)) : Trigger → Nat → Prop
  | signal {name : String} {time : Nat} (h : signal = some (name, time)) :
    Occurs conduct wanted begun signal (.signal name) time
  | service {k : Transport} {time : Nat} {ending : Except Failure Unit} (hk : wanted k = true)
    (h : (conduct k).plan.quits? begun = some (time, ending)) :
    Occurs conduct wanted begun signal (.service k (.ofEnding ending)) time

/-- Whether what occurs at a time is there when the wait begins at another. -/
def Trigger.IsThere (t : Trigger) (time now : Nat) : Prop :=
  if t.isServiceExit then time < now else time ≤ now

/-- A trigger that is there has come. -/
theorem Trigger.IsThere.le {t : Trigger} {time now : Nat} (h : t.IsThere time now) : time ≤ now := by
  unfold IsThere at h
  split at h
  · exact Nat.le_of_lt h
  · exact h

/-- A trigger that is not there is still to come. -/
theorem Trigger.le_of_not_isThere {t : Trigger} {time now : Nat} (h : ¬ t.IsThere time now) : now ≤ time := by
  unfold IsThere at h
  split at h
  · exact Nat.not_lt.1 h
  · exact Nat.le_of_lt (Nat.not_le.1 h)

/-- What wakes the hand when it occurs. -/
def Trigger.wake : Trigger → Wake
  | .signal _ => .signal
  | .service k _ => .task k.name

section Occurs

variable {conduct : Transport → Conduct} {wanted : Transport → Bool} {begun : Nat}
  {signal : Option (String × Nat)} {t t' : Trigger} {time time' : Nat}

/-- What wakes the hand does so by one occurrence. -/
theorem Occurs.unique (h : Occurs conduct wanted begun signal t time)
    (h' : Occurs conduct wanted begun signal t' time') (hwake : t.wake = t'.wake) : t = t' ∧ time = time' := by
  cases h with
  | signal h =>
    cases h' with
    | signal h' =>
      obtain ⟨rfl, rfl⟩ := Prod.mk.inj (Option.some.inj (h.symm.trans h'))
      exact ⟨rfl, rfl⟩
    | service _ _ => cases hwake
  | service _ h =>
    cases h' with
    | signal _ => cases hwake
    | service _ h' =>
      obtain rfl := Transport.name_inj (Wake.task.inj hwake)
      obtain ⟨rfl, rfl⟩ := Prod.mk.inj (Option.some.inj (h.symm.trans h'))
      exact ⟨rfl, rfl⟩

end Occurs

/-! ## Looking -/

/-- A crew at which a wait begins: the wanted transports have run since a time, and their exits are listened
for. -/
structure Crew.Watches (c : Crew) (conduct : Transport → Conduct) (wanted : Transport → Bool) (begun : Nat)
    (names : List String) : Prop where
  names : ∀ name, name ∈ names ↔ ∃ k, wanted k = true ∧ name = k.name
  stands : ∀ k, wanted k = true →
    ∃ t, c.get? k.name = some t ∧ t.Stands (conduct k).plan begun c.now

/-- When the signal comes as the wait sees it: at once if it came before. -/
def Crew.due (c : Crew) (signal : Option (String × Nat)) : Option Nat :=
  signal.map fun g => c.now + (g.2 - c.now)

namespace Crew.Watches

variable {c : Crew} {conduct : Transport → Conduct} {wanted : Transport → Bool} {begun : Nat}
  {names : List String} {signal : Option (String × Nat)} {t : Trigger} {time : Nat}

/-- What can occur is watched, whatever the place where the looking begins. -/
theorem mem_wakes (h : c.Watches conduct wanted begun names)
    (ht : Occurs conduct wanted begun signal t time) (first : Nat) : t.wake ∈ wakes names first := by
  refine Crew.mem_wakes.2 ?_
  cases ht with
  | signal _ => exact Or.inl rfl
  | service hk _ => exact Or.inr ⟨_, (h.names _).2 ⟨_, hk, rfl⟩, rfl⟩

/-- **What is there** is found at the first look, and is read rightly. -/
theorem isReady_of_isThere (h : c.Watches conduct wanted begun names)
    (ht : Occurs conduct wanted begun signal t time) (hthere : t.IsThere time c.now) :
    c.isReady (c.due signal) t.wake = true ∧
      ∀ k x, t = .service k x → (c.get? k.name).bind (·.exit?) = some x := by
  cases ht with
  | signal hsignal =>
    have hle : time ≤ c.now := hthere
    subst hsignal
    refine ⟨beq_iff_eq.2 (congrArg some ?_), fun k x hx => nomatch hx⟩
    show c.now + (time - c.now) = c.now
    omega
  | service hk hquits =>
    have hlt : time < c.now := hthere
    obtain ⟨task, htask, ⟨q, heard, hq, -, hover⟩ | ⟨-, -, hlate⟩⟩ := h.stands _ hk
    · obtain rfl := Option.some.inj (hquits.symm.trans hq)
      refine ⟨?_, ?_⟩
      · show ((c.get? _).bind (·.fate?)).isSome = true
        rw [htask, Option.bind_some, hover, Option.isSome_some]
      · rintro k x ⟨⟩
        rw [htask, Option.bind_some, Task.exit?_of_fate hover]
    · exact absurd hlt (Nat.not_lt.2 (hlate _ hquits))

/-- **What is not there yet** is foreseen for its time, and is read rightly then. -/
theorem wakeTime?_of_not_isThere (h : c.Watches conduct wanted begun names)
    (ht : Occurs conduct wanted begun signal t time) (hnot : ¬ t.IsThere time c.now) :
    c.isReady (c.due signal) t.wake = false ∧ c.wakeTime? (c.due signal) none t.wake = some time ∧
      ∀ k x, t = .service k x → ((c.settle time).get? k.name).bind (·.exit?) = some x := by
  -- what is still to come is not ready, and the crew foresees its time
  cases ht with
  | signal hsignal =>
    have hlt : c.now < time := Nat.not_le.1 hnot
    have hdue : c.due signal = some time := by
      subst hsignal
      refine congrArg some ?_
      show c.now + (time - c.now) = time
      omega
    rw [hdue]
    refine ⟨?_, rfl, fun k x hx => nomatch hx⟩
    refine Bool.eq_false_iff.2 fun hready => ?_
    have hnow := Option.some.inj (beq_iff_eq.1 hready)
    omega
  | @service k _ ending hk hquits =>
    have hle : c.now ≤ time := Nat.not_lt.1 hnot
    obtain ⟨task, htask, ⟨q, heard, hq, hlt, -⟩ | ⟨hserves, hopen, -⟩⟩ := h.stands _ hk
    · obtain rfl := Option.some.inj (hquits.symm.trans hq)
      exact absurd hlt (Nat.not_lt.2 hle)
    · refine ⟨?_, ?_, ?_⟩
      · show ((c.get? _).bind (·.fate?)).isSome = false
        rw [htask, Option.bind_some, hopen, Option.isSome_none]
      · show ((c.get? _).bind (·.endTime?)).filter (before · none) = some time
        rw [htask, Option.bind_some, Task.endTime?_of_servesSince hserves, hquits]
        rfl
      · rintro k x ⟨⟩
        have hget := c.get?_advance (time + 1) k.name
        rw [htask, Option.map_some] at hget
        have hover := Task.fate?_of_quits hserves hquits (Nat.lt_succ_self time)
        show ((c.advance (time + 1)).get? k.name).bind (·.exit?) = _
        rw [hget, Option.bind_some, Task.exit?_of_fate hover]

/-- **Nothing else wakes the hand.** -/
theorem occurs_of_wakes (h : c.Watches conduct wanted begun names) (limit : Option Nat) {first : Nat}
    {w : Wake} (hw : w ∈ wakes names first)
    (hwake : c.isReady (c.due signal) w = true ∨ c.wakeTime? (c.due signal) limit w ≠ none) :
    ∃ t time, Occurs conduct wanted begun signal t time ∧ t.wake = w := by
  rcases Crew.mem_wakes.1 hw with rfl | ⟨name, hname, rfl⟩
  · cases signal with
    | some g => exact ⟨.signal g.1, g.2, .signal rfl, rfl⟩
    | none =>
      rcases hwake with hready | htime
      · cases hready
      · exact absurd rfl htime
  · obtain ⟨k, hk, rfl⟩ := (h.names name).1 hname
    cases hquits : (conduct k).plan.quits? begun with
    | some q => exact ⟨.service k (.ofEnding q.2), q.1, .service hk hquits, rfl⟩
    | none =>
      -- a body that never ends is neither there nor foreseen
      obtain ⟨task, htask, ⟨q, heard, hq, -, -⟩ | ⟨hserves, hopen, -⟩⟩ := h.stands k hk
      · cases hq.symm.trans hquits
      · have hend := Task.endTime?_of_servesSince hserves
        rw [hquits] at hend
        rcases hwake with hready | htime
        · have hfate : ((c.get? k.name).bind (·.fate?)).isSome = true := hready
          rw [htask, Option.bind_some, hopen] at hfate
          cases hfate
        · refine absurd ?_ htime
          show ((c.get? k.name).bind (·.endTime?)).filter (before · limit) = none
          rw [htask, Option.bind_some, hend]
          rfl

/-- **What a wait comes to**, if one thing at most is there when it begins: the earliest of the things that
occur, when it occurs; or nothing, if nothing occurs. -/
theorem await_cases (h : c.Watches conduct wanted begun names)
    (hearly : ∀ t time t' time', Occurs conduct wanted begun signal t time →
      Occurs conduct wanted begun signal t' time' → t.IsThere time c.now → t'.IsThere time' c.now → t = t')
    (first : Nat) :
    (∃ t time c', Occurs conduct wanted begun signal t time ∧
        (∀ t' time', Occurs conduct wanted begun signal t' time' → time ≤ time') ∧
        c.await names (c.due signal) none first = (some t.wake, c') ∧ c'.now = max c.now time ∧
        ∀ k x, t = .service k x → (c'.get? k.name).bind (·.exit?) = some x) ∨
      (∀ t time, ¬ Occurs conduct wanted begun signal t time) ∧
        (c.await names (c.due signal) none first).1 = none := by
  rcases c.await_cases names (c.due signal) none first with ⟨w, hw, hready, heq⟩ | ⟨hready, -⟩
  · -- something is there, and nothing else is
    obtain ⟨t, time, ht, rfl⟩ := h.occurs_of_wakes none hw (Or.inl hready)
    have hthere : t.IsThere time c.now := by
      refine Classical.byContradiction fun hnot => ?_
      rw [(h.wakeTime?_of_not_isThere ht hnot).1] at hready
      cases hready
    refine Or.inl ⟨t, time, c, ht, ?_, heq, ?_, (h.isReady_of_isThere ht hthere).2⟩
    · intro t' time' ht'
      by_cases hthere' : t'.IsThere time' c.now
      · have hsame := hearly t time t' time' ht ht' hthere hthere'
        exact Nat.le_of_eq (ht.unique ht' (congrArg Trigger.wake hsame)).2
      · exact Nat.le_trans hthere.le (Trigger.le_of_not_isThere hthere')
    · exact (Nat.max_eq_left hthere.le).symm
  · have hnot : ∀ t time, Occurs conduct wanted begun signal t time → ¬ t.IsThere time c.now := by
      intro t time ht hthere
      have hfound := (h.isReady_of_isThere ht hthere).1
      rw [hready t.wake (h.mem_wakes ht first)] at hfound
      cases hfound
    rcases c.await_of_not_ready names (c.due signal) none first hready with
      ⟨w, hw, time, htime, hleast, heq⟩ | ⟨hnone, heq⟩
    · obtain ⟨t, time', ht, rfl⟩ := h.occurs_of_wakes none hw
        (Or.inr (by rw [htime]; exact Option.some_ne_none time))
      obtain ⟨-, htime', hexit⟩ := h.wakeTime?_of_not_isThere ht (hnot t time' ht)
      obtain rfl := Option.some.inj (htime.symm.trans htime')
      have hnow : c.now ≤ time := Trigger.le_of_not_isThere (hnot t time ht)
      refine Or.inl ⟨t, time, _, ht, ?_, heq, ?_, ?_⟩
      · intro t' u ht'
        obtain ⟨-, hu, -⟩ := h.wakeTime?_of_not_isThere ht' (hnot t' u ht')
        exact hleast _ (h.mem_wakes ht' first) u hu
      · rw [Nat.max_eq_right hnow]
        cases t.wake with
        | signal => rfl
        | task _ => rfl
      · rintro k x rfl
        exact hexit k x rfl
    · refine Or.inr ⟨?_, by rw [heq]⟩
      intro t time ht
      obtain ⟨-, htime, -⟩ := h.wakeTime?_of_not_isThere ht (hnot t time ht)
      cases htime.symm.trans (hnone t.wake (h.mem_wakes ht first))

end Crew.Watches

/-! ## The supervisor waits -/

/-- Transports that were built have been built as they were wanted. -/
theorem Slots.ending_of_constructEach {wanted : Transport → Bool} {build : Transport → Work}
    {ks : List Transport} {s s' : Slots} (h : constructEach wanted build ks s = (some (.ok ()), s')) :
    ∀ k ∈ ks, wanted k = true → (build k).ending = some (.ok ()) := by
  induction ks generalizing s with
  | nil => exact fun k hk => nomatch hk
  | cons k rest ih =>
    unfold constructEach at h
    by_cases hw : wanted k = true
    · rw [hw, Bool.not_true, if_neg Bool.false_ne_true] at h
      dsimp only at h
      split at h
      · rename_i hok
        exact List.forall_mem_cons.2 ⟨fun _ => Crew.work_ending hok, ih h⟩
      · cases (Prod.mk.inj h).1
      · rename_i r hnot _
        exact absurd (Prod.mk.inj h).1 hnot
    · rw [Bool.eq_false_iff.2 hw, Bool.not_false, if_pos rfl] at h
      exact List.forall_mem_cons.2 ⟨fun hk => absurd hk hw, ih h⟩

/-- Transports that could be built are as they should be, for every wanted one must have been built well. -/
theorem built_of_construct {conduct : Transport → Conduct} {wanted : Transport → Bool}
    {build : Transport → Work} {begun : Nat} {slots : Slots}
    (h : Slots.construct { conduct, crew := { now := begun } } wanted build = (some (.ok ()), slots)) :
    Built conduct wanted slots := by
  have hbuild : ∀ k, wanted k = true → (build k).ending = some (.ok ()) :=
    fun k => Slots.ending_of_constructEach h k (mem_constructOrder k)
  obtain ⟨slots', heq, hbuilt⟩ := construct_of_built conduct hbuild begun
  obtain ⟨-, rfl⟩ := Prod.mk.inj (h.symm.trans heq)
  exact hbuilt

namespace Supervisor

/-- The supervisor of transports that have been started and have run for some time. -/
def busy (slots : Slots) (timeout span : Nat) : Supervisor :=
  (ofSlots slots timeout).startAll.1.onCrew (·.sleepUntil (slots.crew.now + span))

/-- Asking for exits takes no time. -/
theorem now_notifyEach (ks : List Transport) (s : Supervisor) :
    (notifyEach ks s).1.slots.crew.now = s.slots.crew.now := by
  have hnotify (c : Crew) (name : String) : (c.notify name).2.now = c.now := by
    unfold Crew.notify
    split <;> rfl
  induction ks generalizing s with
  | nil => rfl
  | cons k rest ih => exact (ih { s with slots := (s.slots.notify k).1 }).trans (hnotify s.slots.crew k.name)

/-- Giving up listening takes no time. -/
theorem now_unhear (s : Supervisor) (ks : List Transport) :
    (s.unhear ks).slots.crew.now = s.slots.crew.now := by
  show (ks.foldl (fun c k => c.unhear k.name) s.slots.crew).now = _
  generalize s.slots.crew = c
  induction ks generalizing c with
  | nil => rfl
  | cons k rest ih => exact ih (c.unhear k.name)

variable {conduct : Transport → Conduct} {wanted : Transport → Bool}

/-- The wait begins with listening to all transports. -/
theorem watches_notifyEach {s : Supervisor} {begun : Nat} (henabled : s.slots.enabled = wanted)
    (hget : ∀ (k : Transport) t, s.slots.crew.get? k.name = some t →
      t.Stands (conduct k).plan begun s.slots.crew.now ∧ t.receiver = .kept) :
    (notifyEach Transport.shutdownOrder s).1.slots.crew.Watches conduct wanted begun
      ((notifyEach Transport.shutdownOrder s).2.map Transport.name) := by
  have hheard : (notifyEach Transport.shutdownOrder s).2 = Transport.shutdownOrder.filter wanted := by
    rw [← henabled]
    exact heard_notifyEach (by decide) s fun k _ t ht => (hget k t ht).2
  refine ⟨?_, ?_⟩
  · intro name
    rw [hheard, List.mem_map]
    constructor
    · rintro ⟨k, hk, rfl⟩
      exact ⟨k, (List.mem_filter.1 hk).2, rfl⟩
    · rintro ⟨k, hk, rfl⟩
      exact ⟨k, List.mem_filter.2 ⟨mem_shutdownOrder k, hk⟩, rfl⟩
  · intro k hk
    rw [← henabled] at hk
    obtain ⟨t, ht⟩ := Option.isSome_iff_exists.1 hk
    obtain ⟨hnotified, -⟩ := get?_notifyEach_of_mem (by decide) (mem_shutdownOrder k) ht
    rw [now_notifyEach]
    exact ⟨_, hnotified, (hget k t ht).1.of_body t.notify_body⟩

/-- What the transports have come to by the time at which the wait begins. -/
theorem stands_busy {slots : Slots} (h : Built conduct wanted slots) (timeout span : Nat) :
    (busy slots timeout span).phase = .running ∧ (busy slots timeout span).slots.enabled = wanted ∧
      ∀ (k : Transport) t, (busy slots timeout span).slots.crew.get? k.name = some t →
        t.Stands (conduct k).plan slots.crew.now (slots.crew.now + span) ∧ t.receiver = .kept := by
  obtain ⟨-, henabled, -, hphase, -⟩ := h.startAll timeout
  refine ⟨?_, ?_, ?_⟩
  · show (ofSlots slots timeout).startAll.1.phase = .running
    exact hphase
  · have hslept := Slots.tells_crew (s := (ofSlots slots timeout).startAll.1.slots)
      (Crew.tells_sleepUntil _ (slots.crew.now + span))
    exact hslept.enabled.trans henabled
  · intro k t ht
    -- it has served since it was started, and nobody has asked for its exit
    have hget := (ofSlots slots timeout).startAll.1.slots.crew.get?_advance (slots.crew.now + span) k.name
    obtain ⟨t₀, ht₀, rfl⟩ := Option.map_eq_some_iff.1 (hget.symm.trans ht)
    obtain ⟨hserves, hkept⟩ := h.servesSince timeout ht₀
    exact ⟨Task.stands_of_servesSince hserves _, (t₀.goesOn_advance _).receiver.trans hkept⟩

/-- A signal that comes at a time, as a wait that begins at another sees it. -/
def signalAt (signal : Option (String × Nat)) (now : Nat) : Option Signal :=
  signal.map fun g => { name := g.1, after := g.2 - now }

/-- **What waking the supervisor comes to**: what has woken it is told as the trigger. -/
theorem waitAny_of_waited {s : Supervisor} {signal : Option (String × Nat)} {begun time : Nat}
    {limit : Option Nat} {first : Nat} {t : Trigger} {c : Crew}
    (ht : Occurs conduct wanted begun signal t time)
    (hwaited : s.waited (signalAt signal s.slots.crew.now) limit first = (some t.wake, c))
    (hexit : ∀ k x, t = .service k x → (c.get? k.name).bind (·.exit?) = some x) :
    ∃ s', s.waitAny (signalAt signal s.slots.crew.now) limit first = (some t, s') ∧
      s'.slots.crew.now = c.now ∧ s'.phase = .shuttingDown := by
  have htrigger : (s.awake (signalAt signal s.slots.crew.now) limit first).triggerOf
      (signalAt signal s.slots.crew.now) t.wake = some t := by
    cases ht with
    | signal h =>
      subst h
      rfl
    | @service k _ ending _ _ =>
      have hx : (s.awake (signalAt signal s.slots.crew.now) limit first).slots.exit? k =
          some (.ofEnding ending) := by
        unfold awake
        rw [hwaited]
        exact hexit k _ rfl
      unfold Trigger.wake triggerOf
      dsimp only
      rw [find?_name, Option.bind_some, hx, Option.map_some]
  have hnow : (s.awake (signalAt signal s.slots.crew.now) limit first).slots.crew.now = c.now := by
    unfold awake
    rw [hwaited]
  obtain ⟨quiet, hquiet⟩ : ∃ quiet, quiet = (s.awake (signalAt signal s.slots.crew.now) limit first).unhear
    (notifyEach Transport.shutdownOrder s).2 := ⟨_, rfl⟩
  refine ⟨(quiet.emit (.triggered t)).move .shuttingDown, ?_, ?_, rfl⟩
  · rw [waitAny_eq, hwaited]
    dsimp only
    rw [Option.bind_some, htrigger, hquiet]
  · show quiet.slots.crew.now = c.now
    rw [hquiet, now_unhear, hnow]

/-- The wait of the supervisor is a wait for the signal and for the bodies of the transports that give an exit. -/
theorem waited_eq_await (s : Supervisor) (signal : Option (String × Nat)) (limit : Option Nat) (first : Nat) :
    let v := notifyEach Transport.shutdownOrder s
    s.waited (signalAt signal s.slots.crew.now) limit first =
      v.1.slots.crew.await (v.2.map Transport.name) (v.1.slots.crew.due signal) limit first := by
  intro v
  have hdue : (signalAt signal s.slots.crew.now).map (fun g => v.1.slots.crew.now + g.after) =
      v.1.slots.crew.due signal := by
    unfold signalAt Crew.due
    rw [Option.map_map, now_notifyEach]
    rfl
  exact congrArg (v.1.slots.crew.await (v.2.map Transport.name) · limit first) hdue

section Watches

variable {s : Supervisor} {begun : Nat} {signal : Option (String × Nat)}

/-- Among transports that are watched the wait comes to the earliest event, unless two of them are there already;
if nothing can occur it goes on for ever. -/
theorem waitAny_of_watches
    (h : (notifyEach Transport.shutdownOrder s).1.slots.crew.Watches conduct wanted begun
      ((notifyEach Transport.shutdownOrder s).2.map Transport.name))
    (hearly : ∀ t time t' time', Occurs conduct wanted begun signal t time →
      Occurs conduct wanted begun signal t' time' → t.IsThere time s.slots.crew.now →
      t'.IsThere time' s.slots.crew.now → t = t') (first : Nat) :
    (∃ t time s', Occurs conduct wanted begun signal t time ∧
        (∀ t' time', Occurs conduct wanted begun signal t' time' → time ≤ time') ∧
        s.waitAny (signalAt signal s.slots.crew.now) none first = (some t, s') ∧
        s'.slots.crew.now = max s.slots.crew.now time ∧ s'.phase = .shuttingDown) ∨
      (∀ t time, ¬ Occurs conduct wanted begun signal t time) := by
  have hnow := now_notifyEach Transport.shutdownOrder s
  rw [← hnow] at hearly
  rcases h.await_cases hearly first with ⟨t, time, c, ht, hleast, hawait, hc, hexit⟩ | ⟨hnone, -⟩
  · have hwaited := (s.waited_eq_await signal none first).trans hawait
    obtain ⟨s', hwait, hs', hphase⟩ := waitAny_of_waited ht hwaited hexit
    exact Or.inl ⟨t, time, s', ht, hleast, hwait, by rw [hs', hc, hnow], hphase⟩
  · exact Or.inr hnone

/-- Without anything that occurs the wait does not end. -/
theorem waitAny_of_nothing
    (h : (notifyEach Transport.shutdownOrder s).1.slots.crew.Watches conduct wanted begun
      ((notifyEach Transport.shutdownOrder s).2.map Transport.name))
    (hnone : ∀ t time, ¬ Occurs conduct wanted begun signal t time) (limit : Option Nat) (first : Nat) :
    (s.waitAny (signalAt signal s.slots.crew.now) limit first).1 = none ∧
      (s.waitAny (signalAt signal s.slots.crew.now) limit first).2.phase = s.phase := by
  have hwaited : (s.waited (signalAt signal s.slots.crew.now) limit first).1 = none := by
    rw [waited_eq_await]
    refine Crew.await_eq_none_iff.2 fun w hw => ?_
    refine ⟨Bool.eq_false_iff.2 fun hready => ?_, Classical.byContradiction fun htime => ?_⟩
    · obtain ⟨t, time, ht, -⟩ := h.occurs_of_wakes limit hw (Or.inl hready)
      exact hnone t time ht
    · obtain ⟨t, time, ht, -⟩ := h.occurs_of_wakes limit hw (Or.inr htime)
      exact hnone t time ht
  rcases s.waitAny_cases (signalAt signal s.slots.crew.now) limit first with
    ⟨t, s', -, -, -, -, hsome⟩ | ⟨s', hwait, -, hphase, -⟩
  · exact absurd hwaited hsome
  · rw [hwait]
    exact ⟨rfl, hphase⟩

end Watches

/-- It is the first of what occurs. -/
def IsFirst (occurs : Trigger → Nat → Prop) (t : Trigger) (time : Nat) : Prop :=
  occurs t time ∧ ∀ t' time', occurs t' time' → time ≤ time'

/-- **The earliest event ends the wait.** Let the transports have been built and started, and let the wait
begin some time later. What occurs does so at different times, and one thing at most is there when the wait
begins. Then the wait ends with the earliest, at its time or at once if it is there; and it goes on for ever,
in the running phase, exactly if nothing ever occurs. -/
theorem earliest_event_wins {build : Transport → Work} {begun : Nat} {slots : Slots}
    (hconstruct : Slots.construct { conduct, crew := { now := begun } } wanted build = (some (.ok ()), slots))
    (timeout span : Nat) (signal : Option (String × Nat)) (first : Nat)
    (hdistinct : ∀ t t' time, Occurs conduct wanted slots.crew.now signal t time →
      Occurs conduct wanted slots.crew.now signal t' time → t = t')
    (hearly : ∀ t time t' time', Occurs conduct wanted slots.crew.now signal t time →
      Occurs conduct wanted slots.crew.now signal t' time' → t.IsThere time (slots.crew.now + span) →
      t'.IsThere time' (slots.crew.now + span) → t = t') :
    let occurs := Occurs conduct wanted slots.crew.now signal
    let now := slots.crew.now + span
    let wait := fun limit => (busy slots timeout span).waitAny (signalAt signal now) limit first
    (∀ t, (wait none).1 = some t ↔ ∃ time, IsFirst occurs t time) ∧
      (∀ t time, IsFirst occurs t time →
        (wait none).2.slots.crew.now = max now time ∧ (wait none).2.phase = .shuttingDown) ∧
      ((wait none).1 = none ↔ ∀ t time, ¬ occurs t time) ∧
      ((∀ t time, ¬ occurs t time) → ∀ limit, (wait limit).1 = none ∧ (wait limit).2.phase = .running) := by
  intro occurs now wait
  have hbuilt := built_of_construct hconstruct
  obtain ⟨hphase, henabled, hget⟩ := stands_busy hbuilt timeout span
  have hbegin : (busy slots timeout span).slots.crew.now = now := rfl
  have hwatches := watches_notifyEach henabled hget
  have hnothing : (∀ t time, ¬ occurs t time) →
      ∀ limit, (wait limit).1 = none ∧ (wait limit).2.phase = .running := by
    intro hnone limit
    obtain ⟨hwait, hsame⟩ := waitAny_of_nothing hwatches hnone limit first
    rw [hbegin] at hwait hsame
    rw [show wait limit = (busy slots timeout span).waitAny (signalAt signal now) limit first from rfl]
    exact ⟨hwait, hsame.trans hphase⟩
  rcases waitAny_of_watches hwatches hearly first with ⟨t, time, s', ht, hleast, hwait, hnow, hshutting⟩ | hnone
  · rw [hbegin] at hwait hnow
    have hout : wait none = (some t, s') := hwait
    -- two that are both first occur at one time
    have hfirst : ∀ t' time', IsFirst occurs t' time' → t' = t ∧ time' = time := by
      rintro t' time' ⟨ht', hleast'⟩
      obtain rfl : time = time' := Nat.le_antisymm (hleast t' time' ht') (hleast' t time ht)
      exact ⟨hdistinct t' t time ht' ht, rfl⟩
    refine ⟨?_, ?_, ?_, hnothing⟩
    · intro t'
      rw [hout]
      constructor
      · rintro ⟨⟩
        exact ⟨time, ht, hleast⟩
      · rintro ⟨time', ht'⟩
        rw [(hfirst t' time' ht').1]
    · intro t' time' ht'
      rw [hout, (hfirst t' time' ht').2]
      exact ⟨hnow, hshutting⟩
    · rw [hout]
      exact ⟨fun h => (nomatch h), fun h => absurd ht (h t time)⟩
  · have hout := (hnothing hnone none).1
    refine ⟨?_, ?_, ⟨fun _ => hnone, fun _ => hout⟩, hnothing⟩
    · intro t
      rw [hout]
      exact ⟨fun h => (nomatch h), fun ⟨time, ht⟩ => absurd ht.1 (hnone t time)⟩
    · intro t time ht
      exact absurd ht.1 (hnone t time)

/-! ### A short wait

One body has failed before the wait begins; another one ends after that, and then a signal comes. A body that
ends before all of them belongs to a transport that is not wanted. -/

/-- How the transports of the short wait behave. -/
def hasty : Transport → Conduct
  | .http => { plan := { serve := some { delay := 5 } } }
  | .grpc => { plan := { serve := some { delay := 3, ending := some (.error (.failed ⟨"boom", []⟩)) } } }
  | .amqp => { plan := { serve := some { delay := 1 } } }
  | .nats => {}

/-- A body that fails first ends a short wait, before the other one and before the signal, while the one that is
not wanted does not count. -/
theorem failed_body_ends_short_wait :
    ∃ slots, Slots.construct { conduct := hasty } (· != .amqp) (fun _ => {}) = (some (.ok ()), slots) ∧
      (∀ t t' time, Occurs hasty (· != .amqp) slots.crew.now (some ("SIGTERM", 6)) t time →
        Occurs hasty (· != .amqp) slots.crew.now (some ("SIGTERM", 6)) t' time → t = t') ∧
      let now := slots.crew.now + 4
      let out := (busy slots 10 4).waitAny (signalAt (some ("SIGTERM", 6)) now) none
      out.1 = some (.service .grpc (.failed ⟨"boom", []⟩)) ∧ out.2.slots.crew.now = now := by
  have hconstruct : Slots.construct { conduct := hasty } (· != .amqp) (fun _ => {}) =
      (some (.ok ()), (Slots.construct { conduct := hasty } (· != .amqp) fun _ => {}).2) := rfl
  generalize hslots : (Slots.construct { conduct := hasty } (· != .amqp) fun _ => {}).2 = slots at hconstruct
  have hbegun : slots.crew.now = 0 := by rw [← hslots]; rfl
  -- these are all the things that occur
  have hall : ∀ t time, Occurs hasty (· != .amqp) slots.crew.now (some ("SIGTERM", 6)) t time →
      (t = .service .grpc (.failed ⟨"boom", []⟩) ∧ time = 3) ∨ (t = .service .http .terminated ∧ time = 5) ∨
        (t = .signal "SIGTERM" ∧ time = 6) := by
    rintro t time (⟨⟨⟩⟩ | @⟨k, time, ending, hk, h⟩)
    · exact Or.inr (Or.inr ⟨rfl, rfl⟩)
    · rw [hbegun] at h
      cases k with
      | http =>
        cases h
        exact Or.inr (Or.inl ⟨rfl, rfl⟩)
      | grpc =>
        cases h
        exact Or.inl ⟨rfl, rfl⟩
      | amqp => cases hk
      | nats => cases h
  have hdistinct : ∀ t t' time,
      Occurs hasty (· != .amqp) slots.crew.now (some ("SIGTERM", 6)) t time →
      Occurs hasty (· != .amqp) slots.crew.now (some ("SIGTERM", 6)) t' time → t = t' := by
    intro t t' time ht ht'
    rcases hall t time ht with ⟨rfl, rfl⟩ | ⟨rfl, rfl⟩ | ⟨rfl, rfl⟩ <;>
      rcases hall t' _ ht' with ⟨rfl, ⟨⟩⟩ | ⟨rfl, ⟨⟩⟩ | ⟨rfl, ⟨⟩⟩ <;> rfl
  -- only the failure is there when the wait begins
  have hthere : ∀ t time, Occurs hasty (· != .amqp) slots.crew.now (some ("SIGTERM", 6)) t time →
      t.IsThere time (slots.crew.now + 4) → t = .service .grpc (.failed ⟨"boom", []⟩) := by
    intro t time ht hearly
    rw [hbegun] at hearly
    rcases hall t time ht with ⟨rfl, -⟩ | ⟨rfl, rfl⟩ | ⟨rfl, rfl⟩
    · rfl
    · exact absurd hearly (by decide : ¬ 5 < 4)
    · exact absurd hearly (by decide : ¬ 6 ≤ 4)
  have hfirst : IsFirst (Occurs hasty (· != .amqp) slots.crew.now (some ("SIGTERM", 6)))
      (.service .grpc (.failed ⟨"boom", []⟩)) 3 := by
    refine ⟨?_, ?_⟩
    · have hboom : (hasty .grpc).plan.quits? slots.crew.now = some (3, .error (.failed ⟨"boom", []⟩)) := by
        rw [hbegun]
        rfl
      exact .service rfl hboom
    · intro t time ht
      rcases hall t time ht with ⟨-, rfl⟩ | ⟨-, rfl⟩ | ⟨-, rfl⟩ <;> decide
  obtain ⟨hwin, hnow, -, -⟩ := earliest_event_wins hconstruct 10 4 (some ("SIGTERM", 6)) 0 hdistinct
    fun t time t' time' ht ht' he he' => (hthere t time ht he).trans (hthere t' time' ht' he').symm
  have hlate : max (slots.crew.now + 4) 3 = slots.crew.now + 4 := by omega
  have htrigger := (hwin _).2 ⟨3, hfirst⟩
  have htime := (hnow _ 3 hfirst).1
  dsimp only at htrigger htime
  rw [hlate] at htime
  exact ⟨slots, hconstruct, hdistinct, htrigger, htime⟩

end Supervisor

end Phrasebook.Lifecycle
