import Mathlib.Algebra.GroupWithZero.Nat
import Phrasebook.Proofs.Lifecycle.Leftovers
/-!
# The timeline of shutting down

Each transport is told to shut down at the very time at which the one before it was done or its time limit
struck. What is written down of it is how it came to its end, if it did so by the limit. So the whole takes as
long as the single ones take, none of them counting for more than the limit (`Supervisor.shutdown_keeps_time`).

The argument goes from the inside out. A piece of work, the stopping of a task and the shutting down of a
transport are each compared with what they would come to if there were no limit (`Finish`): up to a limit they
come to the same if that is in time, and are given up at the limit otherwise (`Crew.work_upTo`,
`Crew.stop_upTo`, `Slots.shutdown_upTo`).

What comes to its end exactly when the limit strikes has done so in time. There is one exception: at any time
the bodies have their turn after the hand, so a body that ends at that very time is not waited for any more.
-/

set_option autoImplicit false

namespace Phrasebook.Lifecycle

/-- When and how something comes to its end if there is no limit. -/
structure Finish (α : Type) where
  /-- When. -/
  time : Nat
  /-- Whether it is the end of a body, for which the hand has to wait, that brings it. -/
  joined : Bool
  /-- How. -/
  result : α

namespace Finish

variable {α : Type}

/-- Whether it comes to its end by the time at which a limit strikes. -/
def inTime (f : Finish α) (limit : Nat) : Bool :=
  if f.joined then f.time < limit else f.time ≤ limit

/-- What comes of it up to a limit, and when that is known. -/
def upTo (limit : Nat) : Option (Finish α) → Option α × Nat
  | some f => if f.inTime limit then (some f.result, f.time) else (none, limit)
  | none => (none, limit)

/-- What comes to its end in time is seen then. -/
theorem upTo_of_inTime {f : Finish α} {limit : Nat} (h : f.inTime limit = true) :
    upTo limit (some f) = (some f.result, f.time) := if_pos h

/-- Of what is late nothing is seen but that the limit strikes. -/
theorem upTo_of_late {f : Finish α} {limit : Nat} (h : ¬ f.inTime limit = true) :
    upTo limit (some f) = (none, limit) := if_neg h

/-- A result is seen up to a limit exactly if something comes to it in time. -/
theorem upTo_eq_some {limit : Nat} {finish : Option (Finish α)} {result : α} :
    (upTo limit finish).1 = some result ↔
      ∃ f, finish = some f ∧ f.inTime limit = true ∧ f.result = result := by
  cases finish with
  | none => exact ⟨fun h => (nomatch h), fun ⟨f, hf, _⟩ => (nomatch hf)⟩
  | some f =>
    by_cases h : f.inTime limit = true
    · rw [upTo_of_inTime h]
      constructor
      · intro hresult
        exact ⟨f, rfl, h, Option.some.inj hresult⟩
      · rintro ⟨f', ⟨⟩, -, rfl⟩
        rfl
    · rw [upTo_of_late h]
      constructor
      · rintro ⟨⟩
      · rintro ⟨f', ⟨⟩, hin, -⟩
        exact absurd hin h

/-- Nothing is seen up to a limit exactly if nothing comes to its end in time. -/
theorem upTo_eq_none {limit : Nat} {finish : Option (Finish α)} :
    (upTo limit finish).1 = none ↔ ∀ f, finish = some f → f.inTime limit = false := by
  constructor
  · intro hnone f hf
    refine Bool.eq_false_iff.2 fun hin => ?_
    rw [upTo_eq_some.2 ⟨f, hf, hin, rfl⟩] at hnone
    cases hnone
  · intro hlate
    refine Option.eq_none_iff_forall_not_mem.2 fun result hresult => ?_
    obtain ⟨f, hf, hin, -⟩ := upTo_eq_some.1 hresult
    rw [hlate f hf] at hin
    cases hin

/-- What is in time is over by the limit. -/
theorem le_of_inTime {f : Finish α} {limit : Nat} (h : f.inTime limit = true) : f.time ≤ limit := by
  unfold inTime at h
  split at h
  · exact Nat.le_of_lt (of_decide_eq_true h)
  · exact of_decide_eq_true h

/-- What is late is not over before the limit. -/
theorem le_of_late {f : Finish α} {limit : Nat} (h : ¬ f.inTime limit = true) : limit ≤ f.time := by
  unfold inTime at h
  split at h
  · exact Nat.not_lt.1 (mt decide_eq_true h)
  · exact Nat.le_of_lt (Nat.not_le.1 (mt decide_eq_true h))

/-- The end of some work that is begun where something else has come to its end. -/
def andThen (f : Finish α) (next : α → Work) : Option (Finish (Except Failure Unit)) :=
  let w := next f.result
  (w.endAt? f.time).map fun (time, result) => { time, joined := f.joined && w.delay == 0, result }

/-- Work that comes after something else is done in time if the other is and the work ends by the limit. -/
theorem inTime_andThen {f : Finish α} {next : α → Work} {g : Finish (Except Failure Unit)} {limit : Nat}
    (h : f.andThen next = some g) : g.inTime limit = true ↔ f.inTime limit = true ∧ g.time ≤ limit := by
  obtain ⟨q, hq, rfl⟩ := Option.map_eq_some_iff.1 h
  obtain ⟨e, -, rfl⟩ := Option.map_eq_some_iff.1 hq
  -- the body still has its turn after the hand where the work takes no time
  by_cases hjoined : f.joined = true
  · by_cases hzero : (next f.result).delay = 0
    · simp only [inTime, hjoined, hzero, beq_self_eq_true, Bool.and_self, if_true, decide_eq_true_eq]
      omega
    · simp only [inTime, hjoined, beq_eq_false_iff_ne.2 hzero, Bool.and_false, Bool.false_eq_true, if_false,
        if_true, decide_eq_true_eq]
      omega
  · simp only [inTime, hjoined, Bool.false_and, Bool.false_eq_true, if_false, decide_eq_true_eq]
    omega

/-- What comes to its end in time hands on to the work after it, for which no body has to be waited. -/
theorem upTo_andThen_of_inTime {f : Finish α} (next : α → Work) {limit : Nat} (hin : f.inTime limit = true) :
    upTo limit (f.andThen next) = upTo limit (((next f.result).endAt? f.time).map
      fun (time, result) => { time, joined := false, result }) := by
  rcases hend : (next f.result).endAt? f.time with _ | ⟨time, result⟩
  · rw [andThen, hend]
    rfl
  · have hthen : f.andThen next = some ⟨time, f.joined && (next f.result).delay == 0, result⟩ := by
      rw [andThen, hend]
      rfl
    have htime : inTime ⟨time, f.joined && (next f.result).delay == 0, result⟩ limit = true ↔
        f.inTime limit = true ∧ time ≤ limit := inTime_andThen hthen
    let work : Finish (Except Failure Unit) := ⟨time, false, result⟩
    show upTo limit (f.andThen next) = upTo limit (some work)
    rw [hthen]
    by_cases hby : time ≤ limit
    · have hwork : work.inTime limit = true := decide_eq_true hby
      rw [upTo_of_inTime (htime.2 ⟨hin, hby⟩), upTo_of_inTime hwork]
    · have hlate : ¬ work.inTime limit = true := mt of_decide_eq_true hby
      rw [upTo_of_late (mt (fun h => (htime.1 h).2) hby), upTo_of_late hlate]

/-- What does not come to its end in time leaves no time for work after it. -/
theorem upTo_andThen_of_late {f : Finish α} (next : α → Work) {limit : Nat} (hlate : ¬ f.inTime limit = true) :
    upTo limit (f.andThen next) = (none, limit) := by
  rcases hthen : f.andThen next with _ | g
  · rfl
  · exact upTo_of_late (mt (fun h => ((inTime_andThen hthen).1 h).1) hlate)

end Finish

/-- Work does not end before it has begun. -/
theorem Work.le_of_endAt {w : Work} {begun : Nat} {q : Nat × Except Failure Unit}
    (h : w.endAt? begun = some q) : begun ≤ q.1 := by
  obtain ⟨e, -, rfl⟩ := Option.map_eq_some_iff.1 h
  exact Nat.le_add_right _ _

/-! ## Up to a limit -/

namespace Crew

/-- What has come of something, and when. -/
def seen {α : Type} (run : Option α × Crew) : Option α × Nat := (run.1, run.2.now)

/-- What comes to its end if that is in time, and is broken off at the limit otherwise, is seen up to the limit. -/
theorem seen_upTo {α : Type} {f : Finish α} {limit : Nat} {c c' : Crew} (hend : c.now = f.time) (hlimit : c'.now = limit) :
    seen (if f.inTime limit = true then (some f.result, c) else (none, c')) = Finish.upTo limit (some f) := by
  by_cases hin : f.inTime limit = true
  · rw [if_pos hin, Finish.upTo_of_inTime hin, seen, hend]
  · rw [if_neg hin, Finish.upTo_of_late hin, seen, hlimit]

/-- Whether the stopping of a task is brought to its end by an end of the body that is waited for. -/
def joins (c : Crew) (name : String) (deadline : Nat) : Bool :=
  ((c.asked name).get? name).any fun t =>
    t.held && t.fate?.isNone && t.endTime?.any (· < c.now + deadline)

/-- Work that comes to an end is done if the limit does not come before that. -/
theorem work_of_end {c : Crew} {w : Work} {time : Nat} {result : Except Failure Unit}
    (h : w.endAt? c.now = some (time, result)) (limit : Option Nat) :
    c.work w limit =
      if within time limit then (some result, c.sleepUntil time) else (none, c.sleepOut limit) := by
  unfold work
  rw [h]

/-- Work that never ends is waited for up to the limit. -/
theorem work_of_endless {c : Crew} {w : Work} (h : w.endAt? c.now = none) (limit : Option Nat) :
    c.work w limit = (none, c.sleepOut limit) := by
  unfold work
  rw [h]

/-- **Work up to a limit.** -/
theorem work_upTo (c : Crew) (w : Work) (limit : Nat) :
    seen (c.work w (some limit)) =
      Finish.upTo limit ((w.endAt? c.now).map fun (time, result) => { time, joined := false, result }) := by
  cases hend : w.endAt? c.now with
  | none =>
    rw [work_of_endless hend]
    rfl
  | some q =>
    obtain ⟨time, result⟩ := q
    rw [work_of_end hend]
    exact seen_upTo (f := ⟨time, false, result⟩) rfl rfl

/-- **Stopping a task up to a limit.** Without one it comes to its end, and not before the present time. -/
theorem stop_upTo {c : Crew} {name : String} {t : Task} (hc : c.Tended) (ht : c.get? name = some t)
    (deadline : Nat) :
    ∃ f : Finish (Except StopFailure Unit), f.joined = c.joins name deadline ∧ c.now ≤ f.time ∧
      seen (c.stop name deadline none) = (some f.result, f.time) ∧
      ∀ limit, c.now ≤ limit → seen (c.stop name deadline (some limit)) = Finish.upTo limit (some f) := by
  have hjoins : c.joins name deadline = ((t.ask c.moment).held && (t.ask c.moment).fate?.isNone &&
      (t.ask c.moment).endTime?.any (· < c.now + deadline)) := by
    rw [joins, get?_asked ht, Option.any_some]
  cases stops_of_get? ht deadline with
  | idle hidle hstop =>
    rw [hidle, Bool.false_and, Bool.false_and] at hjoins
    refine ⟨⟨c.now, false, .ok ()⟩, hjoins.symm, Nat.le_refl _, ?_, ?_⟩
    · rw [hstop]
      rfl
    · intro limit hle
      rw [hstop]
      exact (if_pos (decide_eq_true hle)).symm
  | ended f _ hf hstop =>
    -- nobody waits
    rw [hf, Option.isNone_some, Bool.and_false, Bool.false_and] at hjoins
    refine ⟨⟨c.now, false, (t.ask c.moment).verdict f⟩, hjoins.symm, Nat.le_refl _, ?_, ?_⟩
    · rw [hstop]
      rfl
    · intro limit hle
      rw [hstop]
      exact (if_pos (decide_eq_true hle)).symm
  | ending e f hheld hopen htime hlt _ _ hstop =>
    rw [hheld, hopen, htime, Option.any_some, decide_eq_true hlt] at hjoins
    have hnow : c.now ≤ e := (Task.Tended.ask (m := c.moment) (hc.get? ht)).le_endTime htime
    refine ⟨⟨e, true, ((t.ask c.moment).advance (e + 1)).1.verdict f⟩, hjoins.symm, hnow, ?_, ?_⟩
    · rw [hstop, if_pos (show before e none = true from rfl)]
      rfl
    · intro limit _
      rw [hstop]
      exact seen_upTo (f := ⟨e, true, _⟩) rfl rfl
  | late _ hlate _ _ hstop =>
    have hnone : (t.ask c.moment).endTime?.any (· < c.now + deadline) = false := by
      cases htime : (t.ask c.moment).endTime? with
      | none => rfl
      | some e => exact decide_eq_false (Nat.not_lt.2 (hlate e htime))
    rw [hnone, Bool.and_false] at hjoins
    refine ⟨⟨c.now + deadline, false, .error (.overdue name (.ofMillis deadline))⟩, hjoins.symm,
      Nat.le_add_right _ _, ?_, ?_⟩
    · rw [hstop, if_pos (show within (c.now + deadline) none = true from rfl)]
      rfl
    · intro limit _
      rw [hstop]
      exact seen_upTo (f := ⟨c.now + deadline, false, _⟩) rfl rfl

/-- Whether the stopping of a task with some last work after it is brought to its end by an end of the body that
is waited for. -/
def joinsAnd (c : Crew) (name : String) (deadline : Nat) (last : Except Chain Unit → Work) : Bool :=
  c.joins name deadline &&
    (c.stop name deadline none).1.any fun v => (last (v.mapError StopFailure.chain)).delay == 0

/-- Without a limit, a task that has been stopped and the last work after it come to the end of that work. -/
theorem stopAnd_finished {c c' : Crew} {name : String} {deadline : Nat} {f : Finish (Except StopFailure Unit)}
    (hjoined : f.joined = c.joins name deadline) (hstop : c.stop name deadline none = (some f.result, c'))
    (hnow : c'.now = f.time) (last : Except Chain Unit → Work) :
    f.andThen (fun v => last (v.mapError StopFailure.chain)) =
      (c.stopAnd name deadline last none).1.map fun result =>
        { time := (c.stopAnd name deadline last none).2.now, joined := c.joinsAnd name deadline last, result } := by
  let w := last (f.result.mapError StopFailure.chain)
  have hjoins : c.joinsAnd name deadline last = (f.joined && w.delay == 0) := by
    rw [joinsAnd, hjoined, hstop]
    rfl
  rw [hjoins, stopAnd_of_stopped hstop, Finish.andThen, ← hnow]
  rcases hend : w.endAt? c'.now with _ | ⟨time, result⟩
  · rw [work_of_endless hend]
    rfl
  · rw [work_of_end hend]
    rfl

/-- **Stopping a task with some last work after it, up to a limit.** -/
theorem stopAnd_upTo {c : Crew} {name : String} {t : Task} (hc : c.Tended) (ht : c.get? name = some t)
    (deadline : Nat) (last : Except Chain Unit → Work) :
    ∃ finish : Option (Finish (Except Failure Unit)),
      (∀ g, finish = some g → c.now ≤ g.time) ∧
      finish = (c.stopAnd name deadline last none).1.map (fun result =>
        { time := (c.stopAnd name deadline last none).2.now, joined := c.joinsAnd name deadline last, result }) ∧
      ∀ limit, c.now ≤ limit →
        seen (c.stopAnd name deadline last (some limit)) = Finish.upTo limit finish := by
  obtain ⟨f, hjoined, hbegun, hstop, hlimited⟩ := stop_upTo hc ht deadline
  obtain ⟨hresult, hnow⟩ := Prod.mk.inj hstop
  -- the last work begins when the stop is over, so the two ends are put together
  refine ⟨f.andThen fun v => last (v.mapError StopFailure.chain), ?_,
    stopAnd_finished hjoined (Prod.ext hresult rfl) hnow last, ?_⟩
  · intro g hg
    obtain ⟨q, hq, rfl⟩ := Option.map_eq_some_iff.1 hg
    exact Nat.le_trans hbegun (Work.le_of_endAt hq)
  · intro limit hle
    have hcut := hlimited limit hle
    rcases hrun : c.stop name deadline (some limit) with ⟨r, c'⟩
    rw [hrun] at hcut
    by_cases hin : f.inTime limit = true
    · -- the task has been stopped in time, and the last work begins
      rw [Finish.upTo_of_inTime hin] at hcut
      obtain ⟨hr, hc'⟩ := Prod.mk.inj hcut
      obtain rfl : r = some f.result := hr
      rw [stopAnd_of_stopped hrun, work_upTo, show c'.now = f.time from hc', Finish.upTo_andThen_of_inTime _ hin]
    · -- the limit strikes while the task is being stopped
      rw [Finish.upTo_of_late hin] at hcut
      obtain ⟨hr, hc'⟩ := Prod.mk.inj hcut
      obtain rfl : r = none := hr
      rw [stopAnd_of_cut hrun, Finish.upTo_andThen_of_late _ hin, seen, show c'.now = limit from hc']

end Crew

namespace Slots

/-- Whether the shutting down of a transport is brought to its end by an end of its body that is waited
for. -/
def joins (s : Slots) (k : Transport) (deadline : Nat) : Bool :=
  match (s.conduct k).closing with
  | .instead _ => false
  | .stopping first last =>
    match (s.emit (.shuttingDown k)).crew.work first none with
    | (some (.ok ()), crew) => crew.joinsAnd k.name deadline last
    | _ => false

/-- When and how the shutting down of a transport comes to its end if there is no limit. -/
def finish? (s : Slots) (k : Transport) (deadline : Nat) : Option (Finish (Except Failure Unit)) :=
  let out := s.shutdown k deadline none
  out.1.map fun result => { time := out.2.crew.now, joined := s.joins k deadline, result }

/-- What has come of the shutting down of a transport, and when. -/
def seen (run : Option (Except Failure Unit) × Slots) : Option (Except Failure Unit) × Nat :=
  (run.1, run.2.crew.now)

/-- Shutting the transport down is nothing but some work: that is all it does, or the work comes before the
stopping and does not go well. -/
def OnlyWorks (s : Slots) (k : Transport) (w : Work) : Prop :=
  (s.conduct k).closing = .instead w ∨
    (∃ last, (s.conduct k).closing = .stopping w last) ∧ w.ending ≠ some (.ok ())

variable {s : Slots} {k : Transport} {w : Work}

/-- A transport that only works shuts down as the work goes, and no body is waited for. -/
theorem shutdown_of_onlyWorks (h : s.OnlyWorks k w) (deadline : Nat) (limit : Option Nat) :
    s.shutdown k deadline limit =
        (((s.emit (.shuttingDown k)).crew.work w limit).1,
          { s with crew := ((s.emit (.shuttingDown k)).crew.work w limit).2 }) ∧
      s.joins k deadline = false := by
  rcases h with h | ⟨⟨last, h⟩, hnot⟩
  · have h' : ((s.emit (.shuttingDown k)).conduct k).closing = .instead w := h
    refine ⟨?_, by rw [joins, h]⟩
    unfold shutdown
    dsimp only
    rw [h']
    rfl
  · have h' : ((s.emit (.shuttingDown k)).conduct k).closing = .stopping w last := h
    -- it does not go well, whatever the limit
    have hwork : ∀ limit, ((s.emit (.shuttingDown k)).crew.work w limit).1 ≠ some (.ok ()) :=
      fun limit hok => hnot (Crew.work_ending hok)
    refine ⟨?_, ?_⟩
    · unfold shutdown
      dsimp only
      rw [h']
      dsimp only
      split
      · rename_i crew heq
        exact absurd (congrArg Prod.fst heq) (hwork limit)
      · rename_i r crew _ heq
        rw [heq]
        rfl
    · unfold joins
      rw [h]
      dsimp only
      split
      · rename_i crew heq
        exact absurd (congrArg Prod.fst heq) (hwork none)
      · rfl

/-- It comes to its end when the work does. -/
theorem finish?_of_onlyWorks (h : s.OnlyWorks k w) (deadline : Nat) :
    s.finish? k deadline =
      (w.endAt? s.crew.now).map fun (time, result) => { time, joined := false, result } := by
  obtain ⟨hshutdown, hjoins⟩ := shutdown_of_onlyWorks h deadline none
  unfold finish?
  rw [hshutdown, hjoins]
  cases hend : w.endAt? s.crew.now with
  | none =>
    rw [Crew.work_of_endless (c := (s.emit (.shuttingDown k)).crew) hend]
    rfl
  | some q =>
    rw [Crew.work_of_end (c := (s.emit (.shuttingDown k)).crew) hend]
    rfl

/-- What comes of a transport whose task is stopped after some work that takes until a time. -/
theorem shutdown_of_stopping {last : Except Chain Unit → Work}
    (hclosing : (s.conduct k).closing = .stopping w last) {time : Nat}
    (hend : w.endAt? s.crew.now = some (time, .ok ())) (deadline : Nat) (limit : Option Nat) :
    let c := (s.emit (.shuttingDown k)).crew
    let run := (c.sleepUntil time).stopAnd k.name deadline last limit
    s.shutdown k deadline limit =
        (if within time limit then (run.1, { s with crew := run.2 })
        else (none, { s with crew := c.sleepOut limit })) ∧
      s.joins k deadline = (c.sleepUntil time).joinsAnd k.name deadline last := by
  have hclosing' : ((s.emit (.shuttingDown k)).conduct k).closing = .stopping w last := hclosing
  have hwork := Crew.work_of_end (c := (s.emit (.shuttingDown k)).crew) hend
  refine ⟨?_, ?_⟩
  · unfold shutdown
    dsimp only
    rw [hclosing']
    dsimp only
    rw [hwork]
    by_cases hle : within time limit = true
    · rw [if_pos hle, if_pos hle]
      rfl
    · rw [if_neg hle, if_neg hle]
      rfl
  · unfold joins
    rw [hclosing]
    dsimp only
    rw [hwork, if_pos (show within time none = true from rfl)]

/-- **Shutting a transport down up to a limit.** If it comes to its end at all it does so not before the
present time. -/
theorem shutdown_upTo (hs : s.crew.Tended) (hk : s.enabled k = true) (deadline : Nat) :
    (∀ f, s.finish? k deadline = some f → s.crew.now ≤ f.time) ∧
      ∀ limit, s.crew.now ≤ limit →
        seen (s.shutdown k deadline (some limit)) = Finish.upTo limit (s.finish? k deadline) := by
  have honly {w : Work} (h : s.OnlyWorks k w) :
      (∀ f, s.finish? k deadline = some f → s.crew.now ≤ f.time) ∧ ∀ limit, s.crew.now ≤ limit →
        seen (s.shutdown k deadline (some limit)) = Finish.upTo limit (s.finish? k deadline) := by
    rw [finish?_of_onlyWorks h]
    refine ⟨?_, ?_⟩
    · intro f hf
      obtain ⟨q, hq, rfl⟩ := Option.map_eq_some_iff.1 hf
      exact Work.le_of_endAt hq
    · intro limit _
      rw [(shutdown_of_onlyWorks h deadline (some limit)).1]
      exact (s.emit (.shuttingDown k)).crew.work_upTo w limit
  -- without a task to stop, or after a failed first work, only work is done
  cases hclosing : (s.conduct k).closing with
  | «instead» w => exact honly (Or.inl hclosing)
  | stopping w last =>
    by_cases hwell : w.ending = some (.ok ())
    · have hend : w.endAt? s.crew.now = some (s.crew.now + w.delay, .ok ()) := by
        rw [Work.endAt?, hwell, Option.map_some]
      have hshutdown := shutdown_of_stopping hclosing hend deadline
      have hleads : s.crew.Leads ((s.emit (.shuttingDown k)).crew.sleepUntil (s.crew.now + w.delay)) :=
        (s.crew.leads_emit _).trans (Crew.leads_sleepUntil _ _)
      obtain ⟨t, ht⟩ := Option.isSome_iff_exists.1 hk
      obtain ⟨t', ht', -⟩ := hleads.bodies k.name t ht
      obtain ⟨finish, hnow, hfinished, hlimited⟩ := Crew.stopAnd_upTo (hleads.tended hs) ht' deadline last
      have hbegun : ∀ f, finish = some f → s.crew.now + w.delay ≤ f.time := hnow
      have hfinish : s.finish? k deadline = finish := by
        unfold finish?
        rw [(hshutdown none).1, (hshutdown none).2, if_pos (show within _ none = true from rfl), hfinished]
      rw [hfinish]
      refine ⟨?_, ?_⟩
      · intro f hf
        have := hbegun f hf
        omega
      · intro limit _
        rw [(hshutdown (some limit)).1]
        by_cases hle : s.crew.now + w.delay ≤ limit
        · rw [if_pos (show within _ (some limit) = true from decide_eq_true hle), ← hlimited limit hle]
          rfl
        · -- the limit strikes before the work is done, and so before the task has been stopped
          rw [if_neg (show ¬ within _ (some limit) = true from mt of_decide_eq_true hle)]
          cases hf : finish with
          | none => rfl
          | some f =>
            refine (Finish.upTo_of_late fun hin => hle ?_).symm
            exact Nat.le_trans (hbegun f hf) (Finish.le_of_inTime hin)
    · exact honly (Or.inr ⟨⟨last, hclosing⟩, hwell⟩)

end Slots

/-! ## The calls -/

namespace Supervisor

variable (after : Span) {out : Option (Except Failure Unit)}

/-- It is written down that a transport shut down well exactly if it did. -/
theorem resultOf_eq_ok : resultOf after out = some (.ok ()) ↔ out = some (.ok ()) := by
  rcases out with _ | ((e | m) | u) <;> simp [resultOf]

/-- A failure is written down exactly if the transport shut down with it. -/
theorem resultOf_eq_failed {e : Chain} :
    resultOf after out = some (.error (.failed e)) ↔ out = some (.error (.failed e)) := by
  rcases out with _ | ((e | m) | u) <;> simp [resultOf]

/-- A timeout is written down exactly if nothing had come of it when the time limit struck, and with that limit. -/
theorem resultOf_eq_timeout {span : Span} :
    resultOf after out = some (.error (.timeout span)) ↔ out = none ∧ span = after := by
  rcases out with _ | ((e | m) | u) <;> simp [resultOf, eq_comm]

end Supervisor

/-- The call by which a transport is told to shut down. -/
structure Call where
  /-- Which transport. -/
  kind : Transport
  /-- When it is made. -/
  begun : Nat
  /-- When and how the transport comes to its end if there is no limit. -/
  finish : Option (Finish (Except Failure Unit))
  /-- What is written down of it. -/
  result : Except ShutdownError Unit

namespace Call

/-- How long it takes: until it comes to its end or the time limit strikes. -/
def span (timeout : Nat) (c : Call) : Nat :=
  match c.finish with
  | some f => min (f.time - c.begun) timeout
  | none => timeout

/-- No call takes longer than the time limit. -/
theorem span_le (timeout : Nat) (c : Call) : c.span timeout ≤ timeout := by
  unfold span
  split
  · exact Nat.min_le_right _ _
  · exact Nat.le_refl _

/-- Its record. -/
def record (c : Call) : ShutdownRecord := ⟨c.kind, c.result⟩

/-- What is told of it, and when. -/
def told (timeout : Nat) (c : Call) : List (Nat × Event) :=
  [c.begun, c.begun + c.span timeout].zip (Supervisor.closing c.record)

/-- What is written down of it is how it came to its end, if it did so by the time limit. -/
structure Judged (timeout : Nat) (c : Call) : Prop where
  ok : c.result = .ok () ↔
    ∃ f, c.finish = some f ∧ f.inTime (c.begun + timeout) = true ∧ f.result = .ok ()
  failed : ∀ e, c.result = .error (.failed e) ↔
    ∃ f, c.finish = some f ∧ f.inTime (c.begun + timeout) = true ∧ f.result = .error (.failed e)
  timeout : ∀ after, c.result = .error (.timeout after) ↔
    after = .ofMillis timeout ∧ ∀ f, c.finish = some f → f.inTime (c.begun + timeout) = false

variable {c : Call} {timeout : Nat}

/-- When the call is over. -/
theorem over_of_upTo (hle : ∀ f, c.finish = some f → c.begun ≤ f.time) :
    (Finish.upTo (c.begun + timeout) c.finish).2 = c.begun + c.span timeout := by
  unfold span
  cases hfinish : c.finish with
  | none => rfl
  | some f =>
    have hbegun := hle f hfinish
    by_cases h : f.inTime (c.begun + timeout) = true
    · have htime := Finish.le_of_inTime h
      rw [Finish.upTo_of_inTime h]
      show f.time = c.begun + min (f.time - c.begun) timeout
      omega
    · have htime := Finish.le_of_late h
      rw [Finish.upTo_of_late h]
      show c.begun + timeout = c.begun + min (f.time - c.begun) timeout
      omega

/-- **What is written down** follows from what comes of the call up to the time limit, as it tells the ways in
which that can go apart. -/
theorem judged_of_upTo
    (h : Supervisor.resultOf (.ofMillis timeout) (Finish.upTo (c.begun + timeout) c.finish).1 =
      some c.result) : c.Judged timeout := by
  refine ⟨?_, ?_, ?_⟩
  · rw [← Finish.upTo_eq_some, ← Supervisor.resultOf_eq_ok (.ofMillis timeout), h, Option.some_inj]
  · intro e
    rw [← Finish.upTo_eq_some, ← Supervisor.resultOf_eq_failed (.ofMillis timeout), h, Option.some_inj]
  · intro after
    rw [← Finish.upTo_eq_none, and_comm, ← Supervisor.resultOf_eq_timeout (.ofMillis timeout), h,
      Option.some_inj]

end Call

/-! ## The timeline -/

/-- What has happened and when, without what the tasks tell of themselves. -/
def Crew.timeline (c : Crew) : List (Nat × Event) := c.trace.filter fun x => x.2.part != .task

/-- What is noted now is last on the timeline. -/
theorem Crew.timeline_emit (c : Crew) {e : Event} (h : e.part ≠ .task) :
    (c.emit e).timeline = c.timeline ++ [(c.now, e)] := by
  have he : [(c.now, e)].filter (fun x => x.2.part != .task) = [(c.now, e)] :=
    List.filter_cons_of_pos (bne_iff_ne.2 h)
  rw [timeline, emit, List.filter_append, he, timeline]

/-- Where nothing but the tasks has told something, the timeline is the same. -/
theorem Crew.timeline_of_silent {c c' : Crew} (h : c.Leads c') (hplot : c'.plot = c.plot) :
    c'.timeline = c.timeline := by
  obtain ⟨more, hmore⟩ := h.trace
  have hnone : (more.map (·.2)).filter (·.part != .task) = [] := by
    unfold plot at hplot
    rw [← hmore, List.map_append, List.filter_append] at hplot
    exact List.append_right_eq_self.1 hplot
  have hfilter : more.filter (fun x => x.2.part != .task) = [] := by
    rw [List.filter_map, List.map_eq_nil_iff] at hnone
    exact hnone
  rw [timeline, ← hmore, List.filter_append, hfilter, List.append_nil, timeline]

/-- All that the hand tells of a transport it shuts down is that it does so, at the time when it begins. -/
theorem Slots.timeline_shutdown (s : Slots) (k : Transport) (deadline : Nat) (limit : Option Nat) :
    (s.shutdown k deadline limit).2.crew.timeline =
      s.crew.timeline ++ [(s.crew.now, .shuttingDown k)] := by
  have hemit : (s.emit (.shuttingDown k)).crew.plot = s.crew.plot ++ [.shuttingDown k] :=
    s.crew.plot_emit (by rintro ⟨⟩)
  have hplot := (s.tells_shutdown k deadline limit).crew.plot
  rw [← hemit] at hplot
  rw [Crew.timeline_of_silent (s.leads_shutdown_of_told k deadline limit) hplot]
  exact s.crew.timeline_emit (by rintro ⟨⟩)

namespace Supervisor

/-- The calls that are made when some transports are shut down without an outer limit. -/
def calls : List Transport → Supervisor → List Call
  | [], _ => []
  | k :: rest, s =>
    if s.slots.enabled k then
      let out := s.slots.shutdown k s.timeout (some (s.slots.crew.now + s.timeout))
      match resultOf (.ofMillis s.timeout) out.1 with
      | some result =>
        { kind := k, begun := s.slots.crew.now, finish := s.slots.finish? k s.timeout, result } ::
          calls rest (s.closed out.2 ⟨k, result⟩)
      | none => []
    else calls rest s

/-- Each call is made when the one before it is over, and is judged rightly. A transport that shuts down by
doing some work comes to its end with the work. -/
structure Timely (s : Supervisor) (calls : List Call) : Prop where
  begun : ∀ earlier c later, calls = earlier ++ c :: later →
    c.begun = s.slots.crew.now + (earlier.map (·.span s.timeout)).sum
  forward : ∀ c ∈ calls, ∀ f, c.finish = some f → c.begun ≤ f.time
  judged : ∀ c ∈ calls, c.Judged s.timeout
  work : ∀ c ∈ calls, ∀ w, (s.slots.conduct c.kind).closing = .instead w →
    c.finish = (w.endAt? c.begun).map fun (time, result) => { time, joined := false, result }

/-- No calls are made in good time. -/
theorem Timely.nil (s : Supervisor) : s.Timely [] := by
  refine ⟨?_, ?_, ?_, ?_⟩
  · intro earlier c later h
    exact absurd h.symm (List.append_ne_nil_of_right_ne_nil _ (List.cons_ne_nil _ _))
  · rintro c ⟨⟩
  · rintro c ⟨⟩
  · rintro c ⟨⟩

/-- **One call more** before the others. -/
theorem Timely.cons {s s' : Supervisor} {c : Call} {rest : List Call} (h : s'.Timely rest)
    (hconduct : s'.slots.conduct = s.slots.conduct) (htimeout : s'.timeout = s.timeout)
    (hbegun : c.begun = s.slots.crew.now) (hnow : s'.slots.crew.now = s.slots.crew.now + c.span s.timeout)
    (hforward : ∀ f, c.finish = some f → c.begun ≤ f.time) (hjudged : c.Judged s.timeout)
    (hwork : ∀ w, (s.slots.conduct c.kind).closing = .instead w →
      c.finish = (w.endAt? c.begun).map fun (time, result) => { time, joined := false, result }) :
    s.Timely (c :: rest) := by
  obtain ⟨hbegun', hforward', hjudged', hwork'⟩ := h
  rw [htimeout] at hbegun' hjudged'
  rw [hconduct] at hwork'
  refine ⟨?_, List.forall_mem_cons.2 ⟨hforward, hforward'⟩, List.forall_mem_cons.2 ⟨hjudged, hjudged'⟩,
    List.forall_mem_cons.2 ⟨hwork, hwork'⟩⟩
  intro earlier c' later heq
  rcases List.cons_eq_append_iff.1 heq with ⟨rfl, hrest⟩ | ⟨earlier', rfl, hrest⟩
  · obtain ⟨rfl, -⟩ := List.cons.inj hrest
    exact hbegun
  · rw [hbegun' earlier' c' later hrest, hnow, List.map_cons, List.sum_cons, Nat.add_assoc]

/-- How the shutting down of a transport ended is told at the time when it was over. -/
theorem timeline_closed (s : Supervisor) (slots : Slots) (r : ShutdownRecord) :
    (s.closed slots r).slots.crew.timeline =
      slots.crew.timeline ++ [(slots.crew.now, match r.result with
        | .ok () => .shutDown r.kind
        | .error e => .shutdownFailed r.kind e)] := by
  refine slots.crew.timeline_emit ?_
  split <;> rintro ⟨⟩

/-- **One round.** A transport that is there, and does not break down, is called and judged; the next one is
called when that is over. -/
theorem round {s : Supervisor} {k : Transport} (hs : s.slots.crew.Tended) (hk : s.slots.enabled k = true)
    (hsound : (s.slots.conduct k).closing.Sound) (rest : List Transport) :
    ∃ c s', s.calls (k :: rest) = c :: s'.calls rest ∧
      shutdownEach none (k :: rest) s =
        ((shutdownEach none rest s').1.map fun v => v.map (c.record :: ·), (shutdownEach none rest s').2) ∧
      s.slots.crew.Leads s'.slots.crew ∧ s.Tells s' (closing c.record) ∧
      s'.slots.crew.timeline = s.slots.crew.timeline ++ c.told s.timeout ∧
      s'.slots.crew.now = s.slots.crew.now + c.span s.timeout ∧
      ∀ calls, s'.Timely calls → s.Timely (c :: calls) := by
  let limit := s.slots.crew.now + s.timeout
  let out := s.slots.shutdown k s.timeout (some limit)
  obtain ⟨hforward, hupTo⟩ := Slots.shutdown_upTo hs hk s.timeout
  have hseen := hupTo limit (Nat.le_add_right _ _)
  rcases shutdownEach_of_enabled none rest hk with ⟨result, hresult, heq⟩ | ⟨m, hbroke, -⟩ | ⟨hlimit, -⟩
  · let c : Call := { kind := k, begun := s.slots.crew.now, finish := s.slots.finish? k s.timeout, result }
    have hcalls : s.calls (k :: rest) = c :: (s.closed out.2 ⟨k, result⟩).calls rest := by
      rw [calls, if_pos hk]
      dsimp only
      rw [show resultOf (.ofMillis s.timeout) out.1 = some result from hresult]
    have hover : out.2.crew.now = s.slots.crew.now + c.span s.timeout :=
      (congrArg Prod.snd hseen).trans (Call.over_of_upTo (c := c) hforward)
    have htells := tells_closed (r := c.record) (s.slots.tells_shutdown k s.timeout (some limit))
    have hleads := leads_closed (s.slots.leads_shutdown k s.timeout (some limit)) ⟨k, result⟩
    refine ⟨c, s.closed out.2 ⟨k, result⟩, hcalls, heq, hleads, htells, ?_, hover, ?_⟩
    · refine (s.timeline_closed out.2 c.record).trans ?_
      rw [s.slots.timeline_shutdown, hover, List.append_assoc]
      rfl
    · intro calls htimely
      refine htimely.cons htells.slots.conduct rfl rfl hover hforward ?_ ?_
      · have hout := congrArg (fun seen => resultOf (.ofMillis s.timeout) seen.1) hseen
        exact Call.judged_of_upTo (hout.symm.trans hresult)
      · intro w hw
        exact Slots.finish?_of_onlyWorks (Or.inl hw) s.timeout
  · exact absurd hbroke (Slots.shutdown_ne_broke hsound _ _ m)
  · cases hlimit

/-- **What shutting down comes to, and when.** -/
theorem shutdownEach_keeps_time (ks : List Transport) {s : Supervisor} (hs : s.slots.crew.Tended)
    (hsound : ∀ k, s.slots.enabled k = true → (s.slots.conduct k).closing.Sound) :
    ∃ s', shutdownEach none ks s = (some (.ok ((s.calls ks).map Call.record)), s') ∧
      s.Timely (s.calls ks) ∧
      s'.slots.crew.timeline = s.slots.crew.timeline ++ (s.calls ks).flatMap (·.told s.timeout) ∧
      s'.slots.crew.now = s.slots.crew.now + ((s.calls ks).map (·.span s.timeout)).sum := by
  -- by induction on the transports, each round beginning when the one before is over
  induction ks generalizing s with
  | nil => exact ⟨s, rfl, .nil s, (List.append_nil _).symm, rfl⟩
  | cons k rest ih =>
    by_cases hk : s.slots.enabled k = true
    · obtain ⟨c, s₁, hcalls, heq, hleads, htells, htimeline, hnow, htimely⟩ := round hs hk (hsound k hk) rest
      have hsound₁ : ∀ k, s₁.slots.enabled k = true → (s₁.slots.conduct k).closing.Sound := by
        rw [htells.slots.enabled, htells.slots.conduct]
        exact hsound
      obtain ⟨s', hrun, htimely', htimeline', hnow'⟩ := ih (hleads.tended hs) hsound₁
      rw [htells.timeout] at htimeline' hnow'
      refine ⟨s', ?_, ?_, ?_, ?_⟩
      · rw [heq, hrun, hcalls]
        rfl
      · rw [hcalls]
        exact htimely _ htimely'
      · rw [htimeline', htimeline, hcalls, List.flatMap_cons, List.append_assoc]
      · rw [hnow', hnow, hcalls, List.map_cons, List.sum_cons, Nat.add_assoc]
    · have hcalls : s.calls (k :: rest) = s.calls rest := by rw [calls, if_neg hk]
      rw [shutdownEach_of_not_enabled none rest hk, hcalls]
      exact ih hs hsound

/-- All calls together take at most as many times the time limit as there are calls. -/
theorem sum_span_le (timeout : Nat) (calls : List Call) :
    (calls.map (·.span timeout)).sum ≤ calls.length * timeout := by
  induction calls with
  | nil => exact Nat.zero_le _
  | cons c rest ih =>
    have hspan := c.span_le timeout
    rw [List.map_cons, List.sum_cons, List.length_cons, Nat.succ_mul]
    omega

/-- An outcome is clean exactly if every record is. -/
theorem isClean_iff (o : ShutdownOutcome) : o.isClean = true ↔ ∀ r ∈ o.records, r.result = .ok () := by
  unfold ShutdownOutcome.isClean
  rw [List.all_eq_true]
  refine forall₂_congr fun r _ => ?_
  rcases r.result with e | u
  · exact ⟨fun h => (nomatch h), fun h => (nomatch h)⟩
  · exact ⟨fun _ => rfl, fun _ => rfl⟩

/-- To turn to shutting down takes no time. -/
theorem now_entered (s : Supervisor) : s.entered.slots.crew.now = s.slots.crew.now := by
  unfold entered
  split <;> rfl

/-- It is told in events of its own. -/
theorem tells_entered (s : Supervisor) : ∃ events, s.Tells s.entered events := ⟨_, s.tells_turn⟩

/-- The calls go to the transports that are there, in order. -/
theorem kinds_of_calls {ks : List Transport} {s s' : Supervisor}
    (hsound : ∀ k, s.slots.enabled k = true → (s.slots.conduct k).closing.Sound)
    (hrun : shutdownEach none ks s = (some (.ok ((s.calls ks).map Call.record)), s')) :
    (s.calls ks).map (·.kind) = ks.filter s.slots.enabled ∧ s'.phase = s.phase := by
  rcases shutdownEach_cases none ks fun k _ => hsound k with
    ⟨records, v, hrun', -, hphase, hkinds⟩ | ⟨hlimit, -⟩
  · obtain ⟨hrecords, rfl⟩ := Prod.mk.inj (hrun.symm.trans hrun')
    obtain rfl := Except.ok.inj (Option.some.inj hrecords)
    rw [List.map_map] at hkinds
    exact ⟨hkinds, hphase⟩
  · cases hlimit

/-- That all is over is told when the last call is over. -/
theorem timeline_exited {s : Supervisor} (h : s.phase = .shuttingDown) (o : ShutdownOutcome) :
    (s.exited o).slots.crew.timeline = s.slots.crew.timeline ++
      [(s.slots.crew.now, .passed o.failures.length o.records.length),
        (s.slots.crew.now, .moved .shuttingDown .exited)] := by
  let passed := s.emit (.passed o.failures.length o.records.length)
  have hpassed : passed.slots.crew.timeline =
      s.slots.crew.timeline ++ [(s.slots.crew.now, .passed o.failures.length o.records.length)] :=
    s.slots.crew.timeline_emit (by rintro ⟨⟩)
  have hmoved : (s.exited o).slots.crew.timeline =
      passed.slots.crew.timeline ++ [(s.slots.crew.now, .moved s.phase .exited)] :=
    passed.slots.crew.timeline_emit (by rintro ⟨⟩)
  rw [hmoved, hpassed, h, List.append_assoc]
  rfl

/-- **Shutting everything down keeps time.** Every transport that is there is called once, in order; each is
called when the one before it was done or its time limit struck, and gets the record that goes with how it came
to its end. All of it is told at the time, and the whole takes as long as the calls do. -/
theorem shutdown_keeps_time {s : Supervisor} (h : s.Reached)
    (hsound : ∀ k, s.slots.enabled k = true → (s.slots.conduct k).closing.Sound) :
    let calls := s.entered.calls Transport.shutdownOrder
    ∃ o s', s.shutdownAll none = (some (.ok o), s') ∧ o.records = calls.map Call.record ∧
      o.kinds = Transport.shutdownOrder.filter s.slots.enabled ∧ s.entered.Timely calls ∧
      s'.slots.crew.timeline = s.entered.slots.crew.timeline ++ calls.flatMap (·.told s.timeout) ++
        [(s'.slots.crew.now, .passed o.failures.length o.records.length),
          (s'.slots.crew.now, .moved .shuttingDown .exited)] ∧
      s'.slots.crew.now = s.slots.crew.now + (calls.map (·.span s.timeout)).sum ∧
      s'.slots.crew.now ≤ s.slots.crew.now + o.records.length * s.timeout ∧
      (o.isClean = true ↔ ∀ r ∈ o.records, r.result = .ok ()) := by
  intro calls
  -- turning to shutting down takes no time, and leaves the transports as they are
  obtain ⟨events, htells⟩ := s.tells_entered
  have htimeout := htells.timeout
  have henabled := htells.slots.enabled
  have hsound' : ∀ k, s.entered.slots.enabled k = true → (s.entered.slots.conduct k).closing.Sound := by
    rw [henabled, htells.slots.conduct]
    exact hsound
  obtain ⟨v, hrun, htimely, htimeline, hnow⟩ := shutdownEach_keeps_time Transport.shutdownOrder
    (s.leads_entered.tended h.tended) hsound'
  obtain ⟨hkinds, hphase⟩ := kinds_of_calls hsound' hrun
  rw [htimeout, s.now_entered] at hnow
  rw [htimeout] at htimeline
  rw [henabled] at hkinds
  have hall := s.shutdownAll_eq none
  rw [hrun] at hall
  rcases hall with ⟨records, hrecords, hdone⟩ | ⟨f, ⟨⟩, -⟩ | ⟨⟨⟩, -⟩
  obtain rfl := Except.ok.inj (Option.some.inj hrecords)
  refine ⟨_, _, hdone, rfl, ?_, htimely, ?_, hnow, ?_, isClean_iff _⟩
  · rw [← hkinds]
    unfold ShutdownOutcome.kinds
    rw [List.map_map]
    rfl
  · refine (timeline_exited (hphase.trans s.phase_entered) _).trans ?_
    rw [htimeline]
    rfl
  · have hsum := sum_span_le s.timeout calls
    rw [List.length_map]
    exact Nat.le_trans (Nat.le_of_eq hnow) (Nat.add_le_add_left hsum _)

/-! ### Close to the limit

One transport does not stop, and is cut off when its time limit strikes; another is done exactly then. A third
one never comes to an end, and the fourth stops its task and fails early. -/

/-- How the transports close to the limit behave. -/
def tight : Transport → Conduct
  | .http => { plan := { leave := { ending := none } } }
  | .grpc => { closing := .instead { delay := 10 } }
  | .amqp => { closing := .instead { ending := none } }
  | .nats => { closing := .stopping {} fun _ => { delay := 3, ending := some (.error (.failed ⟨"stuck", []⟩)) } }

/-- The transports close to the limit, started under supervision. -/
def tightStart : Supervisor :=
  (ofSlots (Slots.construct { conduct := tight } (fun _ => true) fun _ => {}).2 10).startAll.1

/-- Close to the limit: two calls end with the limit at their heels, one is given up at it, and one fails early;
the whole takes what they take. -/
theorem tight_shutdown_keeps_time :
    tightStart.Reached ∧
      (∀ k, tightStart.slots.enabled k = true → (tightStart.slots.conduct k).closing.Sound) ∧
      ∃ o s', tightStart.shutdownAll none = (some (.ok o), s') ∧
        o.records =
          [⟨.http, .error (.failed (StopFailure.overdue "http" (.ofMillis 10)).chain)⟩, ⟨.grpc, .ok ()⟩,
            ⟨.amqp, .error (.timeout (.ofMillis 10))⟩, ⟨.nats, .error (.failed ⟨"stuck", []⟩)⟩] ∧
        s'.slots.crew.now = 33 ∧ o.isClean = false := by
  have hreached : tightStart.Reached :=
    ⟨_, 10, .constructed tight (fun _ => true) (fun _ => {}) 0 rfl, .started .refl⟩
  have hsound : ∀ k, tightStart.slots.enabled k = true → (tightStart.slots.conduct k).closing.Sound := by
    intro k _
    cases k with
    | grpc | amqp => rintro m ⟨⟩
    | http | nats => exact Closing.sound_stopping (fun m h => nomatch h) (by rintro ⟨⟩ m ⟨⟩)
  obtain ⟨o, s', hrun, hrecords, -, -, -, hnow, -, hclean⟩ := shutdown_keeps_time hreached hsound
  refine ⟨hreached, hsound, o, s', hrun, hrecords.trans rfl, hnow.trans rfl, ?_⟩
  refine Bool.eq_false_iff.2 fun hall => ?_
  have hhttp := hclean.1 hall ⟨.http, .error (.failed (StopFailure.overdue "http" (.ofMillis 10)).chain)⟩
    (by rw [hrecords]; exact List.mem_cons_self)
  cases hhttp

end Supervisor

end Phrasebook.Lifecycle
