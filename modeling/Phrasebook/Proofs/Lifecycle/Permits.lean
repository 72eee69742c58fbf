import Mathlib.Data.List.Induction
import Phrasebook.Acts
import Phrasebook.Lifecycle.Permits
/-!
# No permit is lost

Permits are taken, used, given back and left with others, jobs end well, fail or break down, and whoever waits
for a permit or for the jobs may lose patience. At every time the free permits, those in somebody's hand and
the jobs that are not over make up all there are (`Permits.permits_are_conserved`).

Whatever is done, time passes first and then one thing is done. While time passes (`Permits.Waits`) what comes
back is what was due, and each of it sets one permit free; what is done then (`Permits.Does`) moves one permit
at most. Both keep the balance, and so does every history.
-/

set_option autoImplicit false

namespace Phrasebook.Lifecycle

namespace Job

/-- A job as it was handed in. -/
def asHandedIn (j : Job) : Job := { j with stage := .queued }

/-- Whether a job is over before a time. -/
def endsBefore (time : Nat) (j : Job) : Bool := j.endTime?.any (· < time)

/-- When a job is over does not depend on where it stands. -/
theorem endTime?_asHandedIn (j : Job) : j.asHandedIn.endTime? = j.endTime? := rfl

/-- A job that goes on is over after some time exactly if it ends before. -/
theorem stage_advance {j : Job} (h : j.stage ≠ .over) (time : Nat) :
    ((j.advance time).1.stage == .over) = j.endsBefore time := by
  have hends : (j.advance time).1.stage = if j.endsBefore time then .over
      else if j.stage == .queued && j.spawned.time < time then .running else j.stage := by
    simp only [advance, endsBefore, Option.isSome_filter]
    rfl
  rw [hends]
  by_cases hover : j.endsBefore time = true
  · simp [hover]
  · by_cases hrun : (j.stage == .queued && j.spawned.time < time) = true
    · simp [hover, hrun]
    · simp [hover, hrun, h]

/-- No job is over before it is handed in. -/
theorem le_endTime {j : Job} {t : Nat} (h : j.endTime? = some t) : j.spawned.time ≤ t := by
  simp only [endTime?, Work.endAt?, Option.map_map, Option.map_eq_some_iff] at h
  obtain ⟨ending, -, rfl⟩ := h
  exact Nat.le_add_right j.spawned.time j.work.delay

end Job

namespace Permits

variable {p q m : Permits} {time : Nat} {a : Act} {r : Bool}

/-- How permits stand between two acts. -/
structure Tidy (p : Permits) : Prop where
  /-- All permits are free, in a hand, left with somebody or with a job. -/
  balance : p.free + p.taken + p.lent.length + p.jobs.length = p.limit
  going : ∀ j ∈ p.jobs, j.stage ≠ .over
  due : ∀ t ∈ p.returns, p.now ≤ t

/-- Time passes, and all that is due before `time` comes back. -/
structure Waits (p : Permits) (time : Nat) (m : Permits) : Prop where
  limit : m.limit = p.limit
  taken : m.taken = p.taken
  jobs : m.jobs.map Job.asHandedIn = (p.jobs.map Job.asHandedIn).filter fun j => !j.endsBefore time
  lent : m.lent = p.lent.filter fun t => !decide (t < time)
  /-- What comes back is free. -/
  free : m.free + m.lent.length + m.jobs.length = p.free + p.lent.length + p.jobs.length
  going : ∀ j ∈ m.jobs, j.stage ≠ .over
  now_le : p.now ≤ m.now
  /-- Nothing is left behind that is due before now. -/
  le_time : m.now ≤ time
  time_le : time ≤ m.now + 1

/-! ## Time passes -/

/-- Those that have a property and those that have not are all there are. -/
theorem length_filter_not {α : Type} (l : List α) (f : α → Bool) :
    l.countP f + (l.filter fun a => !f a).length = l.length := by
  rw [l.length_eq_countP_add_countP f, List.countP_eq_length_filter (p := fun a => decide ¬f a = true)]
  simp

/-- When permits come back does not depend on where the jobs stand. -/
theorem returns_eq (p : Permits) :
    p.returns = (p.jobs.map Job.asHandedIn).filterMap Job.endTime? ++ p.lent := by
  rw [returns, List.filterMap_map]
  rfl

/-- A permit comes back at the end of a job, or when whoever it was left with lets go of it. -/
theorem mem_returns {t : Nat} : t ∈ p.returns ↔ (∃ j ∈ p.jobs, j.endTime? = some t) ∨ t ∈ p.lent := by
  rw [returns, List.mem_append, List.mem_filterMap]

/-- As time passes, the jobs that are over by then are gone, and the others go on. -/
theorem jobs_advance (h : p.Tidy) (time : Nat) :
    (p.advance time).jobs = (p.jobs.filter fun j => !j.endsBefore time).map (·.advance time |>.1) := by
  simp only [advance, List.map_map, List.partition_eq_filter_filter, List.filter_map]
  congr 1
  apply List.filter_congr
  intro j hj
  simp [Job.stage_advance (h.going j hj)]

/-- As time passes, each job that is over by then sets a permit free, and so does each permit that was left with
somebody until then. -/
theorem free_advance (h : p.Tidy) (time : Nat) :
    (p.advance time).free =
      p.free + p.jobs.countP (·.endsBefore time) + p.lent.countP fun t => decide (t < time) := by
  simp only [advance, List.map_map, List.partition_eq_filter_filter, ← List.countP_eq_length_filter,
    List.countP_map]
  congr 2
  apply List.countP_congr
  intro j hj
  simp [Job.stage_advance (h.going j hj)]

/-- As time passes, permits stay with others that are not due by then. -/
theorem lent_advance (p : Permits) (time : Nat) :
    (p.advance time).lent = p.lent.filter fun t => !decide (t < time) := by
  simp only [advance, List.partition_eq_filter_filter]
  rfl

/-- Time passes until all that is due before `time` has come back. -/
theorem waits_advance (h : p.Tidy) {time now : Nat} (hp : p.now ≤ now) (hle : now ≤ time) (hlt : time ≤ now + 1) :
    p.Waits time { p.advance time with now := now } where
  limit := rfl
  taken := rfl
  jobs := by
    simp only [jobs_advance h, List.filter_map, List.map_map]
    rfl
  lent := lent_advance p time
  free := by
    -- the permits of the jobs that end and of the loans that fall due come free, and no others
    have hjobs := length_filter_not p.jobs (·.endsBefore time)
    have hlent := length_filter_not p.lent fun t => decide (t < time)
    dsimp only
    rw [jobs_advance h, free_advance h, lent_advance, List.length_map]
    omega
  going := by
    intro j hj
    simp only [jobs_advance h, List.mem_map, List.mem_filter] at hj
    obtain ⟨k, ⟨hk, hends⟩, rfl⟩ := hj
    have hstage := Job.stage_advance (h.going k hk) time
    simp_all
  now_le := hp
  le_time := hle
  time_le := hlt

/-- Waiting until a time: all that was due before it has come back. -/
theorem waits_sleepUntil (h : p.Tidy) (hp : p.now ≤ time) : p.Waits time (p.sleepUntil time) :=
  waits_advance h hp (Nat.le_refl time) (Nat.le_succ time)

/-- Waiting until a time at which one is woken: what was due at that time has come back too. -/
theorem waits_settle (h : p.Tidy) (hp : p.now ≤ time) : p.Waits (time + 1) (p.settle time) :=
  waits_advance h hp (Nat.le_succ time) (Nat.le_refl (time + 1))

/-- Nothing that is out is due before now. -/
theorem Tidy.not_endsBefore (h : p.Tidy) : ∀ j ∈ p.jobs, j.endsBefore p.now = false := by
  intro j hj
  by_contra hends
  simp only [Job.endsBefore, Bool.not_eq_false, Option.any_eq_true, decide_eq_true_eq] at hends
  obtain ⟨t, hend, hlt⟩ := hends
  have hmem : t ∈ p.returns := List.mem_append_left _ (List.mem_filterMap.2 ⟨j, hj, hend⟩)
  have := h.due t hmem
  omega

/-- Nothing was due before now, so no time has to pass. -/
theorem Tidy.waits_self (h : p.Tidy) : p.Waits p.now p where
  limit := rfl
  taken := rfl
  jobs := by
    symm
    rw [List.filter_map, List.filter_eq_self.2]
    intro j hj
    rw [Function.comp_apply, Job.endsBefore, Job.endTime?_asHandedIn]
    simpa [Job.endsBefore] using h.not_endsBefore j hj
  lent := by
    symm
    rw [List.filter_eq_self]
    intro t ht
    have := h.due t (List.mem_append_right _ ht)
    simpa using this
  free := rfl
  going := h.going
  now_le := Nat.le_refl _
  le_time := Nat.le_refl _
  time_le := Nat.le_succ _

namespace Waits

/-- When time has passed, just that is still to come back which was due later. -/
theorem mem_returns (h : p.Waits time m) {t : Nat} : t ∈ m.returns ↔ t ∈ p.returns ∧ time ≤ t := by
  simp only [returns_eq, h.jobs, h.lent, List.mem_append, List.mem_filterMap, List.mem_filter]
  constructor
  · rintro (⟨j, ⟨hj, hends⟩, hend⟩ | ⟨ht, hlt⟩)
    · refine ⟨.inl ⟨j, hj, hend⟩, ?_⟩
      simpa [Job.endsBefore, hend] using hends
    · exact ⟨.inr ht, by simpa using hlt⟩
  · rintro ⟨⟨j, hj, hend⟩ | ht, hle⟩
    · refine .inl ⟨j, ⟨hj, ?_⟩, hend⟩
      simpa [Job.endsBefore, hend] using hle
    · exact .inr ⟨ht, by simpa using hle⟩

/-- While time passes everything stays tidy: what comes back was out, and is free afterwards. -/
theorem tidy (h : p.Waits time m) (ht : p.Tidy) : m.Tidy where
  balance := by
    have hbalance := ht.balance
    have hfree := h.free
    rw [h.taken, h.limit]
    omega
  going := h.going
  due := by
    intro t hmem
    have hle := (h.mem_returns.1 hmem).2
    have := h.le_time
    omega

end Waits

/-! ## One act -/

namespace Act

/-- Whether an act takes a permit. -/
def takes : Act → Bool
  | .reserve _ => true
  | _ => false

/-- Whether an act makes use of a permit that was taken. -/
def uses : Act → Bool
  | .giveBack | .lend _ | .spawn _ _ => true
  | _ => false

end Act

/-- What comes of an act: some time may pass, and then one permit moves at most. -/
inductive Comes (p : Permits) : Act → Bool → Permits → Prop where
  | took {n time : Nat} {m : Permits} (hw : p.Waits time m) (h : 0 < m.free) :
    Comes p (.reserve n) true m.grab
  | refused {n : Nat} {m : Permits} (hw : p.Waits (p.now + n) m) (h : m.free = 0)
    (hdue : ∀ t ∈ p.returns, p.now + n ≤ t) : Comes p (.reserve n) false m
  | gaveBack (h : 0 < p.taken) :
    Comes p .giveBack true { p with taken := p.taken - 1, free := p.free + 1 }
  | lent {span : Nat} (h : 0 < p.taken) :
    Comes p (.lend span) true { p with taken := p.taken - 1, lent := p.lent ++ [p.now + span] }
  | handedIn {id : String} {work : Work} (h : 0 < p.taken) :
    Comes p (.spawn id work) true
      { p with taken := p.taken - 1, turn := p.turn + 1,
               jobs := p.jobs ++ [{ id, work, spawned := ⟨p.now, p.turn⟩ }] }
  | without {a : Act} (h : p.taken = 0) (ha : a.uses = true) : Comes p a false p
  | drained {n time : Nat} {m : Permits} (hw : p.Waits time m) :
    Comes p (.drain n) m.jobs.isEmpty m
  | slept {n time : Nat} {m : Permits} (hw : p.Waits time m) : Comes p (.sleep n) true m

/-- Whoever waits until something comes back finds a free permit. -/
theorem Waits.free_pos (h : p.Waits time m) {t : Nat} (hmem : t ∈ p.returns) (hlt : t < time) : 0 < m.free := by
  by_contra hnone
  -- then all that was out would be out still
  have hfree := h.free
  have hlen := congrArg List.length h.jobs
  have hjobs := (p.jobs.map Job.asHandedIn).length_filter_le fun j => !j.endsBefore time
  have hlent := p.lent.length_filter_le fun t => !decide (t < time)
  rw [List.length_map] at hjobs hlen
  rw [h.lent, hlen] at hfree
  have hsame : ((p.jobs.map Job.asHandedIn).filter fun j => !j.endsBefore time).length
      = (p.jobs.map Job.asHandedIn).length := by
    rw [List.length_map]
    omega
  have hsame' : (p.lent.filter fun t => !decide (t < time)).length = p.lent.length := by omega
  rw [List.length_filter_eq_length_iff] at hsame hsame'
  rw [returns_eq, List.mem_append, List.mem_filterMap] at hmem
  rcases hmem with ⟨j, hj, hend⟩ | hmem
  · have hout := hsame j hj
    simp only [Job.endsBefore, hend, Option.any_some, Bool.not_eq_true', decide_eq_false_iff_not] at hout
    exact hout hlt
  · have hout := hsame' t hmem
    simp only [Bool.not_eq_true', decide_eq_false_iff_not] at hout
    exact hout hlt

/-- Where nothing is due before a time, nothing has changed then. -/
theorem Waits.idle (h : p.Waits time m) (hdue : ∀ t ∈ p.returns, time ≤ t) :
    m.jobs.map Job.asHandedIn = p.jobs.map Job.asHandedIn ∧ m.lent = p.lent := by
  rw [h.jobs, h.lent, List.filter_eq_self, List.filter_eq_self]
  simp only [returns_eq, List.mem_append, List.mem_filterMap] at hdue
  constructor
  · intro j hj
    simp only [Job.endsBefore, Bool.not_eq_true', Option.any_eq_false_iff_get, decide_eq_false_iff_not]
    intro hsome
    have := hdue _ (.inl ⟨j, hj, (Option.some_get hsome).symm⟩)
    omega
  · intro t ht
    have := hdue t (.inr ht)
    simpa using this

/-- A permit can be taken if one is free or comes back in time. -/
theorem reserve_iff (p : Permits) (n : Nat) :
    (p.step (.reserve n)).1 = true ↔ 0 < p.free ∨ ∃ t ∈ p.returns, t < p.now + n := by
  simp only [step, reserve, Prod.fst_swap]
  by_cases hfree : 0 < p.free
  · simp [hfree]
  · rw [if_neg hfree, or_iff_right hfree]
    cases hmin : (p.returns.filter (· < p.now + n)).min? with
    | some t =>
      have hmem := List.min?_mem hmin
      rw [List.mem_filter, decide_eq_true_eq] at hmem
      exact iff_of_true rfl ⟨t, hmem⟩
    | none =>
      rw [List.min?_eq_none_iff, List.filter_eq_nil_iff] at hmin
      refine iff_of_false (by simp) ?_
      rintro ⟨t, ht, hlt⟩
      exact hmin t ht (decide_eq_true hlt)

/-- Reserving takes a free permit, or waits for the first that comes back, or loses patience with none free and
none due. -/
theorem reserve_comes (h : p.Tidy) (n : Nat) :
    p.Comes (.reserve n) (p.step (.reserve n)).1 (p.step (.reserve n)).2 := by
  simp only [step, reserve, Prod.fst_swap, Prod.snd_swap]
  by_cases hfree : p.free > 0
  · rw [if_pos hfree]
    exact .took h.waits_self hfree
  · rw [if_neg hfree]
    cases hmin : (p.returns.filter (· < p.now + n)).min? with
    | some t =>
      -- the earliest that comes back wakes whoever waits
      have hmem := List.min?_mem hmin
      rw [List.mem_filter] at hmem
      have hw := waits_settle h (h.due t hmem.1)
      exact .took hw (hw.free_pos hmem.1 (Nat.lt_succ_self t))
    | none =>
      rw [List.min?_eq_none_iff, List.filter_eq_nil_iff] at hmin
      have hdue : ∀ t ∈ p.returns, p.now + n ≤ t := by
        intro t ht
        simpa using hmin t ht
      have hw := waits_sleepUntil h (Nat.le_add_right p.now n)
      have hjobs := congrArg List.length (hw.idle hdue).1
      have hlent := congrArg List.length (hw.idle hdue).2
      have hback := hw.free
      rw [List.length_map, List.length_map] at hjobs
      have hnone : (p.sleepUntil (p.now + n)).free = 0 := by omega
      exact .refused hw hnone hdue

/-- The latest of some times is before a limit exactly if each of them is. -/
theorem foldl_max_lt_iff (l : List Nat) (t limit : Nat) :
    l.foldl max t < limit ↔ t < limit ∧ ∀ u ∈ l, u < limit := by
  induction l generalizing t with
  | nil => simp
  | cons u l ih => rw [List.foldl_cons, ih, List.forall_mem_cons, Nat.max_lt, and_assoc]

/-- If each of some things has a value, these are the values. -/
theorem map_of_mapM {α β : Type} {f : α → Option β} {l : List α} {ys : List β} (h : l.mapM f = some ys) :
    l.map f = ys.map some := by
  induction l generalizing ys with
  | nil => simp_all
  | cons x l ih =>
    simp only [List.mapM_cons, Option.bind_eq_bind, Option.bind_eq_some_iff, Option.pure_def,
      Option.some.injEq] at h
    obtain ⟨y, hy, zs, hzs, rfl⟩ := h
    rw [List.map_cons, List.map_cons, hy, ih hzs]

/-- If not, there is one that has none. -/
theorem exists_of_mapM_eq_none {α β : Type} {f : α → Option β} {l : List α} (h : l.mapM f = none) :
    ∃ x ∈ l, f x = none := by
  induction l with
  | nil => simp at h
  | cons x l ih =>
    by_cases hx : f x = none
    · exact ⟨x, List.mem_cons_self, hx⟩
    · obtain ⟨y, hy⟩ := Option.ne_none_iff_exists'.1 hx
      have hrest : l.mapM f = none := by
        by_contra hne
        obtain ⟨ys, hys⟩ := Option.ne_none_iff_exists'.1 hne
        simp [hy, hys] at h
      obtain ⟨z, hz, hnone⟩ := ih hrest
      exact ⟨z, List.mem_cons_of_mem x hz, hnone⟩

/-- No job is left exactly if each was over before the time. -/
theorem Waits.isEmpty_iff (h : p.Waits time m) :
    m.jobs.isEmpty = true ↔ ∀ j ∈ p.jobs, ∃ t, j.endTime? = some t ∧ t < time := by
  rw [List.isEmpty_iff, ← List.map_eq_nil_iff (f := Job.asHandedIn), h.jobs, List.filter_eq_nil_iff]
  simp [Job.endsBefore, Job.endTime?_asHandedIn, Option.any_eq_true]

/-- The last of the jobs is over before a time exactly if all are. -/
theorem last_lt_iff (h : p.Tidy) {times : List Nat} (hsome : p.jobs.mapM Job.endTime? = some times)
    (hne : times ≠ []) (limit : Nat) :
    times.foldl max p.now < limit ↔ ∀ j ∈ p.jobs, ∃ t, j.endTime? = some t ∧ t < limit := by
  have htimes : (∀ t ∈ times, t < limit) ↔ ∀ o ∈ times.map some, ∃ t, o = some t ∧ t < limit := by simp
  rw [← map_of_mapM hsome, List.forall_mem_map] at htimes
  rw [foldl_max_lt_iff, ← htimes, and_iff_right_iff_imp]
  intro hlt
  -- none of them is over before now
  obtain ⟨t, ht⟩ := List.exists_mem_of_ne_nil times hne
  have hmem : some t ∈ p.jobs.map Job.endTime? := by
    rw [map_of_mapM hsome]
    exact List.mem_map_of_mem ht
  have hdue := h.due t (List.mem_append_left _ (List.mem_filterMap.2 (List.mem_map.1 hmem)))
  have := hlt t ht
  omega

/-- Draining waits for the last job, or loses patience when one is not over by then; a job that never ends keeps
it waiting. -/
theorem drain_comes (h : p.Tidy) (n : Nat) :
    p.Comes (.drain n) (p.step (.drain n)).1 (p.step (.drain n)).2 := by
  simp only [step, drain, Prod.fst_swap, Prod.snd_swap]
  have hsleep := waits_sleepUntil h (Nat.le_add_right p.now n)
  split
  · next hsome =>
    have hjobs : p.jobs = [] := by simpa using map_of_mapM hsome
    have hdrained := Comes.drained (n := n) h.waits_self
    rw [hjobs] at hdrained
    exact hdrained
  · next times hne hsome =>
    have hiff := last_lt_iff h hsome hne
    by_cases hlast : times.foldl max p.now < p.now + n
    · rw [if_pos hlast]
      have hle := ((foldl_max_lt_iff times p.now _).1 (Nat.lt_succ_self (times.foldl max p.now))).1
      have hw := waits_settle h (Nat.le_of_lt_succ hle)
      have hdone := hw.isEmpty_iff.2 ((hiff _).1 (Nat.lt_succ_self _))
      rw [← hdone]
      exact .drained hw
    · rw [if_neg hlast]
      have hleft : (p.sleepUntil (p.now + n)).jobs.isEmpty = false := by
        rw [← Bool.not_eq_true, hsleep.isEmpty_iff, ← hiff]
        exact hlast
      rw [← hleft]
      exact .drained hsleep
  · next hnone =>
    -- a job that never ends is still there
    obtain ⟨j, hj, hend⟩ := exists_of_mapM_eq_none hnone
    have hleft : (p.sleepUntil (p.now + n)).jobs.isEmpty = false := by
      rw [← Bool.not_eq_true, hsleep.isEmpty_iff]
      intro hall
      simpa [hend] using hall j hj
    rw [← hleft]
    exact .drained hsleep

/-- **Every act** lets some time pass and then moves one permit at most. -/
theorem step_comes (h : p.Tidy) (a : Act) : p.Comes a (p.step a).1 (p.step a).2 := by
  cases a with
  | reserve n => exact reserve_comes h n
  | giveBack =>
    by_cases htaken : 0 < p.taken
    · simpa [step, giveBack, htaken] using Comes.gaveBack htaken
    · simpa [step, giveBack, htaken] using Comes.without (a := .giveBack) (Nat.eq_zero_of_not_pos htaken) rfl
  | lend span =>
    by_cases htaken : 0 < p.taken
    · simpa [step, lend, htaken] using Comes.lent htaken
    · simpa [step, lend, htaken] using Comes.without (a := .lend span) (Nat.eq_zero_of_not_pos htaken) rfl
  | spawn id work =>
    by_cases htaken : 0 < p.taken
    · simpa [step, spawn, htaken] using Comes.handedIn htaken
    · simpa [step, spawn, htaken] using Comes.without (a := .spawn id work) (Nat.eq_zero_of_not_pos htaken) rfl
  | drain n => exact drain_comes h n
  | sleep n => exact .slept (waits_sleepUntil h (Nat.le_add_right p.now n))

/-! ## What has been given away -/

/-- Of all that was given away, some is back, and the rest is out and not due before now. -/
def Parted {α : Type} (due : α → Option Nat) (now : Nat) (all out : List α) : Prop :=
  ∃ back, all.Perm (back ++ out) ∧ (∀ b ∈ back, ∃ t, due b = some t ∧ t ≤ now) ∧
    ∀ b ∈ out, ∀ t, due b = some t → now ≤ t

section Parted

variable {α : Type} {due : α → Option Nat} {now : Nat} {all out : List α}

/-- What is given away now is out. -/
theorem Parted.add (h : Parted due now all out) {b : α} (hb : ∀ t, due b = some t → now ≤ t) :
    Parted due now (all ++ [b]) (out ++ [b]) := by
  obtain ⟨back, hperm, hback, hout⟩ := h
  refine ⟨back, ?_, hback, ?_⟩
  · rw [← List.append_assoc]
    exact hperm.append_right [b]
  · intro c hc
    rw [List.mem_append, List.mem_singleton] at hc
    rcases hc with hc | rfl
    · exact hout c hc
    · exact hb

/-- As time passes, what was due comes back. -/
theorem Parted.wait (h : Parted due now all out) {time later : Nat} (hnow : now ≤ later) (hle : later ≤ time)
    (hlt : time ≤ later + 1) :
    Parted due later all (out.filter fun b => !(due b).any (· < time)) := by
  obtain ⟨back, hperm, hback, hout⟩ := h
  refine ⟨back ++ out.filter fun b => (due b).any (· < time), ?_, ?_, ?_⟩
  · rw [List.append_assoc]
    have hparts := List.filter_append_perm (fun b => (due b).any (· < time)) out
    exact hperm.trans (hparts.symm.append_left back)
  · intro b hb
    rw [List.mem_append, List.mem_filter, Option.any_eq_true] at hb
    rcases hb with hb | ⟨-, t, hdue, hearly⟩
    · obtain ⟨t, hdue, hle⟩ := hback b hb
      exact ⟨t, hdue, by omega⟩
    · rw [decide_eq_true_eq] at hearly
      exact ⟨t, hdue, by omega⟩
  · intro b hb t hdue
    rw [List.mem_filter, hdue] at hb
    have hlate : ¬t < time := by simpa using hb.2
    omega

end Parted

/-- How many acts of a kind could be done. -/
def times (kind : Act → Bool) (log : List (Act × Bool)) : Nat := log.countP fun (a, done) => done && kind a

/-- When a permit comes back that an act leaves with somebody. -/
def lending? (p : Permits) : Act → Option Nat
  | .lend span => if (p.step (.lend span)).1 then some (p.now + span) else none
  | _ => none

/-- The job that an act hands in. -/
def handIn? (p : Permits) : Act → Option Job
  | .spawn id work =>
    if (p.step (.spawn id work)).1 then some { id, work, spawned := ⟨p.now, p.turn⟩ } else none
  | _ => none

/-- How many permits there are, and where each has gone. -/
structure Ledger (limit : Nat) (acts : List Act) (p : Permits) : Prop where
  whole : p.limit = max limit 1
  tidy : p.Tidy
  /-- What was taken is in the hand, or has been used. -/
  taken : times Act.takes (Acts.log step (ofLimit limit) acts) =
    p.taken + times Act.uses (Acts.log step (ofLimit limit) acts)
  lent : Parted some p.now (Acts.gather step lending? (ofLimit limit) acts) p.lent
  jobs : Parted Job.endTime? p.now (Acts.gather step handIn? (ofLimit limit) acts) (p.jobs.map Job.asHandedIn)

namespace Waits

/-- What was left with others is parted so still when time has passed. -/
theorem parted_lent (h : p.Waits time m) {all : List Nat} (hp : Parted some p.now all p.lent) :
    Parted some m.now all m.lent := by
  rw [h.lent]
  exact hp.wait h.now_le h.le_time h.time_le

/-- So are the jobs. -/
theorem parted_jobs (h : p.Waits time m) {all : List Job}
    (hp : Parted Job.endTime? p.now all (p.jobs.map Job.asHandedIn)) :
    Parted Job.endTime? m.now all (m.jobs.map Job.asHandedIn) := by
  rw [h.jobs]
  exact hp.wait h.now_le h.le_time h.time_le

end Waits

/-- An act that could not be done gives nothing away. -/
theorem given_of_not_done (h : (p.step a).1 = false) : p.lending? a = none ∧ p.handIn? a = none := by
  cases a <;> simp_all [lending?, handIn?]

namespace Comes

/-- How many permits there are never changes. -/
theorem limit_eq (h : p.Comes a r q) : q.limit = p.limit := by
  cases h with
  | took hw | refused hw | drained hw | slept hw => exact hw.limit
  | _ => rfl

/-- A permit is in the hand from when it is taken until it is used. -/
theorem taken_eq (h : p.Comes a r q) :
    q.taken + (r && a.uses).toNat = p.taken + (r && a.takes).toNat := by
  cases h with
  | took hw => simp [grab, hw.taken, Act.uses, Act.takes]
  | refused hw | drained hw | slept hw => simp [hw.taken, Act.uses, Act.takes]
  | without => simp
  | _ => simp [Act.uses, Act.takes]; omega

/-- Each act leaves the permits tidy: it moves one from where it was to where it is, or none. -/
theorem tidy (h : p.Comes a r q) (ht : p.Tidy) : q.Tidy := by
  -- each kind of act keeps the balance, with the permits it takes or gives on both sides of it
  cases h with
  | took hw hfree =>
    obtain ⟨hbalance, hgoing, hdue⟩ := hw.tidy ht
    refine ⟨?_, hgoing, hdue⟩
    dsimp only [grab]
    omega
  | refused hw | drained hw | slept hw => exact hw.tidy ht
  | gaveBack htaken =>
    refine ⟨?_, ht.going, ht.due⟩
    have := ht.balance
    dsimp only
    omega
  | lent htaken =>
    refine ⟨?_, ht.going, ?_⟩
    · have := ht.balance
      rw [List.length_append, List.length_singleton]
      dsimp only
      omega
    · intro t hmem
      rw [mem_returns, List.mem_append, List.mem_singleton] at hmem
      rcases hmem with hjob | hlent | rfl
      · exact ht.due t (mem_returns.2 (.inl hjob))
      · exact ht.due t (mem_returns.2 (.inr hlent))
      · exact Nat.le_add_right p.now _
  | handedIn htaken =>
    refine ⟨?_, ?_, ?_⟩
    · have := ht.balance
      rw [List.length_append, List.length_singleton]
      dsimp only
      omega
    · intro j hj
      rw [List.mem_append, List.mem_singleton] at hj
      rcases hj with hj | rfl
      · exact ht.going j hj
      · simp
    · intro t hmem
      rw [mem_returns] at hmem
      rcases hmem with ⟨j, hj, hend⟩ | hmem
      · rw [List.mem_append, List.mem_singleton] at hj
        rcases hj with hj | rfl
        · exact ht.due t (mem_returns.2 (.inl ⟨j, hj, hend⟩))
        · exact Job.le_endTime hend
      · exact ht.due t (mem_returns.2 (.inr hmem))
  | without => exact ht

/-- Each act adds to what was left with others just what it leaves with them. -/
theorem lent_parted (h : p.Comes a r q) (hr : (p.step a).1 = r) {all : List Nat}
    (hp : Parted some p.now all p.lent) :
    Parted some q.now (all ++ (p.lending? a).toList) q.lent := by
  cases h with
  | took hw | refused hw | drained hw | slept hw => simpa [lending?, grab] using hw.parted_lent hp
  | lent =>
    rw [lending?, if_pos hr]
    exact hp.add (by simp)
  | without =>
    rw [(given_of_not_done hr).1]
    simpa using hp
  | _ => simpa [lending?] using hp

/-- Each act adds to the jobs just the one that it hands in. -/
theorem jobs_parted (h : p.Comes a r q) (hr : (p.step a).1 = r) {all : List Job}
    (hp : Parted Job.endTime? p.now all (p.jobs.map Job.asHandedIn)) :
    Parted Job.endTime? q.now (all ++ (p.handIn? a).toList) (q.jobs.map Job.asHandedIn) := by
  cases h with
  | took hw | refused hw | drained hw | slept hw => simpa [handIn?, grab] using hw.parted_jobs hp
  | handedIn =>
    rw [handIn?, if_pos hr, List.map_append]
    exact hp.add fun t => Job.le_endTime
  | without =>
    rw [(given_of_not_done hr).2]
    simpa using hp
  | _ => simpa [handIn?] using hp

end Comes

/-- An act that could be done counts once, if it is of the kind. -/
theorem times_concat (kind : Act → Bool) (log : List (Act × Bool)) (a : Act) (r : Bool) :
    times kind (log ++ [(a, r)]) = times kind log + (r && kind a).toNat := by
  rw [times, List.countP_append, List.countP_singleton, times]
  dsimp only
  by_cases h : (r && kind a) = true
  · rw [if_pos h, h, Bool.toNat_true]
  · rw [if_neg h, Bool.eq_false_iff.2 h, Bool.toNat_false]

/-- **The ledger is kept**, whatever is done. -/
theorem ledger_after (limit : Nat) (acts : List Act) :
    Ledger limit acts (Acts.after step (ofLimit limit) acts) := by
  induction acts using List.reverseRecOn with
  | nil =>
    refine ⟨rfl, ⟨rfl, ?_, ?_⟩, rfl, ⟨[], ?_⟩, ⟨[], ?_⟩⟩ <;> simp [ofLimit, returns]
  | append_singleton acts a ih =>
    have hcomes := step_comes ih.tidy a
    rw [Acts.after_concat]
    refine ⟨hcomes.limit_eq.trans ih.whole, hcomes.tidy ih.tidy, ?_, ?_, ?_⟩
    · have htaken := hcomes.taken_eq
      have hsofar := ih.taken
      rw [Acts.log_concat, times_concat, times_concat]
      omega
    · rw [Acts.gather_concat]
      exact hcomes.lent_parted rfl ih.lent
    · rw [Acts.gather_concat]
      exact hcomes.jobs_parted rfl ih.jobs

/-! ## Permits are conserved -/

/-- Where all permits are after some acts, and what can be done with them then. -/
structure Conserved (limit : Nat) (acts : List Act) (p : Permits) : Prop where
  ledger : Ledger limit acts p
  balance : p.available + p.held + p.jobs.length = max limit 1
  /-- No more jobs than permits. -/
  running : p.jobs.length ≤ max limit 1
  /-- Where a permit is free, it can be taken without waiting. -/
  atOnce : p.held + p.jobs.length < max limit 1 → ∀ patience, p.step (.reserve patience) = (true, p.grab)
  /-- A permit can be taken if one is free or comes back in time. -/
  reserve : ∀ patience, (p.step (.reserve patience)).1 = true ↔
    p.held + p.jobs.length < max limit 1 ∨ ∃ t ∈ p.returns, t < p.now + patience
  /-- Who loses patience leaves everything as it was. -/
  refused : ∀ patience q, p.step (.reserve patience) = (false, q) →
    q.available = 0 ∧ q.held = p.held ∧ q.jobs.map Job.asHandedIn = p.jobs.map Job.asHandedIn
  /-- With a permit in the hand a job can be handed in, and it is listed then behind those that were. -/
  handedIn : 0 < p.taken → ∀ id work, ∃ q, p.step (.spawn id work) = (true, q) ∧ q.taken + 1 = p.taken ∧
    q.jobs = p.jobs ++ [{ id, work, spawned := ⟨p.now, p.turn⟩ }]
  /-- A permit in the hand can be given back, and it is free then. -/
  givenBack : 0 < p.taken → ∃ q, p.step .giveBack = (true, q) ∧ q.taken + 1 = p.taken ∧
    q.available = p.available + 1
  /-- Without a permit in the hand nothing can be done with one. -/
  emptyHanded : p.taken = 0 → ∀ a, a.uses = true → p.step a = (false, p)
  /-- All jobs have been waited for exactly if none is left. -/
  drained : ∀ patience r q, p.step (.drain patience) = (r, q) →
    (r = true ↔ q.jobs = []) ∧ (r = true → q.available = max limit 1 - q.held)

/-- **Permits are conserved**: whatever is done with them, in whatever order and however often. -/
theorem permits_are_conserved (limit : Nat) (acts : List Act) :
    Conserved limit acts (Acts.after step (ofLimit limit) acts) := by
  have hledger := ledger_after limit acts
  generalize Acts.after step (ofLimit limit) acts = p at hledger
  have hbalance := hledger.tidy.balance
  have hwhole := hledger.whole
  have hsum : p.available + p.held + p.jobs.length = max limit 1 := by
    rw [available, held]
    omega
  have hfree : 0 < p.free ↔ p.held + p.jobs.length < max limit 1 := by
    rw [available] at hsum
    omega
  refine ⟨hledger, hsum, by omega, ?_, ?_, ?_, ?_, ?_, ?_, ?_⟩
  · intro hlt patience
    simp [step, reserve, hfree.2 hlt]
  · intro patience
    rw [← hfree, reserve_iff]
  · intro patience q hstep
    have hcomes := step_comes hledger.tidy (.reserve patience)
    rw [hstep] at hcomes
    cases hcomes with
    | refused hw hnone hdue =>
      obtain ⟨hjobs, hlent⟩ := hw.idle hdue
      exact ⟨hnone, by rw [held, hw.taken, hlent, held], hjobs⟩
    | without _ ha => exact absurd ha Bool.false_ne_true
  · intro htaken id work
    refine ⟨(p.spawn id work).1, ?_, ?_, ?_⟩ <;> simp [step, spawn, htaken]
    omega
  · intro htaken
    refine ⟨p.giveBack.1, ?_, ?_, ?_⟩ <;> simp [step, giveBack, available, htaken]
    omega
  · intro hnone a ha
    cases a with
    | giveBack | lend | spawn => simp [step, giveBack, lend, spawn, hnone]
    | reserve | drain | sleep => cases ha
  · intro patience r q hstep
    have hcomes := step_comes hledger.tidy (.drain patience)
    rw [hstep] at hcomes
    dsimp only at hcomes
    have htidy := (hcomes.tidy hledger.tidy).balance
    rw [hcomes.limit_eq, hwhole] at htidy
    cases hcomes with
    | drained hw =>
      rw [List.isEmpty_iff]
      refine ⟨Iff.rfl, ?_⟩
      intro hdone
      rw [hdone, List.length_nil] at htidy
      rw [available, held]
      omega
    | without _ ha => exact absurd ha Bool.false_ne_true

end Permits

end Phrasebook.Lifecycle
