import Phrasebook.Lifecycle.Resources
/-!
# Releasing what is held

Whatever guarded work does with its scope and however it ends, everything that is registered by then is
released: the last acquired first, the next one only when the one before it is through or has used up its
time, each one once. Then the guard hands on how the work ended.

`Released` says how releasing goes, without the loop that does it; `releaseSteps_append` is the induction
over that loop, and `guard_of_sound` puts it behind any work. The lead result, `guard_releases_everything`,
is about work that acquires while it goes on (`GuardedWork`).

All of this is for releases that do not break down. One that does ends the loop where it stands.
-/

set_option autoImplicit false

namespace Phrasebook.Lifecycle

/-- The release of the resource goes well, fails or never ends; it does not break down. -/
def Resource.Sound (r : Resource) : Prop := ∀ m, r.release.ending ≠ some (.error (.broke m))

/-- How the release of the resource breaks down, if it does so within a limit. -/
def Resource.breakdown? (limit : Nat) (r : Resource) : Option String :=
  match r.release.ending with
  | some (.error (.broke m)) => if r.release.delay ≤ limit then some m else none
  | _ => none

/-- A resource whose release is sound does not break down. -/
theorem Resource.Sound.breakdown? {r : Resource} (h : r.Sound) (limit : Nat) : r.breakdown? limit = none := by
  unfold Resource.breakdown?
  split
  · exact absurd ‹_› (h _)
  · rfl

/-- A release breaks down within a limit exactly if that is how it ends, and it ends by then. -/
theorem Resource.breakdown?_eq_some {limit : Nat} {r : Resource} {m : String} :
    r.breakdown? limit = some m ↔ r.release.ending = some (.error (.broke m)) ∧ r.release.delay ≤ limit := by
  unfold Resource.breakdown?
  split <;> grind

/-! ## How releasing goes -/

/-- `Released limit t rs log u`: from time `t` to time `u` the resources `rs` are released one after the
other, with so much time for each, and `log` tells what happens when. -/
inductive Released (limit : Nat) : Nat → List Resource → List (Nat × Event) → Nat → Prop where
  | nothing (t : Nat) : Released limit t [] [] t
  | well {t u : Nat} {r : Resource} {rest : List Resource} {log : List (Nat × Event)}
      (hend : r.release.ending = some (.ok ())) (hle : r.release.delay ≤ limit)
      (hrest : Released limit (t + r.release.delay) rest log u) :
      Released limit t (r :: rest)
        ((t, .releasing r.name) :: (t + r.release.delay, .releaseEnded r.name) ::
          (t + r.release.delay, .released r.name) :: log) u
  | badly {t u : Nat} {r : Resource} {rest : List Resource} {log : List (Nat × Event)} {c : Chain}
      (hend : r.release.ending = some (.error (.failed c))) (hle : r.release.delay ≤ limit)
      (hrest : Released limit (t + r.release.delay) rest log u) :
      Released limit t (r :: rest)
        ((t, .releasing r.name) :: (t + r.release.delay, .releaseEnded r.name) ::
          (t + r.release.delay, .releaseFailed r.name c) :: log) u
  | late {t u : Nat} {r : Resource} {rest : List Resource} {log : List (Nat × Event)}
      (hlate : r.release.ending = none ∨ limit < r.release.delay)
      (hrest : Released limit (t + limit) rest log u) :
      Released limit t (r :: rest)
        ((t, .releasing r.name) :: (t + limit, .releaseTimedOut r.name (.ofMillis limit)) :: log) u

/-- The resources whose release begins in a log, one entry for each beginning. -/
def begun (log : List (Nat × Event)) : List String :=
  log.filterMap fun x => match x.2 with
    | .releasing name => some name
    | _ => none

namespace Released

variable {limit t u : Nat} {rs : List Resource} {log : List (Nat × Event)}

/-- **Every release begins once**, in the order of the list. -/
theorem begun_eq (h : Released limit t rs log u) : begun log = rs.map (·.name) := by
  induction h with
  | nothing => rfl
  | well _ _ _ ih => exact congrArg (_ :: ·) ih
  | badly _ _ _ ih => exact congrArg (_ :: ·) ih
  | late _ _ ih => exact congrArg (_ :: ·) ih

/-- Releasing takes time, and gives none back. -/
theorem le_of_released (h : Released limit t rs log u) : t ≤ u := by
  induction h with
  | nothing => exact Nat.le_refl _
  | well _ _ _ ih => omega
  | badly _ _ _ ih => omega
  | late _ _ ih => omega

/-- No release takes more than its limit, so all together take no more than their number times that. -/
theorem ended_le (h : Released limit t rs log u) : u ≤ t + rs.length * limit := by
  have hcons : ∀ rest : List Resource, ∀ r, (r :: rest).length * limit = rest.length * limit + limit :=
    fun rest _ => Nat.succ_mul rest.length limit
  induction h with
  | nothing => exact Nat.le_add_right _ _
  | well _ hle _ ih =>
    rw [hcons]
    omega
  | badly _ hle _ ih =>
    rw [hcons]
    omega
  | late _ _ ih =>
    rw [hcons]
    omega

/-- Nothing is told before the releasing begins or after it is through. -/
theorem time_mem (h : Released limit t rs log u) : ∀ x ∈ log, t ≤ x.1 ∧ x.1 ≤ u := by
  -- what is told of one resource is told at its own time `t` or at the time `v` of the next
  have key : ∀ {t v u : Nat} {log : List (Nat × Event)}, t ≤ v → v ≤ u →
      (∀ x ∈ log, v ≤ x.1 ∧ x.1 ≤ u) → ∀ own : List (Nat × Event),
      (∀ x ∈ own, x.1 = t ∨ x.1 = v) → ∀ x ∈ own ++ log, t ≤ x.1 ∧ x.1 ≤ u := by
    intro t v u log htv hvu hlog own hown x hx
    rcases List.mem_append.1 hx with hx | hx
    · have := hown x hx
      omega
    · have := hlog x hx
      omega
  induction h with
  | nothing => exact fun x hx => nomatch hx
  | well _ _ hrest ih =>
    exact key (Nat.le_add_right _ _) hrest.le_of_released ih [_, _, _] (by simp)
  | badly _ _ hrest ih =>
    exact key (Nat.le_add_right _ _) hrest.le_of_released ih [_, _, _] (by simp)
  | late _ hrest ih =>
    exact key (Nat.le_add_right _ _) hrest.le_of_released ih [_, _] (by simp)

end Released

/-! ## The end of a piece of work and a limit -/

/-- Work that takes no longer than a limit is done in time. -/
theorem Work.inTime_of_le {w : Work} {e : Except Failure Unit} {limit : Nat} (hend : w.ending = some e)
    (hle : w.delay ≤ limit) (begun : Nat) :
    (w.endAt? begun).filter (·.1 ≤ begun + limit) = some (begun + w.delay, e) := by
  rw [Work.endAt?, hend]
  exact Option.filter_eq_some_iff.2 ⟨rfl, decide_eq_true (Nat.add_le_add_left hle begun)⟩

/-- Work that takes longer, or never ends, is not. -/
theorem Work.inTime_of_late {w : Work} {limit : Nat} (hlate : w.ending = none ∨ limit < w.delay)
    (begun : Nat) : (w.endAt? begun).filter (·.1 ≤ begun + limit) = none := by
  rw [Option.filter_eq_none_iff]
  intro q hq hle
  obtain ⟨e, hend, rfl⟩ := Option.map_eq_some_iff.1 hq
  have hle' : begun + w.delay ≤ begun + limit := of_decide_eq_true hle
  rcases hlate with hnone | hlt
  · rw [hend] at hnone
    cases hnone
  · omega

namespace Scope

/-! ## The loop -/

/-- The release of one resource leaves the others registered. -/
@[simp] theorem release_resources (s : Scope) (r : Resource) : (s.release r).2.resources = s.resources := by
  simp only [release]
  split <;> rfl

/-- A release that is not through within the limit is given up then. -/
theorem release_of_late (s : Scope) {r : Resource} (h : r.release.ending = none ∨ s.timeout < r.release.delay) :
    s.release r = (.ok false, ((s.emit (.releasing r.name)).pass s.timeout).emit
      (.releaseTimedOut r.name (.ofMillis s.timeout))) := by
  have hnone := Work.inTime_of_late h (s.emit (.releasing r.name)).now
  simp only [release]
  rw [show (s.emit (.releasing r.name)).timeout = s.timeout from rfl, hnone]

/-- **One release** that does not break down in time leaves the register alone, and the others follow when it
is over. -/
theorem release_of_calm (s : Scope) {r : Resource} (h : r.breakdown? s.timeout = none) :
    ∃ well t log, s.release r = (.ok well, t) ∧ t.resources = s.resources ∧ t.timeout = s.timeout ∧
      t.trace = s.trace ++ log ∧ ∀ {rest log' u}, Released s.timeout t.now rest log' u →
        Released s.timeout s.now (r :: rest) (log ++ log') u := by
  let a := s.emit (.releasing r.name)
  by_cases hle : r.release.delay ≤ s.timeout
  · cases hend : r.release.ending with
    | none =>
      refine ⟨_, _, [_, _], s.release_of_late (Or.inl hend), rfl, rfl, ?_, fun hrest => .late (Or.inl hend) hrest⟩
      exact List.append_assoc ..
    | some e =>
      have hsome : (r.release.endAt? a.now).filter (·.1 ≤ a.now + a.timeout) =
          some (a.now + r.release.delay, e) := Work.inTime_of_le hend hle a.now
      simp only [release, a, hsome]
      -- it ends within the limit, and not by breaking down
      rcases e with (c | m) | ⟨⟩
      · refine ⟨_, _, [_, _, _], rfl, rfl, rfl, ?_, fun hrest => .badly hend hle hrest⟩
        simp only [emit, pass, List.append_assoc, List.cons_append, List.nil_append]
      · rw [Resource.breakdown?_eq_some.2 ⟨hend, hle⟩] at h
        cases h
      · refine ⟨_, _, [_, _, _], rfl, rfl, rfl, ?_, fun hrest => .well hend hle hrest⟩
        simp only [emit, pass, List.append_assoc, List.cons_append, List.nil_append]
  · have hlt : r.release.ending = none ∨ s.timeout < r.release.delay := Or.inr (Nat.lt_of_not_le hle)
    refine ⟨_, _, [_, _], s.release_of_late hlt, rfl, rfl, ?_, fun hrest => .late hlt hrest⟩
    exact List.append_assoc ..

/-- **The loop over resources that do not break down.** It takes them off one by one and goes on with the
rest as it would from there. -/
theorem releaseSteps_append (calm rest : List Resource) (s : Scope) (hs : s.resources = calm ++ rest)
    (hcalm : ∀ r ∈ calm, r.breakdown? s.timeout = none) :
    ∃ k t log, t.resources = rest ∧ t.timeout = s.timeout ∧ t.trace = s.trace ++ log ∧
      Released s.timeout s.now calm log t.now ∧
      ∀ n, releaseSteps (calm.length + n) s = ((releaseSteps n t).1.map (· + k), (releaseSteps n t).2) := by
  -- by induction on the resources, each of which leaves the register it was taken from to the next
  induction calm generalizing s with
  | nil =>
    refine ⟨0, s, [], hs, rfl, (List.append_nil _).symm, .nothing _, fun n => ?_⟩
    rw [List.length_nil, Nat.zero_add]
    cases h : releaseSteps n s with
    | mk result t => cases result <;> rfl
  | cons r calm ih =>
    have htake : s.take? = some (r, { s with resources := calm ++ rest }) := by rw [take?, hs]; rfl
    obtain ⟨well, t, log, hrelease, hregister, htimeout, htrace, hstep⟩ :=
      release_of_calm { s with resources := calm ++ rest } (hcalm r List.mem_cons_self)
    obtain ⟨k, u, log', hrest, htimeout', htrace', hreleased, hloop⟩ :=
      ih t hregister fun x hx => by rw [htimeout]; exact hcalm x (List.mem_cons_of_mem _ hx)
    rw [htimeout] at hreleased
    refine ⟨if well then k else k + 1, u, log ++ log', hrest, htimeout'.trans htimeout, ?_, hstep hreleased,
      fun n => ?_⟩
    · rw [htrace', htrace, List.append_assoc]
    · rw [List.length_cons, Nat.succ_add, releaseSteps, htake]
      simp only [hrelease, hloop n]
      cases (releaseSteps n u).1 <;> cases well <;> rfl

/-- The whole loop takes the resources off one by one, so that none is left for another loop. -/
theorem releaseSteps_of_calm (rs : List Resource) (s : Scope) (hs : s.resources = rs)
    (hcalm : ∀ r ∈ rs, r.breakdown? s.timeout = none) :
    ∃ k t log, releaseSteps rs.length s = (.ok k, t) ∧ t.resources = [] ∧ t.timeout = s.timeout ∧
      t.trace = s.trace ++ log ∧ Released s.timeout s.now rs log t.now := by
  obtain ⟨k, t, log, hempty, htimeout, htrace, hreleased, hloop⟩ :=
    releaseSteps_append rs [] s (by rw [hs, List.append_nil]) hcalm
  exact ⟨0 + k, t, log, hloop 0, hempty, htimeout, htrace, hreleased⟩

/-- Where nothing is registered there is nothing to release. -/
theorem releaseAll_of_nil {s : Scope} (h : s.resources = []) : s.releaseAll = (.ok 0, s) := by
  rw [releaseAll, h]
  rfl

/-! ## The guard -/

/-- What is noted of the end of guarded work: only a failure. -/
def exitNote {α : Type} : Except Failure α → List Event
  | .error (.failed c) => [.exiting c]
  | _ => []

/-- The guard releases from where the work has left the scope; the note of a failure changes the trace only. -/
theorem guard_eq {α : Type} (s : Scope) (work : Scope → Except Failure α × Scope)
    {r : Except Failure α} {s' : Scope} (hwork : work s = (r, s')) :
    ∃ noted : Scope, noted.resources = s'.resources ∧ noted.timeout = s'.timeout ∧ noted.now = s'.now ∧
      noted.trace = s'.trace ++ (exitNote r).map (s'.now, ·) ∧
      ∀ answer t, noted.releaseAll = (answer, t) →
        s.guard work = (match answer with
          | .error m => .error (.broke m)
          | .ok _ => r, t) := by
  rcases r with (c | m) | v
  · refine ⟨s'.emit (.exiting c), rfl, rfl, rfl, rfl, ?_⟩
    intro answer t h
    simp only [guard, hwork, h]
    cases answer <;> rfl
  · refine ⟨s', rfl, rfl, rfl, (List.append_nil _).symm, ?_⟩
    intro answer t h
    simp only [guard, hwork, h]
    cases answer <;> rfl
  · refine ⟨s', rfl, rfl, rfl, (List.append_nil _).symm, ?_⟩
    intro answer t h
    simp only [guard, hwork, h]
    cases answer <;> rfl

/-- **The guard around any work.** What is registered when the work is over is released from then on, and
the end of the work is handed on as it is. -/
theorem guard_of_sound {α : Type} (s : Scope) (work : Scope → Except Failure α × Scope)
    {r : Except Failure α} {s' : Scope} (hwork : work s = (r, s')) (hsound : ∀ r ∈ s'.resources, r.Sound) :
    ∃ t log, s.guard work = (r, t) ∧ t.resources = [] ∧
      t.trace = s'.trace ++ (exitNote r).map (s'.now, ·) ++ log ∧
      Released s'.timeout s'.now s'.resources log t.now := by
  obtain ⟨noted, hresources, htimeout, hnow, htrace, hguard⟩ := s.guard_eq work hwork
  obtain ⟨k, t, log, hloop, hempty, -, htrace', hreleased⟩ :=
    releaseSteps_of_calm s'.resources noted hresources fun x hx => (hsound x hx).breakdown? _
  rw [htimeout, hnow] at hreleased
  refine ⟨t, log, hguard (.ok k) t ?_, hempty, by rw [htrace', htrace], hreleased⟩
  rw [releaseAll, hresources, hloop]

end Scope

/-! ## Work that acquires -/

/-- Guarded work, as far as its scope sees it: between its beginning and its end it takes time, writes to
the log and acquires resources, in any order. -/
inductive GuardedWork (α : Type) where
  | ends (r : Except Failure α)
  | waits (time : Nat) (rest : GuardedWork α)
  | writes (e : LogEntry) (rest : GuardedWork α)
  | acquires (r : Resource) (rest : GuardedWork α)

namespace GuardedWork

variable {α : Type}

/-- Does the work. -/
def run : GuardedWork α → Scope → Except Failure α × Scope
  | .ends r, s => (r, s)
  | .waits time rest, s => rest.run (s.pass time)
  | .writes e rest, s => rest.run (s.emit (.said e))
  | .acquires r rest, s => rest.run (s.register r)

/-- How the work ends. -/
def result : GuardedWork α → Except Failure α
  | .ends r => r
  | .waits _ rest | .writes _ rest | .acquires _ rest => rest.result

/-- What the work acquires, the first first. -/
def acquired : GuardedWork α → List Resource
  | .ends _ => []
  | .waits _ rest | .writes _ rest => rest.acquired
  | .acquires r rest => r :: rest.acquired

/-- How long the work takes. -/
def lasts : GuardedWork α → Nat
  | .ends _ => 0
  | .waits time rest => time + rest.lasts
  | .writes _ rest | .acquires _ rest => rest.lasts

/-- What the work writes to the log from some time on. -/
def told : GuardedWork α → Nat → List (Nat × Event)
  | .ends _, _ => []
  | .waits time rest, t => rest.told (t + time)
  | .writes e rest, t => (t, .said e) :: rest.told t
  | .acquires _ rest, t => rest.told t

/-- **What work leaves in its scope**: it puts what it acquires on top of what was registered before. -/
theorem run_eq (b : GuardedWork α) (s : Scope) :
    b.run s = (b.result,
      { s with
        now := s.now + b.lasts
        resources := b.acquired.reverse ++ s.resources
        trace := s.trace ++ b.told s.now }) := by
  induction b generalizing s with
  | ends r => simp only [run, result, lasts, acquired, told, Nat.add_zero, List.reverse_nil,
      List.nil_append, List.append_nil]
  | waits time rest ih =>
    rw [run, ih]
    simp only [Scope.pass, result, lasts, acquired, told, Nat.add_assoc]
  | writes e rest ih =>
    rw [run, ih]
    simp only [Scope.emit, result, lasts, acquired, told, List.append_assoc, List.singleton_append]
  | acquires r rest ih =>
    rw [run, ih]
    simp only [Scope.register, result, lasts, acquired, told, List.reverse_cons, List.append_assoc,
      List.singleton_append]

end GuardedWork

namespace Scope

/-- **Everything is released.** Whatever is held before the work and whatever the work acquires before it
ends, well, with a failure or with a breakdown: the release of each resource begins once, the last acquired
first and as `Released` has it, after the work is over; nothing stays registered, so that releasing once
more does nothing; it takes no longer than the number of resources times the limit; and the work's own end
comes out of the guard. -/
theorem guard_releases_everything {α : Type} (s : Scope) (b : GuardedWork α)
    (hsound : ∀ r ∈ s.resources ++ b.acquired, r.Sound) :
    ∃ t log, s.guard b.run = (b.result, t) ∧
      t.trace = s.trace ++ b.told s.now ++ (exitNote b.result).map (s.now + b.lasts, ·) ++ log ∧
      Released s.timeout (s.now + b.lasts) (b.acquired.reverse ++ s.resources) log t.now ∧
      begun log = (s.names ++ b.acquired.map (·.name)).reverse ∧
      t.names = [] ∧
      t.now ≤ s.now + b.lasts + (s.names.length + b.acquired.length) * s.timeout ∧
      t.releaseAll = (.ok 0, t) := by
  have hsound' : ∀ r ∈ b.acquired.reverse ++ s.resources, r.Sound := by
    intro r hr
    refine hsound r ?_
    rw [List.mem_append, List.mem_reverse] at hr
    exact List.mem_append.2 hr.symm
  obtain ⟨t, log, hguard, hempty, htrace, hreleased⟩ := s.guard_of_sound b.run (b.run_eq s) hsound'
  have hlength : (b.acquired.reverse ++ s.resources).length = s.names.length + b.acquired.length := by
    rw [List.length_append, List.length_reverse, names, List.length_reverse, List.length_map, Nat.add_comm]
  refine ⟨t, log, hguard, htrace, hreleased, ?_, ?_, ?_, releaseAll_of_nil hempty⟩
  · rw [hreleased.begun_eq, names, List.reverse_append, List.reverse_reverse, List.map_append,
      List.map_reverse]
  · rw [names, hempty]
    rfl
  · rw [← hlength]
    exact hreleased.ended_le

/-- A scope that holds a resource whose release never ends and one whose release fails. -/
def troubled : Scope :=
  { timeout := 50
    resources := [⟨"redis", { delay := 7, ending := some (.error (.failed ⟨"reset", []⟩)) }⟩,
      ⟨"tracer", { ending := none }⟩] }

/-- Work that acquires something more, waits and then breaks down. -/
def shaky : GuardedWork Nat := .acquires ⟨"postgres", { delay := 5 }⟩ (.waits 30 (.ends (.error (.broke "boom"))))

/-- One release fails, another one hangs and the body breaks down: all three are released, the last first, and the
breakdown is what comes of it. -/
theorem troubled_guard_releases_everything :
    (∀ r ∈ troubled.resources ++ shaky.acquired, r.Sound) ∧
      ∃ t log, troubled.guard shaky.run = (.error (.broke "boom"), t) ∧
        begun log = ["postgres", "redis", "tracer"] ∧ t.names = [] ∧ t.now ≤ 30 + 3 * 50 := by
  have hsound : ∀ r ∈ troubled.resources ++ shaky.acquired, r.Sound := by
    intro r hr
    simp only [troubled, shaky, GuardedWork.acquired, List.cons_append, List.nil_append, List.mem_cons,
      List.not_mem_nil, or_false] at hr
    rcases hr with rfl | rfl | rfl <;> rintro m ⟨⟩
  obtain ⟨t, log, hguard, -, -, hbegun, hnames, htime, -⟩ := guard_releases_everything troubled shaky hsound
  exact ⟨hsound, t, log, hguard, hbegun, hnames, htime⟩

end Scope

end Phrasebook.Lifecycle
