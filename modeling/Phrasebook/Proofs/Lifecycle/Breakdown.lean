import Mathlib.Data.List.TakeDrop
import Phrasebook.Proofs.Lifecycle.Release
/-!
# Releases that break down

A release that breaks down within its time ends the loop it is in: its resource is off the register by then,
the ones acquired before it stay there, and its message comes out of the guard in place of whatever the
guarded work came to. So how far the releasing gets is decided by the first such release in the order of
releasing (`reach`), and every release begins exactly if at most the last one breaks down
(`every_release_begins_iff`).

The loop up to the first breakdown is the one over resources that do not break down, so `releaseSteps_append`
does all but the last step.
-/

set_option autoImplicit false

namespace Phrasebook.Lifecycle

/-! ## How far the releasing gets -/

/-- How many releases begin when these resources are to be released, in this order. -/
def reach (limit : Nat) : List Resource → Nat
  | [] => 0
  | r :: rest => if (r.breakdown? limit).isSome then 1 else reach limit rest + 1

/-- Where nothing breaks down the releasing gets to the end. -/
theorem reach_of_calm {limit : Nat} {rs : List Resource} (h : ∀ r ∈ rs, r.breakdown? limit = none) :
    reach limit rs = rs.length := by
  induction rs with
  | nil => rfl
  | cons r rest ih =>
    rw [List.forall_mem_cons] at h
    rw [reach, h.1, ih h.2]
    rfl

/-- It gets as far as the first release that breaks down, and that one has been begun. -/
theorem reach_of_breakdown {limit : Nat} {calm rest : List Resource} {r : Resource} {m : String}
    (hcalm : ∀ x ∈ calm, x.breakdown? limit = none) (hr : r.breakdown? limit = some m) :
    reach limit (calm ++ r :: rest) = calm.length + 1 := by
  induction calm with
  | nil =>
    rw [List.nil_append, reach, hr]
    rfl
  | cons x calm ih =>
    rw [List.forall_mem_cons] at hcalm
    rw [List.cons_append, reach, hcalm.1, ih hcalm.2]
    rfl

/-- The resources up to the first that breaks down. -/
theorem calm_or_breakdown (limit : Nat) (rs : List Resource) :
    (∀ r ∈ rs, r.breakdown? limit = none) ∨
      ∃ calm r rest m, rs = calm ++ r :: rest ∧ (∀ x ∈ calm, x.breakdown? limit = none) ∧
        r.breakdown? limit = some m := by
  induction rs with
  | nil => exact Or.inl fun r hr => nomatch hr
  | cons r rest ih =>
    cases hr : r.breakdown? limit with
    | some m => exact Or.inr ⟨[], r, rest, m, rfl, (fun x hx => nomatch hx), hr⟩
    | none =>
      rcases ih with hcalm | ⟨calm, b, later, m, rfl, hcalm, hb⟩
      · exact Or.inl (List.forall_mem_cons.2 ⟨hr, hcalm⟩)
      · exact Or.inr ⟨r :: calm, b, later, m, rfl, List.forall_mem_cons.2 ⟨hr, hcalm⟩, hb⟩

/-- It gets no further than there are resources. -/
theorem reach_le_length (limit : Nat) (rs : List Resource) : reach limit rs ≤ rs.length := by
  rcases calm_or_breakdown limit rs with hcalm | ⟨calm, b, rest, m, rfl, hcalm, hb⟩
  · exact Nat.le_of_eq (reach_of_calm hcalm)
  · rw [reach_of_breakdown hcalm hb, List.length_append, List.length_cons]
    omega

/-- Every release begins exactly if none but the last breaks down. -/
theorem reach_eq_length_iff (limit : Nat) (rs : List Resource) :
    reach limit rs = rs.length ↔ ∀ r ∈ rs.dropLast, r.breakdown? limit = none := by
  rcases calm_or_breakdown limit rs with hcalm | ⟨calm, b, rest, m, rfl, hcalm, hb⟩
  · rw [reach_of_calm hcalm]
    exact iff_of_true rfl fun r hr => hcalm r (List.dropLast_subset rs hr)
  · rw [reach_of_breakdown hcalm hb, List.length_append, List.length_cons]
    cases rest with
    | nil =>
      -- the one that breaks down is the last
      rw [List.dropLast_concat]
      exact iff_of_true rfl hcalm
    | cons x rest =>
      refine iff_of_false (by simp) fun h => ?_
      have hmem : b ∈ (calm ++ b :: x :: rest).dropLast := by
        rw [List.dropLast_append_of_ne_nil (by simp)]
        exact List.mem_append_right _ (by simp [List.dropLast])
      rw [h b hmem] at hb
      cases hb

/-- What was begun in two parts was begun one part after the other. -/
theorem begun_append (log log' : List (Nat × Event)) : begun (log ++ log') = begun log ++ begun log' :=
  List.filterMap_append

namespace Scope

/-! ## The loop -/

/-- A release that breaks down in time has begun, and that is all that is told of it. -/
theorem release_of_breakdown (s : Scope) {r : Resource} {m : String}
    (h : r.breakdown? s.timeout = some m) :
    s.release r = (.error m, (s.emit (.releasing r.name)).pass r.release.delay) := by
  obtain ⟨hend, hle⟩ := Resource.breakdown?_eq_some.1 h
  let a := s.emit (.releasing r.name)
  have hsome : (r.release.endAt? a.now).filter (·.1 ≤ a.now + a.timeout) =
      some (a.now + r.release.delay, .error (.broke m)) := Work.inTime_of_le hend hle a.now
  simp only [release, a, hsome]

/-- **The loop over any resources.** Up to the first that breaks down their releases begin, in the order of
the list; the rest is left on the register, and the breakdown is what the loop comes to. -/
theorem releaseAll_reaches (s : Scope) :
    ∃ answer t log, s.releaseAll = (answer, t) ∧ t.trace = s.trace ++ log ∧
      begun log = (s.resources.take (reach s.timeout s.resources)).map (·.name) ∧
      t.resources = s.resources.drop (reach s.timeout s.resources) ∧
      (match answer with
        | .error m => some m
        | .ok _ => none) = s.resources.findSome? (·.breakdown? s.timeout) := by
  rcases calm_or_breakdown s.timeout s.resources with hcalm | ⟨calm, b, rest, m, hsplit, hcalm, hb⟩
  · -- nothing breaks, so the register is emptied
    obtain ⟨k, t, log, hloop, hempty, -, htrace, hreleased⟩ :=
      releaseSteps_of_calm s.resources s rfl hcalm
    refine ⟨.ok k, t, log, hloop, htrace, ?_, ?_, ?_⟩
    · rw [reach_of_calm hcalm, List.take_length, hreleased.begun_eq]
    · rw [reach_of_calm hcalm, List.drop_length, hempty]
    · exact (List.findSome?_eq_none_iff.2 hcalm).symm
  · -- everything before the first that breaks is released, and nothing behind it
    obtain ⟨k, t, log, hrest, htimeout, htrace, hreleased, hloop⟩ :=
      releaseSteps_append calm (b :: rest) s hsplit hcalm
    have htake : t.take? = some (b, { t with resources := rest }) := by rw [take?, hrest]
    have hbreaks := release_of_breakdown { t with resources := rest } (by rw [htimeout]; exact hb)
    have hend : s.releaseAll =
        (.error m, (Scope.emit { t with resources := rest } (.releasing b.name)).pass b.release.delay) := by
      rw [releaseAll, hsplit, List.length_append, List.length_cons, hloop, releaseSteps, htake]
      simp only [hbreaks]
      rfl
    refine ⟨_, _, log ++ [(t.now, .releasing b.name)], hend, ?_, ?_, ?_, ?_⟩
    · simp only [emit, pass, htrace, List.append_assoc]
    · rw [begun_append, hreleased.begun_eq, hsplit, reach_of_breakdown hcalm hb]
      simp [List.take_append, begun]
    · rw [hsplit, reach_of_breakdown hcalm hb]
      simp [emit, pass, List.drop_append]
    · rw [hsplit, List.findSome?_append, List.findSome?_eq_none_iff.2 hcalm]
      simp [hb]

/-! ## The guard -/

/-- **How far the guard gets.** Let the releases of what is held before the work and of what the work acquires
end in any way, breakdowns included, and let the work end in any way. The guard begins the releases up to the
first that breaks down within its time, the last acquired first and each one once; the rest stays registered.
That breakdown, if there is one, comes out of the guard, and otherwise the work's own end. So every release
begins exactly if none breaks down but the one of what was acquired first of all. -/
theorem every_release_begins_iff {α : Type} (s : Scope) (b : GuardedWork α) :
    let held := b.acquired.reverse ++ s.resources
    let t := (s.guard b.run).2
    ∃ log, t.trace = s.trace ++ b.told s.now ++ (exitNote b.result).map (s.now + b.lasts, ·) ++ log ∧
      begun log = (held.take (reach s.timeout held)).map (·.name) ∧
      t.resources = held.drop (reach s.timeout held) ∧
      (s.guard b.run).1 = (match held.findSome? (·.breakdown? s.timeout) with
        | some m => .error (.broke m)
        | none => b.result) ∧
      (begun log = (s.names ++ b.acquired.map (·.name)).reverse ↔
        ∀ r ∈ held.dropLast, r.breakdown? s.timeout = none) := by
  intro held t
  obtain ⟨noted, hresources, htimeout, -, htrace, hguard⟩ := s.guard_eq b.run (b.run_eq s)
  obtain ⟨answer, u, log, hloop, htrace', hbegun, hleft, hanswer⟩ := noted.releaseAll_reaches
  have hend := hguard answer u hloop
  change noted.resources = held at hresources
  change noted.timeout = s.timeout at htimeout
  rw [hresources, htimeout] at hbegun hleft hanswer
  -- the loop runs on what the scope and the body have registered, in one list
  have ht : t = u := congrArg Prod.snd hend
  refine ⟨log, ?_, hbegun, ?_, ?_, ?_⟩
  · rw [ht, htrace', htrace]
  · rw [ht, hleft]
  · rw [hend, ← hanswer]
    cases answer <;> rfl
  · have hall : (s.names ++ b.acquired.map (·.name)).reverse = held.map (·.name) := by
      rw [names, List.reverse_append, List.reverse_reverse, List.map_append, List.map_reverse]
    rw [hbegun, hall, ← reach_eq_length_iff]
    constructor
    · intro h
      have hlength := congrArg List.length h
      rw [List.length_map, List.length_map, List.length_take] at hlength
      have := reach_le_length s.timeout held
      omega
    · intro h
      rw [h, List.take_length]

/-- A scope that holds a resource whose release breaks down while it is waited for, acquired after another
one. -/
def brittle : Scope :=
  { timeout := 50
    resources := [⟨"redis", { delay := 7, ending := some (.error (.broke "lost")) }⟩, ⟨"tracer", {}⟩] }

/-- Work that acquires something more, whose release fails, and then breaks down itself. -/
def doomed : GuardedWork Nat :=
  .acquires ⟨"postgres", { ending := some (.error (.failed ⟨"reset", []⟩)) }⟩
    (.waits 30 (.ends (.error (.broke "boom"))))

/-- **A release that breaks down strands what was acquired before it**, and takes the place of the breakdown of
the work. -/
theorem breakdown_strands_resources :
    (brittle.names ++ doomed.acquired.map (·.name)).reverse = ["postgres", "redis", "tracer"] ∧
      ∃ t, brittle.guard doomed.run = (.error (.broke "lost"), t) ∧
        begun t.trace = ["postgres", "redis"] ∧ t.names = ["tracer"] :=
  ⟨rfl, _, rfl, rfl, rfl⟩

end Scope

end Phrasebook.Lifecycle
