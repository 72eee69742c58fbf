import Mathlib.Logic.Relation
import Phrasebook.Lifecycle.Sharing
import Phrasebook.Proofs.Lifecycle.Release
/-!
# A call that is alone

Where one hand releases everything and nobody else does anything, a shared scope goes the way of a scope that is
not shared: the call gets to where `Scope.releaseAll` ends, at the same time, with the same things seen on the
way, the same left on the register and the same count (`Scope.releaseAll_alone`).
-/

set_option autoImplicit false

namespace Phrasebook.Lifecycle

/-- Resources as they are held by a shared scope that has never held others. -/
def held : List Resource → List Held
  | [] => []
  | r :: rest => ⟨rest.length, r.name, .ofWork r.release⟩ :: held rest

namespace Shared

/-- A scope with one call that releases everything. -/
def lone (s : Scope) (count : Nat) (d : Drain) : Shared where
  limit := s.timeout
  now := s.now
  register := held s.resources
  count := count
  drains := [d]
  trace := s.trace

/-- From one state to another while nobody but the first call does anything. -/
def Alone : Shared → Shared → Prop :=
  Relation.ReflTransGen fun s t => t = (s.step (.go 0)).2 ∨ ∃ span, t = (s.step (.pass span)).2

/-- A turn of the only call is one step. -/
theorem Alone.go {s t : Shared} (h : (s.step (.go 0)).2 = t) : Alone s t :=
  Relation.ReflTransGen.single (Or.inl h.symm)

/-- Time that passes is one step. -/
theorem Alone.pass {s t : Shared} (span : Nat) (h : (s.step (.pass span)).2 = t) : Alone s t :=
  Relation.ReflTransGen.single (Or.inr ⟨span, h.symm⟩)

/-- Where a call stands after a release that ended in some way. -/
def next (failed : Nat) : Except String Bool → Drain
  | .ok true => ⟨.looking, failed⟩
  | .ok false => ⟨.looking, failed + 1⟩
  | .error m => ⟨.broke m, failed⟩

variable (s : Scope) (count failed number : Nat) (r : Resource)

/-- A call that finds nothing on the register returns. -/
theorem alone_looking_nil (h : s.resources = []) :
    Alone (lone s count ⟨.looking, failed⟩) (lone s count ⟨.returned, failed⟩) := by
  apply Alone.go
  simp [step, move, goOn, lone, seat, h, held, Happening.events]

/-- A call that finds something takes what was registered last. -/
theorem alone_looking_cons {rest : List Resource} (h : s.resources = r :: rest) :
    Alone (lone s count ⟨.looking, failed⟩)
      (lone { s with resources := rest } count ⟨.taken ⟨rest.length, r.name, .ofWork r.release⟩, failed⟩) := by
  apply Alone.go
  simp [step, move, goOn, lone, seat, h, held, Happening.events]

/-- It begins the release and waits as long as the release takes, or as long as it may take. -/
theorem alone_begin (span : Nat) :
    Alone (lone s count ⟨.taken ⟨number, r.name, .ofWork r.release⟩, failed⟩)
      (lone ((s.emit (.releasing r.name)).pass span) count
        ⟨.releasing number r.name (.ofWork r.release) s.now s.now, failed⟩) := by
  refine (Alone.go rfl).trans (Alone.pass span ?_)
  simp [step, move, goOn, lone, seat, Scope.emit, Scope.pass, Happening.events]

/-- It sees that the time of the release is over. -/
theorem alone_goesOn {begun : Nat} {rest : Script} (h : begun + r.release.delay ≤ s.now) :
    Alone (lone s count ⟨.releasing number r.name (.waits r.release.delay rest) begun begun, failed⟩)
      (lone s count ⟨.releasing number r.name rest s.now begun, failed⟩) := by
  apply Alone.go
  simp [step, move, goOn, lone, seat, h]

/-- It gives up a release that is not through, with its time used up. -/
theorem alone_late {left : Script} {since begun : Nat} (htime : begun + s.timeout ≤ s.now)
    (hleft : left = .hangs ∨ ∃ span rest, left = .waits span rest ∧ s.now < since + span) :
    Alone (lone s count ⟨.releasing number r.name left since begun, failed⟩)
      (lone (s.emit (.releaseTimedOut r.name (.ofMillis s.timeout))) count (next failed (.ok false))) := by
  let u := lone s count ⟨.releasing number r.name left since begun, failed⟩
  have hlate : u.move (.go 0) = u.conclude 0 failed number r.name .late := by
    rcases hleft with rfl | ⟨span, rest, rfl, hlt⟩
    · simp [u, move, goOn, lone, await, htime]
    · have hnot : ¬ since + span ≤ s.now := Nat.not_le.2 hlt
      simp [u, move, goOn, lone, await, hnot, htime]
  apply Alone.go
  change (step u _).2 = _
  rw [step, hlate]
  simp [u, lone, conclude, seat, ReleaseEnd.stage, ReleaseEnd.isCounted, Happening.events, next, Scope.emit]

/-- **One release of a lone call** is that of the scope. -/
theorem alone_release :
    Alone (lone s count ⟨.taken ⟨number, r.name, .ofWork r.release⟩, failed⟩)
      (lone (s.release r).2 count (next failed (s.release r).1)) := by
  let a := s.emit (.releasing r.name)
  -- a release ends in time or is waited for until the limit, as in the evaluation at once
  by_cases hle : r.release.delay ≤ s.timeout
  · cases hend : r.release.ending with
    | none =>
      rw [s.release_of_late (Or.inl hend)]
      refine (alone_begin s count failed number r s.timeout).trans ?_
      rw [Script.ofWork, hend]
      refine (alone_goesOn (a.pass s.timeout) count failed number r (Nat.add_le_add_left hle s.now)).trans ?_
      exact alone_late (a.pass s.timeout) count failed number r (Nat.le_refl _) (Or.inl rfl)
    | some e =>
      have hsome : (r.release.endAt? a.now).filter (·.1 ≤ a.now + a.timeout) =
          some (a.now + r.release.delay, e) := Work.inTime_of_le hend hle a.now
      refine (alone_begin s count failed number r r.release.delay).trans ?_
      rw [Script.ofWork, hend]
      refine (alone_goesOn (a.pass r.release.delay) count failed number r (Nat.le_refl _)).trans (Alone.go ?_)
      simp only [Scope.release, a, hsome]
      rcases e with (c | m) | ⟨⟩
      all_goals simp [step, move, goOn, lone, conclude, seat, ReleaseEnd.ofEnding, ReleaseEnd.stage, ReleaseEnd.isCounted,
        Happening.events, next, Scope.emit, Scope.pass]
  · have hlt := Nat.lt_of_not_le hle
    rw [s.release_of_late (Or.inr hlt)]
    refine (alone_begin s count failed number r s.timeout).trans ?_
    refine alone_late (a.pass s.timeout) count failed number r (Nat.le_refl _) (Or.inr ⟨_, _, rfl, ?_⟩)
    exact Nat.add_lt_add_left hlt s.now

end Shared

namespace Scope

/-- Whether a call stands where the releasing of a scope ended, given how many of its releases had not gone well
before. -/
def EndsAt (failed : Nat) : Except String Nat → Drain → Prop
  | .ok k, d => d = ⟨.returned, failed + k⟩
  | .error m, d => d.stage = .broke m

/-- The loop, with as many steps as there are resources. -/
theorem releaseSteps_alone (s : Scope) (count failed n : Nat) (hn : s.resources.length = n) :
    ∃ d, Shared.Alone (Shared.lone s count ⟨.looking, failed⟩) (Shared.lone (releaseSteps n s).2 count d) ∧
      EndsAt failed (releaseSteps n s).1 d := by
  induction n generalizing s failed with
  | zero => exact ⟨_, Shared.alone_looking_nil s count failed (List.length_eq_zero_iff.1 hn), rfl⟩
  | succ n ih =>
    obtain ⟨r, rest, hs⟩ := List.exists_cons_of_length_eq_add_one hn
    have htake : s.take? = some (r, { s with resources := rest }) := by rw [take?, hs]
    have hround := (Shared.alone_looking_cons s count failed r hs).trans
      (Shared.alone_release { s with resources := rest } count failed rest.length r)
    have hleft : (release { s with resources := rest } r).2.resources.length = n := by
      rw [release_resources]
      rw [hs] at hn
      exact Nat.succ.inj hn
    simp only [releaseSteps, htake]
    cases hrelease : release { s with resources := rest } r with
    | mk result t =>
      -- the rest is released from where this release has led, if it did not break down
      rw [hrelease] at hround hleft
      cases result with
      | error m => exact ⟨_, hround, rfl⟩
      | ok well =>
        obtain ⟨d, halone, hd⟩ := ih t (if well then failed else failed + 1) hleft
        have hnext : Shared.next failed (.ok well) = ⟨.looking, if well then failed else failed + 1⟩ := by
          cases well <;> rfl
        rw [hnext] at hround
        refine ⟨d, hround.trans halone, ?_⟩
        dsimp only
        cases hloop : releaseSteps n t with
        | mk result u =>
          rw [hloop] at hd
          cases result with
          | error m => exact hd
          | ok k =>
            refine hd.trans ?_
            cases well
            · exact congrArg (Drain.mk .returned) (Nat.add_right_comm failed 1 k)
            · rfl

/-- **A call that is alone** releases everything as the scope does: when it is looked at whenever something is
due, it gets to the same end with the same count, and by then the same time has passed, the same has been seen
and the same is registered. -/
theorem releaseAll_alone (s : Scope) (count : Nat) :
    ∃ d, Shared.Alone (Shared.lone s count {}) (Shared.lone s.releaseAll.2 count d) ∧ EndsAt 0 s.releaseAll.1 d :=
  releaseSteps_alone s count 0 s.resources.length rfl

end Scope

end Phrasebook.Lifecycle
