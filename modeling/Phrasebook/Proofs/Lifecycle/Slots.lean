import Phrasebook.Lifecycle.Supervisor
import Phrasebook.Proofs.Lifecycle.Crew
/-!
# What is done to transports

One lemma for each thing that is done to the transports: what it tells (`Slots.Tells`) and what it does to
their tasks. Building is the only one that puts tasks in, and `constructEach_of_built` says which ones.
-/

set_option autoImplicit false

namespace Phrasebook.Lifecycle

/-- Some of the work in shutting down this way breaks down with a message. -/
def Closing.Breaks (m : String) : Closing → Prop
  | .stopping first last =>
    first.ending = some (.error (.broke m)) ∨ ∃ stopped, (last stopped).ending = some (.error (.broke m))
  | .instead w => w.ending = some (.error (.broke m))

/-- Shutting down this way never breaks down. -/
def Closing.Sound (c : Closing) : Prop := ∀ m, ¬ c.Breaks m

/-- Shutting down this way stops the task and says how that went: the work before it goes well, and the work
after it takes time at most. -/
def Closing.HandsOn (c : Closing) : Prop :=
  ∃ first last, c = .stopping first last ∧ first.ending = some (.ok ()) ∧
    ∀ stopped, (last stopped).ending = some (stopped.mapError .failed)

/-- Shutting down that stops the task is as sound as the work around it. -/
theorem Closing.sound_stopping {first : Work} {last : Except Chain Unit → Work}
    (hfirst : ∀ m, first.ending ≠ some (.error (.broke m)))
    (hlast : ∀ stopped m, (last stopped).ending ≠ some (.error (.broke m))) :
    (Closing.stopping first last).Sound := by
  rintro m (h | ⟨stopped, h⟩)
  · exact hfirst m h
  · exact hlast stopped m h

namespace Slots

/-- From transports to transports some events have been told; the transports are the same and behave in the
same way. -/
structure Tells (s s' : Slots) (events : List Event) : Prop where
  crew : s.crew.Tells s'.crew events
  conduct : s'.conduct = s.conduct

theorem Tells.refl (s : Slots) : s.Tells s [] := ⟨.refl s.crew, rfl⟩

/-- What is told one after the other is told together. -/
theorem Tells.trans {s s' s'' : Slots} {events events' : List Event} (h : s.Tells s' events)
    (h' : s'.Tells s'' events') : s.Tells s'' (events ++ events') :=
  ⟨h.crew.trans h'.crew, h'.conduct.trans h.conduct⟩

/-- What is told by nobody adds nothing. -/
theorem Tells.silent {s s' s'' : Slots} {events : List Event} (h : s.Tells s' events) (h' : s'.Tells s'' []) :
    s.Tells s'' events :=
  ⟨h.crew.silent h'.crew, h'.conduct.trans h.conduct⟩

/-- The same transports are there after something has been told. -/
theorem Tells.enabled {s s' : Slots} {events : List Event} (h : s.Tells s' events) :
    s'.enabled = s.enabled := by
  funext k
  exact Crew.isSome_get?_of_names h.crew.names k.name

/-- A task that is there was there. -/
theorem Tells.get? {s s' : Slots} {events : List Event} (h : s.Tells s' events) {k : Transport} {t' : Task}
    (ht' : s'.crew.get? k.name = some t') : ∃ t, s.crew.get? k.name = some t := by
  apply Option.isSome_iff_exists.1
  rw [← Crew.isSome_get?_of_names h.crew.names, ht']
  rfl

/-- To note something is to tell it. -/
theorem tells_emit (s : Slots) {e : Event} (h : e.part ≠ .task) : s.Tells (s.emit e) [e] :=
  ⟨s.crew.tells_emit h, rfl⟩

/-- What the crew tells the transports have told. -/
theorem tells_crew {s : Slots} {c : Crew} {events : List Event} (h : s.crew.Tells c events) :
    s.Tells { s with crew := c } events := ⟨h, rfl⟩

/-! ## Building -/

/-- What is told of the building of a transport that succeeds. -/
def building (wanted : Transport → Bool) (k : Transport) : List Event :=
  if wanted k then [.constructing k, .constructed k] else [.disabled k]

/-- The transports once one more has been built by some work. -/
def withBuilt (s : Slots) (k : Transport) (w : Work) : Slots :=
  ({ s with crew := ((s.emit (.constructing k)).crew.work w none).2 }.emit (.constructed k)).put k

/-- Building a transport is told when it begins and when it is done. -/
theorem plot_withBuilt (s : Slots) (k : Transport) (w : Work) :
    (s.withBuilt k w).crew.plot = s.crew.plot ++ [.constructing k, .constructed k] := by
  have hbegin := s.crew.tells_emit (e := .constructing k) (by rintro ⟨⟩)
  have hwork := hbegin.silent (Crew.tells_work _ w none)
  have hend := hwork.trans (Crew.tells_emit _ (e := .constructed k) (by rintro ⟨⟩))
  exact hend.plot

/-- A transport that has been built has a fresh task behind the others. -/
theorem tasks_withBuilt {s : Slots} {k : Transport} (w : Work) (hnew : k.name ∉ s.crew.names)
    (hidle : ∀ t ∈ s.crew.tasks, t.body = none) :
    (s.withBuilt k w).crew.tasks = s.crew.tasks ++ [{ name := k.name }] := by
  have htasks := Crew.tasks_work (c := (s.emit (.constructing k)).crew) hidle w none
  have hnames : ((s.emit (.constructing k)).crew.work w none).2.names = s.crew.names :=
    (Crew.tells_work _ w none).names
  unfold withBuilt put emit
  rw [Crew.tasks_put]
  · exact congrArg (· ++ [_]) htasks
  · exact hnames ▸ hnew

/-- Some transports are not there yet, and nothing runs. -/
structure Unbuilt (ks : List Transport) (s : Slots) : Prop where
  nodup : ks.Nodup
  new : ∀ k ∈ ks, k.name ∉ s.crew.names
  idle : ∀ t ∈ s.crew.tasks, t.body = none

/-- Where there is no task every transport is still to be built. -/
theorem unbuilt_of_tasks_nil {s : Slots} {ks : List Transport} (hks : ks.Nodup) (h : s.crew.tasks = []) :
    s.Unbuilt ks := by
  refine ⟨hks, ?_, ?_⟩
  · simp [Crew.names, h]
  · simp [h]

namespace Unbuilt

variable {s : Slots} {k : Transport} {rest : List Transport}

/-- Passing over the first of the transports leaves the others to be built. -/
theorem emit (h : s.Unbuilt (k :: rest)) (e : Event) : (s.emit e).Unbuilt rest :=
  ⟨(List.nodup_cons.1 h.nodup).2, fun j hj => h.new j (List.mem_cons_of_mem _ hj), h.idle⟩

/-- Building the first of them puts its task last. -/
theorem tasks_withBuilt (h : s.Unbuilt (k :: rest)) (w : Work) :
    (s.withBuilt k w).crew.tasks = s.crew.tasks ++ [{ name := k.name }] :=
  Slots.tasks_withBuilt w (h.new k List.mem_cons_self) h.idle

/-- What has been built is none of the others, and it does not run yet. -/
theorem withBuilt (h : s.Unbuilt (k :: rest)) (w : Work) : (s.withBuilt k w).Unbuilt rest := by
  obtain ⟨hk, hrest⟩ := List.nodup_cons.1 h.nodup
  refine ⟨hrest, ?_, ?_⟩
  · intro j hj hmem
    rw [Crew.names, h.tasks_withBuilt, List.map_append, List.mem_append] at hmem
    rcases hmem with hmem | hmem
    · exact h.new j (List.mem_cons_of_mem _ hj) hmem
    · have hname : j = k := Transport.name_inj (List.mem_singleton.1 hmem)
      exact hk (hname ▸ hj)
  · intro t ht
    rw [h.tasks_withBuilt, List.mem_append] at ht
    rcases ht with ht | ht
    · exact h.idle t ht
    · rw [List.mem_singleton.1 ht]

end Unbuilt

/-- A transport that is not wanted is noted as disabled and passed over. -/
theorem constructEach_of_not_wanted {wanted : Transport → Bool} {k : Transport} (h : ¬ wanted k = true)
    (build : Transport → Work) (rest : List Transport) (s : Slots) :
    constructEach wanted build (k :: rest) s = constructEach wanted build rest (s.emit (.disabled k)) := by
  simp only [constructEach, Bool.eq_false_iff.2 h, Bool.not_false, if_true]

/-- A transport that is built well is put in, and the building goes on with the rest. -/
theorem constructEach_of_ok {wanted : Transport → Bool} {build : Transport → Work} {k : Transport}
    (h : wanted k = true) (hbuild : (build k).ending = some (.ok ())) (rest : List Transport) (s : Slots) :
    constructEach wanted build (k :: rest) s =
      constructEach wanted build rest (s.withBuilt k (build k)) := by
  have hok := Crew.work_of_ending (s.emit (.constructing k)).crew hbuild
  simp only [constructEach, withBuilt, h, Bool.not_true, Bool.false_eq_true, if_false, hok]

/-- **Builds that succeed** put a fresh task in for each wanted transport, in order. -/
theorem constructEach_of_built (wanted : Transport → Bool) (build : Transport → Work) (ks : List Transport)
    (hbuild : ∀ k ∈ ks, wanted k = true → (build k).ending = some (.ok ())) {s : Slots} (h : s.Unbuilt ks) :
    ∃ s', constructEach wanted build ks s = (some (.ok ()), s') ∧ s'.conduct = s.conduct ∧
      s'.crew.plot = s.crew.plot ++ ks.flatMap (building wanted) ∧
      s'.crew.tasks = s.crew.tasks ++ (ks.filter wanted).map fun k => { name := k.name } := by
  -- as long as no task has a body, the wait for the next build leaves the tasks as they are
  induction ks generalizing s with
  | nil => exact ⟨s, rfl, rfl, (List.append_nil _).symm, (List.append_nil _).symm⟩
  | cons k rest ih =>
    have hbuild' : ∀ k ∈ rest, wanted k = true → (build k).ending = some (.ok ()) :=
      fun k hk => hbuild k (List.mem_cons_of_mem _ hk)
    by_cases hw : wanted k = true
    · obtain ⟨s', hs', hconduct, hplot, htasks⟩ := ih hbuild' (h.withBuilt (build k))
      refine ⟨s', ?_, hconduct, ?_, ?_⟩
      · rw [constructEach_of_ok hw (hbuild k List.mem_cons_self hw), hs']
      · rw [hplot, plot_withBuilt, List.flatMap_cons, building, if_pos hw, List.append_assoc]
      · rw [htasks, h.tasks_withBuilt, List.filter_cons_of_pos hw, List.map_cons, List.append_assoc]
        rfl
    · obtain ⟨s', hs', hconduct, hplot, htasks⟩ := ih hbuild' (h.emit (.disabled k))
      refine ⟨s', ?_, hconduct, ?_, ?_⟩
      · rw [constructEach_of_not_wanted hw, hs']
      · have hemit : (s.emit (.disabled k)).crew.plot = s.crew.plot ++ [.disabled k] :=
          s.crew.plot_emit (e := .disabled k) (by rintro ⟨⟩)
        rw [hplot, hemit, List.flatMap_cons, building, if_neg hw, List.append_assoc]
      · rw [List.filter_cons_of_neg hw]
        exact htasks

/-! ## Starting and listening -/

/-- A transport that is there is started, and that is told. -/
theorem start_of_enabled {s : Slots} {k : Transport} (h : s.enabled k = true) :
    (s.start k).2 = true ∧ s.Tells (s.start k).1 [.starting k] := by
  unfold start
  rw [if_pos h]
  refine ⟨rfl, ?_⟩
  exact tells_crew ((s.crew.tells_emit (by rintro ⟨⟩)).silent (Crew.tells_spawn _ _ _))

/-- One that is not there is not, and nothing changes. -/
theorem start_of_not_enabled {s : Slots} {k : Transport} (h : ¬ s.enabled k = true) :
    s.start k = (s, false) := by
  unfold start
  rw [if_neg h]

/-- Starting takes no time. -/
theorem now_start (s : Slots) (k : Transport) : (s.start k).1.crew.now = s.crew.now := by
  unfold start
  split
  · exact Crew.now_spawn _ k.name _
  · rfl

/-- Starting a transport runs its body in its task and leaves the other tasks alone. -/
theorem get?_start (s : Slots) (k : Transport) (name : String) :
    (s.start k).1.crew.get? name =
      if name = k.name then (s.crew.get? k.name).map fun t => (t.spawn s.crew.moment (s.conduct k).plan).1
      else s.crew.get? name := by
  by_cases h : s.enabled k = true
  · unfold start
    rw [if_pos h]
    exact Crew.get?_spawn (s.emit (.starting k)).crew k.name (s.conduct k).plan name
  · rw [start_of_not_enabled h]
    have hnone : s.crew.get? k.name = none := Option.not_isSome_iff_eq_none.1 h
    by_cases hn : name = k.name
    · rw [if_pos hn, hn, hnone, Option.map_none]
    · rw [if_neg hn]

/-- Asking a transport for its exit is silent. -/
theorem tells_notify (s : Slots) (k : Transport) : s.Tells (s.notify k).1 [] :=
  tells_crew (s.crew.tells_notify k.name)

/-! ## Shutting down -/

/-- Shutting a transport down tells that it begins, and the rest is told by its body. -/
theorem tells_shutdown (s : Slots) (k : Transport) (deadline : Nat) (limit : Option Nat) :
    s.Tells (s.shutdown k deadline limit).2 [.shuttingDown k] := by
  have hbegin := s.tells_emit (e := .shuttingDown k) (by rintro ⟨⟩)
  unfold shutdown
  dsimp only
  split
  · rename_i w hw
    exact hbegin.silent (tells_crew (Crew.tells_work _ w limit))
  · -- the first work comes first; the task is stopped only if that went well
    rename_i w last hw
    have hwork := Crew.tells_work (s.emit (.shuttingDown k)).crew w limit
    split
    · rename_i crew heq
      rw [heq] at hwork
      exact hbegin.silent (tells_crew (hwork.silent Crew.tells_stopAnd))
    · rename_i r crew _ heq
      rw [heq] at hwork
      exact hbegin.silent (tells_crew hwork)

/-- Only work of its own breaks the shutting down of a transport down. -/
theorem breaks_of_shutdown {s : Slots} {k : Transport} {deadline : Nat} {limit : Option Nat} {m : String}
    (h : (s.shutdown k deadline limit).1 = some (.error (.broke m))) : (s.conduct k).closing.Breaks m := by
  unfold shutdown at h
  dsimp only at h
  split at h
  · rename_i w hw
    rw [show (s.conduct k).closing = .instead w from hw]
    exact Crew.work_ending h
  · rename_i w last hw
    rw [show (s.conduct k).closing = .stopping w last from hw]
    split at h
    · exact Or.inr (Crew.ending_of_stopAnd h)
    · rename_i r crew _ heq
      have hwork : ((s.emit (.shuttingDown k)).crew.work w limit).1 = some (.error (.broke m)) := by
        rw [heq]
        exact h
      exact Or.inl (Crew.work_ending hwork)

/-- A transport that shuts down soundly does not break down. -/
theorem shutdown_ne_broke {s : Slots} {k : Transport} (h : (s.conduct k).closing.Sound) (deadline : Nat)
    (limit : Option Nat) (m : String) : (s.shutdown k deadline limit).1 ≠ some (.error (.broke m)) :=
  fun hbroke => h m (breaks_of_shutdown hbroke)

end Slots

end Phrasebook.Lifecycle
