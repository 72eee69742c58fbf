import Phrasebook.Lifecycle.Holder
import Phrasebook.Proofs.Lifecycle.Tending
/-!
# What can be done with a task in hand

Whoever holds a task spawns a body in it, asks for its exit, waits for the exit or gives it up, stops the task
and lets time pass. Here is what each of these things comes to: what it answers, and what it does to the task
and to the promises. Letting time pass, and waiting, is nothing to the task but that time passes
(`Task.Passes`); stopping it has two ways to go (`Crew.stop_of_held`).

What the things rest on is said by `Holder.Sound`, which all of them keep: the task is tended, the first promise
stands as the task's receiver does, and nothing can come of any other promise.
-/

set_option autoImplicit false

namespace Phrasebook.Lifecycle

/-- A body with this plan may end so, of itself or having been asked to stop. -/
def Plan.MayEnd (p : Plan) (ending : Except Failure Unit) : Prop :=
  p.serve.bind (·.ending) = some ending ∨ p.leave.ending = some ending

namespace Task

variable {t t' : Task}

/-- Its body, if it has one, is not being cut off and has not been. -/
def Uncut (t : Task) : Prop := ∀ b, t.body = some b → ¬ b.stage.IsCut

/-- A stage in which a body is not cut off leaves it uncut. -/
theorem uncut_setStage (t : Task) {s : Stage} (h : ¬ s.IsCut) : (t.setStage s).Uncut := by
  intro b hb
  obtain ⟨b', -, rfl⟩ := Option.map_eq_some_iff.1 hb
  exact h

/-- A body is never cut off of itself. -/
theorem uncut_of_next (h : t.Uncut) {c : Change} (hc : t.next? = some c) : (t.setStage c.stage).Uncut := by
  have hending (heard : Bool) (r : Except Failure Unit) : ¬ (Stage.over (.ofEnding heard r)).IsCut := by
    rcases r with (c | m) | u <;> exact id
  obtain ⟨b, hb, hnext⟩ := next?_eq_some hc
  refine t.uncut_setStage ?_
  cases Body.does_of_next hnext with
  | quits _ _ _ _ => exact hending _ _
  | sees _ _ => exact id
  | leaves _ _ _ _ => exact hending _ _
  | isCut _ hstage =>
    -- it would have to be cut off already
    have hcut := h b hb
    rw [hstage] at hcut
    exact absurd trivial hcut

/-- Nor is it cut off by anything that it does of itself. -/
theorem uncut_advanceSteps (h : t.Uncut) (limit n : Nat) : (advanceSteps limit n t).1.Uncut := by
  induction n generalizing t with
  | zero => exact h
  | succ n ih =>
    unfold advanceSteps
    split
    · rename_i c hc
      split
      · exact ih (uncut_of_next h hc)
      · exact h
    · exact h

/-- Nor by being asked to stop. -/
theorem uncut_ask (h : t.Uncut) (m : Moment) : (t.ask m).Uncut := by
  unfold ask
  split
  · split
    · exact t.uncut_setStage id
    · exact h
  · exact h

/-- A body that was not cut off has not that end. -/
theorem Uncut.fate_ne_aborted (h : t.Uncut) : t.fate? ≠ some .aborted := by
  intro hf
  obtain ⟨b, hb, -⟩ := Option.bind_eq_some_iff.1 hf
  have hcut := h b hb
  rw [fate?_of_body hb hf] at hcut
  exact hcut trivial

/-- A body that is being cut off can no longer fail. -/
theorem cannotFail_of_not_uncut (h : ¬ t.Uncut) : t.CannotFail := by
  intro b hb
  refine Classical.byContradiction fun hnot => h fun b' hb' => ?_
  obtain rfl := Option.some.inj (hb.symm.trans hb')
  exact hnot

/-- A body that is being cut off or has been comes to no other end. -/
theorem CannotFail.fate_eq_aborted (h : t.CannotFail) {f : Fate} (hf : t.fate? = some f) : f = .aborted := by
  obtain ⟨b, hb, -⟩ := Option.bind_eq_some_iff.1 hf
  have hcut := h b hb
  rw [fate?_of_body hb hf] at hcut
  cases f with
  | aborted => rfl
  | ok => cases hcut
  | failed c heard => cases hcut
  | broke m => cases hcut

/-- There is nothing to ask of a body that has come to its end. -/
theorem ask_of_ended (h : ∀ b, t.body = some b → b.stage.Ended) (m : Moment) : t.ask m = t := by
  unfold ask
  split
  · rename_i b hb
    split
    · rename_i hstage
      have hended := h b hb
      rw [hstage] at hended
      cases hended
    · rfl
  · rfl

/-- Its body, if it has come to an end, has come to one that it was to come to, or was cut off. -/
def Planned (t : Task) : Prop :=
  ∀ b f, t.body = some b → b.stage = .over f →
    f = .aborted ∨ ∃ ending heard, b.plan.MayEnd ending ∧ f = .ofEnding heard ending

/-- The end that a body comes to of itself is one that its plan has. -/
theorem planned_of_next {c : Change} (hc : t.next? = some c) : (t.setStage c.stage).Planned := by
  obtain ⟨b, hb, hnext⟩ := next?_eq_some hc
  intro b' f hb' hover
  rw [setStage, hb, Option.map_some] at hb'
  obtain rfl := Option.some.inj hb'
  change c.stage = .over f at hover
  cases Body.does_of_next hnext with
  | quits _ q _ hquits =>
    obtain ⟨w, hw, hend⟩ := Option.bind_eq_some_iff.1 (Option.filter_eq_some_iff.1 hquits).1
    obtain ⟨ending, hending, rfl⟩ := Option.map_eq_some_iff.1 hend
    have hserve : b.plan.serve.bind (·.ending) = some ending := Option.bind_eq_some_iff.2 ⟨w, hw, hending⟩
    exact Or.inr ⟨ending, _, Or.inl hserve, (Stage.over.inj hover).symm⟩
  | sees _ _ => cases hover
  | leaves _ q _ hleave =>
    obtain ⟨ending, hending, rfl⟩ := Option.map_eq_some_iff.1 hleave
    exact Or.inr ⟨ending, _, Or.inr hending, (Stage.over.inj hover).symm⟩
  | isCut _ _ => exact Or.inl (Stage.over.inj hover).symm

/-- So whatever a body has done of itself, its end is as planned. -/
theorem planned_advanceSteps (h : t.Planned) (limit n : Nat) : (advanceSteps limit n t).1.Planned := by
  induction n generalizing t with
  | zero => exact h
  | succ n ih =>
    unfold advanceSteps
    split
    · rename_i c hc
      split
      · exact ih (planned_of_next hc)
      · exact h
    · exact h

/-- A body in any other stage has come to no end. -/
theorem planned_setStage (t : Task) {s : Stage} (hs : ∀ f, s ≠ .over f) : (t.setStage s).Planned := by
  intro b f hb hover
  obtain ⟨b', -, rfl⟩ := Option.map_eq_some_iff.1 hb
  exact absurd hover (hs f)

/-- Being asked to stop brings no end with it. -/
theorem planned_ask (h : t.Planned) (m : Moment) : (t.ask m).Planned := by
  unfold ask
  split
  · split
    · exact t.planned_setStage fun f => nofun
    · exact h
  · exact h

/-- Nothing is done to the task but that time passes, or that it is asked to stop. -/
structure Passes (t t' : Task) : Prop where
  goesOn : t.GoesOn t'
  same : t.SameBody t'
  uncut : t.Uncut → t'.Uncut
  planned : t.Planned → t'.Planned

theorem Passes.refl (t : Task) : t.Passes t := ⟨.refl t, .refl t, id, id⟩

/-- Time that passes in two parts passes. -/
theorem Passes.trans {t'' : Task} (h : t.Passes t') (h' : t'.Passes t'') : t.Passes t'' :=
  ⟨h.goesOn.trans h'.goesOn, h.same.trans h'.same, fun hu => h'.uncut (h.uncut hu),
    fun hp => h'.planned (h.planned hp)⟩

/-- To let the bodies do what they do before a time is to let time pass. -/
theorem passes_advance (t : Task) (limit : Nat) : t.Passes (t.advance limit).1 :=
  ⟨t.goesOn_advance limit, t.sameBody_advance limit, fun h => uncut_advanceSteps h limit 2,
    fun h => planned_advanceSteps h limit 2⟩

/-- So is asking the body to stop, as far as its end goes. -/
theorem passes_ask (t : Task) (m : Moment) : t.Passes (t.ask m) :=
  ⟨t.goesOn_ask m, t.sameBody_ask m, fun h => uncut_ask h m, fun h => planned_ask h m⟩

/-- Time passing cuts no body off, and takes no cutting off back. -/
theorem Passes.uncut_iff (h : t.Passes t') : t'.Uncut ↔ t.Uncut := by
  refine ⟨fun hu => Classical.byContradiction fun hcut => ?_, h.uncut⟩
  refine hcut fun b hb _ => ?_
  obtain ⟨b', hb', -⟩ := h.same b hb
  exact hu b' hb' (h.goesOn.cannotFail (cannotFail_of_not_uncut hcut) b' hb')

/-- What its body does, if it has one. -/
def plan? (t : Task) : Option Plan := t.body.map (·.plan)

/-- A task with the same body has the same plan. -/
theorem plan?_of_sameBody (h : t.SameBody t') (hstarted : t'.isStarted = t.isStarted) :
    t'.plan? = t.plan? := by
  unfold plan?
  cases hb : t.body with
  | some b =>
    obtain ⟨b', hb', hplan, -⟩ := h b hb
    rw [hb', Option.map_some, Option.map_some, hplan]
  | none =>
    rw [isStarted, isStarted, hb] at hstarted
    rw [Option.not_isSome_iff_eq_none.1 (Bool.eq_false_iff.1 hstarted)]

end Task

namespace Crew

variable {c : Crew} {name : String} {t : Task}

/-- Listening keeps a crew tended: it is a wait. -/
theorem leads_listen (c : Crew) (name : String) (live : Bool) (limit : Nat) :
    c.Leads (c.listen name live limit).2 :=
  c.leads_await _ none (some limit) 0

/-- The hand tells nothing of listening. -/
theorem tells_listen (c : Crew) (name : String) (live : Bool) (limit : Nat) :
    c.Tells (c.listen name live limit).2 [] :=
  c.tells_await _ none (some limit) 0

/-- **Listening for an exit** brings the end that the body has come to when it is over. -/
theorem listen_of_live (ht : c.get? name = some t) (limit : Nat) :
    ∃ t', (c.listen name true limit).2.get? name = some t' ∧ t.Passes t' ∧
      (c.listen name true limit).1 = t'.exit? := by
  have hlisten : c.listen name true limit =
      ((c.await [name] none (some limit)).1.bind fun _ =>
          ((c.await [name] none (some limit)).2.get? name).bind (·.exit?),
        (c.await [name] none (some limit)).2) := rfl
  have hexit {d : Crew} {w : Wake} {t' : Task} (heq : c.await [name] none (some limit) = (some w, d))
      (ht' : d.get? name = some t') : (c.listen name true limit).2.get? name = some t' ∧
        (c.listen name true limit).1 = t'.exit? := by
    rw [hlisten, heq]
    exact ⟨ht', by rw [Option.bind_some, ht', Option.bind_some]⟩
  rcases c.await_cases [name] none (some limit) 0 with
    ⟨w, -, -, heq⟩ | ⟨hready, ⟨w, hw, time, htime, heq⟩ | ⟨htime, heq⟩⟩
  · -- it is over
    obtain ⟨hget, hout⟩ := hexit heq ht
    exact ⟨t, hget, .refl t, hout⟩
  · -- it ends before the limit
    rcases mem_wakes.1 hw with rfl | ⟨name', -, rfl⟩
    · cases htime
    · have hget := c.get?_advance (time + 1) name
      rw [ht, Option.map_some] at hget
      obtain ⟨hget', hout⟩ := hexit (d := c.settle time) heq hget
      exact ⟨_, hget', t.passes_advance _, hout⟩
  · -- it is not over by the limit
    have hmem : Wake.task name ∈ wakes [name] 0 := mem_wakes.2 (Or.inr ⟨name, List.mem_singleton_self _, rfl⟩)
    have hopen : t.fate? = none := by
      have hnot := hready _ hmem
      unfold isReady at hnot
      dsimp only at hnot
      rw [ht, Option.bind_some] at hnot
      exact Option.not_isSome_iff_eq_none.1 (Bool.eq_false_iff.1 hnot)
    have hlate : (t.advance limit).1.fate? = none := by
      refine Classical.byContradiction fun hover => ?_
      obtain ⟨time, hend, hlt⟩ := Task.endTime_of_fate hopen hover
      have hnone := htime _ hmem
      unfold wakeTime? at hnone
      dsimp only at hnone
      rw [ht, Option.bind_some, hend] at hnone
      exact absurd (decide_eq_true hlt) (Option.filter_eq_none_iff.1 hnone time rfl)
    have hget := c.get?_advance limit name
    rw [ht, Option.map_some] at hget
    rw [hlisten, heq]
    refine ⟨_, hget, t.passes_advance limit, ?_⟩
    rw [Task.exit?, hlate]
    rfl

/-- **Stopping a task whose handle is there.** Its body comes to its end before the deadline, or has come to it
already, and that is told; or it does not, and is cut off at the deadline. -/
theorem stop_of_held (ht : c.get? name = some t) (hheld : t.held = true) (deadline : Nat) :
    let out := c.stop name deadline none
    (∃ t' f, t.Passes t' ∧ t'.fate? = some f ∧ out.1 = some (t'.verdict f) ∧
        out.2.get? name = some { t' with held := false } ∧
        (t.fate? = some f ∧ out.2.now = c.now ∨ out.2.now < c.now + deadline)) ∨
      ∃ t' m, t.Passes t' ∧ t'.fate? = none ∧ out.1 = some (.error (.overdue name (.ofMillis deadline))) ∧
        out.2.get? name = some (t'.abort m) ∧ out.2.now = c.now + deadline := by
  intro out
  have hasked := get?_asked ht
  have hpass := t.passes_ask c.moment
  -- the four ways a stop can go, of which a held task rules out the first
  cases stops_of_get? ht deadline with
  | idle hidle _ =>
    rw [hpass.goesOn.held, hheld] at hidle
    cases hidle
  | ended f _ hf hstop =>
    have hout : out = _ := hstop none
    rw [hout]
    exact Or.inl ⟨_, f, hpass, hf, rfl, get?_taken hasked, Or.inl ⟨(t.fate?_ask _).symm.trans hf, rfl⟩⟩
  | ending e f _ _ _ hlt hf hget hstop =>
    have hout : out = _ := hstop none
    rw [hout, if_pos (show before e none = true from rfl)]
    exact Or.inl ⟨_, f, hpass.trans (Task.passes_advance _ _), hf, rfl, get?_taken hget, Or.inr hlt⟩
  | late _ _ _ hrest hstop =>
    have hout : out = _ := hstop none
    rw [hout, if_pos (show within (c.now + deadline) none = true from rfl)]
    exact Or.inr ⟨_, _, hpass.trans (Task.passes_advance _ _), hrest, rfl, get?_cutOff hasked _, rfl⟩

end Crew

/-- How the first promise stands, given who would hear of a failure. -/
def Promise.ofReceiver? : Receiver → Option Promise
  | .kept => none
  | .lent => some .live
  | .gone => some .spent

namespace Holder

/-- The task in hand is the only one, and is tended; the exit can come of the first promise only, as long as
the task's receiver is lent; and as long as its handle is there the body has not been cut off. -/
structure Sound (h : Holder) : Prop where
  names : h.crew.names = [h.name]
  tended : h.crew.Tended
  first : h.promises[0]? = Promise.ofReceiver? h.task.receiver
  others : ∀ i, i ≠ 0 → h.promises[i]? ≠ some .live
  uncut : h.task.held = true → h.task.Uncut

variable {h h' : Holder} {t : Task}

/-- The task in hand is the one that is found under its name. -/
theorem task_of_get? (ht : h.crew.get? h.name = some t) : h.task = t := by
  unfold task
  rw [ht]
  rfl

/-- As long as all is sound, the task in hand is found. -/
theorem Sound.get? (hs : h.Sound) : h.crew.get? h.name = some h.task := by
  -- `task` has a default, which is not what is found here
  have hsome : (h.crew.get? h.name).isSome = true := by
    rw [Crew.get?_isSome, hs.names]
    exact List.mem_singleton_self _
  obtain ⟨t, ht⟩ := Option.isSome_iff_exists.1 hsome
  rw [ht, task_of_get? ht]

/-- There is no other task. -/
theorem Sound.eq_task (hs : h.Sound) (ht : t ∈ h.crew.tasks) : t = h.task := by
  have hname : t.name = h.name := by
    have hmem : t.name ∈ h.crew.names := List.mem_map_of_mem ht
    rw [hs.names] at hmem
    exact List.mem_singleton.1 hmem
  have hget := Crew.get?_of_mem hs.tended.nodup ht
  rw [hname, hs.get?] at hget
  exact (Option.some.inj hget).symm

/-- At first the task in hand is a fresh one. -/
theorem task_ofName (name : String) : (ofName name).task = { name } := by
  have hfind : (Crew.put {} name).get? name = some { name } := List.find?_cons_of_pos (beq_self_eq_true name)
  exact task_of_get? (h := ofName name) hfind

/-- At first all is sound: there is nothing to hear and nobody to hear it. -/
theorem sound_ofName (name : String) : (ofName name).Sound := by
  have hempty : Crew.Tended {} := ⟨List.nodup_nil, fun _ ht => nomatch ht⟩
  have htask := task_ofName name
  refine ⟨rfl, hempty.put name, ?_, ?_, ?_⟩
  · rw [htask]
    rfl
  · intro i _ hi
    cases hi
  · rw [htask]
    rintro ⟨⟩

/-- The exit can come of the first promise only, and only while the receiver is lent. -/
theorem Sound.live_iff (hs : h.Sound) (i : Nat) :
    h.promises[i]? = some .live ↔ i = 0 ∧ h.task.receiver = .lent := by
  by_cases hi : i = 0
  · subst hi
    rw [hs.first]
    cases h.task.receiver with
    | kept => exact ⟨nofun, fun hr => nomatch hr.2⟩
    | lent => exact ⟨fun _ => ⟨rfl, rfl⟩, fun _ => rfl⟩
    | gone => exact ⟨nofun, fun hr => nomatch hr.2⟩
  · exact ⟨fun hlive => absurd hlive (hs.others i hi), fun hr => absurd hr.1 hi⟩

/-- What something that is done comes to: the task is another one now, and all is still sound. -/
structure Comes (h h' : Holder) (t : Task) : Prop where
  name : h'.name = h.name
  task : h'.task = t
  sound : h'.Sound

/-- Something is done to the task through its crew, and the promises change. -/
theorem Sound.comes (hs : h.Sound) {crew : Crew} {promises : List Promise} (hleads : h.crew.Leads crew)
    (htells : h.crew.Tells crew []) (ht : crew.get? h.name = some t)
    (hfirst : promises[0]? = Promise.ofReceiver? t.receiver) (hothers : ∀ i, i ≠ 0 → promises[i]? ≠ some .live)
    (huncut : t.held = true → t.Uncut) : h.Comes { h with crew, promises } t := by
  have htask : Holder.task { h with crew, promises } = t := task_of_get? (h := { h with crew, promises }) ht
  refine ⟨rfl, htask, htells.names.trans hs.names, hleads.tended hs.tended, ?_, hothers, ?_⟩
  · rw [htask]
    exact hfirst
  · rw [htask]
    exact huncut

/-- Nothing is done to the task but that time passes. -/
theorem Sound.comes_of_passes (hs : h.Sound) {crew : Crew} (hleads : h.crew.Leads crew)
    (htells : h.crew.Tells crew []) (ht : crew.get? h.name = some t) (hpass : h.task.Passes t) :
    h.Comes { h with crew } t := by
  refine hs.comes hleads htells ht ?_ hs.others ?_
  · rw [hpass.goesOn.receiver]
    exact hs.first
  · intro hheld
    exact hpass.uncut (hs.uncut (hpass.goesOn.held.symm.trans hheld))

/-! ## One thing after the other -/

/-- **Running a body** does so only where none has run. -/
theorem step_spawn (hs : h.Sound) (p : Plan) :
    (h.step (.spawn p)).1 = .spawned (!h.task.isStarted) ∧
      h.Comes (h.step (.spawn p)).2 (h.task.spawn h.crew.moment p).1 := by
  have hget := h.crew.get?_spawn h.name p h.name
  rw [if_pos rfl, hs.get?, Option.map_some] at hget
  refine ⟨?_, hs.comes (h.crew.leads_spawn _ p) (h.crew.tells_spawn _ p) hget ?_ hs.others ?_⟩
  · show Answer.spawned (h.crew.spawn h.name p).2 = _
    unfold Crew.spawn
    rw [hs.get?]
    dsimp only
    unfold Task.spawn
    cases h.task.isStarted <;> rfl
  · rw [Task.spawn_receiver]
    exact hs.first
  · unfold Task.spawn
    split
    · exact hs.uncut
    · rintro - b ⟨⟩
      exact id

/-- Where the exit has been asked for before, the next promise leaves the others as they are. -/
theorem getElem?_append_silent {promises : List Promise} {first : Promise} (hfirst : promises[0]? = some first)
    (hothers : ∀ i, i ≠ 0 → promises[i]? ≠ some .live) :
    (promises ++ [Promise.silent])[0]? = some first ∧
      ∀ i, i ≠ 0 → (promises ++ [Promise.silent])[i]? ≠ some .live := by
  obtain ⟨hlt, -⟩ := List.getElem?_eq_some_iff.1 hfirst
  refine ⟨by rw [List.getElem?_append_left hlt, hfirst], ?_⟩
  intro i hi
  by_cases hold : i < promises.length
  · rw [List.getElem?_append_left hold]
    exact hothers i hi
  · rw [List.getElem?_append_right (Nat.not_lt.1 hold), List.getElem?_singleton]
    split
    · rintro ⟨⟩
    · rintro ⟨⟩

/-- **Asking for the exit** gives a promise of which it can come the first time only. -/
theorem step_notify (hs : h.Sound) :
    (h.step .notify).1 = .done ∧ h.Comes (h.step .notify).2 h.task.notify.1 := by
  have hlive : (h.crew.notify h.name).1 = h.task.notify.2 := by
    unfold Crew.notify
    rw [hs.get?]
  have hget := h.crew.get?_notify h.name h.name
  rw [if_pos rfl, hs.get?, Option.map_some] at hget
  have hstep : h.step .notify = (.done, { h with
      crew := (h.crew.notify h.name).2
      promises := h.promises ++ [if h.task.notify.2 then .live else .silent] }) := by
    rw [← hlive]
    rfl
  have hpromises : (h.promises ++ [if h.task.notify.2 then .live else .silent])[0]? =
        Promise.ofReceiver? h.task.notify.1.receiver ∧
      ∀ i, i ≠ 0 → (h.promises ++ [if h.task.notify.2 then Promise.live else .silent])[i]? ≠ some .live := by
    have hfirst := hs.first
    unfold Task.notify
    cases hr : h.task.receiver with
    | kept =>
      -- nothing has been promised yet
      rw [hr] at hfirst
      rw [List.eq_nil_of_length_eq_zero (Nat.le_zero.1 (List.getElem?_eq_none_iff.1 hfirst))]
      refine ⟨rfl, fun i hi => ?_⟩
      rw [List.nil_append, List.getElem?_singleton, if_neg hi]
      rintro ⟨⟩
    | lent =>
      rw [hr] at hfirst
      dsimp only
      rw [hr]
      exact getElem?_append_silent hfirst hs.others
    | gone =>
      rw [hr] at hfirst
      dsimp only
      rw [hr]
      exact getElem?_append_silent hfirst hs.others
  rw [hstep]
  refine ⟨rfl, hs.comes (h.crew.leads_notify _) (h.crew.tells_notify _) hget hpromises.1 hpromises.2 ?_⟩
  intro hheld b hb
  rw [Task.notify_body] at hb
  refine hs.uncut ?_ b hb
  rw [← hheld]
  unfold Task.notify
  split <;> rfl

/-- **Being done with a promise** takes the receiver away if the exit could have come of it. -/
theorem comes_spend (hs : h.Sound) (i : Nat) :
    h.Comes (h.spend i) (if i = 0 ∧ h.task.receiver = .lent then h.task.unhear else h.task) := by
  by_cases hlive : h.promises[i]? = some .live
  · -- it is the first, and the receiver goes with it
    obtain ⟨rfl, hlent⟩ := (hs.live_iff i).1 hlive
    have hget := @Crew.get?_modify h.crew h.name Task.unhear (fun _ hn => hn) h.name
    rw [if_pos rfl, hs.get?, Option.map_some] at hget
    obtain ⟨hlt, -⟩ := List.getElem?_eq_some_iff.1 hlive
    rw [if_pos ⟨rfl, hlent⟩]
    unfold spend
    rw [if_pos hlive]
    refine hs.comes (h.crew.leads_unhear _) (h.crew.tells_unhear _) hget ?_ ?_ hs.uncut
    · rw [List.getElem?_set_self hlt]
      rfl
    · intro i hi
      rw [List.getElem?_set_ne (Ne.symm hi)]
      exact hs.others i hi
  · -- nothing could come of it, and the task is left as it is
    have hnot : ¬ (i = 0 ∧ h.task.receiver = .lent) := mt (hs.live_iff i).2 hlive
    rw [if_neg hnot]
    unfold spend
    rw [if_neg hlive]
    refine hs.comes (.refl _) (.refl _) hs.get? ?_ ?_ hs.uncut
    · have hfirst := hs.first
      by_cases hi : i = 0
      · subst hi
        cases hr : h.task.receiver with
        | lent => exact absurd ⟨rfl, hr⟩ hnot
        | kept =>
          -- there is no first promise to set
          rw [hr] at hfirst
          have hnone := List.getElem?_eq_none_iff.1 hfirst
          exact List.getElem?_eq_none_iff.2 (by rw [List.length_set]; exact hnone)
        | gone =>
          rw [hr] at hfirst
          obtain ⟨hlt, -⟩ := List.getElem?_eq_some_iff.1 hfirst
          rw [List.getElem?_set_self hlt]
          rfl
      · rw [List.getElem?_set_ne hi]
        exact hfirst
    · intro j hj
      rw [List.getElem?_set]
      split
      · split
        · rintro ⟨⟩
        · rintro ⟨⟩
      · exact hs.others j hj

/-- **Letting time pass.** -/
theorem comes_sleep (hs : h.Sound) (span : Nat) : ∃ t, h.task.Passes t ∧
    h.Comes { h with crew := h.crew.sleepUntil (h.crew.now + span) } t := by
  have hget := h.crew.get?_advance (h.crew.now + span) h.name
  rw [hs.get?, Option.map_some] at hget
  have hpass := h.task.passes_advance (h.crew.now + span)
  exact ⟨_, hpass, hs.comes_of_passes (h.crew.leads_sleepUntil _) (h.crew.tells_sleepUntil _) hget hpass⟩

/-- **Waiting for the first promise** while its exit can come: it comes when the body is over, and then the
promise is spent; and if it does not come the body goes on. -/
theorem step_await_first (hs : h.Sound) (hlent : h.task.receiver = .lent) (span : Nat) :
    ∃ t, h.task.Passes t ∧ (h.step (.await 0 span)).1 = .heard t.exit? ∧
      h.Comes (h.step (.await 0 span)).2 (if t.exit?.isSome then t.unhear else t) := by
  have hlive := (hs.live_iff 0).2 ⟨rfl, hlent⟩
  obtain ⟨t, hget, hpass, hexit⟩ := Crew.listen_of_live hs.get? (h.crew.now + span)
  let crew := (h.crew.listen h.name true (h.crew.now + span)).2
  have hcomes : h.Comes { h with crew } t :=
    hs.comes_of_passes (h.crew.leads_listen _ _ _) (h.crew.tells_listen _ _ _) hget hpass
  have hstep : h.step (.await 0 span) =
      (.heard t.exit?, if t.exit?.isSome then spend { h with crew } 0 else { h with crew }) := by
    show h.await 0 span = _
    unfold await
    rw [hlive]
    dsimp only
    rw [show (Promise.live == Promise.live) = true from rfl, hexit]
  refine ⟨t, hpass, by rw [hstep], ?_⟩
  rw [hstep]
  cases hover : t.exit? with
  | none => exact hcomes
  | some x =>
    -- the receiver is still lent when the exit comes
    have hspend := comes_spend hcomes.sound 0
    have hstill : (Holder.task { h with crew }).receiver = .lent := by
      rw [hcomes.task, hpass.goesOn.receiver, hlent]
    rw [if_pos ⟨rfl, hstill⟩, hcomes.task] at hspend
    exact ⟨hspend.name, hspend.task, hspend.sound⟩

/-- **Waiting for anything else** brings nothing. -/
theorem step_await_other (hs : h.Sound) {i : Nat} (hother : ¬ (i = 0 ∧ h.task.receiver = .lent)) (span : Nat) :
    ((h.step (.await i span)).1 = .done ∨ (h.step (.await i span)).1 = .heard none) ∧
      ∃ t, h.task.Passes t ∧ h.Comes (h.step (.await i span)).2 t := by
  have hsame : h.Comes h h.task := ⟨rfl, rfl, hs⟩
  show ((h.await i span).1 = .done ∨ (h.await i span).1 = .heard none) ∧
    ∃ t, h.task.Passes t ∧ h.Comes (h.await i span).2 t
  unfold await
  cases hpromise : h.promises[i]? with
  | none => exact ⟨Or.inl rfl, h.task, .refl _, hsame⟩
  | some p =>
    cases p with
    | spent => exact ⟨Or.inl rfl, h.task, .refl _, hsame⟩
    | silent => exact ⟨Or.inr rfl, comes_sleep hs span⟩
    | live => exact absurd ((hs.live_iff i).1 hpromise) hother

/-- **Stopping the task**, as long as its handle is there: the end of its body is taken, or the body is cut
off. -/
theorem step_stop (hs : h.Sound) (hheld : h.task.held = true) (deadline : Nat) :
    let out := h.step (.stop deadline)
    (∃ t f, h.task.Passes t ∧ t.fate? = some f ∧ out.1 = .stopped (t.verdict f) ∧
        h.Comes out.2 { t with held := false } ∧
        (h.task.fate? = some f ∧ out.2.crew.now = h.crew.now ∨ out.2.crew.now < h.crew.now + deadline)) ∨
      ∃ t m, h.task.Passes t ∧ t.fate? = none ∧
        out.1 = .stopped (.error (.overdue h.name (.ofMillis deadline))) ∧
        h.Comes out.2 (t.abort m) ∧ out.2.crew.now = h.crew.now + deadline := by
  intro out
  let stopped := h.crew.stop h.name deadline none
  have hout {v : Except StopFailure Unit} (hv : stopped.1 = some v) :
      out = (.stopped v, { h with crew := stopped.2 }) := by
    have heq : h.crew.stop h.name deadline none = (some v, stopped.2) := Prod.ext hv rfl
    show h.step (.stop deadline) = _
    unfold step
    dsimp only
    rw [heq]
  have hcomes {t t' : Task} (hpass : h.task.Passes t) (hget : stopped.2.get? h.name = some t')
      (hreceiver : t'.receiver = t.receiver) (hlost : t'.held = false) :
      h.Comes { h with crew := stopped.2 } t' := by
    refine hs.comes (h.crew.leads_stop _ _ _) (h.crew.tells_stop _ _ _) hget ?_ hs.others ?_
    · rw [hreceiver, hpass.goesOn.receiver]
      exact hs.first
    · rw [hlost]
      rintro ⟨⟩
  -- the body came to its end in time, or was cut off at the deadline
  rcases Crew.stop_of_held hs.get? hheld deadline with
    ⟨t, f, hpass, hfate, hv, hget, hnow⟩ | ⟨t, m, hpass, hfate, hv, hget, hnow⟩
  · rw [hout hv]
    exact Or.inl ⟨t, f, hpass, hfate, rfl, hcomes hpass hget rfl rfl, hnow⟩
  · rw [hout hv]
    have habort : (t.abort m).receiver = t.receiver ∧ (t.abort m).held = false := by
      unfold Task.abort
      split <;> exact ⟨rfl, rfl⟩
    exact Or.inr ⟨t, m, hpass, hfate, rfl, hcomes hpass hget habort.1 habort.2, hnow⟩

/-- A body whose handle is not there has ended or is being cut off. -/
theorem Sound.ended (hs : h.Sound) (hheld : h.task.held = false) :
    ∀ b, h.task.body = some b → b.stage.Ended := by
  intro b hb
  refine ((hs.tended.get? hs.get?).kept b hb).resolve_left ?_
  rw [hheld]
  exact Bool.false_ne_true

/-- **Stopping the task otherwise** does nothing. -/
theorem step_stop_idle (hs : h.Sound) (hheld : h.task.held = false) (deadline : Nat) :
    h.step (.stop deadline) = (.stopped (.ok ()), { h with crew := h.crew.tick }) := by
  have hask : h.task.ask h.crew.moment = h.task := Task.ask_of_ended (hs.ended hheld) _
  -- there is no other task, and there is nothing to ask of this one
  have htasks : ∀ t ∈ h.crew.tasks,
      (if t.name == h.name then t.ask h.crew.moment else t) = t := by
    intro t ht
    rw [hs.eq_task ht, hask, ite_self]
  have hasked : h.crew.asked h.name = h.crew.tick := by
    unfold Crew.asked Crew.modify
    rw [List.map_congr_left htasks, List.map_id']
  have hget : (h.crew.asked h.name).get? h.name = some h.task := by
    rw [hasked]
    exact hs.get?
  have hstop : h.crew.stop h.name deadline none = (some (.ok ()), h.crew.asked h.name) :=
    Crew.stop_of_idle hget hheld
  unfold step
  dsimp only
  rw [hstop, hasked]

/-! ## Anything -/

/-- **What can be done with a task**, what comes of it, and what the task is then. -/
inductive Does (t : Task) : Act → Answer → Task → Prop where
  | began (p : Plan) (m : Moment) (h : t.body = none) :
      Does t (.spawn p) (.spawned true) { t with body := some { plan := p, spawned := m }, held := true }
  | hadBegun (p : Plan) (h : t.isStarted = true) : Does t (.spawn p) (.spawned false) t
  | lent (h : t.receiver = .kept) : Does t .notify .done { t with receiver := .lent }
  | hadLent (h : t.receiver ≠ .kept) : Does t .notify .done t
  | gaveUp (h : t.receiver = .lent) : Does t (.drop 0) .done t.unhear
  | dropped (i : Nat) (h : ¬ (i = 0 ∧ t.receiver = .lent)) : Does t (.drop i) .done t
  | heard (span : Nat) (h : t.receiver = .lent) {x : Exit} (hx : t.exit? = some x) :
      Does t (.await 0 span) (.heard (some x)) t.unhear
  | waited (span : Nat) (h : t.receiver = .lent) (hx : t.exit? = none) : Does t (.await 0 span) (.heard none) t
  | missed (i span : Nat) (h : ¬ (i = 0 ∧ t.receiver = .lent)) {r : Answer} (hr : r = .done ∨ r = .heard none) :
      Does t (.await i span) r t
  | joined (deadline : Nat) (h : t.held = true) {f : Fate} (hf : t.fate? = some f) :
      Does t (.stop deadline) (.stopped (t.verdict f)) { t with held := false }
  | cutOff (deadline : Nat) (m : Moment) (h : t.held = true) (hf : t.fate? = none) :
      Does t (.stop deadline) (.stopped (.error (.overdue t.name (.ofMillis deadline))))
        { t.setStage (.dropped m) with held := false }
  | idle (deadline : Nat) (h : t.held = false) : Does t (.stop deadline) (.stopped (.ok ())) t
  | slept (span : Nat) : Does t (.sleep span) .done t

/-- The task in hand has the name by which it is held. -/
theorem Sound.task_name (hs : h.Sound) : h.task.name = h.name := Crew.name_of_get? hs.get?

/-- Doing this, of which that came, was one of these things after some time, and all is still sound. -/
structure Follows (h : Holder) (a : Act) (r : Answer) (h' : Holder) : Prop where
  name : h'.name = h.name
  sound : h'.Sound
  does : ∃ t, h.task.Passes t ∧ Does t a r h'.task

/-- What it comes to and what was done after that time are all there is to say. -/
theorem Comes.does {t' : Task} (hc : h.Comes h' t') {a : Act} {r : Answer}
    (hpass : h.task.Passes t) (hdoes : Does t a r t') : h.Follows a r h' := by
  refine ⟨hc.name, hc.sound, t, hpass, ?_⟩
  rw [hc.task]
  exact hdoes

/-- Running a body: it begins where none has begun. -/
theorem follows_spawn (hs : h.Sound) (p : Plan) :
    h.Follows (.spawn p) (h.step (.spawn p)).1 (h.step (.spawn p)).2 := by
  obtain ⟨hr, hc⟩ := step_spawn hs p
  rw [hr]
  refine hc.does (.refl _) ?_
  unfold Task.spawn
  cases hstarted : h.task.isStarted with
  | false => exact .began p _ (Option.not_isSome_iff_eq_none.1 (Bool.eq_false_iff.1 hstarted))
  | true => exact .hadBegun p hstarted

/-- Asking for the exit: the first to ask has the receiver lent. -/
theorem follows_notify (hs : h.Sound) : h.Follows .notify (h.step .notify).1 (h.step .notify).2 := by
  obtain ⟨hr, hc⟩ := step_notify hs
  rw [hr]
  refine hc.does (.refl _) ?_
  unfold Task.notify
  split
  · rename_i hkept
    exact .lent hkept
  · rename_i hnot
    exact .hadLent hnot

/-- Waiting: the exit is heard, or waited for in vain, or could not have come of this promise. -/
theorem follows_await (hs : h.Sound) (i span : Nat) :
    h.Follows (.await i span) (h.step (.await i span)).1 (h.step (.await i span)).2 := by
  by_cases hfirst : i = 0 ∧ h.task.receiver = .lent
  · obtain ⟨rfl, hlent⟩ := hfirst
    obtain ⟨t, hpass, hr, hc⟩ := step_await_first hs hlent span
    have hlent' : t.receiver = .lent := hpass.goesOn.receiver.trans hlent
    rw [hr]
    cases hx : t.exit? with
    | none =>
      rw [hx] at hc
      exact hc.does hpass (.waited span hlent' hx)
    | some x =>
      rw [hx] at hc
      exact hc.does hpass (.heard span hlent' hx)
  · obtain ⟨hr, t, hpass, hc⟩ := step_await_other hs hfirst span
    rw [← hpass.goesOn.receiver] at hfirst
    exact hc.does hpass (.missed i span hfirst hr)

/-- Giving a promise up: the receiver goes with it if the exit could have come of it. -/
theorem follows_drop (hs : h.Sound) (i : Nat) : h.Follows (.drop i) (h.step (.drop i)).1 (h.step (.drop i)).2 := by
  have hc := comes_spend hs i
  by_cases hfirst : i = 0 ∧ h.task.receiver = .lent
  · rw [if_pos hfirst] at hc
    obtain ⟨rfl, hlent⟩ := hfirst
    exact hc.does (.refl _) (.gaveUp hlent)
  · rw [if_neg hfirst] at hc
    exact hc.does (.refl _) (.dropped i hfirst)

/-- Stopping the task whose handle is there: its body is joined, or cut off when the time has run out. -/
theorem follows_stop_of_held (hs : h.Sound) (hheld : h.task.held = true) (deadline : Nat) :
    h.Follows (.stop deadline) (h.step (.stop deadline)).1 (h.step (.stop deadline)).2 := by
  rcases step_stop hs hheld deadline with ⟨t, f, hpass, hf, hr, hc, -⟩ | ⟨t, m, hpass, hf, hr, hc, -⟩
  · rw [hr]
    exact hc.does hpass (.joined deadline (hpass.goesOn.held.trans hheld) hf)
  · -- the body is cut off where it stands when the time has run out
    have hheld' := hpass.goesOn.held.trans hheld
    have habort : t.abort m = { t.setStage (.dropped m) with held := false } := by
      unfold Task.abort
      rw [hheld', hf]
      rfl
    have hname : t.name = h.name := by
      have hsame := hc.sound.task_name
      rw [hc.task, Task.abort_name, hc.name] at hsame
      exact hsame
    rw [habort] at hc
    refine hc.does hpass ?_
    rw [hr, ← hname]
    exact .cutOff deadline m hheld' hf

/-- Stopping it otherwise does nothing to it. -/
theorem follows_stop_of_not_held (hs : h.Sound) (hheld : h.task.held = false) (deadline : Nat) :
    h.Follows (.stop deadline) (h.step (.stop deadline)).1 (h.step (.stop deadline)).2 := by
  rw [step_stop_idle hs hheld deadline]
  exact (hs.comes h.crew.leads_tick h.crew.tells_tick hs.get? hs.first hs.others hs.uncut).does (.refl _)
    (.idle deadline hheld)

/-- **Whatever is done with the task** keeps it sound: time passes, and then one of these things is done. -/
theorem step_does (hs : h.Sound) (a : Act) : h.Follows a (h.step a).1 (h.step a).2 := by
  cases a with
  | spawn p => exact follows_spawn hs p
  | notify => exact follows_notify hs
  | await i span => exact follows_await hs i span
  | drop i => exact follows_drop hs i
  | stop deadline =>
    cases hheld : h.task.held with
    | false => exact follows_stop_of_not_held hs hheld deadline
    | true => exact follows_stop_of_held hs hheld deadline
  | sleep span =>
    obtain ⟨t, hpass, hc⟩ := comes_sleep hs span
    exact hc.does hpass (.slept span)

end Holder

end Phrasebook.Lifecycle
