import Mathlib.Data.List.Nodup
import Phrasebook.Proofs.Lifecycle.GoingOn
/-!
# No body is lost sight of

The handle on a body is kept until the body has ended or has been cut off, and whatever a body was to do
before the present time it has done. A crew of which both hold is tended (`Crew.Tended`). Everything that the
hand does keeps a crew tended and keeps every body that was ever spawned (`Crew.Leads`); there is one lemma
for each thing that it does. The case that needs care is stopping a task: the hand may give the wait up
half-way, and then the handle has to be there still.
-/

set_option autoImplicit false

namespace Phrasebook.Lifecycle

/-- It has come to its end, or is being cut off. -/
def Stage.Ended : Stage → Prop
  | .dropped _ | .over _ => True
  | _ => False

namespace Body

/-- What it does next is not before a time. -/
def Current (b : Body) (now : Nat) : Prop :=
  ∀ name heard c, b.next? name heard = some c → now ≤ c.moment.time

/-- Who is to hear of a failure makes no difference to when the next thing happens. -/
theorem moment_next (b : Body) (name name' : String) (heard heard' : Bool) :
    (b.next? name heard).map (·.moment) = (b.next? name' heard').map (·.moment) := by
  unfold next?
  split
  · rename_i asked _
    cases b.quits? asked with
    | some q => rfl
    | none => cases asked <;> rfl
  · simp only [Option.map_map]
    rfl
  · rfl
  · rfl

/-- It is enough to look at one name and at one answer to who would hear of a failure. -/
theorem current_of_next {b : Body} {now : Nat} {name : String} {heard : Bool}
    (h : ∀ c, b.next? name heard = some c → now ≤ c.moment.time) : b.Current now := by
  intro name' heard' c hc
  have hmoment := b.moment_next name' name heard' heard
  rw [hc, Option.map_some] at hmoment
  obtain ⟨c', hc', hm⟩ := Option.map_eq_some_iff.1 hmoment.symm
  rw [← hm]
  exact h c' hc'

/-- A body that has just been spawned has nothing to do before the present time. -/
theorem current_spawned (p : Plan) (m : Moment) : Body.Current { plan := p, spawned := m } m.time := by
  intro name heard c hc
  unfold next? at hc
  dsimp only at hc
  split at hc
  · rename_i t e hq
    obtain rfl := Option.some.inj hc
    obtain ⟨w, -, hw⟩ := Option.bind_eq_some_iff.1 (Option.filter_eq_some_iff.1 hq).1
    obtain ⟨e', -, he⟩ := Option.map_eq_some_iff.1 hw
    rw [← (Prod.mk.inj he).1]
    exact Nat.le_add_right _ _
  · rename_i hasked
    cases hasked
  · cases hc

/-- A body that is asked to stop sees the request now, unless it is due to end by now. -/
theorem Current.ask {b : Body} {m : Moment} (h : b.Current m.time) (hb : b.stage = .serving none) :
    Body.Current { b with stage := .serving (some m) } m.time := by
  intro name heard c hc
  unfold next? at hc
  dsimp only at hc
  split at hc
  · rename_i t e hq
    obtain rfl := Option.some.inj hc
    -- it was due to end at that time without being asked
    have hquits : b.quits? none = some (t, e) := by
      obtain ⟨hend, -⟩ := Option.filter_eq_some_iff.1 hq
      exact Option.filter_eq_some_iff.2 ⟨hend, rfl⟩
    refine h name heard ⟨⟨t, b.spawned.turn⟩, .over (.ofEnding heard e), .exited name :: failureEvents name e⟩ ?_
    unfold next?
    rw [hb]
    dsimp only
    rw [hquits]
  · rename_i a _ hasked
    obtain rfl := Option.some.inj hasked
    obtain rfl := Option.some.inj hc
    exact Nat.le_refl _
  · cases hc

/-- Nor has one that is being cut off now. -/
theorem current_dropped (b : Body) (m : Moment) : Body.Current { b with stage := .dropped m } m.time := by
  intro name heard c hc
  obtain rfl := Option.some.inj hc
  exact Nat.le_refl _

/-- A body that is over does nothing more. -/
theorem current_over {b : Body} {f : Fate} (hb : b.stage = .over f) (now : Nat) : b.Current now := by
  intro name heard c hc
  unfold next? at hc
  rw [hb] at hc
  cases hc

end Body

namespace Task

/-- The handle on the body is there until the body has ended, and the body has done what it was to do before
a time. -/
structure Tended (t : Task) (now : Nat) : Prop where
  current : ∀ b, t.body = some b → b.Current now
  kept : ∀ b, t.body = some b → t.held = true ∨ b.stage.Ended

/-- The body of the one task is the body of the other, wherever it stands by now. -/
def SameBody (t t' : Task) : Prop :=
  ∀ b, t.body = some b → ∃ b', t'.body = some b' ∧ b'.plan = b.plan ∧ b'.spawned = b.spawned

theorem SameBody.refl (t : Task) : t.SameBody t := fun b hb => ⟨b, hb, rfl, rfl⟩

/-- A body that is there after two things was there after the first, with the same plan. -/
theorem SameBody.trans {t t' t'' : Task} (h : t.SameBody t') (h' : t'.SameBody t'') : t.SameBody t'' := by
  intro b hb
  obtain ⟨b', hb', hplan, hspawned⟩ := h b hb
  obtain ⟨b'', hb'', hplan', hspawned'⟩ := h' b' hb'
  exact ⟨b'', hb'', hplan'.trans hplan, hspawned'.trans hspawned⟩

/-- Moving a body to another stage changes neither its plan nor when it was spawned. -/
theorem sameBody_setStage (t : Task) (s : Stage) : t.SameBody (t.setStage s) := by
  intro b hb
  refine ⟨{ b with stage := s }, ?_, rfl, rfl⟩
  rw [setStage, hb, Option.map_some]

variable {t : Task} {now : Nat}

/-- Whether a task is tended depends on its body and on its handle alone. -/
theorem Tended.of_body (h : t.Tended now) {t' : Task} (hbody : t'.body = t.body) (hheld : t'.held = t.held) :
    t'.Tended now := by
  refine ⟨?_, ?_⟩
  · rw [hbody]
    exact h.current
  · rw [hbody, hheld]
    exact h.kept

/-- A task without a body is tended. -/
theorem tended_of_body_none (h : t.body = none) (now : Nat) : t.Tended now := by
  refine ⟨?_, ?_⟩
  · intro b hb
    rw [h] at hb
    cases hb
  · intro b hb
    rw [h] at hb
    cases hb

/-- A task stays tended when a body is spawned in it: the handle is there from the start. -/
theorem Tended.spawn {m : Moment} (h : t.Tended m.time) (p : Plan) : (t.spawn m p).1.Tended m.time := by
  unfold Task.spawn
  split
  · exact h
  · refine ⟨?_, fun _ _ => Or.inl rfl⟩
    rintro b hb
    obtain rfl := Option.some.inj hb
    exact Body.current_spawned p m

/-- Spawning does nothing to a body that is there. -/
theorem sameBody_spawn (t : Task) (m : Moment) (p : Plan) : t.SameBody (t.spawn m p).1 := by
  intro b hb
  have hstarted : t.isStarted = true := by rw [isStarted, hb]; rfl
  rw [Task.spawn, if_pos hstarted]
  exact ⟨b, hb, rfl, rfl⟩

/-- Asking for the exit of a task touches neither its body nor its handle. -/
theorem Tended.notify (h : t.Tended now) : t.notify.1.Tended now := by
  refine h.of_body (notify_body t) ?_
  unfold Task.notify
  split <;> rfl

/-- Asking for the exit of a task leaves its body as it is. -/
theorem sameBody_notify (t : Task) : t.SameBody t.notify.1 := by
  intro b hb
  exact ⟨b, (notify_body t).trans hb, rfl, rfl⟩

/-- A task that is asked to stop stays tended: its body sees it at this very moment at the earliest. -/
theorem Tended.ask {m : Moment} (h : t.Tended m.time) : (t.ask m).Tended m.time := by
  unfold Task.ask
  split
  · rename_i b hb
    split
    · rename_i hstage
      refine ⟨?_, ?_⟩
      · intro b' hb'
        rw [setStage, hb, Option.map_some] at hb'
        obtain rfl := Option.some.inj hb'
        exact (h.current b hb).ask hstage
      · intro b' hb'
        rw [setStage, hb, Option.map_some] at hb'
        obtain rfl := Option.some.inj hb'
        -- it serves, so its handle is there
        have hkept := h.kept b hb
        rw [hstage] at hkept
        exact Or.inl (hkept.resolve_right id)
    · exact h
  · exact h

/-- Asking a body to stop changes neither its plan nor when it was spawned. -/
theorem sameBody_ask (t : Task) (m : Moment) : t.SameBody (t.ask m) := by
  unfold ask
  split
  · split
    · exact t.sameBody_setStage _
    · exact .refl t
  · exact .refl t

/-- A task whose body is cut off stays tended although the handle is gone, for the body has ended or is being cut
off. -/
theorem Tended.abort {m : Moment} (h : t.Tended m.time) : (t.abort m).Tended m.time := by
  unfold Task.abort
  split
  · refine ⟨?_, ?_⟩
    · intro b hb
      obtain ⟨b', -, rfl⟩ := Option.map_eq_some_iff.1 hb
      exact b'.current_dropped m
    · intro b hb
      obtain ⟨b', -, rfl⟩ := Option.map_eq_some_iff.1 hb
      exact Or.inr trivial
  · rename_i hcut
    refine ⟨h.current, ?_⟩
    intro b hb
    refine Or.inr ((h.kept b hb).elim (fun hheld => ?_) id)
    -- the handle is there, so it is let go of because the body has ended
    have hfate : t.fate? ≠ none := by
      intro hnone
      rw [hheld, hnone] at hcut
      exact hcut rfl
    obtain ⟨f, hf⟩ := Option.ne_none_iff_exists'.1 hfate
    rw [fate?_of_body hb hf]
    trivial

/-- Cutting a body off changes neither its plan nor when it was spawned. -/
theorem sameBody_abort (t : Task) (m : Moment) : t.SameBody (t.abort m) := by
  unfold abort
  split
  · exact t.sameBody_setStage _
  · exact .refl t

/-- **A tended body that is let go of** has ended or is being cut off. -/
theorem Tended.ended_abort {m : Moment} (h : t.Tended m.time) {b : Body} (hb : (t.abort m).body = some b) :
    b.stage.Ended := by
  refine (h.abort.kept b hb).resolve_left ?_
  unfold Task.abort
  split <;> exact Bool.false_ne_true

/-- The handle may be let go of once the body has ended. -/
theorem Tended.taken {f : Fate} (h : t.Tended now) (hf : t.fate? = some f) :
    Tended { t with held := false } now := by
  refine ⟨h.current, ?_⟩
  intro b hb
  right
  rw [fate?_of_body hb hf]
  trivial

/-! ## Time passes -/

/-- Nothing that a body does of itself changes its plan or when it was spawned, by induction on what it does. -/
theorem sameBody_advanceSteps (limit n : Nat) (t : Task) : t.SameBody (advanceSteps limit n t).1 := by
  induction n generalizing t with
  | zero => exact .refl t
  | succ n ih =>
    unfold advanceSteps
    split
    · split
      · exact (t.sameBody_setStage _).trans (ih _)
      · exact .refl t
    · exact .refl t

/-- So time passing leaves it the body that it is. -/
theorem sameBody_advance (t : Task) (limit : Nat) : t.SameBody (t.advance limit).1 :=
  sameBody_advanceSteps limit 2 t

/-- Where the body moves on by itself its handle stays, or it has come to its end. -/
theorem kept_of_next (h : t.Tended now) {c : Change} (hc : t.next? = some c) :
    ∀ b, (t.setStage c.stage).body = some b → (t.setStage c.stage).held = true ∨ b.stage.Ended := by
  intro b hb
  obtain ⟨b₀, hb₀, hnext⟩ := next?_eq_some hc
  rw [setStage, hb₀, Option.map_some] at hb
  obtain rfl := Option.some.inj hb
  rcases Body.next_cases hnext with ⟨f, hf⟩ | ⟨a, hstage, rfl⟩
  · right
    rw [hf]
    trivial
  · -- it goes on, and the handle has not been touched
    have hkept := h.kept b₀ hb₀
    rw [hstage] at hkept
    exact Or.inl (hkept.resolve_right id)

/-- A task whose body is over is tended, with its handle or without it. -/
theorem tended_of_over {b : Body} (hb : t.body = some b) (f : Fate) (now : Nat) :
    (t.setStage (.over f)).Tended now := by
  have hbody : (t.setStage (.over f)).body = some { b with stage := .over f } := by
    rw [setStage, hb, Option.map_some]
  refine ⟨?_, ?_⟩
  · intro b' hb'
    obtain rfl := Option.some.inj (hbody.symm.trans hb')
    exact Body.current_over rfl now
  · intro b' hb'
    obtain rfl := Option.some.inj (hbody.symm.trans hb')
    exact Or.inr trivial

/-- What a task does from the present time on is not before the time to which it has advanced. -/
theorem Tended.of_le {t : Task} {now limit : Nat} (h : t.Tended now)
    (hnext : ∀ c, t.next? = some c → limit ≤ c.moment.time) : t.Tended limit := by
  refine ⟨?_, h.kept⟩
  intro b hb
  have hnow : ∀ c, b.next? t.name t.heard = some c → limit ≤ c.moment.time := by
    intro c hc
    refine hnext c ?_
    rw [next?, hb, Option.bind_some, hc]
  exact Body.current_of_next hnow

/-- **Time passing keeps a task tended**: no body does more than two things, so it has done all that it was
to do before the limit. -/
theorem Tended.advance (h : t.Tended now) (limit : Nat) : (t.advance limit).1.Tended limit := by
  unfold Task.advance advanceSteps
  split
  · rename_i c hc
    obtain ⟨b, hb, hnext⟩ := next?_eq_some hc
    by_cases hlt : c.moment.time < limit
    · rw [if_pos hlt]
      rcases Body.next_cases hnext with ⟨f, hf⟩ | ⟨a, -, rfl⟩
      · -- it has come to its end
        rw [hf]
        dsimp only
        unfold advanceSteps
        rw [next?_of_over hb]
        exact tended_of_over hb f limit
      · -- it has seen the request, and may come to its end
        dsimp only
        have hmid : (t.setStage (.leaving a)).Tended a.time := by
          refine ⟨?_, kept_of_next h hc⟩
          intro b' hb'
          rw [setStage, hb, Option.map_some] at hb'
          obtain rfl := Option.some.inj hb'
          intro name heard c' hc'
          exact (Body.le_of_leaving rfl hc').1
        unfold advanceSteps
        split
        · rename_i c' hc'
          obtain ⟨b', hb', hnext'⟩ := next?_eq_some hc'
          have hstage : b'.stage = .leaving a := by
            rw [setStage, hb, Option.map_some] at hb'
            rw [← Option.some.inj hb']
          obtain ⟨-, f, hf⟩ := Body.le_of_leaving hstage hnext'
          by_cases hlt' : c'.moment.time < limit
          · rw [if_pos hlt', hf]
            exact tended_of_over hb' f limit
          · rw [if_neg hlt']
            refine hmid.of_le ?_
            intro c'' hc''
            obtain rfl := Option.some.inj (hc'.symm.trans hc'')
            omega
        · -- it never comes to its end
          rename_i hnone
          refine hmid.of_le ?_
          intro c' hc'
          rw [hnone] at hc'
          cases hc'
    · -- what comes next comes after the limit
      rw [if_neg hlt]
      refine h.of_le ?_
      intro c' hc'
      obtain rfl := Option.some.inj (hc.symm.trans hc')
      omega
  · -- nothing comes any more
    rename_i hnone
    refine h.of_le ?_
    intro c hc
    rw [hnone] at hc
    cases hc

/-- A body that has come to its end or is being cut off shows nothing any more. -/
theorem quiet_of_ended {t : Task} (h : ∀ b, t.body = some b → b.stage.Ended) (limit : Nat) :
    (t.advance limit).2 = [] := by
  unfold advance advanceSteps
  split
  · rename_i c hc
    obtain ⟨b, hb, hnext⟩ := next?_eq_some hc
    have hended := h b hb
    have hcut : c.events = [] ∧ c.stage = .over .aborted := by
      cases Body.does_of_next hnext with
      | quits _ _ hstage _ =>
        rw [hstage] at hended
        cases hended
      | sees _ hstage =>
        rw [hstage] at hended
        cases hended
      | leaves _ _ hstage _ =>
        rw [hstage] at hended
        cases hended
      | isCut _ _ => exact ⟨rfl, rfl⟩
    split
    · rw [hcut.1, hcut.2]
      dsimp only
      unfold advanceSteps
      rw [next?_of_over hb]
      rfl
    · rfl
  · rfl

/-- What is tended at a time was tended before it. -/
theorem Tended.mono (h : t.Tended now) {earlier : Nat} (hle : earlier ≤ now) : t.Tended earlier := by
  refine ⟨?_, h.kept⟩
  intro b hb name heard c hc
  exact Nat.le_trans hle (h.current b hb name heard c hc)

/-- The end of a tended body is not in the past. -/
theorem Tended.le_endTime (h : t.Tended now) {time : Nat} (htime : t.endTime? = some time) : now ≤ time := by
  obtain ⟨c, hc, hend⟩ := Option.bind_eq_some_iff.1 htime
  obtain ⟨b, hb, hnext⟩ := next?_eq_some hc
  have hle := h.current b hb _ _ c hnext
  rcases Body.next_cases hnext with ⟨f, hf⟩ | ⟨a, -, rfl⟩
  · rw [hf] at hend
    obtain rfl := Option.some.inj hend
    exact hle
  · obtain ⟨c', hc', rfl⟩ := Option.map_eq_some_iff.1 hend
    obtain ⟨b', hb', hnext'⟩ := next?_eq_some hc'
    have hstage : b'.stage = .leaving a := by
      rw [setStage, hb, Option.map_some] at hb'
      rw [← Option.some.inj hb']
    exact Nat.le_trans hle (Body.le_of_leaving hstage hnext').1

end Task

namespace Crew

/-- Every task is tended, and no two have one name. -/
structure Tended (c : Crew) : Prop where
  nodup : c.names.Nodup
  tasks : ∀ t ∈ c.tasks, t.Tended c.now

/-- From one crew the hand comes to the other: it stays tended, no body is lost, and nothing that has been told
is taken back. -/
structure Leads (c c' : Crew) : Prop where
  tended : c.Tended → c'.Tended
  bodies : ∀ name t, c.get? name = some t → ∃ t', c'.get? name = some t' ∧ t.SameBody t'
  trace : c.trace <+: c'.trace

variable {c : Crew} {name : String}

theorem Leads.refl (c : Crew) : c.Leads c := ⟨id, fun _ t ht => ⟨t, ht, .refl t⟩, List.prefix_rfl⟩

/-- What leads on leads on further: bodies that were there are there still, and what has happened stays. -/
theorem Leads.trans {c c' c'' : Crew} (h : c.Leads c') (h' : c'.Leads c'') : c.Leads c'' := by
  refine ⟨fun hc => h'.tended (h.tended hc), ?_, h.trace.trans h'.trace⟩
  intro name t ht
  obtain ⟨t', ht', hsame⟩ := h.bodies name t ht
  obtain ⟨t'', ht'', hsame'⟩ := h'.bodies name t' ht'
  exact ⟨t'', ht'', hsame.trans hsame'⟩

/-- Each task of a tended crew is tended at the crew's time. -/
theorem Tended.get? (h : c.Tended) {t : Task} (ht : c.get? name = some t) : t.Tended c.now :=
  h.tasks t (List.mem_of_find?_eq_some ht)

/-- Where no two tasks have one name, each is the task of its name. -/
theorem get?_of_mem (hnodup : c.names.Nodup) {t : Task} (ht : t ∈ c.tasks) : c.get? t.name = some t := by
  have hsome : (c.get? t.name).isSome = true := (c.get?_isSome t.name).2 (List.mem_map_of_mem ht)
  obtain ⟨t', ht'⟩ := Option.isSome_iff_exists.1 hsome
  rw [ht', List.inj_on_of_nodup_map hnodup (List.mem_of_find?_eq_some ht') ht (name_of_get? ht')]

/-- **Something is done to each task**, and the time changes. -/
theorem leads_map {c' : Crew} {f : Task → Task} (htasks : c'.tasks = c.tasks.map f)
    (hname : ∀ t, (f t).name = t.name) (hbody : ∀ t : Task, t.SameBody (f t))
    (htended : ∀ t : Task, t.Tended c.now → (f t).Tended c'.now) (htrace : c.trace <+: c'.trace) :
    c.Leads c' := by
  refine ⟨?_, ?_, htrace⟩
  · intro hc
    refine ⟨?_, ?_⟩
    · have hsame : c'.names = c.names := by
        rw [names, names, htasks, List.map_map]
        exact List.map_congr_left fun t _ => hname t
      rw [hsame]
      exact hc.nodup
    · intro t ht
      rw [htasks] at ht
      obtain ⟨t', ht', rfl⟩ := List.mem_map.1 ht
      exact htended t' (hc.tasks t' ht')
  · intro name t ht
    refine ⟨f t, ?_, hbody t⟩
    have hget : c'.get? name = (c.get? name).map f := by
      rw [get?, get?, htasks]
      exact find?_map_name hname c.tasks name
    rw [hget, ht, Option.map_some]

/-- **Something is done to the task of a name.** -/
theorem leads_modify (c : Crew) {f : Task → Task} (hname : ∀ t, t.name = name → (f t).name = name)
    (hbody : ∀ t, c.get? name = some t → t.SameBody (f t))
    (htended : ∀ t, c.get? name = some t → t.Tended c.now → (f t).Tended c.now) :
    c.Leads (c.modify name f) := by
  refine ⟨?_, ?_, List.prefix_rfl⟩
  · intro hc
    refine ⟨?_, ?_⟩
    · rw [(c.tells_modify hname).names]
      exact hc.nodup
    · intro t ht
      obtain ⟨t', ht', rfl⟩ := List.mem_map.1 ht
      by_cases hn : t'.name = name
      · rw [if_pos (beq_iff_eq.2 hn)]
        exact htended t' (hn ▸ get?_of_mem hc.nodup ht') (hc.tasks t' ht')
      · rw [if_neg (mt eq_of_beq hn)]
        exact hc.tasks t' ht'
  · intro other t ht
    rw [get?_modify c hname]
    by_cases hon : other = name
    · subst hon
      rw [if_pos rfl, ht, Option.map_some]
      exact ⟨f t, rfl, hbody t ht⟩
    · rw [if_neg hon]
      exact ⟨t, ht, .refl t⟩

/-- Nothing is done to the tasks, and no time passes. -/
theorem leads_of_same {c' : Crew} (htasks : c'.tasks = c.tasks) (hnow : c'.now = c.now)
    (htrace : c.trace <+: c'.trace) : c.Leads c' :=
  leads_map (f := id) (by rw [htasks, List.map_id]) (fun _ => rfl) (fun t => .refl t)
    (fun _ ht => hnow.symm ▸ ht) htrace

/-- To note that something happens touches no task. -/
theorem leads_emit (c : Crew) (e : Event) : c.Leads (c.emit e) :=
  leads_of_same rfl rfl (List.prefix_append _ _)

/-- Nor does passing to the next turn. -/
theorem leads_tick (c : Crew) : c.Leads c.tick := leads_of_same rfl rfl List.prefix_rfl

/-- Spawning puts a body where there was none, and keeps the others. -/
theorem leads_spawn (c : Crew) (name : String) (p : Plan) : c.Leads (c.spawn name p).1 := by
  unfold spawn
  split
  · rename_i t ht
    have hmod : c.Leads (c.modify name fun _ => (t.spawn c.moment p).1) := by
      refine c.leads_modify (fun _ _ => (Task.spawn_name t _ p).trans (name_of_get? ht)) ?_ ?_
      · intro t' ht'
        obtain rfl := Option.some.inj (ht.symm.trans ht')
        exact t.sameBody_spawn _ p
      · intro t' ht' htended
        obtain rfl := Option.some.inj (ht.symm.trans ht')
        exact Task.Tended.spawn (m := c.moment) htended p
    dsimp only
    split
    · exact hmod.trans (leads_tick _)
    · exact (hmod.trans (leads_tick _)).trans (leads_emit _ _)
  · exact .refl c

/-- Asking for the exit of a task keeps every body. -/
theorem leads_notify (c : Crew) (name : String) : c.Leads (c.notify name).2 := by
  unfold notify
  split
  · rename_i t ht
    refine c.leads_modify (fun _ _ => (Task.notify_name t).trans (name_of_get? ht)) ?_ ?_
    · intro t' ht'
      obtain rfl := Option.some.inj (ht.symm.trans ht')
      exact t.sameBody_notify
    · intro t' ht' htended
      obtain rfl := Option.some.inj (ht.symm.trans ht')
      exact htended.notify
  · exact .refl c

/-- So does giving up listening. -/
theorem leads_unhear (c : Crew) (name : String) : c.Leads (c.unhear name) :=
  c.leads_modify (fun _ h => h) (fun _ _ b hb => ⟨b, hb, rfl, rfl⟩) fun _ _ h => h.of_body rfl rfl

/-- So does asking a task to stop. -/
theorem leads_asked (c : Crew) (name : String) : c.Leads (c.asked name) := by
  have hmod : c.Leads (c.modify name (·.ask c.moment)) :=
    c.leads_modify (fun t ht => (t.ask_name c.moment).trans ht) (fun t _ => t.sameBody_ask c.moment)
      fun _ _ h => Task.Tended.ask (m := c.moment) h
  exact hmod.trans (leads_tick _)

/-- Time passing keeps a crew tended if the hand is back by the limit up to which the bodies went on: what they do
next is not before that. -/
theorem leads_advance (c : Crew) {limit now : Nat} (hle : now ≤ limit) :
    c.Leads { c.advance limit with now := now } := by
  refine leads_map (f := fun t => (t.advance limit).1) ?_ (Task.advance_name limit)
    (fun t => t.sameBody_advance limit) (fun _ h => (h.advance limit).mono hle) (List.prefix_append _ _)
  simp only [advance, List.map_map]
  rfl

/-- Waiting until a time: the bodies have gone on up to it and not beyond. -/
theorem leads_sleepUntil (c : Crew) (time : Nat) : c.Leads (c.sleepUntil time) :=
  c.leads_advance (Nat.le_refl time)

/-- Waiting for a body that ends at a time: the bodies have done what they do at that time too. -/
theorem leads_settle (c : Crew) (time : Nat) : c.Leads (c.settle time) := c.leads_advance (Nat.le_succ time)

/-- Waiting a limit out, if there is one. -/
theorem leads_sleepOut (c : Crew) (limit : Option Nat) : c.Leads (c.sleepOut limit) := by
  cases limit with
  | none => exact .refl c
  | some time => exact c.leads_sleepUntil time

/-- A piece of work is a wait, whether it is done by the limit or given up there. -/
theorem leads_work (c : Crew) (w : Work) (limit : Option Nat) : c.Leads (c.work w limit).2 := by
  unfold work
  split
  · split
    · exact c.leads_sleepUntil _
    · exact c.leads_sleepOut limit
  · exact c.leads_sleepOut limit

/-- Waiting for the first of several things is a wait up to whichever comes first, or none if one is there
already. -/
theorem leads_await (c : Crew) (names : List String) (signal limit : Option Nat) (first : Nat) :
    c.Leads (c.await names signal limit first).2 := by
  rcases c.await_cases names signal limit first with ⟨w, -, -, h⟩ | ⟨-, ⟨w, -, t, -, h⟩ | ⟨-, h⟩⟩
  · rw [h]
    exact .refl c
  · rw [h]
    cases w with
    | signal => exact c.leads_sleepUntil t
    | task _ => exact c.leads_settle t
  · rw [h]
    exact c.leads_sleepOut limit

/-- The handle of a body that is over can be taken. -/
theorem leads_taken (c : Crew) (hf : ∀ t, c.get? name = some t → t.fate? ≠ none) : c.Leads (c.taken name) := by
  refine c.leads_modify (fun _ h => h) (fun _ _ b hb => ⟨b, hb, rfl, rfl⟩) ?_
  intro t ht htended
  obtain ⟨f, hf⟩ := Option.ne_none_iff_exists'.1 (hf t ht)
  exact htended.taken hf

/-- A body that is cut off at a time is waited for until then, and loses its handle. -/
theorem leads_cutOff (c : Crew) (name : String) (time : Nat) : c.Leads (c.cutOff name time) := by
  refine (c.leads_sleepUntil time).trans ?_
  exact leads_modify _ (fun t ht => (t.abort_name _).trans ht) (fun t _ => t.sameBody_abort _)
    fun _ _ h => Task.Tended.abort (m := (c.sleepUntil time).moment) h

/-- **Stopping a task** lets go of its handle only when the body has ended or is being cut off. If the wait is
given up, the handle is still there. -/
theorem leads_stop (c : Crew) (name : String) (deadline : Nat) (limit : Option Nat) :
    c.Leads (c.stop name deadline limit).2 := by
  have hask := c.leads_asked name
  -- the end of the body is taken only if it has come
  have htaken : ∀ d : Crew, c.Leads d → ∀ v : Except StopFailure Unit,
      ((d.get? name).bind fun t => t.fate?.map t.verdict) = some v → c.Leads (d.taken name) := by
    intro d hd v hv
    refine hd.trans (d.leads_taken ?_)
    intro t ht hnone
    rw [ht, Option.bind_some, hnone] at hv
    cases hv
  unfold stop
  dsimp only
  split
  · split
    · split
      · split
        · rename_i v hv
          exact htaken _ hask v hv
        · exact hask
      · exact hask
    · split
      · rename_i e _
        have hend := hask.trans (leads_settle _ e)
        split
        · rename_i v hv
          exact htaken _ hend v hv
        · exact hend
      · split
        · exact (hask.trans (leads_cutOff _ name _)).trans (leads_tick _)
        · exact hask.trans (leads_sleepOut _ limit)
  · exact hask

/-- The last work after a stop is a piece of work like any other. -/
theorem leads_stopAnd (c : Crew) (name : String) (deadline : Nat) (last : Except Chain Unit → Work)
    (limit : Option Nat) : c.Leads (c.stopAnd name deadline last limit).2 := by
  have hstop := c.leads_stop name deadline limit
  rcases c.stopAnd_eq name deadline last limit with ⟨v, -, heq⟩ | ⟨-, heq⟩
  · rw [heq]
    exact hstop.trans (leads_work _ _ limit)
  · rw [heq]
    exact hstop

/-- When all bodies are cut off, each that was not over is being cut off from then on. -/
theorem leads_close (c : Crew) : c.Leads c.close :=
  leads_map (f := (·.abort c.moment)) rfl (fun t => t.abort_name c.moment)
    (fun t => t.sameBody_abort c.moment) (fun _ h => Task.Tended.abort (m := c.moment) h) List.prefix_rfl

/-- A crew stays tended when a fresh task is put in. -/
theorem Tended.put (h : c.Tended) (name : String) : (c.put name).Tended := by
  refine ⟨?_, ?_⟩
  · have hothers : ((c.tasks.filter (·.name != name)).map (·.name)).Nodup :=
      h.nodup.sublist (List.filter_sublist.map _)
    have hnew : name ∉ (c.tasks.filter (·.name != name)).map (·.name) := by
      intro hmem
      obtain ⟨t, ht, hname⟩ := List.mem_map.1 hmem
      exact bne_iff_ne.1 (List.mem_filter.1 ht).2 hname
    unfold names Crew.put
    rw [List.map_append, List.nodup_append]
    refine ⟨hothers, List.nodup_singleton _, ?_⟩
    rintro a ha b hb rfl
    obtain rfl : a = name := List.mem_singleton.1 hb
    exact hnew ha
  · intro t ht
    rcases List.mem_append.1 ht with ht | ht
    · exact h.tasks t (List.mem_filter.1 ht).1
    · rw [List.mem_singleton.1 ht]
      exact Task.tended_of_body_none rfl _

/-- **When everything has been let go of**, every body of a tended crew has ended or is being cut off. -/
theorem Tended.ended_close (h : c.Tended) {t : Task} (ht : c.close.get? name = some t) {b : Body}
    (hb : t.body = some b) : b.stage.Ended := by
  obtain ⟨t', ht', rfl⟩ := List.mem_map.1 (List.mem_of_find?_eq_some ht)
  exact Task.Tended.ended_abort (m := c.moment) (h.tasks t' ht') hb

end Crew

end Phrasebook.Lifecycle
