import Phrasebook.Proofs.Lifecycle.Course
import Phrasebook.Proofs.Lifecycle.GoingOn
/-!
# Where a failure is told

The report of a run has two places for the failure of a body: the trigger, and the record of how the
transport shut down. A failure that somebody could hear when it came can only be the trigger; one that nobody
could hear any more comes out when the task is stopped, and goes into the record.

Whether a failure could be heard is settled when the trigger is picked, because then the supervisor stops
listening to all transports at once. So one task is followed through the run: to the moment at which the
trigger has been picked (`task_of_waitAny`), and from there through the rounds of shutting down, of which
all but its own are nothing to it (`goesOn_shutdownEach`, `shutdownEach_of_failed`).

The lead result is `Supervisor.failure_told_iff`. It leaves a gap, and `failures_can_be_lost` shows that runs
fall into it: a failure that is there when the trigger is picked, and is not picked, was heard and is told
nowhere.
-/

set_option autoImplicit false

namespace Phrasebook.Lifecycle

/-- The report gives the failure as what ended the running phase. -/
def RunReport.TellsAsTrigger (report : RunReport) (k : Transport) (c : Chain) : Prop :=
  report.trigger = .service k (.failed c)

/-- The report gives the failure as what went wrong with the shutting down. -/
def RunReport.TellsAsRecord (report : RunReport) (k : Transport) (c : Chain) : Prop :=
  ⟨k, .error (.failed c)⟩ ∈ report.outcome.records

/-- The end of the task's body has not been taken, and if it has come, and was a failure, and somebody can
still hear of it, it counts as heard. -/
structure Task.Untaken (t : Task) : Prop where
  held : t.held = t.isStarted
  heard : t.heard = true → ∀ c heard, t.fate? = some (.failed c heard) → heard = true

namespace Task

/-- The end of a body that has just been spawned has not been taken. -/
theorem untaken_spawn {t : Task} (h : t.Untaken) (m : Moment) (p : Plan) : (t.spawn m p).1.Untaken := by
  unfold spawn
  split
  · exact h
  · exact ⟨rfl, fun _ c heard hf => nomatch hf⟩

/-- Asking for the exit leaves a failure as audible as it was. -/
theorem untaken_notify {t : Task} (h : t.Untaken) :
    t.notify.1.Untaken ∧ t.notify.1.heard = t.heard := by
  unfold notify
  split
  · rename_i hkept
    have hheard : t.heard = true := by rw [Task.heard, hkept]; rfl
    exact ⟨⟨h.held, fun _ => h.heard hheard⟩, hheard.symm⟩
  · exact ⟨h, rfl⟩

/-- The failure is the end that the body has come to or, as long as it has come to none, one that it can come
to. -/
def ComesTo (t : Task) (c : Chain) (heard : Bool) : Prop :=
  t.fate? = some (.failed c heard) ∨ (t.fate? = none ∧ heard = t.heard)

/-- What a task comes to when it has gone on it comes to from before that as well. -/
theorem GoesOn.comesTo {t t' : Task} {c : Chain} {heard : Bool} (h : t.GoesOn t')
    (h' : t'.ComesTo c heard) : t.ComesTo c heard := by
  have hsame : t'.heard = t.heard := by rw [Task.heard, Task.heard, h.receiver]
  cases hfate : t.fate? with
  | none =>
    refine Or.inr ⟨hfate, ?_⟩
    rcases h' with hf | ⟨-, hheard⟩
    · exact h.heard hfate c heard hf
    · exact hheard.trans hsame
  | some f =>
    have hover := h.ended f hfate
    rcases h' with hf | ⟨hnone, -⟩
    · exact Or.inl (hfate.trans (hover.symm.trans hf))
    · rw [hover] at hnone
      cases hnone

end Task

namespace Supervisor

variable {s s' : Supervisor} {k : Transport} {t : Task}

/-! ## Until the trigger -/

/-- Starting everything takes the end of no body, and asks for no exit. -/
theorem untaken_startAll {name : String} (ht : s.slots.crew.get? name = some t) (hu : t.Untaken) :
    ∃ t', s.startAll.1.slots.crew.get? name = some t' ∧ t'.Untaken ∧ t'.receiver = t.receiver := by
  apply keeps_startAll (P := fun t' => t'.Untaken ∧ t'.receiver = t.receiver) _ ht ⟨hu, rfl⟩
  intro t' m p h
  exact ⟨Task.untaken_spawn h.1 m p, (Task.spawn_receiver t' m p).trans h.2⟩

/-- Starting everything changes nothing about how the transports behave. -/
theorem conduct_startAll (s : Supervisor) : s.startAll.1.slots.conduct = s.slots.conduct := by
  unfold startAll
  split
  · exact (s.tells_startEach Transport.startOrder).1.slots.conduct
  · rfl

/-- Giving up listening to some transports leaves the others' tasks as they are. -/
theorem get?_unhear (s : Supervisor) (ks : List Transport) (k : Transport) :
    (s.unhear ks).slots.crew.get? k.name =
      (s.slots.crew.get? k.name).map (if k ∈ ks then Task.unhear else id) := by
  show (ks.foldl (fun c k => c.unhear k.name) s.slots.crew).get? k.name = _
  generalize s.slots.crew = c
  induction ks generalizing c with
  | nil => exact (congrFun Option.map_id _).symm
  | cons j rest ih =>
    rw [List.foldl_cons, ih, Crew.unhear, Crew.get?_modify c (f := Task.unhear) (fun _ h => h)]
    by_cases hj : k = j
    · subst hj
      rw [if_pos rfl, if_pos List.mem_cons_self, Option.map_map]
      congr 1
      split <;> rfl
    · rw [if_neg (fun hname => hj (Transport.name_inj hname))]
      simp only [List.mem_cons, hj, false_or]

/-- A task when the wait has come to an end: it has been asked for its exit, and has gone on. -/
theorem get?_awake (signal : Option Signal) (limit : Option Nat) (first : Nat)
    (ht : s.slots.crew.get? k.name = some t) :
    (∃ ta, (s.awake signal limit first).slots.crew.get? k.name = some ta ∧ t.notify.1.GoesOn ta) ∧
      (k ∈ (notifyEach Transport.shutdownOrder s).2 ↔ t.receiver = .kept) := by
  obtain ⟨hnotified, hmem⟩ := get?_notifyEach_of_mem (by decide) (mem_shutdownOrder k) ht
  exact ⟨Crew.goesOn_await _ _ _ limit first k.name _ hnotified, hmem⟩

/-- The tasks after a wait: nobody listens to those that were listened to. -/
theorem get?_waitAny (s : Supervisor) (signal : Option Signal) (limit : Option Nat) (first : Nat)
    (k : Transport) :
    (s.waitAny signal limit first).2.slots.crew.get? k.name =
      ((s.awake signal limit first).slots.crew.get? k.name).map
        (if k ∈ (notifyEach Transport.shutdownOrder s).2 then Task.unhear else id) := by
  rw [← get?_unhear, waitAny_eq]
  split <;> rfl

/-- A trigger that is the exit of a transport is the one that its body has come to. -/
theorem exit_of_triggerOf {signal : Option Signal} {w : Wake} {x : Exit}
    (h : s.triggerOf signal w = some (.service k x)) : s.slots.exit? k = some x := by
  cases w with
  | signal =>
    obtain ⟨g, -, hg⟩ := Option.map_eq_some_iff.1 h
    cases hg
  | task name =>
    obtain ⟨j, -, hj⟩ := Option.bind_eq_some_iff.1 h
    obtain ⟨x', hx', heq⟩ := Option.map_eq_some_iff.1 hj
    obtain ⟨rfl, rfl⟩ := Trigger.service.inj heq
    exact hx'

/-- **A task when the trigger has been picked.** If it was listened to, nobody does any more, and its failure
is heard if it has come; and only what was listened to can be the trigger. -/
theorem task_of_waitAny {signal : Option Signal} {limit : Option Nat} {first : Nat} {trigger : Trigger}
    (hwait : s.waitAny signal limit first = (some trigger, s')) (ht : s.slots.crew.get? k.name = some t)
    (hu : t.Untaken) :
    ∃ t', s'.slots.crew.get? k.name = some t' ∧ t'.held = t'.isStarted ∧
      t'.exit? = (s.awake signal limit first).slots.exit? k ∧
      (∀ x, trigger = .service k x → t.receiver = .kept ∧ t'.exit? = some x) ∧
      (t.receiver = .kept → t'.receiver = .gone ∧ ∀ c heard, t'.fate? = some (.failed c heard) →
        heard = true) := by
  obtain ⟨⟨ta, hawake, hgo⟩, hmem⟩ := get?_awake signal limit first ht
  obtain ⟨hu', hheard⟩ := Task.untaken_notify hu
  have hexit : (s.awake signal limit first).slots.exit? k = ta.exit? := by
    rw [Slots.exit?, hawake, Option.bind_some]
  have hget := s.get?_waitAny signal limit first k
  rw [hwait, hawake, Option.map_some] at hget
  rw [waitAny_eq] at hwait
  -- some event was picked, since the wait has come back with a trigger
  cases htrig : (s.waited signal limit first).1.bind ((s.awake signal limit first).triggerOf signal) with
  | none =>
    rw [htrig] at hwait
    cases hwait
  | some picked =>
    rw [htrig] at hwait
    obtain ⟨htrigger, rfl⟩ := Prod.mk.inj hwait
    obtain rfl := Option.some.inj htrigger
    have hheld : ta.held = ta.isStarted := hgo.held.trans (hu'.held.trans hgo.started.symm)
    have hexited : ∀ x, picked = .service k x →
        t.receiver = .kept ∧ (s.awake signal limit first).slots.exit? k = some x := by
      intro x hx
      obtain ⟨w, hw, htriggered⟩ := Option.bind_eq_some_iff.1 htrig
      obtain ⟨trigger', htrigger', hheard'⟩ := trigger_of_waited hw
      obtain rfl := Option.some.inj (htriggered.symm.trans htrigger')
      exact ⟨hmem.1 (hheard' k x hx), exit_of_triggerOf (htriggered.trans (congrArg some hx))⟩
    rw [hexit] at hexited ⊢
    by_cases hkept : t.receiver = .kept
    · -- it was listened to until now
      rw [if_pos (hmem.2 hkept)] at hget
      refine ⟨ta.unhear, hget, hheld, rfl, hexited, fun _ => ⟨rfl, ?_⟩⟩
      have hloud : t.notify.1.heard = true := by
        rw [hheard, Task.heard, hkept]
        rfl
      intro c heard hf
      cases hfate : t.notify.1.fate? with
      | none => exact (hgo.heard hfate c heard hf).trans hloud
      | some f => exact hu'.heard hloud c heard (hfate.trans ((hgo.ended f hfate).symm.trans hf))
    · rw [if_neg (fun h => hkept (hmem.1 h))] at hget
      exact ⟨ta, hget, hheld, rfl, hexited, fun h => absurd h hkept⟩

/-! ## After the trigger -/

/-- **One round of shutting down, in a run that comes to its end.** -/
theorem shutdownEach_round {limit : Option Nat} {rest : List Transport} {records : List ShutdownRecord}
    (hrun : shutdownEach limit (k :: rest) s = (some (.ok records), s')) :
    (s.slots.enabled k = false ∧ shutdownEach limit rest s = (some (.ok records), s')) ∨
      ∃ limit' result records', records = ⟨k, result⟩ :: records' ∧
        resultOf (.ofMillis s.timeout) (s.slots.shutdown k s.timeout limit').1 = some result ∧
        shutdownEach limit rest (s.closed (s.slots.shutdown k s.timeout limit').2 ⟨k, result⟩) =
          (some (.ok records'), s') := by
  by_cases h : s.slots.enabled k = true
  · rcases shutdownEach_of_enabled limit rest h with ⟨result, hresult, heq⟩ | ⟨m, -, heq⟩ | ⟨-, heq⟩
    · rw [heq] at hrun
      obtain ⟨hr, rfl⟩ := Prod.mk.inj hrun
      obtain ⟨v, hv, he⟩ := Option.map_eq_some_iff.1 hr
      cases v with
      | error f => cases he
      | ok records' =>
        exact Or.inr ⟨_, result, records', (Except.ok.inj he).symm, hresult, Prod.ext hv rfl⟩
    · rw [heq] at hrun
      cases hrun
    · rw [heq] at hrun
      cases hrun
  · rw [shutdownEach_of_not_enabled limit rest h] at hrun
    exact Or.inl ⟨Bool.eq_false_iff.2 h, hrun⟩

/-- Shutting down other transports is nothing to a task but that time passes, and leaves no record of it. -/
theorem goesOn_shutdownEach {limit : Option Nat} {ks : List Transport} {records : List ShutdownRecord}
    (hk : k ∉ ks) (hrun : shutdownEach limit ks s = (some (.ok records), s')) :
    s.slots.crew.GoesOn s'.slots.crew k.name ∧ ∀ r ∈ records, r.kind ≠ k := by
  induction ks generalizing s records with
  | nil =>
    obtain ⟨hrecords, rfl⟩ := Prod.mk.inj hrun
    obtain rfl := Except.ok.inj (Option.some.inj hrecords)
    exact ⟨.refl _ _, fun _ h => nomatch h⟩
  | cons j rest ih =>
    have hne : k ≠ j := List.ne_of_not_mem_cons hk
    have hrest : k ∉ rest := List.not_mem_of_not_mem_cons hk
    rcases shutdownEach_round hrun with ⟨-, hrun'⟩ | ⟨limit', result, records', rfl, -, hrun'⟩
    · exact ih hrest hrun'
    · obtain ⟨hgo, hkinds⟩ := ih hrest hrun'
      have hround := s.slots.goesOn_shutdown_of_ne (fun hname => hne (Transport.name_inj hname))
        s.timeout limit'
      refine ⟨Crew.GoesOn.trans hround hgo, ?_⟩
      intro r hr
      rcases List.mem_cons.1 hr with rfl | hr
      · exact hne.symm
      · exact hkinds r hr

/-- What is written down of a task that was stopped, if its body failed. -/
theorem resultOf_failed (after : Span) (t : Task) (c : Chain) (heard : Bool) :
    resultOf after (some ((t.verdict (.failed c heard)).mapError fun e => .failed e.chain)) =
      some (if heard then .ok () else .error (.failed c)) := by
  cases heard <;> rfl

/-- **The record of a transport whose body failed**, in a run in which it was shut down in time: it tells of
the failure exactly if nobody could hear of it. -/
theorem shutdownEach_of_failed {limit : Option Nat} {ks : List Transport} {records : List ShutdownRecord}
    {c : Chain} {heard : Bool} (hks : ks.Nodup) (hk : k ∈ ks)
    (hrun : shutdownEach limit ks s = (some (.ok records), s'))
    (hclosing : (s.slots.conduct k).closing.HandsOn)
    (ht : s.slots.crew.get? k.name = some t) (hheld : t.held = t.isStarted)
    (hfate : (s'.slots.crew.get? k.name).bind (·.fate?) = some (.failed c heard))
    (hjoined : ∀ after, ⟨k, .error (.timeout after)⟩ ∉ records) :
    t.ComesTo c heard ∧
      ∀ result, ⟨k, result⟩ ∈ records ↔ result = if heard then .ok () else .error (.failed c) := by
  obtain ⟨t', ht', hfate'⟩ := Option.bind_eq_some_iff.1 hfate
  -- by induction on the transports: the round of the failed one settles it, the others pass it by
  induction ks generalizing s t records with
  | nil => cases hk
  | cons j rest ih =>
    obtain ⟨hj, hrest⟩ := List.nodup_cons.1 hks
    rcases shutdownEach_round hrun with ⟨hoff, hrun'⟩ | ⟨limit', result, records', rfl, hresult, hrun'⟩
    · rcases List.mem_cons.1 hk with rfl | hmem
      · rw [Slots.enabled, ht] at hoff
        cases hoff
      · exact ih hrest hmem hrun' hclosing ht hheld hjoined
    · by_cases hkj : k = j
      · subst hkj
        obtain ⟨hgo, hkinds⟩ := goesOn_shutdownEach hj hrun'
        rcases Slots.shutdown_cases hclosing ht hheld s.timeout limit' with
          ⟨t₁, t₁', f, hgo₁, hf, hv, hget, hf'⟩ | ⟨t₁, hget, hcannot⟩ | hnone
        · -- its end was taken, and the rounds after that leave it as it is
          obtain ⟨t₂, ht₂, hgo₂⟩ := hgo _ hget
          obtain rfl := Option.some.inj (ht₂.symm.trans ht')
          obtain rfl := Option.some.inj ((hgo₂.ended f hf').symm.trans hfate')
          rw [hv, resultOf_failed] at hresult
          obtain rfl := Option.some.inj hresult
          refine ⟨hgo₁.comesTo (Or.inl hf), ?_⟩
          intro result'
          constructor
          · intro hmem
            rcases List.mem_cons.1 hmem with heq | hmem
            · exact (ShutdownRecord.mk.inj heq).2
            · exact absurd rfl (hkinds _ hmem)
          · rintro rfl
            exact List.mem_cons_self
        · obtain ⟨t₂, ht₂, hgo₂⟩ := hgo _ hget
          obtain rfl := Option.some.inj (ht₂.symm.trans ht')
          exact absurd hfate' ((hgo₂.cannotFail hcannot).fate_ne_failed c heard)
        · rw [hnone] at hresult
          obtain rfl := Option.some.inj hresult
          exact absurd List.mem_cons_self (hjoined _)
      · -- the round of another transport
        have hmem := (List.mem_cons.1 hk).resolve_left hkj
        obtain ⟨t₁, ht₁, hgo₁⟩ := s.slots.goesOn_shutdown_of_ne
          (fun hname => hkj (Transport.name_inj hname)) s.timeout limit' t ht
        have hconduct : (s.slots.shutdown j s.timeout limit').2.conduct = s.slots.conduct :=
          (s.slots.tells_shutdown j s.timeout limit').conduct
        have hne : ∀ result', ⟨k, result'⟩ ∈ ⟨j, result⟩ :: records' ↔ ⟨k, result'⟩ ∈ records' := by
          intro result'
          refine ⟨fun h => (List.mem_cons.1 h).resolve_left ?_, List.mem_cons_of_mem _⟩
          exact fun heq => hkj (ShutdownRecord.mk.inj heq).1
        rw [← hconduct] at hclosing
        obtain ⟨hcomes, hrecords⟩ := ih (s := s.closed (s.slots.shutdown j s.timeout limit').2 ⟨j, result⟩)
          hrest hmem hrun' hclosing ht₁
          (hgo₁.held.trans (hheld.trans hgo₁.started.symm))
          (fun after h => hjoined after ((hne _).2 h))
        exact ⟨hgo₁.comesTo hcomes, fun result' => (hne result').trans (hrecords result')⟩

/-! ## A run -/

/-- **The stages of a run that comes to its end**: the wait for the trigger, and the shutting down of
everything, after which no body comes to an end. -/
theorem run_stages {signal : Option Signal} {limit : Option Nat} {first : Nat} {report : RunReport}
    (hrun : s.run signal limit first = (some (.ok report), s')) :
    ∃ v u, s.startAll.1.waitAny signal limit first = (some report.trigger, v) ∧
      v.slots.conduct = s.slots.conduct ∧
      shutdownEach limit Transport.shutdownOrder v = (some (.ok report.outcome.records), u) ∧
      ∀ name f, (s'.slots.crew.get? name).bind (·.fate?) = some f →
        (u.slots.crew.get? name).bind (·.fate?) = some f := by
  rcases s.startAll.1.waitAny_cases signal limit first with
    ⟨trigger, v, hwait, htells, hphase, -, -⟩ | ⟨v, hwait, -, -, -⟩
  · have hconduct : v.slots.conduct = s.slots.conduct := htells.slots.conduct.trans s.conduct_startAll
    have hbegin : (v.phase == .shuttingDown) = true := by
      rw [hphase]
      decide
    rcases hshut : shutdownEach limit Transport.shutdownOrder v with ⟨r, u⟩
    simp only [run, runWith, id, hwait, shutdownAll, hbegin, if_true, hshut] at hrun
    rcases r with _ | (f | records)
    · cases hrun
    · cases hrun
    · obtain ⟨hreport, rfl⟩ := Prod.mk.inj hrun
      obtain rfl := Except.ok.inj (Option.some.inj hreport)
      exact ⟨v, u, hwait, hconduct, hshut, fun name f hf => Crew.fate_of_close hf⟩
  · simp only [run, runWith, id, hwait] at hrun
    cases hrun

/-- **Where a failure is told.** If a body failed and its task was stopped in time, the report tells of the
failure at most once, as the trigger or as the record. It tells of it exactly if nobody could hear the failure
when it came, or the transport gave the trigger. If nobody had asked for the transport's exit before the run,
somebody could hear the failure exactly if it was there when the trigger was picked. -/
theorem failure_told_iff {signal : Option Signal} {limit : Option Nat} {first : Nat} {report : RunReport}
    {c : Chain} {heard : Bool}
    (hrun : s.run signal limit first = (some (.ok report), s'))
    (ht : s.slots.crew.get? k.name = some t) (huntaken : t.Untaken)
    (hclosing : (s.slots.conduct k).closing.HandsOn)
    (hfailed : (s'.slots.crew.get? k.name).bind (·.fate?) = some (.failed c heard))
    (hjoined : ∀ after, ⟨k, .error (.timeout after)⟩ ∉ report.outcome.records) :
    ¬ (report.TellsAsTrigger k c ∧ report.TellsAsRecord k c) ∧
      (report.TellsAsTrigger k c ∨ report.TellsAsRecord k c ↔
        heard = false ∨ ∃ x, report.trigger = .service k x) ∧
      (t.receiver = .kept →
        (heard = true ↔ ((s.startAll.1.awake signal limit first).slots.exit? k).isSome = true)) := by
  obtain ⟨v, u, hwait, hconduct, hshut, hend⟩ := run_stages hrun
  obtain ⟨t₁, ht₁, huntaken₁, hreceiver⟩ := untaken_startAll ht huntaken
  obtain ⟨t₂, ht₂, hheld, hexit, hpicked, hquiet⟩ := task_of_waitAny hwait ht₁ huntaken₁
  rw [← hconduct] at hclosing
  obtain ⟨hcomes, hrecords⟩ := shutdownEach_of_failed (by decide) (mem_shutdownOrder k) hshut hclosing ht₂
    hheld (hend _ _ hfailed) hjoined
  rw [hreceiver] at hpicked hquiet
  -- if it was listened to: it was there when the trigger was picked, or nobody listened any more
  have htime : t.receiver = .kept → (heard = true ↔ t₂.exit?.isSome = true) := by
    intro hkept
    obtain ⟨hgone, hloud⟩ := hquiet hkept
    rcases hcomes with hfate | ⟨hnone, hheard⟩
    · simp only [Task.exit?, hfate, Option.map_some, Option.isSome_some, iff_true]
      exact hloud c heard hfate
    · rw [hheard, Task.heard, hgone, Task.exit?, hnone]
      decide
  have hrecord : report.TellsAsRecord k c ↔ heard = false := by
    rw [RunReport.TellsAsRecord, hrecords]
    cases heard with
    | false => exact iff_of_true rfl rfl
    | true => simp only [if_true, reduceCtorEq]
  -- what was picked is what the body had come to
  have htrigger : ∀ x, report.trigger = .service k x → heard = true ∧ x = .failed c := by
    intro x hx
    obtain ⟨hkept, hexited⟩ := hpicked x hx
    have hheard : heard = true := (htime hkept).2 (by rw [hexited, Option.isSome_some])
    rcases hcomes with hfate | ⟨hnone, -⟩
    · rw [Task.exit?, hfate] at hexited
      exact ⟨hheard, (Option.some.inj hexited).symm⟩
    · rw [Task.exit?, hnone] at hexited
      cases hexited
  refine ⟨?_, ?_, ?_⟩
  · rintro ⟨hasTrigger, hasRecord⟩
    have hheard := (htrigger _ hasTrigger).1
    rw [hrecord.1 hasRecord] at hheard
    cases hheard
  · constructor
    · rintro (hasTrigger | hasRecord)
      · exact Or.inr ⟨_, hasTrigger⟩
      · exact Or.inl (hrecord.1 hasRecord)
    · rintro (hunheard | ⟨x, hx⟩)
      · exact Or.inr (hrecord.2 hunheard)
      · obtain ⟨-, rfl⟩ := htrigger x hx
        exact Or.inl hx
  · intro hkept
    rw [htime hkept, hexit]

/-! ### Failures at one time

The bodies of two transports fail at the same time, and the body of a third one, which has some work left after
its task has been stopped, fails when it is asked to stop. Of the first two one is picked as the trigger, and the
failure of the other one is lost. -/

/-- How the transports behave. -/
def tied : Transport → Conduct
  | .http => { plan := { serve := some { delay := 5, ending := some (.error (.failed ⟨"no socket", []⟩)) } } }
  | .grpc => { plan := { serve := some { delay := 5, ending := some (.error (.failed ⟨"no stream", []⟩)) } } }
  | .amqp =>
    { plan := { leave := { delay := 2, ending := some (.error (.failed ⟨"no channel", []⟩)) } }
      closing := .stopping {} fun stopped => { delay := 3, ending := some (stopped.mapError .failed) } }
  | .nats => {}

/-- The transports but the last, built and under supervision. -/
def tiedStart : Supervisor :=
  ofSlots (Slots.construct { conduct := tied } (· != .nats) fun _ => {}).2 50

/-- What their run reports. -/
def tiedReport : RunReport where
  trigger := .service .http (.failed ⟨"no socket", []⟩)
  outcome := ⟨[⟨.http, .ok ()⟩, ⟨.grpc, .ok ()⟩, ⟨.amqp, .error (.failed ⟨"no channel", []⟩)⟩]⟩

/-- Of three failures in one run the first is told as the trigger, the second is not told at all because nobody
listens to it any more, and the third is told where its transport is shut down. -/
theorem tied_failures_told :
    (tiedStart.run none none).1 = some (.ok tiedReport) ∧
      tiedReport.TellsAsTrigger .http ⟨"no socket", []⟩ ∧
      ¬ (tiedReport.TellsAsTrigger .grpc ⟨"no stream", []⟩ ∨
        tiedReport.TellsAsRecord .grpc ⟨"no stream", []⟩) ∧
      (tiedReport.TellsAsTrigger .amqp ⟨"no channel", []⟩ ∨
        tiedReport.TellsAsRecord .amqp ⟨"no channel", []⟩) := by
  have hrun : tiedStart.run none none = (some (.ok tiedReport), (tiedStart.run none none).2) := rfl
  have hfresh : ∀ k : Transport, Task.Untaken { name := k.name } :=
    fun k => ⟨rfl, fun _ _ _ h => nomatch h⟩
  have hsteady : ∀ k, (tied k).closing.HandsOn := by
    rintro (_ | _ | _ | _) <;> exact ⟨_, _, rfl, rfl, fun _ => rfl⟩
  have hjoined : ∀ k after, ⟨k, .error (.timeout after)⟩ ∉ tiedReport.outcome.records := by
    intro k after h
    simp [tiedReport] at h
  have hgrpc : ((tiedStart.run none none).2.slots.crew.get? Transport.grpc.name).bind (·.fate?) =
      some (.failed ⟨"no stream", []⟩ true) := rfl
  have hamqp : ((tiedStart.run none none).2.slots.crew.get? Transport.amqp.name).bind (·.fate?) =
      some (.failed ⟨"no channel", []⟩ false) := rfl
  refine ⟨rfl, rfl, ?_, ?_⟩
  · -- it was heard, and another one was picked
    rw [(failure_told_iff hrun rfl (hfresh .grpc) (hsteady .grpc) hgrpc (hjoined .grpc)).2.1]
    rintro (h | ⟨x, h⟩)
    · cases h
    · cases h
  · -- it came when nobody could hear it any more
    exact (failure_told_iff hrun rfl (hfresh .amqp) (hsteady .amqp) hamqp (hjoined .amqp)).2.1.2 (Or.inl rfl)

/-- The report of the run tells nowhere of a failure of a body, although its transport was shut down in
time. -/
def Loses (s : Supervisor) (signal : Option Signal) (k : Transport) (c : Chain) : Prop :=
  ∃ report s' heard, s.run signal none = (some (.ok report), s') ∧
    (s'.slots.crew.get? k.name).bind (·.fate?) = some (.failed c heard) ∧
    ⟨k, .ok ()⟩ ∈ report.outcome.records ∧ ¬ (report.TellsAsTrigger k c ∨ report.TellsAsRecord k c)

/-- A transport whose body fails before the run begins, and somebody else has heard of it. -/
def overheardStart : Supervisor :=
  let fails : Conduct :=
    { plan := { serve := some { delay := 20, ending := some (.error (.failed ⟨"no socket", []⟩)) } } }
  let built := (Slots.construct { conduct := fun _ => fails } (· == .http) fun _ => {}).2
  let asked := ((built.start .http).1.notify .http).1
  let listened := (asked.crew.listen Transport.http.name true 30).2
  ofSlots { asked with crew := listened.unhear Transport.http.name } 50

/-- **Failures can be lost**: one that comes together with the one that is picked, and one that somebody else
has heard of before the run. -/
theorem failures_can_be_lost :
    tiedStart.Loses none .grpc ⟨"no stream", []⟩ ∧
      overheardStart.Loses (some ⟨"SIGTERM", 5⟩) .http ⟨"no socket", []⟩ := by
  constructor
  · refine ⟨tiedReport, _, true, rfl, rfl, List.mem_cons_of_mem _ List.mem_cons_self, ?_⟩
    rintro (h | h)
    · cases h
    · simp [RunReport.TellsAsRecord, tiedReport] at h
  · refine ⟨⟨.signal "SIGTERM", ⟨[⟨.http, .ok ()⟩]⟩⟩, _, true, rfl, rfl, List.mem_cons_self, ?_⟩
    rintro (h | h)
    · cases h
    · simp [RunReport.TellsAsRecord] at h

end Supervisor

end Phrasebook.Lifecycle
