import Phrasebook.Lifecycle.Construction
import Phrasebook.Proofs.Lifecycle.Release
import Phrasebook.Proofs.Lifecycle.Slots
/-!
# A build that fails under guard

Transports are built while resources are held, and one of them cannot be built. Then it is the last that
was tried; those built before it are dropped without ever having been started; and after that, not before,
the resources are released as `Released` has it. The failure comes out of the guard with the transport's
name around it. This is `guard_of_failed_build`.

It holds as long as no release breaks down. If one does, the failure is lost and so are the resources that
were acquired before it (`failed_build_strands_resources`).
-/

set_option autoImplicit false

namespace Phrasebook.Lifecycle

/-! ## Building, with the times

No transport runs while others are built, so the waits for the builds let nothing happen but them. -/

namespace Crew

variable {c : Crew}

/-- Where no body runs time passes without anything being done. -/
theorem advance_of_idle (hidle : ∀ t ∈ c.tasks, t.body = none) (limit : Nat) : c.advance limit = c := by
  have hquiet : (c.tasks.map (·.advance limit)).flatMap (·.2) = [] := by
    rw [List.flatMap_eq_nil_iff]
    intro p hp
    obtain ⟨t, ht, rfl⟩ := List.mem_map.1 hp
    rw [Task.advance_of_body_none limit (hidle t ht)]
  have htasks := tasks_advance hidle limit
  have htrace : (c.advance limit).trace = c.trace := by
    simp only [advance, hquiet, List.mergeSort_nil, List.map_nil, List.append_nil]
  rw [show c.advance limit = { c with tasks := (c.advance limit).tasks, trace := (c.advance limit).trace }
    from rfl, htasks, htrace]

/-- So work is done after its delay, and nothing else has changed. -/
theorem work_of_idle (hidle : ∀ t ∈ c.tasks, t.body = none) {w : Work} {e : Except Failure Unit}
    (hend : w.ending = some e) : c.work w none = (some e, { c with now := c.now + w.delay }) := by
  have hat : w.endAt? c.now = some (c.now + w.delay, e) := by rw [Work.endAt?, hend, Option.map_some]
  simp only [work, hat, within, if_true, sleepUntil, advance_of_idle hidle]

end Crew

namespace Slots

variable {wanted : Transport → Bool} {build : Transport → Work}

/-- How long it takes to build some transports, one after the other. -/
def buildTime (build : Transport → Work) : List Transport → Nat
  | [] => 0
  | j :: rest => (build j).delay + buildTime build rest

/-- Building takes its time, and only the building is told. -/
theorem trace_withBuilt {s : Slots} {k : Transport} {w : Work} (hidle : ∀ t ∈ s.crew.tasks, t.body = none)
    (hok : w.ending = some (.ok ())) :
    (s.withBuilt k w).crew.trace = s.crew.trace ++
        [(s.crew.now, .constructing k), (s.crew.now + w.delay, .constructed k)] ∧
      (s.withBuilt k w).crew.now = s.crew.now + w.delay := by
  have hwork := Crew.work_of_idle (c := (s.emit (.constructing k)).crew) hidle hok
  simp only [withBuilt, hwork]
  exact ⟨List.append_assoc .., rfl⟩

/-- **Builds up to one that fails.** Those before it that are wanted are there, unused; the ones after it
are not touched; and the time is that of the failure. -/
theorem constructEach_of_failed {k : Transport} {e : Chain} (hwanted : wanted k = true)
    (hfail : (build k).ending = some (.error (.failed e))) (before after : List Transport)
    (hbuild : ∀ j ∈ before, wanted j = true → (build j).ending = some (.ok ())) {s : Slots}
    (h : s.Unbuilt before) :
    ∃ s' built, constructEach wanted build (before ++ k :: after) s =
        (some (.error (.failed (e.context ("failed to construct " ++ k.name)))), s') ∧
      s'.crew.trace = s.crew.trace ++ built ∧
      built.map (·.2) = before.flatMap (building wanted) ++ [.constructing k] ∧
      s'.crew.tasks = s.crew.tasks ++ (before.filter wanted).map (fun j => { name := j.name }) ∧
      s'.crew.now = s.crew.now + buildTime build (before.filter wanted ++ [k]) := by
  -- by induction on the transports before the one that fails, each built or told as disabled
  induction before generalizing s with
  | nil =>
    have hwork := Crew.work_of_idle (c := (s.emit (.constructing k)).crew) h.idle hfail
    let failed : Crew := { (s.emit (.constructing k)).crew with now := s.crew.now + (build k).delay }
    refine ⟨{ s.emit (.constructing k) with crew := failed }, [(s.crew.now, .constructing k)], ?_, rfl, rfl,
      (List.append_nil _).symm, ?_⟩
    · simp only [List.nil_append, constructEach, hwanted, Bool.not_true, Bool.false_eq_true, if_false, hwork]
      rfl
    · rw [List.filter_nil, List.nil_append, buildTime, buildTime, Nat.add_zero]
  | cons j rest ih =>
    have hbuild' : ∀ i ∈ rest, wanted i = true → (build i).ending = some (.ok ()) :=
      fun i hi => hbuild i (List.mem_cons_of_mem _ hi)
    by_cases hw : wanted j = true
    · have hok := hbuild j List.mem_cons_self hw
      obtain ⟨hbuilt, hlater⟩ := trace_withBuilt (k := j) h.idle hok
      obtain ⟨s', built, heq, htrace, hevents, htasks, hnow⟩ := ih hbuild' (h.withBuilt (build j))
      refine ⟨s', [(s.crew.now, .constructing j), (s.crew.now + (build j).delay, .constructed j)] ++ built,
        ?_, ?_, ?_, ?_, ?_⟩
      · rw [List.cons_append, constructEach_of_ok hw hok, heq]
      · rw [htrace, hbuilt, List.append_assoc]
      · rw [List.map_append, hevents, List.flatMap_cons, building, if_pos hw, List.append_assoc]
        rfl
      · rw [htasks, h.tasks_withBuilt, List.filter_cons_of_pos hw, List.map_cons, List.append_assoc]
        rfl
      · rw [hnow, hlater, List.filter_cons_of_pos hw, List.cons_append, buildTime, Nat.add_assoc]
    · obtain ⟨s', built, heq, htrace, hevents, htasks, hnow⟩ := ih hbuild' (h.emit (.disabled j))
      refine ⟨s', (s.crew.now, .disabled j) :: built, ?_, ?_, ?_, ?_, ?_⟩
      · rw [List.cons_append, constructEach_of_not_wanted hw, heq]
      · rw [htrace]
        exact List.append_assoc ..
      · rw [List.map_cons, hevents, List.flatMap_cons, building, if_neg hw]
        rfl
      · rw [htasks, List.filter_cons_of_neg hw]
        rfl
      · rw [hnow, List.filter_cons_of_neg hw]
        rfl

/-- Transports that have just a fresh task each are those that are there. -/
theorem kinds_of_tasks {s : Slots} {before after : List Transport}
    (horder : Transport.constructOrder = before ++ after)
    (htasks : s.crew.tasks = (before.filter wanted).map fun j => { name := j.name }) :
    s.kinds = before.filter wanted := by
  -- the crew has a task for just the wanted ones of the first part
  have henabled : ∀ j, s.enabled j = true ↔ j ∈ before.filter wanted := by
    intro j
    rw [enabled, Crew.get?_isSome, Crew.names, htasks, List.map_map, List.mem_map]
    constructor
    · rintro ⟨i, hi, hname⟩
      rw [← Transport.name_inj hname]
      exact hi
    · intro hj
      exact ⟨j, hj, rfl⟩
  have hnodup : (before ++ after).Nodup := horder ▸ by decide
  have hafter : after.filter s.enabled = [] := by
    rw [List.filter_eq_nil_iff]
    intro j hj hthere
    have hbefore := (List.mem_filter.1 ((henabled j).1 hthere)).1
    exact (List.nodup_append.1 hnodup).2.2 j hbefore j hj rfl
  rw [kinds, horder, List.filter_append, hafter, List.append_nil]
  refine List.filter_congr ?_
  intro j hj
  rw [Bool.eq_iff_iff, henabled, List.mem_filter]
  exact and_iff_right hj

/-- Dropping tells of each transport that is there and takes no time. -/
theorem trace_drop (s : Slots) :
    s.drop.crew.trace = s.crew.trace ++ s.kinds.map (fun k => (s.crew.now, .dropped k)) ∧
      s.drop.crew.now = s.crew.now := by
  have hloop : ∀ (ks : List Transport) (s : Slots),
      (ks.foldl (fun s k => s.emit (.dropped k)) s).crew.trace =
          s.crew.trace ++ ks.map (fun k => (s.crew.now, .dropped k)) ∧
        (ks.foldl (fun s k => s.emit (.dropped k)) s).crew.now = s.crew.now := by
    intro ks
    induction ks with
    | nil => exact fun s => ⟨(List.append_nil _).symm, rfl⟩
    | cons k rest ih =>
      intro s
      obtain ⟨htrace, hnow⟩ := ih (s.emit (.dropped k))
      refine ⟨?_, hnow⟩
      rw [List.foldl_cons, htrace]
      exact List.append_assoc ..
  exact hloop s.kinds s

end Slots

/-! ## What a log tells of transports -/

namespace Event

/-- The transport whose building begins. -/
def attempt? : Event → Option Transport
  | .constructing k => some k
  | _ => none

/-- The transport that has been built. -/
def built? : Event → Option Transport
  | .constructed k => some k
  | _ => none

/-- The transport that is dropped. -/
def dropped? : Event → Option Transport
  | .dropped k => some k
  | _ => none

/-- Whether a transport is started or shut down. -/
def isOfRun : Event → Bool
  | .starting _ | .started _ | .shuttingDown _ | .shutDown _ | .shutdownFailed .. => true
  | _ => false

end Event

/-- What is told of releases is not told of a run. -/
theorem Released.isOfRun_eq_false {limit t u : Nat} {rs : List Resource} {log : List (Nat × Event)}
    (h : Released limit t rs log u) : ∀ x ∈ log, x.2.isOfRun = false := by
  induction h with
  | nothing => exact fun x hx => nomatch hx
  | well _ _ _ ih => simpa only [List.forall_mem_cons] using ⟨rfl, rfl, rfl, ih⟩
  | badly _ _ _ ih => simpa only [List.forall_mem_cons] using ⟨rfl, rfl, rfl, ih⟩
  | late _ _ ih => simpa only [List.forall_mem_cons] using ⟨rfl, rfl, ih⟩

namespace Slots

variable {wanted : Transport → Bool}

/-- What a reading finds in the building of one wanted transport, and of none that is not wanted, it finds once
for each wanted one. -/
theorem filterMap_building {f : Event → Option Transport}
    (hf : ∀ k, (building wanted k).filterMap f = if wanted k = true then [k] else [])
    (ks : List Transport) : (ks.flatMap (building wanted)).filterMap f = ks.filter wanted := by
  induction ks with
  | nil => rfl
  | cons k rest ih =>
    rw [List.flatMap_cons, List.filterMap_append, ih, hf]
    by_cases hw : wanted k = true
    · rw [if_pos hw, List.filter_cons_of_pos hw]
      rfl
    · rw [if_neg hw, List.filter_cons_of_neg hw]
      rfl

/-- Each wanted transport is attempted once. -/
theorem attempt?_building (k : Transport) :
    (building wanted k).filterMap Event.attempt? = if wanted k = true then [k] else [] := by
  unfold building
  split <;> rfl

/-- Each wanted transport is built once. -/
theorem built?_building (k : Transport) :
    (building wanted k).filterMap Event.built? = if wanted k = true then [k] else [] := by
  unfold building
  split <;> rfl

/-- Building is told by three kinds of events. -/
theorem mem_building {ks : List Transport} {e : Event} (he : e ∈ ks.flatMap (building wanted)) :
    ∃ k, e = .disabled k ∨ e = .constructing k ∨ e = .constructed k := by
  obtain ⟨k, -, he⟩ := List.mem_flatMap.1 he
  refine ⟨k, ?_⟩
  unfold building at he
  split at he
  · rcases List.mem_cons.1 he with rfl | he
    · exact Or.inr (Or.inl rfl)
    · exact Or.inr (Or.inr (List.mem_singleton.1 he))
  · exact Or.inl (List.mem_singleton.1 he)

/-- The transports that come before one in the order of construction. -/
def preceding (k : Transport) : List Transport := Transport.constructOrder.takeWhile (· != k)

/-- The transports before one are those that come before it in the order of building. -/
theorem exists_constructOrder_eq (k : Transport) :
    ∃ after, Transport.constructOrder = preceding k ++ k :: after := by
  cases k
  · exact ⟨[.nats, .grpc, .http], rfl⟩
  · exact ⟨[.grpc, .http], rfl⟩
  · exact ⟨[.http], rfl⟩
  · exact ⟨[], rfl⟩

/-- What is told when the building of a transport fails: first the building up to it, and in the end that
those before it are dropped. -/
def failing (wanted : Transport → Bool) (k : Transport) : List Event :=
  (preceding k).flatMap (building wanted) ++
    .constructing k :: ((preceding k).filter wanted).map .dropped

/-- A build that fails has been attempted after all the wanted ones before it. -/
theorem attempt?_failing (k : Transport) :
    (failing wanted k).filterMap Event.attempt? = (preceding k).filter wanted ++ [k] := by
  have hdropped : (((preceding k).filter wanted).map Event.dropped).filterMap Event.attempt? = [] := by
    rw [List.filterMap_map, List.filterMap_eq_nil_iff]
    exact fun _ _ => rfl
  rw [failing, List.filterMap_append, filterMap_building attempt?_building,
    List.filterMap_cons_some (f := Event.attempt?) rfl, hdropped]

/-- The wanted ones before it have been built, and it has not. -/
theorem built?_failing (k : Transport) :
    (failing wanted k).filterMap Event.built? = (preceding k).filter wanted := by
  have hdropped : (((preceding k).filter wanted).map Event.dropped).filterMap Event.built? = [] := by
    rw [List.filterMap_map, List.filterMap_eq_nil_iff]
    exact fun _ _ => rfl
  rw [failing, List.filterMap_append, filterMap_building built?_building,
    List.filterMap_cons_none (f := Event.built?) rfl, hdropped, List.append_nil]

/-- Just these are dropped again. -/
theorem dropped?_failing (k : Transport) :
    (failing wanted k).filterMap Event.dropped? = (preceding k).filter wanted := by
  have hbuilding : ((preceding k).flatMap (building wanted)).filterMap Event.dropped? = [] := by
    rw [List.filterMap_eq_nil_iff]
    intro e he
    obtain ⟨j, rfl | rfl | rfl⟩ := mem_building he <;> rfl
  rw [failing, List.filterMap_append, hbuilding, List.nil_append,
    List.filterMap_cons_none (f := Event.dropped?) rfl, List.filterMap_map]
  exact List.filterMap_some

/-- A build that fails is told by events of construction only: nothing is started, shut down or released. -/
theorem part_failing {k : Transport} : ∀ e ∈ failing wanted k, e.part = .slots := by
  intro e he
  rcases List.mem_append.1 he with he | he
  · obtain ⟨j, rfl | rfl | rfl⟩ := mem_building he <;> rfl
  · rcases List.mem_cons.1 he with rfl | he
    · rfl
    · obtain ⟨j, -, rfl⟩ := List.mem_map.1 he
      rfl

end Slots

/-- What is told of the transports is not told of releases. -/
theorem Event.isOfRun_of_part {e : Event} (h : e.part = .slots) : e.isOfRun = false := by
  cases e <;> first | rfl | cases h

/-- Nor is any release begun by it. -/
theorem begun_of_part {log : List (Nat × Event)} (h : ∀ e ∈ log.map (·.2), e.part = .slots) :
    begun log = [] := by
  rw [begun, List.filterMap_eq_nil_iff]
  rintro ⟨t, e⟩ hx
  have hpart : e.part = .slots := h e (List.mem_map_of_mem hx)
  cases e <;> first | rfl | cases hpart

namespace Scope

/-! ## Under guard -/

variable (s : Scope) (conduct : Transport → Conduct) {wanted : Transport → Bool} {build : Transport → Work}
  {k : Transport} {e : Chain}

/-- **The failure as the guard sees it**: its time, and what has been told by then. -/
theorem buildAll_of_failed (hwanted : wanted k = true)
    (hfail : (build k).ending = some (.error (.failed e)))
    (hfirst : ∀ j ∈ Slots.preceding k, wanted j = true → (build j).ending = some (.ok ())) :
    ∃ log, s.buildAll conduct wanted build =
        (.error (.failed (e.context ("failed to construct " ++ k.name))),
          { s with
            now := s.now + Slots.buildTime build ((Slots.preceding k).filter wanted ++ [k])
            trace := s.trace ++ log }) ∧
      log.map (·.2) = Slots.failing wanted k := by
  obtain ⟨after, horder⟩ := Slots.exists_constructOrder_eq k
  have hnodup : (Slots.preceding k).Nodup :=
    (by decide : Transport.constructOrder.Nodup).sublist (List.takeWhile_sublist _)
  -- nothing is there at first, so every name is new and no task runs
  obtain ⟨slots, built, heq, htrace, hevents, htasks, hnow⟩ :=
    Slots.constructEach_of_failed hwanted hfail _ after hfirst
      (Slots.unbuilt_of_tasks_nil (s := { conduct, crew := { now := s.now, trace := s.trace } }) hnodup rfl)
  have hconstruct : Slots.construct { conduct, crew := { now := s.now, trace := s.trace } } wanted build =
      (some (.error (.failed (e.context ("failed to construct " ++ k.name)))), slots) := by
    rw [Slots.construct, horder, ← heq]
  have hkinds : slots.kinds = (Slots.preceding k).filter wanted := Slots.kinds_of_tasks horder htasks
  obtain ⟨hdropped, hstill⟩ := slots.trace_drop
  rw [hkinds, htrace, List.append_assoc] at hdropped
  refine ⟨built ++ ((Slots.preceding k).filter wanted).map fun j => (slots.crew.now, .dropped j), ?_, ?_⟩
  · simp only [buildAll, construct, hconstruct, Option.map_some, Option.getD_some, hdropped, hstill, hnow]
    rfl
  · rw [List.map_append, hevents, List.map_map, Slots.failing, List.append_assoc]
    rfl

/-- **A failed build leaves nothing behind.** Let `k` be the first of the wanted transports that cannot be
built, and let the scope hold any resources. Then:
* the failure comes out of the guard, with the name of `k` around it;
* building was tried for the wanted transports up to `k`, in the order of construction;
* those before `k` were built, and all of them are dropped;
* no transport was started or shut down;
* no release began before the failure, and from then on each resource is released once, the last acquired
  first, until none is left. -/
theorem guard_of_failed_build (hwanted : wanted k = true)
    (hfail : (build k).ending = some (.error (.failed e)))
    (hfirst : ∀ j ∈ Slots.preceding k, wanted j = true → (build j).ending = some (.ok ()))
    (hsound : ∀ r ∈ s.resources, r.Sound) :
    let before := (Slots.preceding k).filter wanted
    let failure := s.now + Slots.buildTime build (before ++ [k])
    let told := e.context ("failed to construct " ++ k.name)
    ∃ t built log, s.guard (buildAll conduct wanted build) = (.error (.failed told), t) ∧
      t.trace = s.trace ++ built ++ (failure, .exiting told) :: log ∧
      built.filterMap (·.2.attempt?) = before ++ [k] ∧
      built.filterMap (·.2.built?) = before ∧
      built.filterMap (·.2.dropped?) = before ∧
      (∀ x ∈ built ++ log, x.2.isOfRun = false) ∧
      begun built = [] ∧
      begun log = s.names.reverse ∧
      (∀ x ∈ log, failure ≤ x.1) ∧
      Released s.timeout failure s.resources log t.now ∧
      t.names = [] := by
  intro before failure told
  obtain ⟨built, hbuild, hevents⟩ := s.buildAll_of_failed conduct hwanted hfail hfirst
  obtain ⟨t, log, hguard, hempty, htrace, hreleased⟩ :=
    s.guard_of_sound (buildAll conduct wanted build) hbuild hsound
  have hread : ∀ {β : Type} (f : Event → Option β),
      built.filterMap (fun x => f x.2) = (Slots.failing wanted k).filterMap f := by
    intro β f
    rw [← hevents, List.filterMap_map]
    rfl
  have hpart : ∀ e ∈ built.map (·.2), e.part = .slots := hevents ▸ Slots.part_failing
  refine ⟨t, built, log, hguard, ?_, ?_, ?_, ?_, ?_, begun_of_part hpart, ?_, ?_, hreleased, ?_⟩
  · rw [htrace, List.append_assoc _ _ log]
    rfl
  · rw [hread, Slots.attempt?_failing]
  · rw [hread, Slots.built?_failing]
  · rw [hread, Slots.dropped?_failing]
  · intro x hx
    rcases List.mem_append.1 hx with hx | hx
    · exact Event.isOfRun_of_part (hpart x.2 (List.mem_map_of_mem hx))
    · exact hreleased.isOfRun_eq_false x hx
  · rw [hreleased.begun_eq, names, List.reverse_reverse]
  · intro x hx
    exact (hreleased.time_mem x hx).1
  · rw [names, hempty]
    rfl

/-- Builds of which the one of the transport over HTTP fails, after a while. -/
def refused : Transport → Work
  | .http => { delay := 20, ending := some (.error (.failed ⟨"refused", []⟩)) }
  | _ => { delay := 5 }

/-- Everything but the second broker is wanted. -/
def withoutNats (k : Transport) : Bool := k != .nats

/-- The transport over HTTP cannot be built: the two that were built are dropped, and what is registered is
released after that, the last first. -/
theorem troubled_guard_of_failed_build :
    (∀ r ∈ troubled.resources, r.Sound) ∧
      ∃ t, ∃ built log : List (Nat × Event), troubled.guard (buildAll (fun _ => {}) withoutNats refused) =
          (.error (.failed ⟨"refused", ["failed to construct http"]⟩), t) ∧
        built.filterMap (·.2.dropped?) = [.amqp, .grpc] ∧
        begun log = ["redis", "tracer"] ∧ (∀ x ∈ log, 30 ≤ x.1) ∧ t.names = [] := by
  have hsound : ∀ r ∈ troubled.resources, r.Sound := by
    intro r hr
    simp only [troubled, List.mem_cons, List.not_mem_nil, or_false] at hr
    rcases hr with rfl | rfl <;> rintro m ⟨⟩
  have hfirst : ∀ j ∈ Slots.preceding .http, withoutNats j = true → (refused j).ending = some (.ok ()) := by
    intro j hj _
    cases j with
    | http => exact absurd hj (by decide)
    | _ => rfl
  obtain ⟨t, built, log, hguard, -, -, -, hdropped, -, -, hbegun, htime, -, hnames⟩ :=
    @guard_of_failed_build troubled (fun _ => {}) withoutNats refused .http ⟨"refused", []⟩ rfl rfl hfirst
      hsound
  exact ⟨hsound, t, built, log, hguard, hdropped, hbegun, htime, hnames⟩

/-- A scope that holds a resource whose release breaks down, acquired after another one. -/
def fragile : Scope :=
  { timeout := 50
    resources := [⟨"redis", { ending := some (.error (.broke "boom")) }⟩, ⟨"tracer", {}⟩] }

/-- Builds of which the first one fails. -/
def refusedAtOnce : Transport → Work := fun _ => { ending := some (.error (.failed ⟨"refused", []⟩)) }

/-- **A release that breaks down** puts itself in the place of the failure, and what was acquired before is
never released. -/
theorem failed_build_strands_resources :
    refusedAtOnce .amqp = { ending := some (.error (.failed ⟨"refused", []⟩)) } ∧
      ∃ t, fragile.guard (buildAll (fun _ => {}) (· == .amqp) refusedAtOnce) = (.error (.broke "boom"), t) ∧
        t.names = ["tracer"] ∧ begun t.trace = ["redis"] := by
  obtain ⟨log, hbuild, hevents⟩ := @buildAll_of_failed fragile (fun _ => {}) (· == .amqp) refusedAtOnce .amqp
    ⟨"refused", []⟩ rfl rfl (fun j hj => nomatch hj)
  have hlog : begun log = [] := begun_of_part (hevents ▸ Slots.part_failing)
  refine ⟨rfl, _, by rw [guard, hbuild]; rfl, rfl, ?_⟩
  change begun (([] ++ log) ++ [_] ++ [_]) = _
  simp only [begun, List.nil_append, List.filterMap_append] at hlog ⊢
  rw [hlog]
  rfl

end Scope

end Phrasebook.Lifecycle
