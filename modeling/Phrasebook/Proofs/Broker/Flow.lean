import Mathlib.Data.List.Basic
import Mathlib.Data.List.Induction
import Phrasebook.Proofs.Broker.Story
/-!
# The loop and all its jobs

`Reached` says where a loop can get: by its own moves, the moves of its jobs in any order, and the notices that
handlers leave. `Change` lists what one move does to the loop, and everything else is by induction on the moves:

* a permit is free, or with the loop, or with a job that is not over (`Reached.balanced`);
* every job has told its own story, and nothing is told of a job that there is not (`Reached.told`);
* the loop is over when, and only when, it has been ended, and then every job is over and it has told of its
  release last (`Reached.closing`).

The lead result, `each_message_is_handled_once`, puts these together.
-/

set_option autoImplicit false

namespace Phrasebook.Broker

/-- The message that a move brings. -/
def Move.delivery? : Move → Option Delivery
  | .deliver d => some d
  | _ => none

/-- How a move ends the taking of messages. -/
def Move.ending? : Move → Option Ending
  | .stop => some .stopped
  | .close c => some (.failed c)
  | _ => none

namespace Loop

/-- How many jobs are not over. -/
def unfinished (l : Loop) : Nat := l.jobs.countP (·.progress != .over)

/-- How many permits the loop itself holds. -/
def held (l : Loop) : Nat := if l.phase = .listening then 1 else 0

/-- What has been told of a job. -/
def story (l : Loop) (i : Nat) : List Event := l.trace.filter (·.job? == some i)

/-- A job has told something and stands somewhere else. -/
def turn (l : Loop) (i : Nat) (events : List Event) (p : Progress) : Loop :=
  { l with
    jobs := l.jobs.modify i ({ · with progress := p })
    free := if p == .over then l.free + 1 else l.free
    trace := l.trace ++ events }

/-- A job that stands somewhere is there, with its message. -/
theorem at?_eq_some {l : Loop} {i : Nat} {p : Progress} {d : Delivery} (h : l.at? i p = some d) :
    l.jobs[i]? = some ⟨d, p⟩ := by
  obtain ⟨job, hjob, rfl⟩ := Option.map_eq_some_iff.1 h
  obtain ⟨hget, hp⟩ := Option.filter_eq_some_iff.1 hjob
  rw [hget, ← eq_of_beq hp]

/-- The taking of messages ends. -/
def ended (l : Loop) (e : Ending) (free : Nat) : Loop := { l with free }.drain e

/-- Of the end of the taking nothing is told but, by some, that no more is wanted. -/
theorem ended_eq (l : Loop) (e : Ending) (free : Nat) :
    ∃ events : List Event, (∀ x ∈ events, x = .unsubscribed) ∧
      l.ended e free = { l with free, phase := .draining e, trace := l.trace ++ events } := by
  rw [ended, drain]
  split
  · exact ⟨[], (fun x hx => nomatch hx), by rw [List.append_nil]⟩
  · exact ⟨[.unsubscribed], fun x hx => List.mem_singleton.1 hx, rfl⟩

/-- What a move does to the loop. -/
inductive Change (l : Loop) : Move → Loop → Prop where
  | reserve (hp : l.phase = .reserving) (hfree : 0 < l.free) :
    Change l .reserve { l with phase := .listening, free := l.free - 1 }
  | deliver (d : Delivery) (hp : l.phase = .listening) :
    Change l (.deliver d)
      { l with phase := .reserving, jobs := l.jobs ++ [{ delivery := d }],
               trace := l.trace ++ [.taken l.jobs.length d] }
  | finish {m : Move} {e : Ending} (hm : m.ending? = some e)
      (hp : l.phase = .reserving ∨ l.phase = .listening) : Change l m (l.ended e (l.free + l.held))
  | turn {m : Move} {i : Nat} {d : Delivery} {p p' : Progress} {events : List Event}
      (hjob : l.jobs[i]? = some ⟨d, p⟩) (ht : Turn l.kind i d p m events p') : Change l m (l.turn i events p')
  | release {e : Ending} (hp : l.phase = .draining e) (hidle : l.isIdle = true) :
    Change l .release { l with phase := .closed e, trace := l.trace ++ [.released, .finished] }

/-- A job that stands where a turn begins makes the turn. -/
theorem change_of_at? {l : Loop} {m : Move} {i : Nat} {p : Progress} {f : Delivery → Loop} {l' : Loop}
    (h : (l.at? i p).map f = some l')
    (hturn : ∀ d, ∃ events p', Turn l.kind i d p m events p' ∧ f d = l.turn i events p') : Change l m l' := by
  obtain ⟨d, hd, rfl⟩ := Option.map_eq_some_iff.1 h
  obtain ⟨events, p', ht, hf⟩ := hturn d
  rw [hf]
  exact .turn (at?_eq_some hd) ht

/-- Messages are acknowledged at one of the brokers. -/
theorem acknowledges_iff (l : Loop) : l.acknowledges = true ↔ l.kind = .amqp := beq_iff_eq

/-- What depends on acknowledging depends on which broker it is. -/
theorem acknowledges_ite (l : Loop) (p q : Progress) :
    (if l.acknowledges then p else q) = if l.kind = .amqp then p else q := by
  by_cases hk : l.kind = .amqp
  · rw [if_pos hk, if_pos ((acknowledges_iff l).2 hk)]
  · rw [if_neg hk, if_neg fun h => hk ((acknowledges_iff l).1 h)]

/-! ### One move after another

`change_of_step` gathers what each of the moves does, with one lemma for each kind of move that asks for more
than where a job stands. -/

section Moves

variable {l l' : Loop} {m : Move} {e : Ending}

/-- The loop gets a permit where it waits for one and one is free. -/
theorem change_of_reserve (h : l.step? .reserve = some l') : Change l .reserve l' := by
  obtain ⟨hcan, hl'⟩ := Option.ite_none_right_eq_some.1 h
  rw [Bool.and_eq_true, beq_iff_eq, decide_eq_true_iff] at hcan
  obtain rfl := Option.some.inj hl'
  exact .reserve hcan.1 hcan.2

/-- A message is taken where the loop waits for it. -/
theorem change_of_deliver {d : Delivery} (h : l.step? (.deliver d) = some l') : Change l (.deliver d) l' := by
  obtain ⟨hp, hl'⟩ := Option.ite_none_right_eq_some.1 h
  obtain rfl := Option.some.inj hl'
  exact .deliver d (eq_of_beq hp)

/-- A loop that waits for a permit ends with the permits that are free. -/
theorem change_of_reserving (hm : m.ending? = some e) (hp : l.phase = .reserving) : Change l m (l.drain e) := by
  have hends := Change.finish hm (Or.inl hp)
  rwa [held, hp, if_neg (fun h => nomatch h)] at hends

/-- A loop that listens holds a permit, and gives it back as it ends. -/
theorem change_of_listening (hm : m.ending? = some e) (hp : l.phase = .listening) :
    Change l m ({ l with free := l.free + 1 }.drain e) := by
  have hends := Change.finish hm (Or.inr hp)
  rwa [held, hp, if_pos rfl] at hends

/-- A stop is seen in both of the places where the loop waits. -/
theorem change_of_stop (h : l.step? .stop = some l') : Change l .stop l' := by
  rw [step?] at h
  split at h
  · rename_i hp
    obtain rfl := Option.some.inj h
    exact change_of_reserving rfl hp
  · rename_i hp
    obtain rfl := Option.some.inj h
    exact change_of_listening rfl hp
  · cases h

/-- That no more messages can come is seen only where the loop waits for one. -/
theorem change_of_close {c : Chain} (h : l.step? (.close c) = some l') : Change l (.close c) l' := by
  obtain ⟨hp, hl'⟩ := Option.ite_none_right_eq_some.1 h
  obtain rfl := Option.some.inj hl'
  exact change_of_listening rfl (eq_of_beq hp)

/-- Only a job that has an answer publishes, and only where there is an address. -/
theorem change_of_publish {i : Nat} {result : Except Chain Unit} (h : l.step? (.publish i result) = some l') :
    Change l (.publish i result) l' := by
  rw [step?] at h
  split at h
  · rename_i d r hjob
    split at h
    · rename_i a ha
      obtain rfl := Option.some.inj h
      rw [acknowledges_ite]
      exact .turn hjob (.publish ha)
    · rename_i a c ha
      obtain rfl := Option.some.inj h
      exact .turn hjob (.failPublish c ha)
    · cases h
  · cases h

/-- The connection is let go when the taking of messages has ended and every job is over. -/
theorem change_of_release (h : l.step? .release = some l') : Change l .release l' := by
  rw [step?] at h
  split at h
  · rename_i e hp
    obtain ⟨hidle, hl'⟩ := Option.ite_none_right_eq_some.1 h
    obtain rfl := Option.some.inj hl'
    have hlast := Change.release hp hidle
    simpa only [emit, List.append_assoc, List.cons_append, List.nil_append] using hlast
  · cases h

/-- An answer waits to be published if there is an address, and is dropped if there is none. -/
theorem answered_eq_turn (l : Loop) (i : Nat) (d : Delivery) (r : Rpc.Reply) :
    ∃ events p', Turn l.kind i d .asked (.answer i r) events p' ∧ l.answered i d r = l.turn i events p' := by
  rw [answered]
  cases ha : d.replyTo with
  | some a => exact ⟨_, _, .answer r ha, by rw [turn, List.append_nil]; rfl⟩
  | none =>
    refine ⟨_, _, .drop r ha, ?_⟩
    rw [acknowledges_ite]
    rfl

end Moves

/-- **Everything a move can do.** -/
theorem change_of_step {l l' : Loop} {m : Move} (h : l.step? m = some l') : Change l m l' := by
  cases m with
  | reserve => exact change_of_reserve h
  | deliver d => exact change_of_deliver h
  | stop => exact change_of_stop h
  | close c => exact change_of_close h
  | dispatch i => exact change_of_at? h fun d => ⟨_, _, .dispatch, rfl⟩
  | answer i r => exact change_of_at? h fun d => answered_eq_turn l i d r
  | breakDown i => exact change_of_at? h fun d => ⟨_, _, .breakDown, rfl⟩
  | publish i result => exact change_of_publish h
  | confirm i result =>
    cases result with
    | ok => exact change_of_at? h fun d => ⟨_, _, .confirm, rfl⟩
    | error c => exact change_of_at? h fun d => ⟨_, _, .failConfirm c, rfl⟩
  | acknowledge i result =>
    cases result with
    | ok => exact change_of_at? h fun d => ⟨_, _, .acknowledge, rfl⟩
    | error c => exact change_of_at? h fun d => ⟨_, _, .failAcknowledge c, rfl⟩
  | release => exact change_of_release h

/-- A loop that is reached from its start by these moves. Between two of them a handler that is at work may
leave a notice. -/
inductive Reached (k : Kind) : List Move → Loop → Prop where
  | start : Reached k [] (Loop.start k)
  | step {moves : List Move} {l l' : Loop} {m : Move} (h : Reached k moves l) (hm : l.step? m = some l') :
    Reached k (moves ++ [m]) l'
  | notice {moves : List Move} {l : Loop} {i : Nat} (h : Reached k moves l) (n : Rpc.Notice)
      (hi : (l.at? i .asked).isSome = true) : Reached k moves (l.emit (.noticed n))

variable {k : Kind} {l l' : Loop} {m : Move} {moves : List Move} {i : Nat} {d : Delivery} {p p' : Progress}
  {events : List Event}

/-- A turn puts one job in the place of another. -/
theorem jobs_turn (hjob : l.jobs[i]? = some ⟨d, p⟩) (events : List Event) (p' : Progress) :
    ∃ before later, l.jobs = before ++ ⟨d, p⟩ :: later ∧ before.length = i ∧
      (l.turn i events p').jobs = before ++ ⟨d, p'⟩ :: later := by
  obtain ⟨hi, hget⟩ := List.getElem?_eq_some_iff.1 hjob
  obtain ⟨before, job, later, hjobs, hlength, hmodify⟩ :=
    List.exists_of_modify (fun job : Job => { job with progress := p' }) hi
  have hsame : job = ⟨d, p⟩ := by
    simp only [hjobs, ← hlength, List.getElem_append_right (Nat.le_refl _), Nat.sub_self,
      List.getElem_cons_zero] at hget
    exact hget
  subst hsame
  exact ⟨before, later, hjobs, hlength, hmodify⟩

/-- After a turn its job stands elsewhere, and the others where they were. -/
theorem getElem?_turn (hjob : l.jobs[i]? = some ⟨d, p⟩) (events : List Event) (p' : Progress) (j : Nat) :
    (l.turn i events p').jobs[j]? = if j = i then some ⟨d, p'⟩ else l.jobs[j]? := by
  simp only [turn, List.getElem?_modify]
  by_cases hj : j = i
  · subst hj
    rw [hjob, if_pos rfl]
    simp
  · have hij : ¬ i = j := fun h => hj h.symm
    simp [hj, hij]

/-! ## Permits -/

/-- Every permit is free, or with the loop, or with a job that is not over. -/
def Balanced (l : Loop) : Prop := l.free + l.held + l.unfinished = permitLimit

/-- Each move keeps the balance: a permit goes from the loop to a job, or comes back when the job is over. -/
theorem Change.balanced (h : Change l m l') (hl : l.Balanced) : l'.Balanced := by
  rw [Balanced] at hl ⊢
  cases h with
  | reserve hp hfree =>
    have hheld : l.held = 0 := by rw [held, hp, if_neg (fun h => nomatch h)]
    have hheld' : ({ l with phase := .listening, free := l.free - 1 } : Loop).held = 1 := rfl
    rw [hheld] at hl
    rw [hheld']
    have hsame : ({ l with phase := .listening, free := l.free - 1 } : Loop).unfinished = l.unfinished := rfl
    rw [hsame]
    dsimp only
    omega
  | deliver d hp =>
    have hheld : l.held = 1 := by rw [held, hp, if_pos rfl]
    have hone : [({ delivery := d } : Job)].countP (·.progress != .over) = 1 := rfl
    rw [hheld] at hl
    simp only [held, unfinished, List.countP_append, hone, reduceCtorEq, if_false] at hl ⊢
    omega
  | finish hm hp =>
    obtain ⟨events, -, heq⟩ := ended_eq l _ (l.free + l.held)
    rw [heq]
    simp only [held, unfinished, reduceCtorEq, if_false] at hl ⊢
    omega
  | turn hjob ht =>
    obtain ⟨before, later, hjobs, -, hjobs'⟩ := jobs_turn hjob _ _
    have hbusy := ht.ne_over
    rename_i i d p p' events
    have hheld : (l.turn i events p').held = l.held := rfl
    have hfree : (l.turn i events p').free = if p' == .over then l.free + 1 else l.free := rfl
    rw [unfinished, hjobs, List.countP_append, List.countP_cons, if_pos (bne_iff_ne.2 hbusy)] at hl
    rw [unfinished, hjobs', List.countP_append, List.countP_cons, hheld, hfree]
    -- a job that is over gives back the permit that it held
    by_cases hover : p' = .over
    · rw [if_pos (beq_iff_eq.2 hover), if_neg (by simp [hover])]
      omega
    · rw [if_neg (by simp [hover]), if_pos (bne_iff_ne.2 hover)]
      omega
  | release hp hidle =>
    simp only [held, hp, unfinished, reduceCtorEq, if_false] at hl ⊢
    exact hl

/-- **Permits.** -/
theorem Reached.balanced (h : Reached k moves l) : l.Balanced := by
  induction h with
  | start => rfl
  | step _ hm ih => exact (change_of_step hm).balanced ih
  | notice _ n _ ih => exact ih

/-! ## Stories -/

/-- The loop has gone on to another one and has told this meanwhile. -/
def Tells (l : Loop) (events : List Event) (l' : Loop) : Prop := l'.trace = l.trace ++ events

/-- What is told of one job goes on with its story. -/
theorem Tells.story_self (h : Tells l events l') (hevents : ∀ e ∈ events, e.job? = some i) :
    l'.story i = l.story i ++ events := by
  have hall : events.filter (·.job? == some i) = events :=
    List.filter_eq_self.2 fun e he => beq_iff_eq.2 (hevents e he)
  rw [story, h, List.filter_append, hall, story]

/-- What is told of one job or of none changes no other story. -/
theorem Tells.story_of_ne (h : Tells l events l') {j : Nat} (hevents : ∀ e ∈ events, e.job? ≠ some j) :
    l'.story j = l.story j := by
  have hnone : events.filter (·.job? == some j) = [] := by
    rw [List.filter_eq_nil_iff]
    intro e he
    rw [beq_iff_eq]
    exact hevents e he
  rw [story, h, List.filter_append, hnone, List.append_nil, story]

/-- The loop has taken the messages that the moves bring, each job has told its own story, and nothing is told
of a job that there is not. -/
structure Told (k : Kind) (moves : List Move) (l : Loop) : Prop where
  kind : l.kind = k
  deliveries : l.jobs.map (·.delivery) = moves.filterMap Move.delivery?
  story : ∀ i job, l.jobs[i]? = some job → Story k i job.delivery job.progress (replies i moves) (l.story i)
  silent : ∀ i, l.jobs.length ≤ i → replies i moves = [] ∧ l.story i = []

/-- A move that brings no message and no answer, and nothing told of a job. -/
theorem Told.silently (h : Told k moves l) (hkind : l'.kind = l.kind) (hjobs : l'.jobs = l.jobs)
    (htells : Tells l events l') (hevents : ∀ e ∈ events, e.job? = none)
    (hdelivery : m.delivery? = none) (hreply : ∀ i, m.reply? i = none) : Told k (moves ++ [m]) l' := by
  have hreplies : ∀ i, replies i (moves ++ [m]) = replies i moves := by
    intro i
    rw [replies_append, replies_of_reply?_eq_none (hreply i), List.append_nil]
  -- events of no job are in no story
  have hstory : ∀ i, l'.story i = l.story i := by
    intro i
    refine htells.story_of_ne fun e he => ?_
    rw [hevents e he]
    exact (Option.some_ne_none i).symm
  refine ⟨hkind.trans h.kind, ?_, ?_, ?_⟩
  · rw [hjobs, h.deliveries, List.filterMap_append]
    simp only [List.filterMap_cons, hdelivery, List.filterMap_nil, List.append_nil]
  · intro i job hjob
    rw [hjobs] at hjob
    rw [hreplies, hstory]
    exact h.story i job hjob
  · intro i hi
    rw [hjobs] at hi
    rw [hreplies, hstory]
    exact h.silent i hi

/-- The next job begins its story, and the other stories are as they were. -/
theorem Told.deliver (h : Told k moves l) (d : Delivery) (hkind : l'.kind = l.kind)
    (hjobs : l'.jobs = l.jobs ++ [{ delivery := d }]) (htells : Tells l [.taken l.jobs.length d] l') :
    Told k (moves ++ [.deliver d]) l' := by
  have hreplies : ∀ i, replies i (moves ++ [.deliver d]) = replies i moves := by
    intro i
    rw [replies_append]
    exact List.append_nil _
  -- the new job takes the next number, so its story begins here and no other is touched
  have hnew : l'.story l.jobs.length = l.story l.jobs.length ++ [.taken l.jobs.length d] := by
    refine htells.story_self fun e he => ?_
    rw [List.mem_singleton.1 he]
    rfl
  have hold : ∀ j, j ≠ l.jobs.length → l'.story j = l.story j := by
    intro j hj
    refine htells.story_of_ne fun e he => ?_
    rw [List.mem_singleton.1 he]
    exact fun heq => hj (Option.some.inj heq).symm
  refine ⟨hkind.trans h.kind, ?_, ?_, ?_⟩
  · rw [hjobs, List.map_append, h.deliveries, List.filterMap_append]
    rfl
  · intro i job hjob
    rw [hjobs] at hjob
    rw [hreplies]
    by_cases hi : i = l.jobs.length
    · subst hi
      rw [List.getElem?_append_right (Nat.le_refl _), Nat.sub_self] at hjob
      obtain rfl := Option.some.inj hjob
      obtain ⟨hr, hs⟩ := h.silent _ (Nat.le_refl _)
      rw [hnew, hs, hr]
      exact .queued
    · have hlt : i < l.jobs.length := by
        have := (List.getElem?_eq_some_iff.1 hjob).1
        rw [List.length_append, List.length_singleton] at this
        omega
      rw [List.getElem?_append_left hlt] at hjob
      rw [hold i hi]
      exact h.story i job hjob
  · intro i hi
    rw [hjobs, List.length_append, List.length_singleton] at hi
    obtain ⟨hr, hs⟩ := h.silent i (by omega)
    exact ⟨(hreplies i).trans hr, (hold i (by omega)).trans hs⟩

/-- One job goes on with its story. -/
theorem Told.turn (h : Told k moves l) (hjob : l.jobs[i]? = some ⟨d, p⟩) (ht : Turn l.kind i d p m events p') :
    Told k (moves ++ [m]) (l.turn i events p') := by
  have htells : Tells l events (l.turn i events p') := rfl
  -- a turn tells of its own job only
  have hother : ∀ j, j ≠ i → (l.turn i events p').story j = l.story j := by
    intro j hj
    refine htells.story_of_ne fun e he => ?_
    rw [ht.job?_eq e he]
    exact fun heq => hj (Option.some.inj heq).symm
  have hdelivery : m.delivery? = none := by cases ht <;> rfl
  have hlt : i < l.jobs.length := (List.getElem?_eq_some_iff.1 hjob).1
  refine ⟨h.kind, ?_, ?_, ?_⟩
  · obtain ⟨before, later, hjobs, -, hjobs'⟩ := jobs_turn hjob events p'
    rw [List.filterMap_append]
    simp only [List.filterMap_cons, hdelivery, List.filterMap_nil, List.append_nil]
    rw [← h.deliveries, hjobs, hjobs']
    simp only [List.map_append, List.map_cons]
  · intro j job hj
    rw [getElem?_turn hjob] at hj
    rw [replies_append]
    split at hj
    · rename_i hji
      subst hji
      obtain rfl := Option.some.inj hj
      rw [htells.story_self ht.job?_eq]
      rw [h.kind] at ht
      exact (h.story j _ hjob).turn ht
    · rename_i hji
      rw [hother j hji, ht.replies_of_ne hji, List.append_nil]
      exact h.story j job hj
  · intro j hj
    -- the jobs behind the last are as silent as before, since a turn begins none
    have hsize : (l.turn i events p').jobs.length = l.jobs.length := List.length_modify ..
    have hji : j ≠ i := by omega
    rw [replies_append, hother j hji, ht.replies_of_ne hji, List.append_nil]
    exact h.silent j (by omega)

/-- Each move goes on with the story of one job at most. -/
theorem Change.told (h : Change l m l') (hl : Told k moves l) : Told k (moves ++ [m]) l' := by
  cases h with
  | reserve hp hfree =>
    exact hl.silently rfl rfl (List.append_nil _).symm (fun e he => nomatch he) rfl fun _ => rfl
  | deliver d hp => exact hl.deliver d rfl rfl rfl
  | finish hm hp =>
    obtain ⟨events, hevents, heq⟩ := ended_eq l _ (l.free + l.held)
    have hnobody : ∀ e ∈ events, e.job? = none := fun e he => by rw [hevents e he]; rfl
    rw [heq]
    cases m with
    | stop | close c => exact hl.silently rfl rfl rfl hnobody rfl fun _ => rfl
    | _ => cases hm
  | turn hjob ht => exact hl.turn hjob ht
  | release hp hidle =>
    refine hl.silently rfl rfl rfl ?_ rfl fun _ => rfl
    intro e he
    simp only [List.mem_cons, List.not_mem_nil, or_false] at he
    rcases he with rfl | rfl <;> rfl

/-- **Stories.** -/
theorem Reached.told (h : Reached k moves l) : Told k moves l := by
  induction h with
  | start => exact ⟨rfl, rfl, (fun i job hjob => nomatch hjob), fun i _ => ⟨rfl, rfl⟩⟩
  | step _ hm ih => exact (change_of_step hm).told ih
  | @notice moves l i _ n _ ih =>
    have htells : Tells l [.noticed n] (l.emit (.noticed n)) := rfl
    have hstory : ∀ j, (l.emit (.noticed n)).story j = l.story j := by
      intro j
      refine htells.story_of_ne fun e he => ?_
      rw [List.mem_singleton.1 he]
      exact fun heq => nomatch heq
    refine ⟨ih.kind, ih.deliveries, ?_, ?_⟩
    · intro i job hjob
      rw [hstory]
      exact ih.story i job hjob
    · intro i hi
      rw [hstory]
      exact ih.silent i hi

/-! ## The end -/

/-- How the taking of messages has ended, if it has. -/
def ending? (l : Loop) : Option Ending :=
  match l.phase with
  | .reserving | .listening => none
  | .draining e | .closed e => some e

/-- A loop whose taking has not ended is not over. -/
theorem phase_ne_closed_of_ending? (h : l.ending? = none) (e : Ending) : l.phase ≠ .closed e := by
  intro he
  rw [ending?, he] at h
  cases h

/-- The moves have ended the loop at most once, and as it says. It tells of its release when it is over: last,
once, and when every job is over. -/
structure Closing (moves : List Move) (l : Loop) : Prop where
  ending : moves.filterMap Move.ending? = l.ending?.toList
  unreleased : (∀ e, l.phase ≠ .closed e) → .released ∉ l.trace
  released : ∀ e, l.phase = .closed e →
    l.isIdle = true ∧ ∃ before, l.trace = before ++ [.released, .finished] ∧ .released ∉ before

/-- A loop with a job that is not over is not over. -/
theorem Closing.phase_ne_closed (h : Closing moves l) (hjob : l.jobs[i]? = some ⟨d, p⟩) (hp : p ≠ .over)
    (e : Ending) : l.phase ≠ .closed e := by
  intro hphase
  have hidle := (h.released e hphase).1
  rw [isIdle, List.all_eq_true] at hidle
  exact hp (eq_of_beq (hidle _ (List.mem_of_getElem? hjob)))

/-- A move that neither ends nor releases the loop. -/
theorem Closing.moved (h : Closing moves l) (hm : m.ending? = none) (hopen : ∀ e, l.phase ≠ .closed e)
    (hopen' : ∀ e, l'.phase ≠ .closed e) (hending : l'.ending? = l.ending?) (htells : Tells l events l')
    (hevents : .released ∉ events) : Closing (moves ++ [m]) l' := by
  refine ⟨?_, ?_, fun e he => absurd he (hopen' e)⟩
  · rw [List.filterMap_append, hending, ← h.ending]
    simp only [List.filterMap_cons, hm, List.filterMap_nil, List.append_nil]
  · intro _
    rw [htells, List.mem_append]
    exact fun hmem => hmem.elim (h.unreleased hopen) hevents

/-- Each move ends the taking once at most, and the release comes after that. -/
theorem Change.closing (h : Change l m l') (hl : Closing moves l) : Closing (moves ++ [m]) l' := by
  -- only the end of listening moves the phase on, and only the release closes it
  cases h with
  | reserve hp hfree =>
    have hending : l.ending? = none := by rw [ending?, hp]
    exact hl.moved rfl (phase_ne_closed_of_ending? hending) (fun e he => nomatch he) hending.symm
      (List.append_nil _).symm (fun he => nomatch he)
  | deliver d hp =>
    have hending : l.ending? = none := by rw [ending?, hp]
    have htells : ∀ l', l'.trace = l.trace ++ [.taken l.jobs.length d] → Tells l [.taken l.jobs.length d] l' :=
      fun _ h => h
    exact hl.moved rfl (phase_ne_closed_of_ending? hending) (fun e he => nomatch he) hending.symm
      (htells _ rfl) (by simp)
  | finish hm hp =>
    rename_i e
    obtain ⟨events, hevents, heq⟩ := ended_eq l e (l.free + l.held)
    have hending : l.ending? = none := by
      rcases hp with hp | hp <;> rw [ending?, hp]
    have hnone := hl.ending
    rw [hending] at hnone
    rw [heq]
    refine ⟨?_, ?_, fun e he => nomatch he⟩
    · rw [List.filterMap_append, hnone]
      simp only [List.filterMap_cons, hm, List.filterMap_nil]
      rfl
    · intro _ hmem
      rcases List.mem_append.1 hmem with hmem | hmem
      · exact hl.unreleased (phase_ne_closed_of_ending? hending) hmem
      · cases hevents _ hmem
  | turn hjob ht =>
    -- a job that can still turn shows that the channel is open
    rename_i i d p p' events
    have hopen := hl.phase_ne_closed hjob ht.ne_over
    have hm : m.ending? = none := by cases ht <;> rfl
    have hsilent : Event.released ∉ events := fun hmem => nomatch ht.job?_eq _ hmem
    exact hl.moved hm hopen hopen rfl rfl hsilent
  | release hp hidle =>
    rename_i e
    have hopen : ∀ e, l.phase ≠ .closed e := fun e he => by rw [hp] at he; cases he
    refine ⟨?_, fun hopen' => absurd rfl (hopen' e), fun e' he' => ⟨hidle, l.trace, rfl, hl.unreleased hopen⟩⟩
    rw [List.filterMap_append, hl.ending, ending?, hp]
    rfl

/-- **The end.** -/
theorem Reached.closing (h : Reached k moves l) : Closing moves l := by
  induction h with
  | start => exact ⟨rfl, fun _ hmem => by simp [Loop.start] at hmem, fun e he => nomatch he⟩
  | step _ hm ih => exact (change_of_step hm).closing ih
  | @notice moves l i _ n hi ih =>
    -- a handler is at work, so the loop is not over
    obtain ⟨d, hd⟩ := Option.isSome_iff_exists.1 hi
    have hopen := ih.phase_ne_closed (at?_eq_some hd) fun h => nomatch h
    refine ⟨ih.ending, fun _ hmem => ?_, fun e he => absurd he (hopen e)⟩
    rcases List.mem_append.1 hmem with hmem | hmem
    · exact ih.unreleased hopen hmem
    · cases List.mem_singleton.1 hmem

/-- When the taking of messages has ended and every job is over, the loop lets go and gives its result. -/
theorem release_of_idle {e : Ending} (hp : l.phase = .draining e) (hidle : ∀ job ∈ l.jobs, job.progress = .over) :
    ∃ l', l.step? .release = some l' ∧ l'.result? = some e.result := by
  have hidle' : l.isIdle = true := by
    rw [isIdle, List.all_eq_true]
    exact fun job hjob => beq_iff_eq.2 (hidle job hjob)
  simp only [step?, hp, hidle', if_true]
  exact ⟨_, rfl, rfl⟩

/-- The loop was asked to stop exactly if that is among the ends that the moves brought. -/
theorem stop_mem_iff (moves : List Move) : .stop ∈ moves ↔ .stopped ∈ moves.filterMap Move.ending? := by
  rw [List.mem_filterMap]
  constructor
  · exact fun h => ⟨.stop, h, rfl⟩
  · rintro ⟨m, hm, he⟩
    cases m with
    | stop => exact hm
    | _ => cases he

/-- No more messages could come exactly if that is among them. -/
theorem close_mem_iff (moves : List Move) (c : Chain) :
    .close c ∈ moves ↔ .failed c ∈ moves.filterMap Move.ending? := by
  rw [List.mem_filterMap]
  constructor
  · exact fun h => ⟨.close c, h, rfl⟩
  · rintro ⟨m, hm, he⟩
    cases m with
    | close c' =>
      cases he
      exact hm
    | _ => cases he

/-- What comes of the loop is what has ended it. -/
theorem Reached.result_iff (h : Reached k moves l) {r : Except Chain Unit} (hr : l.result? = some r) :
    (r = .ok () ↔ .stop ∈ moves) ∧ ∀ c, r = .error c ↔ .close c ∈ moves := by
  have hending := h.closing.ending
  rw [stop_mem_iff]
  simp only [close_mem_iff]
  rw [result?] at hr
  split at hr
  · rename_i e hp
    obtain rfl := Option.some.inj hr
    rw [ending?, hp] at hending
    rw [hending]
    cases e with
    | stopped => simp [Ending.result]
    | failed c => simp [Ending.result, eq_comm]
  · cases hr

/-- Where an acknowledgement stands in what is told: it is the only one for its message. -/
theorem Told.acknowledged (h : Told k moves l) {job : Job} (hjob : l.jobs[i]? = some job)
    {before later : List Event} (htrace : l.trace = before ++ .acknowledged i :: later) :
    k = .amqp ∧ .acknowledged i ∉ before ∧ .acknowledged i ∉ later ∧
      (job.delivery.replyTo = none ∨ .confirmed i ∈ before) := by
  have hown : ((Event.acknowledged i).job? == some i) = true := beq_self_eq_true _
  have hstory : l.story i = before.filter (·.job? == some i) ++
      .acknowledged i :: later.filter (·.job? == some i) := by
    simp only [Loop.story, htrace, List.filter_append, List.filter_cons, hown, if_true]
  have hmem : .acknowledged i ∈ l.story i := by
    rw [hstory]
    exact List.mem_append_right _ List.mem_cons_self
  obtain ⟨hk, t, ht, hfirst, hconfirmed⟩ := (h.story i job hjob).acknowledged_last hmem
  -- the story splits in one way only, because there is one acknowledgement in it
  obtain ⟨rfl, -, hlater⟩ :=
    (List.append_cons_inj_of_notMem hfirst List.not_mem_nil).1 (ht.symm.trans hstory)
  refine ⟨hk, fun hb => hfirst (List.mem_filter.2 ⟨hb, hown⟩), fun hb => ?_, ?_⟩
  · have hmem' : .acknowledged i ∈ later.filter (·.job? == some i) := List.mem_filter.2 ⟨hb, hown⟩
    rw [← hlater] at hmem'
    cases hmem'
  · exact hconfirmed.imp id fun hc => (List.mem_filter.1 hc).1

/-- **Each message is handled once.** Wherever a loop can get, by whatever messages, progress of its jobs,
failures, breakdowns and end:

* at most 32 jobs are not over;
* the messages taken are those that came, and what is told is told of them. Each has been dispatched once, as it
  is, or is still queued. Its reply is published at most once, to its own address and with its own mark of
  recognition, and is the one answer to its dispatch; once its job is over without a failure or a breakdown
  it has been published if there is an address;
* it is acknowledged at most once, only by the broker that wants it, and only after its reply had its confirmation
  or when there is nowhere to send it;
* the connection is let go once and last, when every job is over; and it is let go as soon as the loop has
  been ended and every job is over;
* what comes of the loop is no failure exactly if it was asked to stop, and otherwise the failure that ended
  it. -/
theorem each_message_is_handled_once (h : Reached k moves l) :
    l.unfinished ≤ 32 ∧
    l.jobs.map (·.delivery) = moves.filterMap Move.delivery? ∧
    (∀ e ∈ l.trace, ∀ i, e.job? = some i → i < l.jobs.length) ∧
    (∀ i job, l.jobs[i]? = some job →
      (l.story i).filterMap Event.dispatch? =
        (if job.progress = .queued then [] else [(job.delivery.handler, job.delivery.payload)]) ∧
      ((l.story i).filterMap Event.publication? = [] ∨
        ∃ a r, job.delivery.replyTo = some a ∧ replies i moves = [r] ∧
          (l.story i).filterMap Event.publication? = [(a, job.delivery.correlation, r)]) ∧
      (job.progress = .over → (l.story i).any Event.isTrouble = false → ∀ a, job.delivery.replyTo = some a →
        ∃ r, replies i moves = [r] ∧
          (l.story i).filterMap Event.publication? = [(a, job.delivery.correlation, r)]) ∧
      (∀ before later, l.trace = before ++ .acknowledged i :: later →
        k = .amqp ∧ .acknowledged i ∉ before ∧ .acknowledged i ∉ later ∧
          (job.delivery.replyTo = none ∨ .confirmed i ∈ before))) ∧
    (.released ∈ l.trace → (∀ job ∈ l.jobs, job.progress = .over) ∧
      ∃ before, l.trace = before ++ [.released, .finished] ∧ .released ∉ before) ∧
    (∀ e, l.phase = .draining e → (∀ job ∈ l.jobs, job.progress = .over) →
      ∃ l', l.step? .release = some l' ∧ l'.result? = some e.result) ∧
    (∀ r, l.result? = some r → (r = .ok () ↔ .stop ∈ moves) ∧ ∀ c, r = .error c ↔ .close c ∈ moves) := by
  have htold := h.told
  have hclosing := h.closing
  refine ⟨?_, htold.deliveries, ?_, ?_, ?_, fun e => release_of_idle, fun r => h.result_iff⟩
  · have := h.balanced
    rw [Balanced, permitLimit] at this
    omega
  · intro e he i hi
    by_contra hge
    have hsilent := (htold.silent i (by omega)).2
    rw [story, List.filter_eq_nil_iff] at hsilent
    exact hsilent e he (beq_iff_eq.2 hi)
  · intro i job hjob
    have hstory := htold.story i job hjob
    refine ⟨hstory.dispatches_eq, hstory.publications_eq, ?_, fun before later => htold.acknowledged hjob⟩
    intro hover hwell a ha
    rw [hover] at hstory
    exact hstory.published_of_over ha hwell
  · intro hreleased
    -- a release that was told has been reached through the closing phase
    have hclosed : ∃ e, l.phase = .closed e := by
      by_contra hopen
      exact hclosing.unreleased (fun e he => hopen ⟨e, he⟩) hreleased
    obtain ⟨e, he⟩ := hclosed
    obtain ⟨hidle, hlast⟩ := hclosing.released e he
    rw [isIdle, List.all_eq_true] at hidle
    exact ⟨fun job hjob => eq_of_beq (hidle job hjob), hlast⟩

/-- A loop that makes these moves reaches where they lead. -/
theorem reached_of_moves (moves : List Move) (h : moves.foldlM Loop.step? (Loop.start k) = some l) :
    Reached k moves l := by
  induction moves using List.reverseRecOn generalizing l with
  | nil =>
    obtain rfl := Option.some.inj h
    exact .start
  | append_singleton moves m ih =>
    rw [List.foldlM_append] at h
    obtain ⟨l', hl', hm⟩ := Option.bind_eq_some_iff.1 h
    rw [List.foldlM_cons, Option.bind_eq_bind, Option.bind_eq_some_iff] at hm
    obtain ⟨l'', hm', hl''⟩ := hm
    obtain rfl := Option.some.inj hl''
    exact .step (ih hl') hm'

/-- Three messages at once, of which one wants no reply and one breaks its handler down; then the loop is
asked to stop while they are handled. -/
def rush : List Move :=
  [.reserve, .deliver ⟨"v1.getHistory", [], some "replies", some "7"⟩, .reserve, .dispatch 0,
    .deliver ⟨"v1.getHistory", [], none, none⟩, .reserve, .deliver ⟨"v1.translate", [0x7B], some "replies", none⟩,
    .dispatch 2, .dispatch 1, .breakDown 2, .stop, .answer 1 ⟨.success, [0x31]⟩, .answer 0 ⟨.success, [0x30]⟩,
    .publish 0 (.ok ()), .acknowledge 1 (.ok ()), .confirm 0 (.ok ()), .acknowledge 0 (.ok ()), .release]

/-- All messages of the rush are handled, also the one whose handler breaks down, and the loop ends well as it was
asked to. -/
theorem rush_handles_each_message_once :
    ∃ l, Reached .amqp rush l ∧ l.unfinished ≤ 32 ∧
      (l.story 0).filterMap Event.publication? = [("replies", some "7", ⟨.success, [0x30]⟩)] ∧
      l.result? = some (.ok ()) := by
  have hreached : Reached .amqp rush ((Loop.start .amqp).run rush) := reached_of_moves rush rfl
  have hjob : ((Loop.start .amqp).run rush).jobs[0]? =
      some ⟨⟨"v1.getHistory", [], some "replies", some "7"⟩, .over⟩ := rfl
  have hreplies : replies 0 rush = [⟨.success, [0x30]⟩] := rfl
  obtain ⟨hbound, -, -, hjobs, -⟩ := each_message_is_handled_once hreached
  obtain ⟨r, hr, hpublished⟩ := (hjobs 0 _ hjob).2.2.1 rfl (by decide) "replies" rfl
  obtain rfl : r = ⟨.success, [0x30]⟩ := List.singleton_inj.1 (hr.symm.trans hreplies)
  exact ⟨_, hreached, hbound, hpublished, rfl⟩

end Loop

end Phrasebook.Broker
