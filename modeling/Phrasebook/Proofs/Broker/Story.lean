import Phrasebook.Broker.Loop
/-!
# What becomes of one message

The loop hands each message to a job of its own. `Story` lists what a job has told by the time it stands
somewhere, without the loop around it: every story begins with the taking of the message and its dispatch, and
there are few ways in which it goes on. `Turn` lists the moves of a job, one by one. A job that makes a turn
goes on with its story (`Story.turn`), and whatever is to be said about one message is read off its story.
-/

set_option autoImplicit false

namespace Phrasebook.Broker

/-- The job that an event is about. -/
def Event.job? : Event → Option Nat
  | .taken i _ | .dispatched i _ _ | .published i _ _ _ | .dropped i _ | .confirmed i | .acknowledged i
  | .failed i _ | .broke i => some i
  | .subscribed | .noticed _ | .unsubscribed | .released | .finished => none

/-- The answer that a move brings to a job. -/
def Move.reply? (i : Nat) : Move → Option Rpc.Reply
  | .answer j r => if j = i then some r else none
  | _ => none

/-- The answers that moves bring to a job. -/
def replies (i : Nat) (moves : List Move) : List Rpc.Reply := moves.filterMap (·.reply? i)

/-- The answers that moves bring come in the order of the moves. -/
theorem replies_append (i : Nat) (moves later : List Move) :
    replies i (moves ++ later) = replies i moves ++ replies i later :=
  List.filterMap_append

/-- A move that is no answer for a job brings it none. -/
theorem replies_of_reply?_eq_none {i : Nat} {m : Move} (h : m.reply? i = none) : replies i [m] = [] := by
  rw [replies, List.filterMap_cons_none h, List.filterMap_nil]

section

variable (k : Kind) (i : Nat) (d : Delivery)

/-- Where a job goes in one move, and what it tells. -/
inductive Turn : Progress → Move → List Event → Progress → Prop where
  | dispatch : Turn .queued (.dispatch i) [.dispatched i d.handler d.payload] .asked
  | breakDown : Turn .asked (.breakDown i) [.broke i] .over
  | answer {a : String} (r : Rpc.Reply) (ha : d.replyTo = some a) : Turn .asked (.answer i r) [] (.answered r)
  | drop (r : Rpc.Reply) (hn : d.replyTo = none) :
    Turn .asked (.answer i r) [.dropped i d.handler] (if k = .amqp then .settled else .over)
  | publish {a : String} {r : Rpc.Reply} (ha : d.replyTo = some a) :
    Turn (.answered r) (.publish i (.ok ())) [.published i a d.correlation r]
      (if k = .amqp then .published else .over)
  | failPublish {a : String} {r : Rpc.Reply} (c : Chain) (ha : d.replyTo = some a) :
    Turn (.answered r) (.publish i (.error c)) [.failed i c] .over
  | confirm : Turn .published (.confirm i (.ok ())) [.confirmed i] .settled
  | failConfirm (c : Chain) : Turn .published (.confirm i (.error c)) [.failed i c] .over
  | acknowledge : Turn .settled (.acknowledge i (.ok ())) [.acknowledged i] .over
  | failAcknowledge (c : Chain) : Turn .settled (.acknowledge i (.error c)) [.failed i c] .over

/-- How every story begins. -/
def opening : List Event := [.taken i d, .dispatched i d.handler d.payload]

/-- What is told between the answer and the acknowledgement: the reply is published and has its confirmation, or
there is nowhere to send it. -/
inductive Settling (r : Rpc.Reply) : List Event → Prop where
  | confirmed {a : String} (ha : d.replyTo = some a) :
    Settling r [.published i a d.correlation r, .confirmed i]
  | dropped (hn : d.replyTo = none) : Settling r [.dropped i d.handler]

/-- What a job has told by the time it stands somewhere, and which answers it has got. -/
inductive Story : Progress → List Rpc.Reply → List Event → Prop where
  | queued : Story .queued [] [.taken i d]
  | asked : Story .asked [] (opening i d)
  | broke : Story .over [] (opening i d ++ [.broke i])
  | answered {a : String} {r : Rpc.Reply} (ha : d.replyTo = some a) : Story (.answered r) [r] (opening i d)
  | unpublished {a : String} {r : Rpc.Reply} {c : Chain} (ha : d.replyTo = some a) :
    Story .over [r] (opening i d ++ [.failed i c])
  | published {a : String} {r : Rpc.Reply} (hk : k = .amqp) (ha : d.replyTo = some a) :
    Story .published [r] (opening i d ++ [.published i a d.correlation r])
  | unconfirmed {a : String} {r : Rpc.Reply} {c : Chain} (hk : k = .amqp) (ha : d.replyTo = some a) :
    Story .over [r] (opening i d ++ [.published i a d.correlation r, .failed i c])
  | settled {r : Rpc.Reply} {s : List Event} (hk : k = .amqp) (hs : Settling i d r s) :
    Story .settled [r] (opening i d ++ s)
  | acknowledged {r : Rpc.Reply} {s : List Event} (hk : k = .amqp) (hs : Settling i d r s) :
    Story .over [r] (opening i d ++ s ++ [.acknowledged i])
  | unacknowledged {r : Rpc.Reply} {s : List Event} {c : Chain} (hk : k = .amqp) (hs : Settling i d r s) :
    Story .over [r] (opening i d ++ s ++ [.failed i c])
  | replied {a : String} {r : Rpc.Reply} (hk : k = .nats) (ha : d.replyTo = some a) :
    Story .over [r] (opening i d ++ [.published i a d.correlation r])
  | dropped {r : Rpc.Reply} (hk : k = .nats) (hn : d.replyTo = none) :
    Story .over [r] (opening i d ++ [.dropped i d.handler])

end

variable {k : Kind} {i : Nat} {d : Delivery} {p p' : Progress} {m : Move} {rs : List Rpc.Reply}
  {s events : List Event}

/-! ## Turns -/

namespace Turn

/-- A job tells of itself. -/
theorem job?_eq (h : Turn k i d p m events p') : ∀ e ∈ events, e.job? = some i := by
  cases h with
  | answer => exact fun e he => nomatch he
  | dispatch | breakDown | drop | publish | failPublish | confirm | failConfirm | acknowledge | failAcknowledge =>
    intro e he
    rw [List.mem_singleton.1 he]
    rfl

/-- The answer that a turn brings is for the job that makes it. -/
theorem replies_of_ne (h : Turn k i d p m events p') {j : Nat} (hne : j ≠ i) : replies j [m] = [] := by
  have hreply : m.reply? j = none := by
    cases h with
    | answer r | drop r => exact if_neg fun hij => hne hij.symm
    | _ => rfl
  exact replies_of_reply?_eq_none hreply

/-- A job that is over makes no turn. -/
theorem ne_over (h : Turn k i d p m events p') : p ≠ .over := by
  cases h <;> exact fun heq => nomatch heq

end Turn

/-- An answer for a job is brought to it. -/
theorem replies_self (i : Nat) (r : Rpc.Reply) : replies i [.answer i r] = [r] := by
  simp [replies, Move.reply?]

/-- What is not the one broker is the other. -/
theorem kind_eq_nats_of_ne (h : k ≠ .amqp) : k = .nats := by
  cases k with
  | amqp => exact absurd rfl h
  | nats => rfl

/-- **A turn goes on with the story.** -/
theorem Story.turn (h : Story k i d p rs s) (ht : Turn k i d p m events p') :
    Story k i d p' (rs ++ replies i [m]) (s ++ events) := by
  have hnone : ∀ m : Move, m.reply? i = none → rs ++ replies i [m] = rs := by
    intro m hm
    rw [replies_of_reply?_eq_none hm, List.append_nil]
  -- a turn begins where only one story has come to, so each case has one way to go on
  cases ht with
  | dispatch =>
    rw [hnone _ rfl]
    cases h with
    | queued => exact .asked
  | breakDown =>
    rw [hnone _ rfl]
    cases h with
    | asked => exact .broke
  | answer r ha =>
    rw [replies_self, List.append_nil]
    cases h with
    | asked => exact .answered ha
  | drop r hn =>
    rw [replies_self]
    cases h with
    | asked =>
      split
      · rename_i hk
        exact .settled hk (.dropped hn)
      · rename_i hk
        exact .dropped (kind_eq_nats_of_ne hk) hn
  | publish ha =>
    rw [hnone _ rfl]
    cases h with
    | answered =>
      split
      · rename_i hk
        exact .published hk ha
      · rename_i hk
        exact .replied (kind_eq_nats_of_ne hk) ha
  | failPublish c ha =>
    rw [hnone _ rfl]
    cases h with
    | answered => exact .unpublished ha
  | confirm =>
    rw [hnone _ rfl]
    cases h with
    | published hk ha =>
      rw [List.append_assoc]
      exact .settled hk (.confirmed ha)
  | failConfirm c =>
    rw [hnone _ rfl]
    cases h with
    | published hk ha =>
      rw [List.append_assoc]
      exact .unconfirmed hk ha
  | acknowledge =>
    rw [hnone _ rfl]
    cases h with
    | settled hk hs => exact .acknowledged hk hs
  | failAcknowledge c =>
    rw [hnone _ rfl]
    cases h with
    | settled hk hs => exact .unacknowledged hk hs

/-! ## Reading a story -/

/-- The handler and the payload of a dispatch. -/
def Event.dispatch? : Event → Option (String × Bytes)
  | .dispatched _ handler payload => some (handler, payload)
  | _ => none

/-- The address, the mark of recognition and the reply of a publication. -/
def Event.publication? : Event → Option (String × Option String × Rpc.Reply)
  | .published _ address correlation r => some (address, correlation, r)
  | _ => none

/-- Whether an event tells of a failure or a breakdown. -/
def Event.isTrouble : Event → Bool
  | .failed _ _ | .broke _ => true
  | _ => false

namespace Story

/-- **A message is dispatched once**, as it is, as soon as its job is no longer queued. -/
theorem dispatches_eq (h : Story k i d p rs s) :
    s.filterMap Event.dispatch? = if p = .queued then [] else [(d.handler, d.payload)] := by
  cases h with
  | settled hk hs | acknowledged hk hs | unacknowledged hk hs => cases hs <;> rfl
  | _ => rfl

/-- **A reply is published at most once**, to the address in the message and with its mark of recognition; it
is the one answer to the dispatch. -/
theorem publications_eq (h : Story k i d p rs s) :
    s.filterMap Event.publication? = [] ∨
      ∃ a r, d.replyTo = some a ∧ rs = [r] ∧ s.filterMap Event.publication? = [(a, d.correlation, r)] := by
  cases h with
  | queued | asked | broke | answered ha | unpublished ha | dropped hk hn => exact Or.inl rfl
  | published hk ha | unconfirmed hk ha | replied hk ha => exact Or.inr ⟨_, _, ha, rfl, rfl⟩
  | settled hk hs | acknowledged hk hs | unacknowledged hk hs =>
    cases hs with
    | confirmed ha => exact Or.inr ⟨_, _, ha, rfl, rfl⟩
    | dropped hn => exact Or.inl rfl

/-- A handling that has come to its end without trouble has published its reply, if the message says where
to. -/
theorem published_of_over (h : Story k i d .over rs s) {a : String} (ha : d.replyTo = some a)
    (hwell : s.any Event.isTrouble = false) :
    ∃ r, rs = [r] ∧ s.filterMap Event.publication? = [(a, d.correlation, r)] := by
  cases h with
  | broke | unpublished | unconfirmed => cases hwell
  | unacknowledged hk hs => cases hs <;> cases hwell
  | acknowledged hk hs =>
    cases hs with
    | confirmed ha' =>
      obtain rfl := Option.some.inj (ha.symm.trans ha')
      exact ⟨_, rfl, rfl⟩
    | dropped hn =>
      rw [ha] at hn
      cases hn
  | replied hk ha' =>
    obtain rfl := Option.some.inj (ha.symm.trans ha')
    exact ⟨_, rfl, rfl⟩
  | dropped hk hn =>
    rw [ha] at hn
    cases hn

/-- **An acknowledgement is the last thing that is told**, and only one of the brokers gets it. The reply has
its confirmation by then, or there was nowhere to send it. -/
theorem acknowledged_last (h : Story k i d p rs s) (hmem : .acknowledged i ∈ s) :
    k = .amqp ∧ ∃ t, s = t ++ [.acknowledged i] ∧ .acknowledged i ∉ t ∧
      (d.replyTo = none ∨ .confirmed i ∈ t) := by
  cases h with
  | acknowledged hk hs =>
    refine ⟨hk, _, rfl, ?_, ?_⟩
    · cases hs <;> simp [opening]
    · cases hs with
      | confirmed ha => exact Or.inr (by simp [opening])
      | dropped hn => exact Or.inl hn
  | settled hk hs | unacknowledged hk hs => cases hs <;> simp [opening] at hmem
  | _ => simp [opening] at hmem

end Story

end Phrasebook.Broker
