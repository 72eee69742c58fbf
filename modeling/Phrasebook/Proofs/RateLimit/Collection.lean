import Phrasebook.Proofs.RateLimit.Window
/-!
# Collecting buckets gives nobody more

A client whose bucket was collected gets a full one, and its windows begin anew; so what is allowed with
collections differs from what is allowed without. Still, in every span as long as an interval a client is
allowed at most twice the limit (`allowed_le_twice_limit`), whichever buckets the passes meet, as long as no
bucket is collected before it has been idle for an interval.

The argument does not follow the windows through the lives of a bucket. It looks back from the next refill
only (`Bucket.Spares`): what was allowed in the interval before it and what is still available make up at
most the limit, and no more than the limit was allowed in the interval before that. A new bucket begins an
interval or more after the last request that the old one allowed, so for it both are empty.
-/

set_option autoImplicit false

namespace Phrasebook.RateLimit

/-! ## What a limiter goes through -/

/-- Something that a limiter goes through. -/
inductive Act where
  /-- A request. -/
  | ask (a : Ask)
  /-- A collection pass that meets the buckets in some order. -/
  | collect (order : List String) (now expire : Millis)

/-- The time of an act. -/
def Act.time : Act → Millis
  | .ask a => a.time
  | .collect _ now _ => now

/-- The times at which a client is allowed a request. -/
def Limiter.allowedTimes (client : String) : Limiter → List Act → List Millis
  | _, [] => []
  | l, .ask a :: rest =>
    (if (l.allow a.client a.time).1 && a.client == client then [a.time] else []) ++
      allowedTimes client (l.allow a.client a.time).2 rest
  | l, .collect order now expire :: rest => allowedTimes client (l.collect order now expire).2 rest

/-- How many of some times lie in the span of this length that begins at `start`. -/
def countSpan (start length : Millis) (times : List Millis) : Nat :=
  times.countP fun t => start ≤ t ∧ t < start + length

/-- One more time counts if it lies in the span. -/
theorem countSpan_append_singleton (start length : Millis) (times : List Millis) (t : Millis) :
    countSpan start length (times ++ [t]) =
      countSpan start length times + if start ≤ t ∧ t < start + length then 1 else 0 := by
  simp [countSpan, List.countP_append, List.countP_singleton]

/-- What lies in a span and in no other of two places lies in one of them. -/
theorem countP_le_add {α : Type} {p q q' : α → Bool} {xs : List α}
    (h : ∀ x ∈ xs, p x = true → q x = true ∨ q' x = true) : xs.countP p ≤ xs.countP q + xs.countP q' := by
  induction xs with
  | nil => exact Nat.zero_le _
  | cons x rest ih =>
    have hrest := ih fun y hy => h y (List.mem_cons_of_mem _ hy)
    have hx := h x List.mem_cons_self
    rw [List.countP_cons, List.countP_cons, List.countP_cons]
    by_cases hp : p x = true
    · rcases hx hp with hq | hq
      · rw [if_pos hp, if_pos hq]
        omega
      · rw [if_pos hp, if_pos hq]
        omega
    · rw [if_neg hp]
      omega

/-- Times before a span do not count in it. -/
theorem countP_eq_zero_of_lt {start : Millis} {times : List Millis} (h : ∀ t ∈ times, t < start) :
    times.countP (fun t => start ≤ t) = 0 := by
  rw [List.countP_eq_zero]
  intro t ht hmem
  have := of_decide_eq_true hmem
  linarith [h t ht]

/-- Nor do times outside one. -/
theorem countP_between_eq_zero {low high : Millis} {times : List Millis} (h : ∀ t ∈ times, t ≤ low ∨ high ≤ t) :
    times.countP (fun t => low < t ∧ t < high) = 0 := by
  rw [List.countP_eq_zero]
  intro t ht hmem
  obtain ⟨hlow, hhigh⟩ := of_decide_eq_true hmem
  rcases h t ht with h | h
  · linarith
  · linarith

/-! ## One bucket -/

/-- Looking back from the next refill of a bucket, with the times at which the client was allowed a request:
together with what is available, no more than the limit were in the last interval, and no more than the limit
in the one before. Of that one the very beginning does not count: no span reaches from there to the last. -/
structure Bucket.Spares (r : Rule) (times : List Millis) (b : Bucket) : Prop where
  begun : b.refillAt - r.interval ≤ b.usedAt
  ahead : b.usedAt < b.refillAt
  past : ∀ t ∈ times, t ≤ b.usedAt
  last : times.countP (fun t => b.refillAt - r.interval ≤ t) + b.available ≤ r.limit
  before : times.countP (fun t => b.refillAt - 2 * r.interval < t ∧ t < b.refillAt - r.interval) ≤ r.limit

namespace Bucket

variable {r : Rule} {b : Bucket} {now : Millis} {times : List Millis}

/-- A new bucket, an interval or more after everything that was allowed. -/
theorem spares_fresh (hinterval : 0 < r.interval) (hpos : 0 ≤ now) (hlast : now ≤ lastMillis - r.interval)
    (hpast : ∀ t ∈ times, t + r.interval ≤ now) : (fresh r now).Spares r times := by
  have hrefill : (fresh r now).refillAt = now + r.interval := saturate_of_le (by linarith) (by linarith)
  have hused : (fresh r now).usedAt = now := rfl
  refine ⟨?_, ?_, ?_, ?_, ?_⟩
  · rw [hrefill, hused]
    linarith
  · rw [hrefill, hused]
    linarith
  · intro t ht
    have := hpast t ht
    rw [hused]
    linarith
  · rw [hrefill, countP_eq_zero_of_lt fun t ht => by linarith [hpast t ht], Nat.zero_add]
    exact le_refl r.limit
  · rw [hrefill, countP_between_eq_zero fun t ht => Or.inl (by linarith [hpast t ht])]
    exact Nat.zero_le _

/-- The refill, with the time of use put to now. -/
theorem Spares.refill (h : b.Spares r times) (hinterval : 0 < r.interval) (hpos : 0 ≤ b.refillAt)
    (hnow : b.usedAt ≤ now) (hlast : now ≤ lastMillis - r.interval) :
    ({ b.refill r now with usedAt := now } : Bucket).Spares r times ∧ b.refillAt ≤ (b.refill r now).refillAt := by
  obtain ⟨hbegun, hahead, hpast, hroom, hbefore⟩ := h
  obtain ⟨k, hput, hlow, hhigh, hcases⟩ := refill_cases hinterval (by linarith) hpos hlast
  have hpast' : ∀ t ∈ times, t ≤ now := fun t ht => le_trans (hpast t ht) hnow
  -- the interval that runs is the old one, or one that has begun since and is empty
  rcases hcases with ⟨-, hsame⟩ | ⟨hk, hfull⟩
  · rw [hsame] at hlow hhigh ⊢
    exact ⟨⟨hlow, hhigh, hpast', hroom, hbefore⟩, le_refl _⟩
  · have hone : r.interval ≤ k * r.interval := by
      have : (1 : Int) * r.interval ≤ k * r.interval :=
        Int.mul_le_mul_of_nonneg_right (by omega) (le_of_lt hinterval)
      linarith
    refine ⟨⟨hlow, hhigh, hpast', ?_, ?_⟩, by linarith⟩
    · -- the interval that begins is after everything so far
      have hnone : times.countP (fun t => (b.refill r now).refillAt - r.interval ≤ t) = 0 :=
        countP_eq_zero_of_lt fun t ht => by linarith [hpast t ht]
      dsimp only
      rw [hnone, hfull, Nat.zero_add]
    · -- the one before it is the last one of the old bucket or, if some were skipped, later than that
      refine le_trans ?_ (le_trans (Nat.le_add_right _ b.available) hroom)
      refine List.countP_mono_left fun t ht hmem => ?_
      have := (of_decide_eq_true hmem).1
      dsimp only at this
      exact decide_eq_true (by linarith)

/-- **One request.** -/
theorem Spares.take (h : b.Spares r times) (hinterval : 0 < r.interval) (hpos : 0 ≤ b.refillAt)
    (hnow : b.usedAt ≤ now) (hlast : now ≤ lastMillis - r.interval) :
    (b.take r now).2.Spares r (times ++ if (b.take r now).1 = true then [now] else []) ∧
      0 ≤ (b.take r now).2.refillAt := by
  obtain ⟨⟨hbegun, hahead, hpast, hroom, hbefore⟩, hlater⟩ := h.refill hinterval hpos hnow hlast
  dsimp only at hbegun hahead hpast hroom hbefore
  rw [take_bucket]
  refine ⟨?_, le_trans hpos hlater⟩
  -- a request that is allowed adds one to the interval that runs, and none to the one before it
  by_cases hallowed : (b.take r now).1 = true
  · rw [if_pos hallowed]
    have hsome := take_allowed.1 hallowed
    refine ⟨hbegun, hahead, ?_, ?_, ?_⟩
    · intro t ht
      rcases List.mem_append.1 ht with ht | ht
      · exact hpast t ht
      · rw [List.mem_singleton.1 ht]
    · have hcount : [now].countP (fun t => (b.refill r now).refillAt - r.interval ≤ t) = 1 := by
        rw [List.countP_singleton, if_pos (decide_eq_true hbegun)]
      dsimp only
      rw [List.countP_append, hcount]
      omega
    · have hcount : [now].countP (fun t => (b.refill r now).refillAt - 2 * r.interval < t ∧
          t < (b.refill r now).refillAt - r.interval) = 0 := by
        refine countP_between_eq_zero fun t ht => Or.inr ?_
        rw [List.mem_singleton.1 ht]
        exact hbegun
      dsimp only
      rw [List.countP_append, hcount]
      exact hbefore
  · rw [if_neg hallowed, List.append_nil]
    exact ⟨hbegun, hahead, hpast, by dsimp only; omega, hbefore⟩

/-- A span that reaches into the last interval begins after the very beginning of the one before, and so
holds at most what was allowed in both. -/
theorem Spares.countSpan_le (h : b.Spares r times) {start : Millis}
    (hstart : b.refillAt - r.interval < start + r.interval) : countSpan start r.interval times ≤ 2 * r.limit := by
  have hlast : times.countP (fun t => b.refillAt - r.interval ≤ t) ≤ r.limit :=
    le_trans (Nat.le_add_right _ _) h.last
  have hsplit : countSpan start r.interval times ≤ times.countP (fun t => b.refillAt - r.interval ≤ t) +
      times.countP (fun t => b.refillAt - 2 * r.interval < t ∧ t < b.refillAt - r.interval) := by
    refine countP_le_add fun t _ hmem => ?_
    have hin := of_decide_eq_true hmem
    by_cases hlate : b.refillAt - r.interval ≤ t
    · exact Or.inl (decide_eq_true hlate)
    · exact Or.inr (decide_eq_true ⟨by linarith, by linarith⟩)
  have := h.before
  omega

end Bucket

/-! ## The limiter -/

namespace Limiter

variable {l : Limiter} {client : String} {times : List Millis} {clock : Millis}

/-- Where some clients are kept, a client is found exactly if it is one of them and was found before. -/
theorem lookup_filter_keys (keep : String → Bool) (client : String) (buckets : List (String × Bucket)) :
    (buckets.filter fun e => keep e.1).lookup client = if keep client then buckets.lookup client else none := by
  induction buckets with
  | nil => simp
  | cons e rest ih =>
    obtain ⟨c, b⟩ := e
    by_cases hc : client = c
    · subst hc
      by_cases hkeep : keep client = true
      · simp [hkeep]
      · simp [hkeep, ih]
    · have hne : (client == c) = false := beq_false_of_ne hc
      rw [List.filter_cons]
      split
      · rw [List.lookup_cons, hne, List.lookup_cons, hne]
        exact ih
      · rw [ih, List.lookup_cons, hne]

/-- After a pass a client has its bucket, or had one that was idle. -/
theorem bucket?_collect (l : Limiter) (order : List String) (now expire : Millis) (client : String) :
    (l.collect order now expire).2.bucket? client = l.bucket? client ∨
      (l.collect order now expire).2.bucket? client = none ∧
        ∃ b, l.bucket? client = some b ∧ b.usedAt + expire ≤ now := by
  simp only [collect, bucket?]
  rw [lookup_filter_keys fun c => !_]
  split
  · exact Or.inl rfl
  · rename_i hidle
    refine Or.inr ⟨rfl, ?_⟩
    rw [Bool.not_eq_true', Bool.not_eq_false, List.contains_iff_mem, List.mem_filter] at hidle
    cases hb : l.buckets.lookup client with
    | none => simp [hb] at hidle
    | some b =>
      rw [hb] at hidle
      exact ⟨b, rfl, of_decide_eq_true hidle.2⟩

/-- At some time a limiter has allowed a client requests at these times: in no span more than twice the limit;
and the client's bucket, if it has one, spares the rest, while otherwise all of them are an interval past. -/
structure Spares (l : Limiter) (client : String) (times : List Millis) (clock : Millis) : Prop where
  span : ∀ start, countSpan start l.rule.interval times ≤ 2 * l.rule.limit
  past : l.bucket? client = none → ∀ t ∈ times, t + l.rule.interval ≤ clock
  bucket : ∀ b, l.bucket? client = some b → b.Spares l.rule times ∧ 0 ≤ b.refillAt ∧ b.usedAt ≤ clock

/-- What a limiter spares at a time it spares later. -/
theorem Spares.wait (h : l.Spares client times clock) {now : Millis} (hnow : clock ≤ now) :
    l.Spares client times now := by
  refine ⟨h.span, ?_, ?_⟩
  · intro hnone t ht
    exact le_trans (h.past hnone t ht) hnow
  · intro b hb
    obtain ⟨hspares, hpos, hused⟩ := h.bucket b hb
    exact ⟨hspares, hpos, le_trans hused hnow⟩

/-- A request of the client. -/
theorem Spares.allow (h : l.Spares client times clock) (hinterval : 0 < l.rule.interval) (hpos : 0 ≤ clock)
    (hlast : clock ≤ lastMillis - l.rule.interval) :
    (l.allow client clock).2.Spares client
      (times ++ if (l.allow client clock).1 = true then [clock] else []) clock := by
  -- the bucket that is asked, be it the old one or a new one
  have hbucket : ∃ b, (l.bucket? client).getD (Bucket.fresh l.rule clock) = b ∧
      b.Spares l.rule times ∧ 0 ≤ b.refillAt ∧ b.usedAt ≤ clock := by
    cases hb : l.bucket? client with
    | none =>
      have hfresh := Bucket.spares_fresh hinterval hpos hlast (h.past hb)
      exact ⟨_, rfl, hfresh, le_trans hpos (le_of_lt hfresh.ahead), le_refl _⟩
    | some b => exact ⟨b, rfl, h.bucket b hb⟩
  obtain ⟨b, hb, hspares, hrefill, hused⟩ := hbucket
  obtain ⟨hafter, hrefill'⟩ := hspares.take hinterval hrefill hused hlast
  have hnow : (b.take l.rule clock).2.usedAt = clock := by rw [Bucket.take_bucket]
  have hbucket' : (l.allow client clock).2.bucket? client = some (b.take l.rule clock).2 := by
    rw [bucket?_allow, if_pos rfl, hb]
  rw [allow_allowed, hb]
  refine ⟨?_, ?_, ?_⟩
  · intro start
    rw [rule_allow]
    by_cases hreach : (b.take l.rule clock).2.refillAt - l.rule.interval < start + l.rule.interval
    · exact hafter.countSpan_le hreach
    · -- the span is over before the interval of this request begins
      have hout : ¬ (start ≤ clock ∧ clock < start + l.rule.interval) := by
        have := hafter.begun
        rw [hnow] at this
        intro hin
        linarith [hin.2]
      by_cases hallowed : (b.take l.rule clock).1 = true
      · rw [if_pos hallowed, countSpan_append_singleton, if_neg hout]
        exact h.span start
      · rw [if_neg hallowed, List.append_nil]
        exact h.span start
  · intro hnone
    rw [hbucket'] at hnone
    cases hnone
  · intro b' hb'
    rw [hbucket'] at hb'
    obtain rfl := Option.some.inj hb'
    exact ⟨hafter, hrefill', le_of_eq hnow⟩

/-- A request of another client. -/
theorem Spares.allow_of_ne (h : l.Spares client times clock) {other : String} (hne : client ≠ other) :
    (l.allow other clock).2.Spares client times clock := by
  have hbucket : (l.allow other clock).2.bucket? client = l.bucket? client := by
    rw [bucket?_allow, if_neg hne]
  refine ⟨h.span, ?_, ?_⟩
  · rw [hbucket]
    exact h.past
  · rw [hbucket]
    exact h.bucket

/-- A collection pass. What it takes away was not used for an interval. -/
theorem Spares.collect (h : l.Spares client times clock) (order : List String) {expire : Millis}
    (hexpire : l.rule.interval ≤ expire) : (l.collect order clock expire).2.Spares client times clock := by
  have hrule : (l.collect order clock expire).2.rule = l.rule := rfl
  rcases bucket?_collect l order clock expire client with hsame | ⟨hgone, b, hb, hidle⟩
  · refine ⟨h.span, ?_, ?_⟩
    · rw [hsame]
      exact h.past
    · rw [hsame]
      exact h.bucket
  · refine ⟨h.span, ?_, ?_⟩
    · intro _ t ht
      have := (h.bucket b hb).1.past t ht
      rw [hrule]
      linarith
    · intro b' hb'
      rw [hgone] at hb'
      cases hb'

/-- What one act keeps, a run keeps. -/
theorem Spares.countSpan_le (acts : List Act) (h : l.Spares client times clock) (hinterval : 0 < l.rule.interval)
    (hpos : 0 ≤ clock) (hclock : ∀ a ∈ acts, clock ≤ a.time)
    (hordered : (acts.map Act.time).Pairwise (· ≤ ·))
    (hlast : ∀ a ∈ acts, a.time ≤ lastMillis - l.rule.interval)
    (hexpire : ∀ order now expire, Act.collect order now expire ∈ acts → l.rule.interval ≤ expire)
    (start : Millis) :
    countSpan start l.rule.interval (times ++ l.allowedTimes client acts) ≤ 2 * l.rule.limit := by
  -- by induction on the acts, the invariant being what the bucket says of the times so far
  induction acts generalizing l times clock with
  | nil =>
    rw [allowedTimes, List.append_nil]
    exact h.span start
  | cons a rest ih =>
    have hlater : ∀ x ∈ rest, a.time ≤ x.time := by
      intro x hx
      exact (List.pairwise_cons.1 hordered).1 _ (List.mem_map_of_mem hx)
    have hordered' := (List.pairwise_cons.1 hordered).2
    have hlast' : ∀ x ∈ rest, x.time ≤ lastMillis - l.rule.interval := fun x hx =>
      hlast x (List.mem_cons_of_mem _ hx)
    have hexpire' : ∀ order now expire, Act.collect order now expire ∈ rest → l.rule.interval ≤ expire :=
      fun order now expire hx => hexpire order now expire (List.mem_cons_of_mem _ hx)
    have hnow : clock ≤ a.time := hclock a List.mem_cons_self
    have hend : a.time ≤ lastMillis - l.rule.interval := hlast a List.mem_cons_self
    have hpos' : 0 ≤ a.time := le_trans hpos hnow
    have hwaited := h.wait hnow
    cases a with
    | ask a =>
      rw [allowedTimes, ← List.append_assoc]
      by_cases hclient : a.client = client
      · subst hclient
        have hafter := hwaited.allow hinterval hpos' hend
        simp only [beq_self_eq_true, Bool.and_true]
        exact ih hafter hinterval hpos' hlater hordered' hlast' hexpire'
      · have hafter := hwaited.allow_of_ne fun heq => hclient heq.symm
        simp only [beq_false_of_ne hclient, Bool.and_false, Bool.false_eq_true, if_false, List.append_nil]
        exact ih hafter hinterval hpos' hlater hordered' hlast' hexpire'
    | collect order now expire =>
      have hafter := hwaited.collect order (hexpire order now expire List.mem_cons_self)
      exact ih hafter hinterval hpos' hlater hordered' hlast' hexpire'

/-- For how long the collector leaves a bucket alone. -/
theorem idleSpan_eq {limit : Nat} {secs : Int} (hrule : ofRule? limit secs = .ok l) :
    l.idleSpan = 4 * (secs * 1000) := by
  obtain ⟨-, hsecs, hshort, hinterval⟩ := of_ofRule? hrule
  rw [maxIntervalSecs] at hshort
  have hlast : l.rule.interval * 4 ≤ lastMillis := by
    rw [hinterval, lastMillis_eq]
    linarith
  rw [idleSpan, saturate_of_le (by linarith) hlast, hinterval, mul_comm]

/-- **Collecting gives nobody more.** Whatever requests and collection passes a limiter goes through, none of
which takes a bucket that was used within an interval, as the collector does not: in every span as long as an
interval a client is allowed at most twice the limit. -/
theorem allowed_le_twice_limit {limit : Nat} {secs : Int} (hrule : ofRule? limit secs = .ok l) (acts : List Act)
    (hordered : (acts.map Act.time).Pairwise (· ≤ ·))
    (hrange : ∀ a ∈ acts, 0 ≤ a.time ∧ a.time ≤ lastMillis - 4 * (secs * 1000))
    (hexpire : ∀ order now expire, Act.collect order now expire ∈ acts → secs * 1000 ≤ expire)
    (client : String) (start : Millis) :
    l.idleSpan = 4 * (secs * 1000) ∧ countSpan start (secs * 1000) (l.allowedTimes client acts) ≤ 2 * limit := by
  refine ⟨idleSpan_eq hrule, ?_⟩
  obtain ⟨hl, hsecs, -, hinterval⟩ := of_ofRule? hrule
  have hnew : l.buckets = [] := by rw [hl]
  have hlimit : l.rule.limit = limit := by rw [hl]
  have hpositive : 0 < l.rule.interval := by
    rw [hinterval]
    linarith
  have hempty : l.Spares client [] 0 := by
    refine ⟨fun _ => Nat.zero_le _, (fun _ t ht => nomatch ht), ?_⟩
    intro b hb
    rw [bucket?, hnew] at hb
    cases hb
  rw [← hinterval, ← hlimit]
  refine hempty.countSpan_le acts hpositive (le_refl _) (fun a ha => (hrange a ha).1) hordered ?_ ?_ start
  · intro a ha
    have := (hrange a ha).2
    rw [hinterval]
    linarith
  · rw [hinterval]
    exact hexpire

/-- A client that spends what it has at the end of one interval and at the beginning of the next, stays away
until its bucket is collected, and comes back. -/
def comeback : List Act :=
  [.ask ⟨"10.0.0.1", 990⟩, .ask ⟨"10.0.0.1", 1989⟩, .collect ["10.0.0.1"] 1990 4000,
    .ask ⟨"10.0.0.1", 1990⟩, .ask ⟨"10.0.0.1", 1991⟩, .ask ⟨"10.0.0.1", 1992⟩,
    .collect ["10.0.0.2", "10.0.0.1"] 5992 4000, .ask ⟨"10.0.0.1", 5993⟩]

/-- The client that comes back after its bucket was collected has more than the limit in a span, but not more than
twice. -/
theorem comeback_allowed_le_twice_limit :
    (comeback.map Act.time).Pairwise (· ≤ ·) ∧
      (∀ a ∈ comeback, 0 ≤ a.time ∧ a.time ≤ lastMillis - 4 * (1 * 1000)) ∧
      ∃ l, ofRule? 2 1 = .ok l ∧
        l.allowedTimes "10.0.0.1" comeback = [990, 1989, 1990, 1991, 5993] ∧
        l.idleSpan = 4 * (1 * 1000) ∧ countSpan 1989 1000 (l.allowedTimes "10.0.0.1" comeback) ≤ 2 * 2 := by
  have hordered : (comeback.map Act.time).Pairwise (· ≤ ·) := by decide
  have hrange : ∀ a ∈ comeback, 0 ≤ a.time ∧ a.time ≤ lastMillis - 4 * (1 * 1000) := by
    rw [lastMillis_eq]
    simp [comeback, Act.time]
  have hrule : ofRule? 2 1 = .ok { rule := ⟨2, 1⟩ } := rfl
  refine ⟨hordered, hrange, _, hrule, by decide, ?_⟩
  refine allowed_le_twice_limit hrule comeback hordered hrange ?_ "10.0.0.1" 1989
  intro order now expire h
  simp only [comeback, List.mem_cons, Act.collect.injEq, reduceCtorEq, List.not_mem_nil, false_or, or_false] at h
  rcases h with ⟨-, -, rfl⟩ | ⟨-, -, rfl⟩ <;> decide

end Limiter

end Phrasebook.RateLimit
