import Mathlib.Data.Finset.Card
import Mathlib.Tactic.Linarith
import Mathlib.Tactic.Positivity
import Mathlib.Tactic.Ring
import Phrasebook.RateLimit.Limiter
/-!
# The limiter counts requests in windows

The windows of a client follow each other without gaps, each as long as an interval, and the first one
begins with the client's first request. As long as no bucket is collected, a request is allowed exactly when
fewer than the limit were made by the same client in the same window (`allow_iff_few_in_window`).

The bucket tells this without a record of the requests. `Bucket.Counts` says how: it is filled again at the
end of the window in which it was last used, and what is missing are the requests of that window. All that is
said about the arithmetic of the refill is in `Bucket.refill_cases`.
-/

set_option autoImplicit false

namespace Phrasebook.RateLimit

/-! ## Times in range -/

/-- The last time there is, in figures. -/
theorem lastMillis_eq : lastMillis = 9223372036854775807 := rfl

/-- A time in the range is not cut off. -/
theorem saturate_of_le {t : Int} (hpos : 0 ≤ t) (hle : t ≤ lastMillis) : saturate t = t := by
  have hfirst : firstMillis ≤ t := by
    have : firstMillis ≤ 0 := by decide
    linarith
  rw [saturate, min_eq_right hle, max_eq_right hfirst]

/-- Where a limiter comes from: a rule that is in range, and nobody seen yet. -/
theorem Limiter.of_ofRule? {limit : Nat} {secs : Int} {l : Limiter} (h : Limiter.ofRule? limit secs = .ok l) :
    l = { rule := ⟨limit, secs⟩ } ∧ 0 < secs ∧ secs ≤ maxIntervalSecs ∧ l.rule.interval = secs * 1000 := by
  rw [ofRule?] at h
  split at h
  · cases h
  · rename_i hpositive
    rw [not_or] at hpositive
    split at h
    · cases h
    · rename_i hshort
      obtain rfl := Except.ok.inj h
      rw [maxIntervalSecs] at hshort ⊢
      refine ⟨rfl, by omega, by omega, ?_⟩
      -- a day in milliseconds is far below the last time
      have hlast : secs * 1000 ≤ lastMillis := by
        rw [lastMillis_eq]
        linarith
      exact saturate_of_le (t := secs * 1000) (by omega) hlast

/-! ## One bucket -/

namespace Bucket

variable {r : Rule} {b : Bucket} {now : Millis}

/-- **The refill.** Afterwards `now` lies in the interval before the next refill. That refill has been put
off by some intervals; if by none the bucket is as it was, and otherwise it is full. -/
theorem refill_cases (hinterval : 0 < r.interval) (hbegun : b.refillAt - r.interval ≤ now)
    (hpos : 0 ≤ b.refillAt) (hlast : now ≤ lastMillis - r.interval) :
    ∃ k : Nat, (b.refill r now).refillAt = b.refillAt + k * r.interval ∧
      (b.refill r now).refillAt - r.interval ≤ now ∧ now < (b.refill r now).refillAt ∧
      (k = 0 ∧ b.refill r now = b ∨ 0 < k ∧ (b.refill r now).available = r.limit) := by
  by_cases hdue : now ≥ b.refillAt
  · -- the quotient counts the whole intervals that have passed since the refill was due
    have hnonneg : 0 ≤ now - b.refillAt := by linarith
    obtain ⟨q, hq⟩ := Int.eq_ofNat_of_zero_le (Int.ediv_nonneg hnonneg (le_of_lt hinterval))
    have hdiv : (now - b.refillAt).tdiv r.interval = q := by
      rw [Int.tdiv_eq_ediv_of_nonneg hnonneg]
      exact hq
    have hlow : (q : Int) * r.interval ≤ now - b.refillAt := by
      rw [← hq]
      exact Int.ediv_mul_le _ (by linarith)
    have hhigh : now - b.refillAt < (q + 1 : Int) * r.interval := by
      rw [← hq]
      exact Int.lt_ediv_add_one_mul_self _ hinterval
    rw [add_mul, one_mul] at hhigh
    have hzero : 0 ≤ (q : Int) * r.interval := by positivity
    have hrefill : (b.refill r now).refillAt = b.refillAt + (q + 1 : Int) * r.interval := by
      rw [refill, if_pos hdue]
      dsimp only
      rw [hdiv, add_mul, one_mul, saturate_of_le (t := (q : Int) * r.interval + r.interval) (by linarith) (by linarith)]
      exact saturate_of_le (by linarith) (by linarith)
    refine ⟨q + 1, ?_, ?_, ?_, Or.inr ⟨Nat.succ_pos q, ?_⟩⟩
    · rw [hrefill, Nat.cast_succ]
    · rw [hrefill, add_mul, one_mul]
      linarith
    · rw [hrefill, add_mul, one_mul]
      linarith
    · rw [refill, if_pos hdue]
  · have hsame : b.refill r now = b := by rw [refill, if_neg hdue]
    refine ⟨0, ?_, ?_, ?_, Or.inl ⟨rfl, hsame⟩⟩
    · rw [hsame, Nat.cast_zero, zero_mul, add_zero]
    · rw [hsame]
      exact hbegun
    · rw [hsame]
      linarith

/-- A request is allowed exactly if the bucket, refilled if it is due, holds anything. -/
theorem take_allowed : (b.take r now).1 = true ↔ 0 < (b.refill r now).available := by
  by_cases hsome : 0 < (b.refill r now).available
  · simp [take, hsome]
  · simp [take, hsome]

/-- A request takes one from the refilled bucket, if there is one, and its time is noted. -/
theorem take_bucket :
    (b.take r now).2 =
      { available := (b.refill r now).available - 1, refillAt := (b.refill r now).refillAt, usedAt := now } := by
  by_cases hsome : 0 < (b.refill r now).available
  · simp [take, hsome]
  · have hnone : (b.refill r now).available = 0 := by omega
    simp [take, hnone]

end Bucket

/-! ## Windows -/

/-- A time lies in a window: in the one after `n` others, where the first begins at `first`. -/
def InWindow (first interval : Millis) (n : Nat) (t : Millis) : Prop :=
  first + n * interval ≤ t ∧ t < first + (n + 1) * interval

instance (first interval : Millis) (n : Nat) (t : Millis) : Decidable (InWindow first interval n t) :=
  inferInstanceAs (Decidable (_ ∧ _))

/-- How many of some times lie in a window. -/
def countIn (first interval : Millis) (n : Nat) (times : List Millis) : Nat :=
  times.countP fun t => InWindow first interval n t

/-- The bucket of a client whose first request came at `first`, which has asked at these times and was last
used in window `n`: it is filled again at the end of that window, and the requests made in it are missing. -/
structure Bucket.Counts (r : Rule) (first : Millis) (n : Nat) (times : List Millis) (b : Bucket) : Prop where
  used : InWindow first r.interval n b.usedAt
  refilled : b.refillAt = first + (n + 1) * r.interval
  past : ∀ t ∈ times, t ≤ b.usedAt
  available : b.available = r.limit - countIn first r.interval n times

namespace Bucket

variable {r : Rule} {b : Bucket} {first now : Millis} {n : Nat} {times : List Millis}

/-- A fresh bucket counts: no request has been made in the first window. -/
theorem counts_fresh (hinterval : 0 < r.interval) (hpos : 0 ≤ now) (hlast : now ≤ lastMillis - r.interval) :
    (fresh r now).Counts r now 0 [] := by
  refine ⟨⟨?_, ?_⟩, ?_, (fun t ht => nomatch ht), rfl⟩
  · simp [fresh]
  · simp only [fresh, Nat.cast_zero, zero_add, one_mul]
    linarith
  · rw [fresh, Nat.cast_zero, zero_add, one_mul]
    exact saturate_of_le (by linarith) (by linarith)

/-- **One request.** It falls into a window, is allowed if fewer than the limit were made there, and counts. -/
theorem Counts.take (h : b.Counts r first n times) (hinterval : 0 < r.interval) (hpos : 0 ≤ first)
    (hnow : b.usedAt ≤ now) (hlast : now ≤ lastMillis - r.interval) :
    ∃ m, InWindow first r.interval m now ∧
      ((b.take r now).1 = true ↔ countIn first r.interval m times < r.limit) ∧
      (b.take r now).2.Counts r first m (times ++ [now]) := by
  obtain ⟨⟨hbegun, hbefore⟩, hrefilled, hpast, havailable⟩ := h
  have hwindow : first + (n + 1 : Int) * r.interval = first + n * r.interval + r.interval := by ring
  have hstart : 0 ≤ (n : Int) * r.interval := by positivity
  obtain ⟨k, hput, hlow, hhigh, hcases⟩ :=
    refill_cases (b := b) hinterval (by rw [hrefilled, hwindow]; linarith) (by rw [hrefilled, hwindow]; linarith) hlast
  -- the bucket moves on to the window the request is in
  have hnext : (b.refill r now).refillAt = first + ((n + k : Nat) + 1 : Int) * r.interval := by
    rw [hput, hrefilled, Nat.cast_add]
    ring
  have hin : InWindow first r.interval (n + k) now := by
    have hlen : first + ((n + k : Nat) + 1 : Int) * r.interval = first + (n + k : Nat) * r.interval + r.interval := by
      ring
    rw [hnext] at hlow hhigh
    exact ⟨by linarith, hhigh⟩
  have hleft : (b.refill r now).available = r.limit - countIn first r.interval (n + k) times := by
    rcases hcases with ⟨rfl, hsame⟩ | ⟨hk, hfull⟩
    · rw [hsame, havailable, Nat.add_zero]
    · -- a later window than the last one in which there was a request: it has none yet
      have hlater : first + (n + 1 : Int) * r.interval ≤ first + (n + k : Nat) * r.interval := by
        have : (n + 1 : Int) * r.interval ≤ (n + k : Nat) * r.interval :=
          Int.mul_le_mul_of_nonneg_right (by omega) (le_of_lt hinterval)
        linarith
      have hnone : countIn first r.interval (n + k) times = 0 := by
        rw [countIn, List.countP_eq_zero]
        intro t ht hmem
        have hle := hpast t ht
        have hmem' := (of_decide_eq_true hmem).1
        linarith
      rw [hfull, hnone, Nat.sub_zero]
  refine ⟨n + k, hin, ?_, ?_⟩
  · rw [take_allowed, hleft]
    omega
  · rw [take_bucket]
    refine ⟨hin, hnext, ?_, ?_⟩
    · intro t ht
      rcases List.mem_append.1 ht with ht | ht
      · exact le_trans (hpast t ht) hnow
      · rw [List.mem_singleton.1 ht]
    · have hone : countIn first r.interval (n + k) (times ++ [now]) = countIn first r.interval (n + k) times + 1 := by
        simp [countIn, List.countP_append, hin]
      rw [hone, hleft, Nat.sub_sub]

end Bucket

/-! ## The buckets of the clients -/

namespace Limiter

/-- A bucket is put under its client and nowhere else. -/
theorem lookup_put (client other : String) (b : Bucket) (buckets : List (String × Bucket)) :
    (put client b buckets).lookup other = if other = client then some b else buckets.lookup other := by
  -- by induction on the buckets, the first with the name being replaced
  induction buckets with
  | nil =>
    by_cases h : other = client
    · simp [put, h]
    · rw [put, List.lookup_cons, beq_false_of_ne h, if_neg h]
  | cons e rest ih =>
    obtain ⟨c, old⟩ := e
    by_cases hc : c = client
    · subst hc
      by_cases h : other = c
      · simp [put, h]
      · have hne : (other == c) = false := beq_false_of_ne h
        simp only [put, beq_self_eq_true, if_true, List.lookup_cons, hne, if_neg h]
    · by_cases h : other = c
      · subst h
        simp [put, hc]
      · have hne : (other == c) = false := beq_false_of_ne h
        simp only [put, beq_iff_eq, hc, if_false, List.lookup_cons, hne, ih]

/-- A new client comes last, and one that is there stays in its place. -/
theorem keys_put (client : String) (b : Bucket) (buckets : List (String × Bucket)) :
    (put client b buckets).map Prod.fst =
      if client ∈ buckets.map Prod.fst then buckets.map Prod.fst else buckets.map Prod.fst ++ [client] := by
  induction buckets with
  | nil => rfl
  | cons e rest ih =>
    obtain ⟨c, old⟩ := e
    by_cases hc : c = client
    · simp [put, hc]
    · have hne : client ≠ c := fun h => hc h.symm
      simp only [put, beq_iff_eq, hc, if_false, List.map_cons, ih, List.mem_cons, hne, false_or]
      split <;> rfl

/-- A request does not change the rule. -/
theorem rule_allow (l : Limiter) (client : String) (now : Millis) : (l.allow client now).2.rule = l.rule := rfl

/-- A request takes from the bucket of its own client, or from a fresh one, and touches no other. -/
theorem bucket?_allow (l : Limiter) (client other : String) (now : Millis) :
    (l.allow client now).2.bucket? other =
      if other = client then some (((l.bucket? client).getD (Bucket.fresh l.rule now)).take l.rule now).2
      else l.bucket? other :=
  lookup_put client other _ l.buckets

/-- The decision is that of the client's own bucket. -/
theorem allow_allowed (l : Limiter) (client : String) (now : Millis) :
    (l.allow client now).1 = (((l.bucket? client).getD (Bucket.fresh l.rule now)).take l.rule now).1 := rfl

/-- A request makes its client known. -/
theorem clients_allow (l : Limiter) (client : String) (now : Millis) :
    (l.allow client now).2.clients = if client ∈ l.clients then l.clients else l.clients ++ [client] :=
  keys_put client _ l.buckets

end Limiter

/-! ## Any number of requests -/

/-- A request: who asks, and when. -/
structure Ask where
  /-- The client. -/
  client : String
  /-- The time. -/
  time : Millis

/-- The times at which a client asks. -/
def timesOf (client : String) (asks : List Ask) : List Millis :=
  (asks.filter (·.client == client)).map (·.time)

/-- The limiter after some requests, the first first. -/
def Limiter.after (l : Limiter) (asks : List Ask) : Limiter :=
  asks.foldl (fun l a => (l.allow a.client a.time).2) l

/-- For no client time goes back. -/
def Ordered (asks : List Ask) : Prop := asks.Pairwise fun a b => a.client = b.client → a.time ≤ b.time

/-- Every time is in the range that leaves room for an interval. -/
def InRange (interval : Millis) (asks : List Ask) : Prop :=
  ∀ a ∈ asks, 0 ≤ a.time ∧ a.time ≤ lastMillis - interval

namespace Limiter

variable {l : Limiter} {asks : List Ask}

/-- The last request is decided where the others have led. -/
theorem after_append_singleton (l : Limiter) (asks : List Ask) (a : Ask) :
    l.after (asks ++ [a]) = ((l.after asks).allow a.client a.time).2 := by
  rw [after, List.foldl_append]
  rfl

/-- The rule stays the same after any requests. -/
theorem rule_after (l : Limiter) (asks : List Ask) : (l.after asks).rule = l.rule := by
  induction asks using List.reverseRecOn with
  | nil => rfl
  | append_singleton asks a ih => rw [after_append_singleton, rule_allow, ih]

/-- Every client that has asked has a bucket, and only one. -/
theorem clients_after (hnew : l.buckets = []) (asks : List Ask) :
    (l.after asks).clients.Nodup ∧ ∀ client, client ∈ (l.after asks).clients ↔ client ∈ asks.map Ask.client := by
  -- by induction on the asks: the last client was there before, or is put at the end
  induction asks using List.reverseRecOn with
  | nil =>
    rw [after, List.foldl_nil, clients, hnew]
    exact ⟨List.nodup_nil, fun _ => Iff.rfl⟩
  | append_singleton asks a ih =>
    obtain ⟨hnodup, hmem⟩ := ih
    rw [after_append_singleton, clients_allow]
    by_cases hseen : a.client ∈ (l.after asks).clients
    · rw [if_pos hseen]
      refine ⟨hnodup, fun client => ?_⟩
      rw [hmem client, List.map_append, List.mem_append]
      refine ⟨Or.inl, fun h => h.elim id fun hlast => ?_⟩
      rw [List.mem_singleton.1 hlast]
      exact (hmem a.client).1 hseen
    · rw [if_neg hseen]
      refine ⟨List.nodup_append.2 ⟨hnodup, List.nodup_singleton _, ?_⟩, fun client => ?_⟩
      · intro client hclient other hother heq
        rw [heq, List.mem_singleton.1 hother] at hclient
        exact hseen hclient
      · rw [List.mem_append, hmem client, List.map_append, List.mem_append]
        rfl

/-- **There are as many buckets as clients.** -/
theorem size_after (hnew : l.buckets = []) (asks : List Ask) :
    (l.after asks).size = (asks.map Ask.client).toFinset.card := by
  obtain ⟨hnodup, hmem⟩ := clients_after hnew asks
  have hsame : (l.after asks).clients.toFinset = (asks.map Ask.client).toFinset := by
    ext client
    rw [List.mem_toFinset, List.mem_toFinset, hmem client]
  rw [← hsame, List.toFinset_card_of_nodup hnodup, clients, List.length_map, size]

end Limiter

/-- The times of a client come in the order of the requests. -/
theorem timesOf_append (client : String) (asks later : List Ask) :
    timesOf client (asks ++ later) = timesOf client asks ++ timesOf client later := by
  simp only [timesOf, List.filter_append, List.map_append]

/-- A request has its time among those of its own client. -/
theorem timesOf_singleton_self (a : Ask) : timesOf a.client [a] = [a.time] := by
  simp [timesOf]

/-- It has none among those of another. -/
theorem timesOf_singleton_of_ne {client : String} {a : Ask} (h : client ≠ a.client) : timesOf client [a] = [] := by
  have : a.client ≠ client := fun h' => h h'.symm
  simp [timesOf, this]

/-- Each time of a client is that of a request of that client. -/
theorem mem_of_mem_timesOf {client : String} {asks : List Ask} {t : Millis} (h : t ∈ timesOf client asks) :
    ∃ a ∈ asks, a.client = client ∧ a.time = t := by
  simp only [timesOf, List.mem_map, List.mem_filter, beq_iff_eq] at h
  obtain ⟨a, ⟨ha, hclient⟩, ht⟩ := h
  exact ⟨a, ha, hclient, ht⟩

namespace Limiter

variable {l : Limiter} {asks : List Ask}

/-- The bucket of a client after some requests: there is none before the first, and then it counts. The last
of the times is when it was used. -/
def Remembers (l : Limiter) (asks : List Ask) (client : String) : Prop :=
  match l.bucket? client with
  | none => timesOf client asks = []
  | some b => ∃ first rest n, timesOf client asks = first :: rest ∧ 0 ≤ first ∧
      b.Counts l.rule first n (first :: rest) ∧ b.usedAt ∈ first :: rest

/-- What the bucket says of the next request. -/
theorem Remembers.allow {a : Ask} (h : l.Remembers asks a.client) (hinterval : 0 < l.rule.interval)
    (hpos : 0 ≤ a.time) (hlast : a.time ≤ lastMillis - l.rule.interval)
    (hpast : ∀ t ∈ timesOf a.client asks, t ≤ a.time) :
    ∃ n, InWindow ((timesOf a.client asks).headD a.time) l.rule.interval n a.time ∧
      ((l.allow a.client a.time).1 = true ↔
        countIn ((timesOf a.client asks).headD a.time) l.rule.interval n (timesOf a.client asks) < l.rule.limit) ∧
      (l.allow a.client a.time).2.Remembers (asks ++ [a]) a.client := by
  have hbucket : (l.allow a.client a.time).2.bucket? a.client =
      some (((l.bucket? a.client).getD (Bucket.fresh l.rule a.time)).take l.rule a.time).2 := by
    rw [bucket?_allow, if_pos rfl]
  rw [Remembers] at h
  simp only [Remembers, hbucket, timesOf_append, timesOf_singleton_self, rule_allow, allow_allowed]
  cases hb : l.bucket? a.client with
  | none =>
    -- the first request of the client: its windows begin here
    rw [hb] at h
    dsimp only at h
    rw [h]
    have hfresh := Bucket.counts_fresh hinterval hpos hlast
    obtain ⟨m, hin, hallowed, hcounts⟩ := hfresh.take hinterval hpos (le_refl _) hlast
    refine ⟨m, hin, hallowed, a.time, [], m, rfl, hpos, hcounts, ?_⟩
    rw [Option.getD_none, Bucket.take_bucket]
    exact List.mem_singleton_self _
  | some b =>
    rw [hb] at h
    obtain ⟨first, rest, n, htimes, hfirst, hcounts, hused⟩ := h
    rw [htimes] at hpast ⊢
    obtain ⟨m, hin, hallowed, hcounts'⟩ := hcounts.take hinterval hfirst (hpast _ hused) hlast
    refine ⟨m, hin, hallowed, first, rest ++ [a.time], m, rfl, hfirst, hcounts', ?_⟩
    rw [Option.getD_some, Bucket.take_bucket]
    exact List.mem_append_right (first :: rest) (List.mem_singleton_self _)

/-- A request of one client leaves the buckets of the others alone. -/
theorem Remembers.allow_of_ne {a : Ask} {client : String} (h : l.Remembers asks client) (hne : client ≠ a.client) :
    (l.allow a.client a.time).2.Remembers (asks ++ [a]) client := by
  have hbucket : (l.allow a.client a.time).2.bucket? client = l.bucket? client := by
    rw [bucket?_allow, if_neg hne]
  rw [Remembers, hbucket, timesOf_append, timesOf_singleton_of_ne hne, List.append_nil, rule_allow]
  exact h

/-- Where time does not go back, the earlier requests of a client have earlier times, or the same. -/
theorem past_of_ordered {a : Ask} (h : Ordered (asks ++ [a])) : ∀ t ∈ timesOf a.client asks, t ≤ a.time := by
  intro t ht
  obtain ⟨x, hx, hclient, rfl⟩ := mem_of_mem_timesOf ht
  exact (List.pairwise_append.1 h).2.2 x hx a (List.mem_singleton_self a) hclient

/-- **Every bucket counts**, whatever the order in which the clients ask. -/
theorem remembers_after (hnew : l.buckets = []) (hinterval : 0 < l.rule.interval)
    (asks : List Ask) (hordered : Ordered asks) (hrange : InRange l.rule.interval asks) (client : String) :
    (l.after asks).Remembers asks client := by
  induction asks using List.reverseRecOn with
  | nil =>
    simp only [Remembers, after, List.foldl_nil, bucket?, hnew]
    rfl
  | append_singleton asks a ih =>
    have hbefore := ih (List.pairwise_append.1 hordered).1 fun x hx => hrange x (List.mem_append_left _ hx)
    obtain ⟨hpos, hlast⟩ := hrange a (List.mem_append_right _ (List.mem_singleton_self a))
    rw [after_append_singleton]
    by_cases hclient : client = a.client
    · subst hclient
      rw [← rule_after l asks] at hinterval hlast
      obtain ⟨_, _, _, hafter⟩ := hbefore.allow hinterval hpos hlast (past_of_ordered hordered)
      exact hafter
    · exact hbefore.allow_of_ne hclient

/-- **The limiter counts.** After any requests of any clients, a request is allowed exactly when fewer than
the limit were made by the same client in the window in which it falls; the windows of a client begin with
its first request. There are as many buckets as clients have asked. -/
theorem allow_iff_few_in_window {limit : Nat} {secs : Int} {l : Limiter}
    (hrule : Limiter.ofRule? limit secs = .ok l) (asks : List Ask) (a : Ask)
    (hordered : Ordered (asks ++ [a])) (hrange : InRange (secs * 1000) (asks ++ [a])) :
    let first := (timesOf a.client asks).headD a.time
    (∃ n, InWindow first (secs * 1000) n a.time ∧
      (((l.after asks).allow a.client a.time).1 = true ↔
        countIn first (secs * 1000) n (timesOf a.client asks) < limit)) ∧
      (l.after asks).size = (asks.map Ask.client).toFinset.card := by
  intro first
  obtain ⟨hl, hsecs, -, hinterval⟩ := of_ofRule? hrule
  have hnew : l.buckets = [] := by rw [hl]
  have hlimit : l.rule.limit = limit := by rw [hl]
  have hpositive : 0 < l.rule.interval := by
    rw [hinterval]
    linarith
  rw [← hinterval] at hrange ⊢
  rw [← hlimit]
  obtain ⟨hpos, hlast⟩ := hrange a (List.mem_append_right _ (List.mem_singleton_self a))
  have hremembers := remembers_after hnew hpositive asks (List.pairwise_append.1 hordered).1
    (fun x hx => hrange x (List.mem_append_left _ hx)) a.client
  rw [← rule_after l asks] at hpositive hlast ⊢
  obtain ⟨n, hin, hallowed, -⟩ := hremembers.allow hpositive hpos hlast (past_of_ordered hordered)
  exact ⟨⟨n, hin, hallowed⟩, size_after hnew asks⟩

/-- Two clients by turns. The second one begins later, and the first one stays away for an interval. -/
def turns : List Ask :=
  [⟨"10.0.0.1", 0⟩, ⟨"10.0.0.2", 700⟩, ⟨"10.0.0.1", 999⟩, ⟨"10.0.0.1", 2000⟩, ⟨"10.0.0.2", 1699⟩,
    ⟨"10.0.0.1", 2998⟩]

/-- The request after the turns is allowed exactly if fewer than two of its client's times lie in its window, and
there are two buckets. -/
theorem turns_allow_iff_few_in_window :
    Ordered (turns ++ [⟨"10.0.0.1", 2999⟩]) ∧ InRange 1000 (turns ++ [⟨"10.0.0.1", 2999⟩]) ∧
      ∃ l, Limiter.ofRule? 2 1 = .ok l ∧ (l.after turns).size = 2 ∧
        ∃ n, InWindow 0 1000 n 2999 ∧
          (((l.after turns).allow "10.0.0.1" 2999).1 = true ↔ countIn 0 1000 n [0, 999, 2000, 2998] < 2) := by
  have hordered : Ordered (turns ++ [⟨"10.0.0.1", 2999⟩]) := by
    unfold Ordered
    decide
  have hrange : InRange 1000 (turns ++ [⟨"10.0.0.1", 2999⟩]) := by
    unfold InRange
    rw [lastMillis_eq]
    decide
  have hrule : Limiter.ofRule? 2 1 = .ok { rule := ⟨2, 1⟩ } := rfl
  obtain ⟨hwindow, hsize⟩ := allow_iff_few_in_window hrule turns _ hordered hrange
  exact ⟨hordered, hrange, _, hrule, hsize, hwindow⟩

end Limiter

end Phrasebook.RateLimit
