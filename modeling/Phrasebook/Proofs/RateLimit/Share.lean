import Mathlib.Data.List.Nodup
import Mathlib.Data.List.Perm.Basic
import Phrasebook.Proofs.RateLimit.Collection
/-!
# The share of one collection pass

A pass goes over the buckets twice. The first loop looks at them in the order in which it meets them and
marks the idle ones; it counts the buckets behind it and stops when there are more than `visitLimit`. The
second loop removes what is marked, one client after the other. `inspect` and `removeEach` are these loops,
and `collect_eq_loops` says that they make up the pass.

What a pass does to the buckets is as it should be, for any number of them and any order
(`share_is_kept_iff`): exactly the idle ones among those looked at are gone, every other is as it was, and
their number comes back. The share is not. The loop stops one bucket late, so that it looks at more than
`visitLimit` buckets exactly if there are more, and `crowd_exceeds_share` shows it remove more.
-/

set_option autoImplicit false

namespace Phrasebook.RateLimit.Limiter

variable {l : Limiter} {order marked : List String} {now expire : Millis}

/-! ## The two loops -/

/-- The first loop, with so many buckets behind it and these clients still to be met: whose buckets it looks
at, and which of them it marks. -/
def inspect (marks : String → Bool) : Nat → List String → List String × List String
  | _, [] => ([], [])
  | behind, client :: rest =>
    if behind > visitLimit then ([], [])
    else
      let (seen, marked) := inspect marks (behind + 1) rest
      (client :: seen, if marks client then client :: marked else marked)

/-- The second loop: the clients are removed one after the other. -/
def removeEach (marked : List String) (buckets : List (String × Bucket)) : List (String × Bucket) :=
  marked.foldl (fun left client => left.filter fun e => e.1 != client) buckets

/-- Whether the first loop marks a client. -/
def idleAt (l : Limiter) (now expire : Millis) (client : String) : Bool :=
  match l.bucket? client with
  | some b => Bucket.isIdle b now expire
  | none => false

/-- A bucket is marked exactly if it was last used at least so long ago. -/
theorem idleAt_of_some {client : String} {b : Bucket} (h : l.bucket? client = some b) :
    l.idleAt now expire client = true ↔ b.usedAt + expire ≤ now := by
  simp only [idleAt, h, Bucket.isIdle, decide_eq_true_eq]

/-- A bucket that is found is there. -/
theorem mem_of_bucket? {client : String} {b : Bucket} (h : l.bucket? client = some b) :
    (client, b) ∈ l.buckets := by
  rw [bucket?, List.lookup_eq_some_iff] at h
  obtain ⟨before, after, hsplit, -⟩ := h
  rw [hsplit]
  exact List.mem_append_right _ List.mem_cons_self

/-- A client that is known has a bucket. -/
theorem exists_bucket_of_mem {client : String} (h : client ∈ l.clients) : ∃ b, l.bucket? client = some b := by
  obtain ⟨e, he, rfl⟩ := List.mem_map.1 h
  cases hb : l.bucket? e.1 with
  | none => exact absurd (beq_self_eq_true e.1) (by simpa using List.lookup_eq_none_iff.1 hb e he)
  | some b => exact ⟨b, rfl⟩

/-- The first loop looks at the first of the buckets that are left in the share, which has room for one more than
it says. -/
theorem inspect_eq (marks : String → Bool) (behind : Nat) (order : List String) :
    inspect marks behind order =
      (order.take (visitLimit + 1 - behind), (order.take (visitLimit + 1 - behind)).filter marks) := by
  induction order generalizing behind with
  | nil => simp [inspect]
  | cons client rest ih =>
    rw [inspect]
    by_cases hstop : behind > visitLimit
    · rw [if_pos hstop]
      have hnone : visitLimit + 1 - behind = 0 := by omega
      simp [hnone]
    · rw [if_neg hstop, ih]
      -- one bucket less is left to look at when this one is behind the loop
      have hone : visitLimit + 1 - behind = visitLimit + 1 - (behind + 1) + 1 := by omega
      rw [hone, List.take_succ_cons, List.filter_cons]

/-- Removing clients one after the other leaves the others. -/
theorem removeEach_eq (marked : List String) (buckets : List (String × Bucket)) :
    removeEach marked buckets = buckets.filter fun e => !marked.contains e.1 := by
  rw [removeEach]
  induction marked generalizing buckets with
  | nil => simp
  | cons client rest ih =>
    rw [List.foldl_cons, ih, List.filter_filter]
    apply List.filter_congr
    intro e _
    by_cases hc : e.1 = client <;> simp [hc]

/-- **A pass is its two loops.** -/
theorem collect_eq_loops (l : Limiter) (order : List String) (now expire : Millis) :
    l.collect order now expire =
      let marked := (inspect (l.idleAt now expire) 0 order).2
      (marked.length, { l with buckets := removeEach marked l.buckets }) := by
  simp only [inspect_eq, removeEach_eq]
  rfl

/-! ## What is left -/

/-- After the second loop the marked clients have no buckets, and the others have theirs. -/
theorem bucket?_removeEach (marked : List String) (buckets : List (String × Bucket)) (client : String) :
    (removeEach marked buckets).lookup client =
      if client ∈ marked then none else buckets.lookup client := by
  rw [removeEach_eq, lookup_filter_keys fun c => !marked.contains c]
  by_cases hm : client ∈ marked <;> simp [hm]

/-- Every client that is marked has one bucket, so one is removed for each. -/
theorem length_removeEach (hkeyed : l.clients.Nodup) (hmarked : marked.Nodup)
    (hmem : ∀ client ∈ marked, client ∈ l.clients) :
    marked.length + (removeEach marked l.buckets).length = l.size := by
  have hperm : (l.clients.filter marked.contains).Perm marked := by
    rw [List.perm_ext_iff_of_nodup (hkeyed.filter _) hmarked]
    intro client
    simp only [List.mem_filter, List.contains_iff_mem]
    exact ⟨And.right, fun h => ⟨hmem client h, h⟩⟩
  have hgone : (l.buckets.filter fun e => marked.contains e.1).length = marked.length := by
    rw [← hperm.length_eq, clients, List.filter_map, List.length_map]
    rfl
  have hsplit := List.length_eq_length_filter_add (l := l.buckets) fun e => marked.contains e.1
  rw [removeEach_eq, size, hsplit, hgone]

/-- No more than the share is marked, unless more buckets are looked at and all of them are idle. -/
theorem length_filter_take_le_iff {marks : String → Bool} {n : Nat} (order : List String) :
    ((order.take (n + 1)).filter marks).length ≤ n ↔
      order.length ≤ n ∨ ∃ client ∈ order.take (n + 1), marks client = false := by
  -- the bound fails only if the whole prefix is there and every member of it is marked
  have htake : (order.take (n + 1)).length = min (n + 1) order.length := List.length_take
  have hle : ((order.take (n + 1)).filter marks).length ≤ (order.take (n + 1)).length :=
    List.length_filter_le _ _
  constructor
  · intro hfew
    by_cases hlong : order.length ≤ n
    · exact Or.inl hlong
    · right
      by_contra hall
      push Not at hall
      have hsame : (order.take (n + 1)).filter marks = order.take (n + 1) := by
        apply List.filter_eq_self.2
        intro client hc
        exact eq_true_of_ne_false (hall client hc)
      rw [hsame] at hfew
      omega
  · rintro (hshort | ⟨client, hc, hnot⟩)
    · omega
    · have hlt : ((order.take (n + 1)).filter marks).length < (order.take (n + 1)).length := by
        apply List.length_filter_lt_length_iff_exists.2
        exact ⟨client, hc, by simp [hnot]⟩
      omega

/-! ## The share -/

/-- **What one pass does.** Let each client have one bucket, and let the pass meet them in any order. It looks
at the first `visitLimit + 1` of them, or at all if there are fewer. It removes exactly those it looked at that
were not used for `expire`; the bucket of every other client is as it was; and it returns how many are gone. So
it keeps to its share of `visitLimit` buckets exactly if there are no more than that, and removes no more than
its share exactly if there are no more or one that it looked at is in use. -/
theorem share_is_kept_iff (hkeyed : l.clients.Nodup) (horder : order.Perm l.clients) (now expire : Millis) :
    let seen := (inspect (l.idleAt now expire) 0 order).1
    let removed := (l.collect order now expire).1
    let left := (l.collect order now expire).2
    seen <+: order ∧ seen.length = min (visitLimit + 1) l.size ∧
      (∀ client b, l.bucket? client = some b →
        left.bucket? client = if client ∈ seen ∧ b.usedAt + expire ≤ now then none else some b) ∧
      (∀ client, l.bucket? client = none → left.bucket? client = none) ∧
      left.rule = l.rule ∧
      removed + left.size = l.size ∧
      (seen.length ≤ visitLimit ↔ l.size ≤ visitLimit) ∧
      (removed ≤ visitLimit ↔ l.size ≤ visitLimit ∨
        ∃ client ∈ seen, ∃ b, l.bucket? client = some b ∧ now < b.usedAt + expire) := by
  intro seen removed left
  -- the loop inspects a prefix of the order, one longer than the share
  have hseen : seen = order.take (visitLimit + 1) := congrArg Prod.fst (inspect_eq _ 0 order)
  have hloops := collect_eq_loops l order now expire
  rw [inspect_eq, Nat.sub_zero, ← hseen] at hloops
  have hremoved : removed = (seen.filter (l.idleAt now expire)).length := congrArg Prod.fst hloops
  have hleft : left = { l with buckets := removeEach (seen.filter (l.idleAt now expire)) l.buckets } :=
    congrArg Prod.snd hloops
  have hsize : order.length = l.size := by rw [horder.length_eq, clients, List.length_map, size]
  have hlength : seen.length = min (visitLimit + 1) l.size := by rw [hseen, List.length_take, hsize]
  have hclient : ∀ client ∈ seen, client ∈ l.clients := by
    intro client hc
    rw [hseen] at hc
    exact horder.mem_iff.1 (List.mem_of_mem_take hc)
  have hbucket : ∀ client, left.bucket? client =
      if client ∈ seen ∧ l.idleAt now expire client = true then none else l.bucket? client := by
    intro client
    rw [hleft, bucket?, bucket?_removeEach]
    simp only [List.mem_filter, bucket?]
  refine ⟨?_, hlength, ?_, ?_, by rw [hleft], ?_, by omega, ?_⟩
  · rw [hseen]
    exact List.take_prefix _ _
  · intro client b hb
    rw [hbucket, hb]
    simp only [idleAt_of_some hb]
  · intro client hnone
    rw [hbucket, hnone, ite_self]
  · rw [hremoved, hleft]
    refine length_removeEach hkeyed ?_ ?_
    · rw [hseen]
      exact ((horder.nodup_iff.2 hkeyed).sublist (List.take_sublist _ _)).filter _
    · exact fun client hc => hclient client (List.mem_filter.1 hc).1
  · rw [hremoved, hseen, length_filter_take_le_iff, hsize, ← hseen]
    refine or_congr_right ?_
    apply exists_congr
    intro client
    refine and_congr_right fun hc => ?_
    obtain ⟨b, hb⟩ := exists_bucket_of_mem (hclient client hc)
    rw [← Bool.not_eq_true, idleAt_of_some hb, not_le]
    simp [hb]

/-- Three clients, the last of which was last asked just as long ago as a bucket may stay unused. -/
def trio : Limiter :=
  { rule := ⟨2, 1⟩
    buckets := [("10.0.0.1", ⟨1, 1000, 0⟩), ("10.0.0.2", ⟨0, 1600, 600⟩), ("10.0.0.3", ⟨1, 1500, 500⟩)] }

/-- Of the trio one bucket stays: its client was seen just too lately. -/
theorem trio_share_is_kept :
    trio.clients.Nodup ∧ ["10.0.0.3", "10.0.0.2", "10.0.0.1"].Perm trio.clients ∧
      (trio.collect ["10.0.0.3", "10.0.0.2", "10.0.0.1"] 1000 500).1 + 1 = 3 ∧
      (trio.collect ["10.0.0.3", "10.0.0.2", "10.0.0.1"] 1000 500).2.bucket? "10.0.0.2" = some ⟨0, 1600, 600⟩ ∧
      (trio.collect ["10.0.0.3", "10.0.0.2", "10.0.0.1"] 1000 500).1 ≤ visitLimit := by
  have hkeyed : trio.clients.Nodup := by decide
  have horder : ["10.0.0.3", "10.0.0.2", "10.0.0.1"].Perm trio.clients := by decide
  obtain ⟨-, -, hbucket, -, -, hcount, -, hshare⟩ := share_is_kept_iff hkeyed horder 1000 500
  refine ⟨hkeyed, horder, hcount, ?_, hshare.2 (Or.inl (by decide))⟩
  rw [hbucket "10.0.0.2" ⟨0, 1600, 600⟩ rfl]
  decide

/-- One client more than the share, all of them last asked at the beginning. -/
def crowd : Limiter :=
  { rule := ⟨1, 1⟩
    buckets := (List.range (visitLimit + 1)).map fun n => (String.ofList (List.replicate n '1'), ⟨0, 1000, 0⟩) }

/-- **The loop stops one bucket late.** Whatever the order in which a pass meets the crowd, it removes
everybody. -/
theorem crowd_exceeds_share :
    crowd.clients.Nodup ∧ ∀ order : List String, order.Perm crowd.clients →
      (crowd.collect order 1000 1000).1 = 201 ∧ visitLimit = 200 := by
  have hkeyed : crowd.clients.Nodup := by
    rw [clients, crowd, List.map_map]
    apply List.nodup_range.map
    intro m n h
    simpa using congrArg String.length h
  refine ⟨hkeyed, fun order horder => ⟨?_, rfl⟩⟩
  have hall : ∀ client ∈ crowd.clients, crowd.idleAt 1000 1000 client = true := by
    intro client hc
    obtain ⟨b, hb⟩ := exists_bucket_of_mem hc
    obtain ⟨n, -, he⟩ := List.mem_map.1 (mem_of_bucket? hb)
    obtain ⟨-, rfl⟩ := Prod.mk.inj he
    exact (idleAt_of_some hb).2 (by decide)
  have hlength : order.length = 201 := by
    rw [horder.length_eq, clients, List.length_map, crowd, List.length_map, List.length_range]
    rfl
  rw [collect_eq_loops, inspect_eq]
  dsimp only
  rw [List.filter_eq_self.2, List.length_take, hlength]
  · rfl
  · intro client hc
    exact hall client (horder.mem_iff.1 (List.mem_of_mem_take hc))

end Phrasebook.RateLimit.Limiter
