import Phrasebook.Proofs.Book.Freshness
/-!
# Fills that come late

A recall puts its page into the cache only if the generation is still the one it noted when it read the
page. But a render stores its phrase in one move and counts up the generation in the next, and a recall
that comes to its check in between does not see that there is a newer page (`Run.overlap_fills_stale_page`).

`Run.fills_newest_iff` says exactly when the list that is written is the newest page: when the phrases
stored since it was read leave the page as it was, in particular when there are none. Each of these phrases
belongs to a render that stands right between its store and its count.
-/

set_option autoImplicit false

namespace Phrasebook.Book

namespace Run

variable (r : Run segment)

/-- Recall `i` reads the page `h` in move `m`. -/
def Reads (i m : Nat) (h : History) : Prop :=
  ∃ s, r.call m i = some s ∧ s.WantsPage (r.book m) ∧
    r.call (m + 1) i = some (.haveRead (r.book m).generation (.ok h))

/-- Recall `i` puts the list `h` into the cache in move `k`. -/
def Fills (i k : Nat) (h : History) : Prop :=
  ∃ g, r.call k i = some (.haveRead g (.ok h)) ∧ r.call (k + 1) i = some (.filled g h (.ok ()))

/-- The phrases stored from one moment to another. -/
def storedBetween (m n : Nat) : List Phrase := (r.book n).records.drop (r.book m).records.length

/-- Between two moments the book grows by what is stored between them. -/
theorem records_eq {m n : Nat} (h : m ≤ n) :
    (r.book n).records = (r.book m).records ++ r.storedBetween m n := by
  obtain ⟨late, hl⟩ := (r.grows h).records
  rw [storedBetween, hl, List.drop_left]

/-- What is stored in a move is stored by a render that has not counted it yet. -/
theorem storedBetween_succ {m n : Nat} (h : m ≤ n) {p : Phrase} (hp : p ∈ r.storedBetween m (n + 1)) :
    p ∈ r.storedBetween m n ∨ r.Uncounted (n + 1) p := by
  have hsame : (r.book (n + 1)).records = (r.book n).records → p ∈ r.storedBetween m n := by
    intro he
    rw [storedBetween, he] at hp
    exact hp
  rcases r.leg_of_book_succ n with hb | ⟨j, w, s, t, -, -, ht, hleg⟩
  · exact Or.inl (hsame (by rw [hb]))
  · rcases hleg.records_cases with he | ⟨q, rfl, he⟩
    · exact Or.inl (hsame he)
    · have hlen : (r.book m).records.length ≤ (r.book n).records.length := by
        rw [r.records_eq h, List.length_append]
        exact Nat.le_add_right _ _
      rw [storedBetween, he, List.drop_append_of_le_length hlen] at hp
      rcases List.mem_append.1 hp with hp | hp
      · exact Or.inl hp
      · rw [List.mem_singleton.1 hp]
        exact Or.inr ⟨j, ht⟩

/-- As long as the generation stays the same no render gets past its count. -/
theorem Uncounted.succ {r : Run segment} {n : Nat} {p : Phrase} (h : r.Uncounted n p)
    (hg : (r.book (n + 1)).generation = (r.book n).generation) : r.Uncounted (n + 1) p := by
  obtain ⟨j, hj⟩ := h
  rcases r.call_next hj with hj' | ⟨w, -, -, hb⟩
  · exact ⟨j, hj'⟩
  · have := (leg_segment w (r.book n) (r.rests hj)).generation_of_stored
    rw [hb] at hg
    omega

/-- **A page that was read** is the newest one but for what renders have stored since; and as long as the
generation is the same none of them has counted it. -/
theorem reads_of_haveRead {n i g : Nat} {h : History} (hc : r.call n i = some (.haveRead g (.ok h))) :
    ∃ m < n, r.Reads i m h ∧ (r.book m).generation = g ∧ h = (r.book m).newest ∧
      ((r.book n).generation = g → ∀ p ∈ r.storedBetween m n, r.Uncounted n p) := by
  induction n with
  | zero => simp at hc
  | succ n ih =>
    rcases r.leg_of_call_succ hc with hc' | ⟨hf, -⟩ | ⟨w, s, -, hs, hleg⟩
    · -- another call moves: what it stores it has not counted, and nothing else counts at this generation
      obtain ⟨m, hm, hreads, hmg, hpage, hlate⟩ := ih hc'
      refine ⟨m, Nat.lt_succ_of_lt hm, hreads, hmg, hpage, ?_⟩
      intro hg p hp
      have hgn : (r.book n).generation = g := by
        have h₁ := (r.grows (Nat.le_of_lt hm)).generation
        have h₂ := (r.grows_succ n).generation
        omega
      rcases r.storedBetween_succ (Nat.le_of_lt hm) hp with hp | hp
      · exact (hlate hgn p hp).succ (hg.trans hgn.symm)
      · exact hp
    · exact hf.elim
    · obtain ⟨hw, rfl, hpage, hb⟩ := hleg.of_haveRead
      refine ⟨n, Nat.lt_succ_self n, ⟨s, hs, hw, hc⟩, rfl, hpage, ?_⟩
      intro _ p hp
      rw [storedBetween, hb, List.drop_length] at hp
      cases hp

/-- The newest page after some more phrases. -/
theorem newest_eq_of_records {b b' : Book} {late : List Phrase} (h : b'.records = b.records ++ late) :
    b'.newest = ⟨(late.reverse ++ b.newest.phrases).take pageSize⟩ := by
  simp only [newest, page, h, List.reverse_append, List.drop_zero, List.take_append, List.take_take]
  simp

/-- **When a fill writes the newest page.** It does so if no render stands between its store and its count.
In general the list that recall `i` writes was read in some move `m`, and it is the newest page at the time
of writing exactly if the phrases stored in between leave the page as it was; each of these phrases belongs
to a render that has stored it and not counted it yet. -/
theorem fills_newest_iff {i k : Nat} {h : History} (hf : r.Fills i k h) :
    (r.book (k + 1)).cached = some h ∧
      ((∀ p, ¬ r.Uncounted k p) → h = (r.book (k + 1)).newest) ∧
      ∃ m < k, r.Reads i m h ∧ (∀ p ∈ r.storedBetween m k, r.Uncounted k p) ∧
        (h = (r.book (k + 1)).newest ↔
          ((r.storedBetween m k).reverse ++ h.phrases).take pageSize = h.phrases) := by
  obtain ⟨g, hread, hfill⟩ := hf
  -- the fill found the counter where the read had left it, so every store since is uncounted
  have hleg : g = (r.book k).generation ∧ r.book (k + 1) = { r.book k with cached := some h } := by
    rcases r.leg_of_call_succ hfill with h' | ⟨hf, -⟩ | ⟨w, s, -, -, hleg⟩
    · rw [hread] at h'
      cases h'
    · exact hf.elim
    · exact ⟨hleg.of_filled.2.2.1, hleg.of_filled.2.2.2⟩
  obtain ⟨hg, hb⟩ := hleg
  obtain ⟨m, hm, hreads, -, hpage, hlate⟩ := r.reads_of_haveRead hread
  -- the book has only been written on behind what was read
  have hrecords : (r.book (k + 1)).records = (r.book m).records ++ r.storedBetween m k := by
    rw [hb]
    exact r.records_eq (Nat.le_of_lt hm)
  refine ⟨by rw [hb], ?_, m, hm, hreads, hlate hg.symm, ?_⟩
  · intro hnone
    have hempty : r.storedBetween m k = [] := by
      rw [List.eq_nil_iff_forall_not_mem]
      intro p hp
      exact hnone p (hlate hg.symm p hp)
    rw [hempty, List.append_nil] at hrecords
    rw [hpage, newest, newest, page, page, hrecords]
  rw [newest_eq_of_records hrecords, ← hpage]
  constructor
  · intro he
    exact (congrArg History.phrases he).symm
  · intro he
    rw [he]

/-- The page of the overlap before the render. -/
def overlapOldPage : History := ⟨[⟨"en", "de", "old", "OLD"⟩]⟩

/-- Recall 0 of the overlap writes the page of before the render. -/
theorem overlap_fills : overlap.Fills 0 6 overlapOldPage := ⟨0, by rfl, by rfl⟩

/-- In the overlap a recall fills the cache with the page that it read before a phrase was stored, while that is
not counted yet. -/
theorem overlap_fills_newest_iff :
    overlap.Fills 0 6 overlapOldPage ∧ (overlap.book 7).cached = some overlapOldPage ∧
      ((∀ p, ¬ overlap.Uncounted 6 p) → overlapOldPage = (overlap.book 7).newest) ∧
      ∃ m < 6, overlap.Reads 0 m overlapOldPage ∧
        (∀ p ∈ overlap.storedBetween m 6, overlap.Uncounted 6 p) ∧
        (overlapOldPage = (overlap.book 7).newest ↔
          ((overlap.storedBetween m 6).reverse ++ overlapOldPage.phrases).take pageSize =
            overlapOldPage.phrases) :=
  ⟨overlap_fills, overlap.fills_newest_iff overlap_fills⟩

/-- **A fill can come late.** No call of the overlap fails and its cache starts empty, and yet a recall
writes a list that is not the newest page. -/
theorem overlap_fills_stale_page :
    (∀ n i w, overlap.moves n = .go i w →
        (∀ f, w.fails f = none) ∧ ∀ q, ∃ text, w.brings q = .ok (q.phrase text)) ∧
      overlap.start.hasCache = true ∧ overlap.start.cached = none ∧
      ∃ i k h, overlap.Fills i k h ∧ h ≠ (overlap.book (k + 1)).newest := by
  refine ⟨?_, rfl, rfl, 0, 6, overlapOldPage, overlap_fills, by decide⟩
  intro n i w h
  have hcalm : (∀ f, (calm "NEW").fails f = none) ∧ ∀ q, ∃ text, (calm "NEW").brings q = .ok (q.phrase text) :=
    ⟨fun _ => rfl, fun _ => ⟨"NEW", rfl⟩⟩
  have hn : (overlap.moves n).Within fun w =>
      (∀ f, w.fails f = none) ∧ ∀ q, ∃ text, w.brings q = .ok (q.phrase text) :=
    within_ofList ⟨fun _ => rfl, fun _ => ⟨"", rfl⟩⟩ (by simp [overlapMoves, Move.Within, hcalm]) n
  rw [h] at hn
  exact hn

end Run

end Phrasebook.Book
