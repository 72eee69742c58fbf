import Phrasebook.Proofs.Book.Leg
/-!
# How fresh a recalled list is

A recall answers with the newest page of some moment. It is a moment after the recall was begun if the page
was read from the book; if it was found in the cache it may be an earlier one, and the question is how much
earlier. The answer rests on one fact about the cache (`Run.fresh_of_cached`): the list in it is the newest
page of a moment whose generation is not behind that of any moment at which the cache was empty. A render
counts up the generation and empties the cache in the same segment, so a list found after that was read
after it.

The lead result is `Run.recalled_page_is_recent`: who has rendered a phrase finds it in what is recalled
later.
-/

set_option autoImplicit false

namespace Phrasebook.Book

/-- The phrase that a render has stored, once it is past its store. -/
def Stage.kept : Stage → Option Phrase
  | .stored p (.ok ()) | .counted p | .invalidated p _ | .rendered (.ok p) => some p
  | _ => none

namespace Run

variable (r : Run segment)

/-! ## What is said of a run -/

/-- Render `j` stores its phrase in move `k`. -/
def Stores (j k : Nat) : Prop :=
  ∃ q p, r.call k j = some (.asked q (.ok p)) ∧ r.call (k + 1) j = some (.stored p (.ok ()))

/-- Render `j` has answered with its phrase before call `i` is begun. -/
def RendersBefore (j i : Nat) : Prop :=
  ∃ n p, r.call n j = some (.rendered (.ok p)) ∧ r.begun n ≤ i

/-- Render `j` empties the cache at some time, or there is no cache to be emptied. -/
def Empties (j : Nat) : Prop :=
  r.start.hasCache = false ∨ ∃ n p, r.call n j = some (.invalidated p (.ok ()))

/-! ## Where the list of a recall comes from -/

/-- Call `i` had been begun at a moment up to `n` whose newest page is `h` and whose generation is `g`. -/
def HasRead (n i g : Nat) (h : History) : Prop :=
  ∃ m ≤ n, i < r.begun m ∧ (r.book m).generation = g ∧ h = (r.book m).newest

/-- Call `i` had been begun at a moment up to `n` at which the cache held `h`. -/
def HasFound (n i : Nat) (h : History) : Prop :=
  ∃ m ≤ n, i < r.begun m ∧ (r.book m).hasCache = true ∧ (r.book m).cached = some h

/-- What is known of the list that a recall carries at a stage. -/
def Source (n i : Nat) : Stage → Prop
  | .looked (.ok (some h)) => r.HasFound n i h
  | .haveRead g (.ok h) | .filled g h _ => r.HasRead n i g h
  | .cleared h _ => ∃ g, r.HasRead n i g h
  | .recalled (.ok h) => r.HasFound n i h ∨ ∃ g, r.HasRead n i g h
  | _ => True

variable {r}

/-- What has been read has been read from then on. -/
theorem HasRead.succ {n i g : Nat} {h : History} (hr : r.HasRead n i g h) : r.HasRead (n + 1) i g h := by
  obtain ⟨m, hm, hi⟩ := hr
  exact ⟨m, Nat.le_succ_of_le hm, hi⟩

/-- What has been found in the cache has been found from then on. -/
theorem HasFound.succ {n i : Nat} {h : History} (hf : r.HasFound n i h) : r.HasFound (n + 1) i h := by
  obtain ⟨m, hm, hi⟩ := hf
  exact ⟨m, Nat.le_succ_of_le hm, hi⟩

/-- Where an answer comes from stays known. -/
theorem Source.succ {n i : Nat} {s : Stage} (hs : r.Source n i s) : r.Source (n + 1) i s := by
  -- only the stages that carry a page have anything to keep, and what they know is about the past
  cases s with
  | looked f =>
    rcases f with c | (_ | h)
    · trivial
    · trivial
    · exact HasFound.succ hs
  | haveRead g p =>
    cases p with
    | error c => trivial
    | ok h => exact HasRead.succ hs
  | filled g h d => exact HasRead.succ hs
  | cleared h d =>
    obtain ⟨g, hg⟩ := hs
    exact ⟨g, hg.succ⟩
  | recalled a =>
    cases a with
    | error e => trivial
    | ok h => exact hs.imp HasFound.succ (fun ⟨g, hg⟩ => ⟨g, hg.succ⟩)
  | _ => trivial

/-- A leg hands the list of a recall on. -/
theorem Source.leg {n i : Nat} {w : World} {s t : Stage} {b : Book} (hi : i < r.begun n)
    (hs : r.Source n i s) (h : Leg w (r.book n) s t b) : r.Source n i t := by
  -- the legs that take up a page are the look, which finds it, and the read, which makes it
  cases h with
  | look hc =>
    simp only [World.answer]
    split
    · trivial
    · cases hcached : (r.book n).cached with
      | none => trivial
      | some h => exact ⟨n, Nat.le_refl n, hi, hc, hcached⟩
  | hit h => exact Or.inl hs
  | read hw =>
    simp only [World.answer]
    split
    · trivial
    · exact ⟨n, Nat.le_refl n, hi, rfl, rfl⟩
  | fill h hc => exact hs
  | refrain h hg => exact Or.inr ⟨_, hs⟩
  | settle h hd => exact Or.inr ⟨_, hs⟩
  | clear h hg => exact ⟨_, hs⟩
  | cleared h d => exact Or.inr hs
  | recalled a | rendered a => exact hs
  | _ => trivial

variable (r)

/-- **Every list of a recall was the newest page, or in the cache, after the recall was begun.** -/
theorem source {n i : Nat} {s : Stage} (h : r.call n i = some s) : r.Source n i s := by
  induction n generalizing s with
  | zero => simp at h
  | succ n ih =>
    rcases r.leg_of_call_succ h with h' | ⟨hs, -⟩ | ⟨w, s', -, hs', hleg⟩
    · exact (ih h').succ
    · -- a call that has just been begun carries no list
      cases s <;> trivial
    · exact ((ih hs').leg (r.lt_begun_of_call hs') hleg).succ

/-! ## What the cache holds -/

/-- The list is the newest page of a moment up to `n`, and the generation of that moment is not behind the
one of any moment up to `n` at which the cache was empty. -/
def Fresh (n : Nat) (h : History) : Prop :=
  ∃ m ≤ n, h = (r.book m).newest ∧
    ∀ t ≤ n, (r.book t).cached = none → (r.book t).generation ≤ (r.book m).generation

variable {r}

/-- As long as the cache is not emptied the same moment will do. -/
theorem Fresh.succ {n : Nat} {h h' : History} (hf : r.Fresh n h) (hc : (r.book (n + 1)).cached = some h') :
    r.Fresh (n + 1) h := by
  obtain ⟨m, hm, hh, hall⟩ := hf
  refine ⟨m, Nat.le_succ_of_le hm, hh, ?_⟩
  intro t ht hnone
  rcases Nat.lt_or_ge n t with hlt | hle
  · have htn : t = n + 1 := by omega
    rw [htn, hc] at hnone
    cases hnone
  · exact hall t hle hnone

variable (r)

/-- **What the cache holds is fresh.** A list gets into the cache only while the generation is the one at
which it was read. -/
theorem fresh_of_cached (h₀ : Current r.start) (hc : r.start.hasCache = true) {n : Nat} {h : History}
    (hn : (r.book n).cached = some h) : r.Fresh n h := by
  -- on the moves: the cache keeps its list, or is emptied, or is filled
  induction n generalizing h with
  | zero =>
    refine ⟨0, Nat.le_refl 0, h₀ hc h hn, ?_⟩
    intro t ht _
    exact Nat.le_of_eq (congrArg (fun t => (r.book t).generation) (Nat.le_zero.1 ht))
  | succ n ih =>
    rcases r.leg_of_book_succ n with hb | ⟨i, w, s, t, -, hs, -, hleg⟩
    · rw [hb] at hn
      exact (ih hn).succ (by rw [hb]; exact hn)
    · rcases hleg.cached_cases with hsame | hnone | ⟨p, hp, hset⟩
      · exact (ih (hsame ▸ hn)).succ hn
      · rw [hnone] at hn
        cases hn
      · -- a fill: the page was read at a moment of the present generation, which is the greatest so far
        obtain rfl : p = h := Option.some.inj (hset.symm.trans hn)
        rw [hp] at hs
        obtain ⟨m, hm, -, hg, hpage⟩ := r.source hs
        refine Fresh.succ ⟨m, hm, hpage, ?_⟩ hn
        intro t ht _
        rw [hg]
        exact (r.grows ht).generation

/-! ## What a render leaves behind -/

/-- **A render that is past its store has stored its phrase in some move.** -/
theorem stores_of_kept {n j : Nat} {s : Stage} {p : Phrase} (h : r.call n j = some s)
    (hs : s.kept = some p) : ∃ k < n, r.Stores j k := by
  -- by induction on the moves: the phrase was kept before the last one, or the last one stored it
  induction n generalizing s p with
  | zero => simp at h
  | succ n ih =>
    have hback : ∀ {s' : Stage} {p' : Phrase}, r.call n j = some s' → s'.kept = some p' →
        ∃ k < n + 1, r.Stores j k := by
      intro s' p' hs' hp'
      obtain ⟨k, hk, hst⟩ := ih hs' hp'
      exact ⟨k, Nat.lt_succ_of_lt hk, hst⟩
    rcases r.leg_of_call_succ h with h' | ⟨hf, -⟩ | ⟨w, s', -, hs', hleg⟩
    · exact hback h' hs
    · cases s <;> first | exact hf.elim | cases hs
    · generalize r.book (n + 1) = b at hleg
      -- of all legs only the store brings a call to keep a phrase it did not keep
      cases hleg with
      | store q p' =>
        cases hd : w.answer .repoStore () with
        | error c =>
          rw [hd] at hs
          cases hs
        | ok u =>
          rw [hd] at h
          exact ⟨n, Nat.lt_succ_self n, q, p', hs', h⟩
      | invalidate p' hc => exact hback hs' rfl
      | count p' hc => exact hback hs' rfl
      | invalidated p' d => exact hback hs' rfl
      | rendered a => exact hback hs' hs
      | look hc | hit h | read hw | unread g c | fill h hc | refrain h hg | settle h hd | clear h hg
      | cleared h d | recalled a | refuse hq | ask hq | unasked q c | unstored p c => cases hs

/-- **A render that has emptied the cache did so in the move in which it counted up the generation**, and
after it had stored its phrase. -/
theorem empties_of_invalidated {n j : Nat} {p : Phrase}
    (h : r.call n j = some (.invalidated p (.ok ()))) :
    ∃ k m, k < m ∧ m < n ∧ r.Stores j k ∧
      (r.book m).generation < (r.book (m + 1)).generation ∧ (r.book (m + 1)).cached = none := by
  induction n with
  | zero => simp at h
  | succ n ih =>
    rcases r.leg_of_call_succ h with h' | ⟨hf, -⟩ | ⟨w, s, -, hs, hleg⟩
    · obtain ⟨k, m, hkm, hmn, hrest⟩ := ih h'
      exact ⟨k, m, hkm, Nat.lt_succ_of_lt hmn, hrest⟩
    · exact hf.elim
    · obtain ⟨rfl, hb⟩ := hleg.of_invalidated
      obtain ⟨k, hk, hst⟩ := r.stores_of_kept hs rfl
      refine ⟨k, n, hk, Nat.lt_succ_self n, hst, ?_, ?_⟩
      · rw [hb]
        exact Nat.lt_succ_self _
      · rw [hb]

/-! ## Reading what was rendered -/

/-- A moment at which call `i` had been begun comes after one at which it had not. -/
theorem lt_of_begun {i m n : Nat} (hn : r.begun n ≤ i) (hm : i < r.begun m) : n < m := by
  by_cases h : n < m
  · exact h
  · have := r.begun_mono (Nat.le_of_not_lt h)
    omega

/-- **Renders are seen by later recalls.** Whatever fails and however the calls overlap, a recall that
answers with a list answers with the newest page of some moment up to its answer; and if a render had
answered with its phrase before the recall was begun, and has emptied the cache where there is one, then it
had stored its phrase by that moment. -/
theorem recalled_page_is_recent (h₀ : Current r.start) {n i : Nat} {h : History}
    (hret : r.call n i = some (.recalled (.ok h))) :
    ∃ m ≤ n, h = (r.book m).newest ∧
      ∀ j, r.RendersBefore j i → r.Empties j → ∃ k < m, r.Stores j k := by
  rcases r.source hret with ⟨m₀, hm₀, hi, hcache, hcached⟩ | ⟨g, m, hm, hi, -, hh⟩
  · -- found in the cache: its page is as late as the last time the cache was seen empty
    have hstart : r.start.hasCache = true := (r.hasCache_eq m₀).symm.trans hcache
    obtain ⟨m, hm, hh, hall⟩ := r.fresh_of_cached h₀ hstart hcached
    refine ⟨m, Nat.le_trans hm hm₀, hh, ?_⟩
    rintro j ⟨a, p, hdone, ha⟩ hempties
    rcases hempties with hno | ⟨e, p', he⟩
    · rw [hstart] at hno
      cases hno
    · have ham₀ : a < m₀ := r.lt_of_begun ha hi
      have hea : e ≤ a := by
        by_cases hlt : e ≤ a
        · exact hlt
        · have := r.call_of_isDone hdone rfl (Nat.le_of_not_le hlt)
          rw [this] at he
          cases he
      obtain ⟨k, t, hkt, hte, hst, hgen, hnone⟩ := r.empties_of_invalidated he
      have hle : (r.book (t + 1)).generation ≤ (r.book m).generation := hall (t + 1) (by omega) hnone
      have htm : t < m := r.lt_of_generation_lt (Nat.lt_of_lt_of_le hgen hle)
      exact ⟨k, Nat.lt_trans hkt htm, hst⟩
  · -- read from the book after the recall was begun
    refine ⟨m, hm, hh, ?_⟩
    rintro j ⟨a, p, hdone, ha⟩ -
    obtain ⟨k, hk, hst⟩ := r.stores_of_kept hdone rfl
    exact ⟨k, Nat.lt_trans hk (r.lt_of_begun ha hi), hst⟩

/-! ## An overlap

Recall 0 has read its page when render 1 stores a phrase, and puts that page into the cache before the
render counts up the generation and empties it. Recall 2 comes after the render and fills the cache again,
recall 3 finds what it wrote. -/

/-- The moves of the overlap. -/
def overlapMoves : List Move :=
  let w := calm "NEW"
  [.newRecall, .go 0 w, .go 0 w,
   .newRender ⟨"en", "de", "new"⟩, .go 1 w, .go 1 w,
   .go 0 w, .go 1 w, .go 1 w, .go 0 w,
   .newRecall, .go 2 w, .go 2 w, .go 2 w, .go 2 w,
   .newRecall, .go 3 w, .go 3 w]

/-- The overlap, on a book with one phrase and an empty cache. -/
def overlap : Run segment :=
  .ofList segment { records := [⟨"en", "de", "old", "OLD"⟩], hasCache := true } overlapMoves

/-- The list that the overlap ends with. -/
def overlapPage : History := ⟨[⟨"en", "de", "new", "NEW"⟩, ⟨"en", "de", "old", "OLD"⟩]⟩

/-- In the overlap the recall has the page of a moment after the render was acknowledged. -/
theorem overlap_recalls_what_was_rendered :
    Current overlap.start ∧ overlap.call 18 3 = some (.recalled (.ok overlapPage)) ∧
      overlap.RendersBefore 1 3 ∧ overlap.Empties 1 ∧
      ∃ m ≤ 18, overlapPage = (overlap.book m).newest ∧ ∃ k < m, overlap.Stores 1 k := by
  have hstart : Current overlap.start := fun _ _ h => nomatch h
  have hret : overlap.call 18 3 = some (.recalled (.ok overlapPage)) := by rfl
  have hbefore : overlap.RendersBefore 1 3 := ⟨9, ⟨"en", "de", "new", "NEW"⟩, by rfl, by decide⟩
  have hempties : overlap.Empties 1 := Or.inr ⟨8, ⟨"en", "de", "new", "NEW"⟩, by rfl⟩
  obtain ⟨m, hm, hpage, hall⟩ := overlap.recalled_page_is_recent hstart hret
  exact ⟨hstart, hret, hbefore, hempties, m, hm, hpage, hall 1 hbefore hempties⟩

end Run

end Phrasebook.Book
