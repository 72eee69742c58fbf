import Phrasebook.Proofs.Book.Run
/-!
# The cache keeps up with the book

Here calls interleave step by step, so that a check of the generation and what follows from it can be far
apart: a recall may pass its check and write its page to the cache long after a render has stored a newer
phrase, counted it and emptied the cache. The cache then holds a stale list. What holds at every moment is
that somebody is bound to empty it (`Stage.Bound`): a render between its store and the emptying of the
cache, or the recall itself, which compares the generations once more after it has written.

The invariant behind it is about the page that a recall carries to the cache (`Run.page_of_carries`): it is
the newest one, or the generation has moved on since, which the recall will see, or some render has stored
a phrase and not counted it, and has the cache still to empty.
-/

set_option autoImplicit false

namespace Phrasebook.Book

/-- A call that is going to empty the cache whatever the others do, given the generation of the book: a
render that has stored its phrase and not emptied the cache, or a recall that has written its page to the
cache and has noted another generation. -/
def Stage.Bound (generation : Nat) : Stage → Prop
  | .stored _ (.ok ()) | .counted _ => True
  | .filled g _ (.ok ()) | .clearing g _ => g ≠ generation
  | _ => False

/-- The page that a recall may still write to the cache, and the generation it has noted. -/
def Stage.carries? : Stage → Option (Nat × History)
  | .haveRead g (.ok h) | .filling g h => some (g, h)
  | _ => none

/-- A recall that carries a page has noted the generation. -/
theorem noted_of_carries {s : Stage} {g : Nat} {h : History} (hs : s.carries? = some (g, h)) :
    s.noted? = some g := by
  cases s with
  | haveRead g' p =>
    cases p with
    | error c => cases hs
    | ok h' =>
      obtain ⟨rfl, -⟩ := Prod.mk.inj (Option.some.inj hs)
      rfl
  | filling g' h' =>
    obtain ⟨rfl, -⟩ := Prod.mk.inj (Option.some.inj hs)
    rfl
  | _ => cases hs

/-! ## Single steps -/

/-- A page is read as the newest one, and carried as it was read. -/
theorem carries_step {w : World} {b : Book} {s : Stage} {g : Nat} {h : History}
    (hs : (step w b s).stage.carries? = some (g, h)) :
    s.carries? = some (g, h) ∨ (h = b.newest ∧ (step w b s).book = b) := by
  -- a page can only have come from the read of this very step, or have been carried already
  cases s with
  | reading g' =>
    simp only [step, World.answer] at hs
    split at hs
    · cases hs
    · exact Or.inr ⟨(Prod.mk.inj (Option.some.inj hs)).2.symm, rfl⟩
  | haveRead g' p =>
    cases p with
    | error c => cases hs
    | ok p =>
      simp only [step] at hs
      split at hs
      · exact Or.inl hs
      · cases hs
  | «recall» | render q | counted p =>
    simp only [step] at hs
    split at hs <;> cases hs
  | looked f => rcases f with c | (_ | p) <;> cases hs
  | filled g' p d =>
    cases d with
    | error c => cases hs
    | ok u =>
      simp only [step] at hs
      split at hs <;> cases hs
  | asked q a => cases a <;> cases hs
  | cleared p d | stored p d | invalidated p d => cases d <;> cases hs
  | filling g' p | clearing g' p | recalled a | rendered a => cases hs

/-- **A call that is bound to empty the cache stays bound to it until it has done so**, unless the emptying
fails. -/
theorem bound_step {w : World} {b : Book} {s : Stage} (hc : b.hasCache = true)
    (hw : w.fails .cacheInvalidate = none) (hs : s.Bound b.generation) :
    (step w b s).stage.Bound (step w b s).book.generation ∨ (step w b s).book.cached = none := by
  cases s with
  | stored p d =>
    cases d with
    | error c => exact hs.elim
    | ok u => exact Or.inl trivial
  -- the two stages that empty the cache do it here, since the emptying does not fail
  | counted p =>
    right
    simp only [step, if_pos hc, World.change, hw]
  | filled g p d =>
    cases d with
    | error c => exact hs.elim
    | ok u =>
      -- the one stage that decides: the generation it has noted is over, so it goes on to clear
      left
      have hne : ¬ (b.generation == g) = true := by
        intro he
        exact hs (eq_of_beq he).symm
      simp only [step, if_neg hne]
      exact hs
  | clearing g p =>
    right
    simp only [step, World.change, hw]
  | _ => exact hs.elim

namespace Run

variable (r : Run step)

/-- A move leaves the book as it is, or it is the deed of some call. -/
theorem deed_of_book_succ (n : Nat) :
    r.book (n + 1) = r.book n ∨
      ∃ i w s t, r.moves n = .go i w ∧ r.call n i = some s ∧ r.call (n + 1) i = some t ∧
        Deed (r.book n) s t (r.book (n + 1)) := by
  rcases r.book_succ n with h | ⟨i, w, s, hw, hs, ht, hb⟩
  · exact Or.inl h
  · refine Or.inr ⟨i, w, s, _, hw, hs, ht, ?_⟩
    rw [hb]
    exact deed_step w _ s

/-! ## What a recall knows of its page -/

/-- The page is the newest one, or the generation is not the noted one any more, or a phrase that was stored
is still to be counted. -/
def Known (n g : Nat) (h : History) : Prop :=
  h = (r.book n).newest ∨ g ≠ (r.book n).generation ∨ ∃ p, r.Uncounted n p

variable {r}

/-- What is known of a page and a generation stays known. -/
theorem Known.succ {n g : Nat} {h : History} (hk : r.Known n g h) (hg : g ≤ (r.book n).generation) :
    r.Known (n + 1) g h := by
  -- a generation that is over stays over; one that has just come is the only case with an argument
  by_cases hne : g = (r.book (n + 1)).generation
  · have hgn : (r.book (n + 1)).generation = (r.book n).generation := by
      have := (r.grows_succ n).generation
      omega
    rcases hk with hpage | hother | ⟨p, j, hj⟩
    · -- the page was the newest; only a store changes that, and it leaves an uncounted phrase
      rcases r.deed_of_book_succ n with hb | ⟨i, w, s, t, -, -, ht, hdeed⟩
      · exact Or.inl (by rw [hb]; exact hpage)
      · generalize hb : r.book (n + 1) = b at hdeed
        cases hdeed with
        | none => exact Or.inl (by rw [hb]; exact hpage)
        | fill g' h' => exact Or.inl (by rw [hb]; exact hpage)
        | empty => exact Or.inl (by rw [hb]; exact hpage)
        | store q p => exact Or.inr (Or.inr ⟨p, i, ht⟩)
        | count p => exact Or.inl (by rw [hb]; exact hpage)
    · exact absurd (hne.trans hgn) hother
    · rcases r.call_next hj with hj' | ⟨w, -, -, hb⟩
      · exact Or.inr (Or.inr ⟨p, j, hj'⟩)
      · -- its count would have moved the generation
        rw [hb] at hgn
        exact absurd hgn (Nat.succ_ne_self _)
  · exact Or.inr (Or.inl hne)

variable (r)

/-- **What a recall knows of the page it carries to the cache.** -/
theorem page_of_carries {n i : Nat} {s : Stage} {g : Nat} {h : History} (hc : r.call n i = some s)
    (hs : s.carries? = some (g, h)) : r.Known n g h := by
  -- on the moves: the page was the newest when it was read, and every move since has kept it `Known`
  induction n generalizing s with
  | zero => simp at hc
  | succ n ih =>
    rcases r.call_succ hc with hc' | ⟨hf, -⟩ | ⟨w, s', -, hs', rfl, hb⟩
    · exact (ih hc' hs).succ (r.noted_le hc' (noted_of_carries hs)).2
    · cases s <;> first | exact hf.elim | cases hs
    · rcases carries_step hs with hs₀ | ⟨hpage, hsame⟩
      · exact (ih hs' hs₀).succ (r.noted_le hs' (noted_of_carries hs₀)).2
      · exact Or.inl (by rw [hb, hsame]; exact hpage)

/-! ## The cache -/

/-- Some call is bound to empty the cache. -/
def SomeBound (n : Nat) : Prop := ∃ i s, r.call n i = some s ∧ s.Bound (r.book n).generation

/-- A call that is not moved stays bound: the generation does not come back to the one it has noted. -/
theorem bound_of_le {s : Stage} {g g' : Nat} (hs : s.Bound g) (hle : ∀ m, s.noted? = some m → m ≤ g)
    (hg : g ≤ g') : s.Bound g' := by
  -- what the two carrying stages noted is behind the counter, which only grows
  cases s with
  | filled m h d =>
    cases d with
    | error c => exact hs.elim
    | ok u =>
      have hm : m ≤ g := hle m rfl
      have hne : m ≠ g := hs
      show m ≠ g'
      omega
  | clearing m h =>
    have hm : m ≤ g := hle m rfl
    have hne : m ≠ g := hs
    show m ≠ g'
    omega
  | stored p d =>
    cases d with
    | error c => exact hs.elim
    | ok u => trivial
  | counted p => trivial
  | _ => exact hs.elim

/-- An empty cache is current. -/
theorem current_of_cached_none {b : Book} (h : b.cached = none) : Current b := by
  intro _ p hp
  rw [h] at hp
  cases hp

/-- A bound call keeps the cache in hand through a move. -/
theorem SomeBound.succ {r : Run step} {n : Nat} (hcache : r.start.hasCache = true)
    (hw : ∀ i w, r.moves n = .go i w → w.fails .cacheInvalidate = none) (h : r.SomeBound n) :
    Current (r.book (n + 1)) ∨ r.SomeBound (n + 1) := by
  obtain ⟨i, s, hi, hs⟩ := h
  rcases r.call_next hi with hi' | ⟨w, hm, hi', hb⟩
  · have hle : ∀ m, s.noted? = some m → m ≤ (r.book n).generation := fun m hm => (r.noted_le hi hm).2
    exact Or.inr ⟨i, s, hi', bound_of_le hs hle (r.grows_succ n).generation⟩
  · have hc : (r.book n).hasCache = true := (r.hasCache_eq n).trans hcache
    rcases bound_step hc (hw i w hm) hs with hbound | hnone
    · exact Or.inr ⟨i, _, hi', by rw [hb]; exact hbound⟩
    · exact Or.inl (current_of_cached_none (by rw [hb]; exact hnone))

/-- A move that makes the cache stale leaves a call that is bound to empty it. -/
theorem current_succ {n : Nat} (h : Current (r.book n)) :
    Current (r.book (n + 1)) ∨ r.SomeBound (n + 1) := by
  rcases r.deed_of_book_succ n with hb | ⟨i, w, s, t, hm, hs, ht, hdeed⟩
  · exact Or.inl (by rw [hb]; exact h)
  · generalize hb : r.book (n + 1) = b at hdeed
    cases hdeed with
    | none => exact Or.inl h
    | fill g p =>
      -- the one move that can write a stale list; what the recall knows of it names who will empty the cache
      rcases r.page_of_carries hs rfl with hpage | hother | ⟨q, j, hj⟩
      · left
        intro _ p' hp'
        obtain rfl : p = p' := Option.some.inj hp'
        exact hpage
      · exact Or.inr ⟨i, _, ht, by rw [hb]; exact hother⟩
      · -- the render that has not counted its phrase is not the one that moves
        rcases r.call_next hj with hj' | ⟨w', hm', -, -⟩
        · exact Or.inr ⟨j, _, hj', trivial⟩
        · obtain ⟨rfl, -⟩ := Move.go.inj (hm.symm.trans hm')
          rw [hs] at hj
          cases hj
    | empty => exact Or.inl (current_of_cached_none rfl)
    | store q p => exact Or.inr ⟨i, _, ht, trivial⟩
    | count p => exact Or.inr ⟨i, _, ht, trivial⟩

/-- At every moment the cache is empty or current, or some call is bound to empty it. -/
theorem current_or_bound (h₀ : Current r.start)
    (hw : ∀ n i w, r.moves n = .go i w → w.fails .cacheInvalidate = none) (n : Nat) :
    Current (r.book n) ∨ r.SomeBound n := by
  cases hcache : r.start.hasCache with
  | false =>
    left
    intro hc
    rw [r.hasCache_eq n, hcache] at hc
    cases hc
  | true =>
    induction n with
    | zero => exact Or.inl h₀
    | succ n ih =>
      rcases ih with hcur | hbound
      · exact r.current_succ hcur
      · exact hbound.succ hcache (hw n)

/-- **A stale cache will be emptied.** However the steps of any number of calls interleave and whatever else
fails, as long as the cache can be emptied: whenever it holds a list that is not the newest page, some call
under way is bound to empty it; so when no call is under way it is empty or current. -/
theorem stale_cache_is_bound_to_be_emptied (h₀ : Current r.start)
    (hw : ∀ n i w, r.moves n = .go i w → w.fails .cacheInvalidate = none) (n : Nat) :
    (∀ h, (r.book n).hasCache = true → (r.book n).cached = some h → h ≠ (r.book n).newest →
        ∃ i s, r.call n i = some s ∧ s.Bound (r.book n).generation) ∧
      ((∀ i s, r.call n i = some s → s.isDone = true) → Current (r.book n)) := by
  rcases r.current_or_bound h₀ hw n with hcur | ⟨i, s, hi, hs⟩
  · exact ⟨fun h hc hcached hne => absurd (hcur hc h hcached) hne, fun _ => hcur⟩
  · refine ⟨fun _ _ _ _ => ⟨i, s, hi, hs⟩, ?_⟩
    intro hdone
    have := hdone i s hi
    cases s <;> first | exact hs.elim | cases this

/-! ## A crossing

Recall 0 passes its check, and before it writes its page render 1 stores, counts and empties the cache. -/

/-- The moves of the crossing. -/
def crossingMoves : List Move :=
  let w := calm "NEW"
  [.newRecall, .go 0 w, .go 0 w, .go 0 w, .go 0 w,
   .newRender ⟨"en", "de", "new"⟩, .go 1 w, .go 1 w, .go 1 w, .go 1 w, .go 1 w,
   .go 0 w, .go 0 w, .go 0 w, .go 0 w]

/-- The crossing, on a book with one phrase and an empty cache. -/
def crossing : Run step :=
  .ofList step { records := [⟨"en", "de", "old", "OLD"⟩], hasCache := true } crossingMoves

/-- In the crossing a page that is no longer the newest is in the cache for a while, and a call is bound to empty
it; in the end it has. -/
theorem crossing_is_emptied :
    Current crossing.start ∧
      (∀ n i w, crossing.moves n = .go i w → w.fails .cacheInvalidate = none) ∧
      (crossing.book 12).cached = some ⟨[⟨"en", "de", "old", "OLD"⟩]⟩ ∧
      (crossing.book 12).newest ≠ ⟨[⟨"en", "de", "old", "OLD"⟩]⟩ ∧
      (∃ i s, crossing.call 12 i = some s ∧ s.Bound (crossing.book 12).generation) ∧
      Current (crossing.book 15) := by
  have h₀ : Current crossing.start := fun _ _ h => nomatch h
  have hw : ∀ n i w, crossing.moves n = .go i w → w.fails .cacheInvalidate = none := by
    intro n i w h
    have hn : (crossing.moves n).Within (·.fails .cacheInvalidate = none) :=
      within_ofList (by rfl) (by simp [crossingMoves, Move.Within, calm]) n
    rw [h] at hn
    exact hn
  have hcached : (crossing.book 12).cached = some ⟨[⟨"en", "de", "old", "OLD"⟩]⟩ := by rfl
  have hnewest : (crossing.book 12).newest ≠ ⟨[⟨"en", "de", "old", "OLD"⟩]⟩ := by decide
  have hdone : ∀ i s, crossing.call 15 i = some s → s.isDone = true := by
    intro i s h
    have hi : i < 2 := crossing.lt_begun_of_call h
    match i, hi with
    | 0, _ =>
      have h₁ : crossing.call 15 0 = some (.recalled (.ok ⟨[⟨"en", "de", "old", "OLD"⟩]⟩)) := by rfl
      rw [← Option.some.inj (h₁.symm.trans h)]
      rfl
    | 1, _ =>
      have h₁ : crossing.call 15 1 = some (.rendered (.ok ⟨"en", "de", "new", "NEW"⟩)) := by rfl
      rw [← Option.some.inj (h₁.symm.trans h)]
      rfl
  exact ⟨h₀, hw, hcached, hnewest,
    (crossing.stale_cache_is_bound_to_be_emptied h₀ hw 12).1 _ rfl hcached hnewest.symm,
    (crossing.stale_cache_is_bound_to_be_emptied h₀ hw 15).2 hdone⟩

end Run

end Phrasebook.Book
