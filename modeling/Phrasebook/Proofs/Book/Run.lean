import Phrasebook.Book.Call
/-!
# Runs of calls on one book

Any number of calls may be under way on one book. A run begins calls and lets them go on, one at a time
and in any order; in each move the world around the book may be another one, so that any facility may fail
at any time. How far a call goes in one move is the pace of the run: one `step`, or one `segment`.

A run is told as an endless sequence of moves, every finite run being the beginning of one (`Run.ofList`): a
move of a call that was never begun changes nothing. What one move can do is said once, by `Run.book_succ`,
`Run.call_succ` and `Run.call_next`. That a book only ever grows (`Run.grows`), that an ended call stays as
it is (`Run.call_of_isDone`) and that the generation counts renders (`Run.generation_eq`) holds at every pace
that keeps to it in one move (`Steady`).
-/

set_option autoImplicit false

namespace Phrasebook.Book

/-- The cache, if there is one, is empty or holds the newest page. -/
def Current (b : Book) : Prop := b.hasCache = true → ∀ h, b.cached = some h → h = b.newest

/-- How a call goes on in one move. -/
abbrev Pace := World → Book → Stage → Step

/-- A move of a run. -/
inductive Move where
  /-- A recall is begun. -/
  | newRecall
  /-- A render is begun. -/
  | newRender (q : Query)
  /-- The call of a number goes on in some world. -/
  | go (i : Nat) (w : World)

/-- A book and the calls on it, in the order in which they were begun. -/
structure Traffic where
  /-- The book. -/
  book : Book
  /-- Where each call stands. -/
  calls : List Stage := []

/-- Makes a move. -/
def Traffic.move (pace : Pace) (t : Traffic) : Move → Traffic
  | .newRecall => { t with calls := t.calls ++ [.recall] }
  | .newRender q => { t with calls := t.calls ++ [.render q] }
  | .go i w =>
    match t.calls[i]? with
    | some s => ⟨(pace w t.book s).book, t.calls.set i (pace w t.book s).stage⟩
    | none => t

/-- A run of calls at some pace. -/
structure Run (pace : Pace) where
  /-- The book before the first move. -/
  start : Book
  /-- The moves. -/
  moves : Nat → Move

/-- A world in which nothing fails and every rendering is the same. -/
def calm (rendering : String) : World := { brings := fun q => .ok (q.phrase rendering) }

/-- The run that makes some moves and then none that changes anything: there are not as many calls as
moves. -/
def Run.ofList (pace : Pace) (start : Book) (moves : List Move) : Run pace where
  start := start
  moves n := moves.getD n (.go moves.length (calm ""))

/-- A move in a world of which something holds. -/
def Move.Within (P : World → Prop) : Move → Prop
  | .go _ w => P w
  | _ => True

/-- What holds of the calm world and of the worlds in a list holds of every world of the run from it. -/
theorem Run.within_ofList {pace : Pace} {start : Book} {moves : List Move} {P : World → Prop}
    (hcalm : P (calm "")) (h : ∀ m ∈ moves, m.Within P) (n : Nat) :
    ((Run.ofList pace start moves).moves n).Within P := by
  simp only [Run.ofList, List.getD_eq_getElem?_getD]
  cases hm : moves[n]? with
  | none => exact hcalm
  | some m => exact h m (List.mem_of_getElem? hm)

/-- A call that has just been begun. -/
def Stage.isFresh : Stage → Prop
  | .recall | .render _ => True
  | _ => False

/-- A render that has counted up the generation. -/
def Stage.hasCounted : Stage → Bool
  | .counted _ | .invalidated .. | .rendered (.ok _) => true
  | _ => false

namespace Run

variable {pace : Pace} (r : Run pace)

/-- The book and its calls after so many moves. -/
def after : Nat → Traffic
  | 0 => { book := r.start }
  | n + 1 => (after n).move pace (r.moves n)

/-- The book after so many moves. -/
def book (n : Nat) : Book := (r.after n).book

/-- How many calls have been begun after so many moves. -/
def begun (n : Nat) : Nat := (r.after n).calls.length

/-- Where the call of a number stands after so many moves. -/
def call (n i : Nat) : Option Stage := (r.after n).calls[i]?

/-- At a moment a render stands between storing the phrase and counting up the generation. -/
def Uncounted (n : Nat) (p : Phrase) : Prop := ∃ j, r.call n j = some (.stored p (.ok ()))

/-! ## What one move does -/

@[simp] theorem call_zero (i : Nat) : r.call 0 i = none := rfl

/-- A call that stands somewhere has been begun. -/
theorem lt_begun_of_call {n i : Nat} {s : Stage} (h : r.call n i = some s) : i < r.begun n := by
  obtain ⟨hi, _⟩ := List.getElem?_eq_some_iff.1 h
  exact hi

/-- A move leaves the book as it is, or it is the move of a call that does to the book what it does. -/
theorem book_succ (n : Nat) :
    r.book (n + 1) = r.book n ∨
      ∃ i w s, r.moves n = .go i w ∧ r.call n i = some s ∧
        r.call (n + 1) i = some (pace w (r.book n) s).stage ∧
        r.book (n + 1) = (pace w (r.book n) s).book := by
  simp only [book, call, after]
  cases hm : r.moves n with
  | newRecall => exact Or.inl rfl
  | newRender q => exact Or.inl rfl
  | go i w =>
    simp only [Traffic.move]
    cases hs : (r.after n).calls[i]? with
    | none => exact Or.inl rfl
    | some s =>
      have hi : i < (r.after n).calls.length := r.lt_begun_of_call hs
      refine Or.inr ⟨i, w, s, rfl, hs, ?_, rfl⟩
      exact List.getElem?_set_self hi

/-- Where a call stands after a move: where it stood before, or at its beginning, or where the move has
taken it. -/
theorem call_succ {n i : Nat} {t : Stage} (h : r.call (n + 1) i = some t) :
    r.call n i = some t ∨ (t.isFresh ∧ r.begun n ≤ i) ∨
      ∃ w s, r.moves n = .go i w ∧ r.call n i = some s ∧ t = (pace w (r.book n) s).stage ∧
        r.book (n + 1) = (pace w (r.book n) s).book := by
  -- a move that begins a call puts it behind the others
  have hnew : ∀ s : Stage, s.isFresh → ((r.after n).calls ++ [s])[i]? = some t →
      r.call n i = some t ∨ (t.isFresh ∧ r.begun n ≤ i) := by
    intro s hs ht
    rw [List.getElem?_append] at ht
    split at ht
    · exact Or.inl ht
    · rename_i hi
      have hst : s = t := by
        rw [List.getElem?_singleton] at ht
        split at ht
        · exact Option.some.inj ht
        · cases ht
      rw [← hst]
      exact Or.inr ⟨hs, Nat.le_of_not_lt hi⟩
  simp only [call, after] at h
  cases hm : r.moves n with
  | newRecall =>
    rw [hm] at h
    exact (hnew .recall trivial h).imp id Or.inl
  | newRender q =>
    rw [hm] at h
    exact (hnew (.render q) trivial h).imp id Or.inl
  | go j w =>
    rw [hm] at h
    simp only [Traffic.move] at h
    cases hs : (r.after n).calls[j]? with
    | none =>
      rw [hs] at h
      exact Or.inl h
    | some s =>
      rw [hs] at h
      by_cases hij : j = i
      · subst hij
        have hj : j < (r.after n).calls.length := r.lt_begun_of_call hs
        rw [List.getElem?_set_self hj] at h
        refine Or.inr (Or.inr ⟨w, s, rfl, hs, (Option.some.inj h).symm, ?_⟩)
        simp only [book, after, hm, Traffic.move, hs]
      · rw [List.getElem?_set_ne hij] at h
        exact Or.inl h

/-- A call that was begun stands after a move where it stood before, or where the move has taken it. -/
theorem call_next {n i : Nat} {s : Stage} (h : r.call n i = some s) :
    r.call (n + 1) i = some s ∨
      ∃ w, r.moves n = .go i w ∧ r.call (n + 1) i = some (pace w (r.book n) s).stage ∧
        r.book (n + 1) = (pace w (r.book n) s).book := by
  have hi : i < (r.after n).calls.length := r.lt_begun_of_call h
  simp only [call, book, after] at h ⊢
  cases hm : r.moves n with
  | newRecall => exact Or.inl (by rw [← h]; exact List.getElem?_append_left hi)
  | newRender q => exact Or.inl (by rw [← h]; exact List.getElem?_append_left hi)
  | go j w =>
    simp only [Traffic.move]
    by_cases hij : j = i
    · subst hij
      rw [h]
      exact Or.inr ⟨w, rfl, List.getElem?_set_self hi, rfl⟩
    · cases hs : (r.after n).calls[j]? with
      | none => exact Or.inl h
      | some s' => exact Or.inl (by rw [← h]; exact List.getElem?_set_ne hij)

/-- In a move of its own a call goes on, and the book with it. -/
theorem call_go {n i : Nat} {w : World} {s : Stage} (hm : r.moves n = .go i w) (h : r.call n i = some s) :
    r.call (n + 1) i = some (pace w (r.book n) s).stage ∧ r.book (n + 1) = (pace w (r.book n) s).book := by
  have hi : i < (r.after n).calls.length := r.lt_begun_of_call h
  simp only [call, book, after, hm, Traffic.move] at h ⊢
  rw [h]
  exact ⟨List.getElem?_set_self hi, rfl⟩

/-- A move begins a call, or leaves as many calls as there are. -/
theorem begun_le_succ (n : Nat) : r.begun n ≤ r.begun (n + 1) := by
  simp only [begun, after]
  cases r.moves n with
  | newRecall => simp [Traffic.move]
  | newRender q => simp [Traffic.move]
  | go i w =>
    simp only [Traffic.move]
    split
    · simp
    · exact Nat.le_refl _

/-- Calls that have been begun stay so. -/
theorem begun_mono {m n : Nat} (h : m ≤ n) : r.begun m ≤ r.begun n := by
  induction h with
  | refl => exact Nat.le_refl _
  | step _ ih => exact Nat.le_trans ih (r.begun_le_succ _)

end Run

/-! ## Books only grow -/

/-- A book has become another one: its cache is still there or still not there, no phrase is gone, and the
generation has not gone back. -/
structure Grows (old new : Book) : Prop where
  hasCache : new.hasCache = old.hasCache
  generation : old.generation ≤ new.generation
  records : ∃ late, new.records = old.records ++ late

theorem Grows.refl (b : Book) : Grows b b := ⟨rfl, Nat.le_refl _, [], (List.append_nil _).symm⟩

/-- A book that has grown may grow further. -/
theorem Grows.trans {a b c : Book} (h : Grows a b) (h' : Grows b c) : Grows a c := by
  obtain ⟨late, hl⟩ := h.records
  obtain ⟨late', hl'⟩ := h'.records
  refine ⟨h'.hasCache.trans h.hasCache, Nat.le_trans h.generation h'.generation, late ++ late', ?_⟩
  rw [hl', hl, List.append_assoc]

/-- The generation that a recall has noted. -/
def Stage.noted? : Stage → Option Nat
  | .reading g | .haveRead g _ | .filling g _ | .filled g _ _ | .clearing g _ => some g
  | _ => none

/-- A pace at which one move lets the book grow, leaves an ended call as it is, counts up the generation when it
takes a render past its count, and notes no generation but one that the book has in the course of the move. -/
class Steady (pace : Pace) : Prop where
  grows (w : World) (b : Book) (s : Stage) : Grows b (pace w b s).book
  rests (w : World) (b : Book) (s : Stage) : s.isDone = true → (pace w b s).stage = s
  counts (w : World) (b : Book) (s : Stage) :
    (pace w b s).book.generation + s.hasCounted.toNat = b.generation + (pace w b s).stage.hasCounted.toNat
  notes (w : World) (b : Book) (s : Stage) (g : Nat) : (pace w b s).stage.noted? = some g →
    s.noted? = some g ∨ b.generation ≤ g ∧ g ≤ (pace w b s).book.generation

/-- What holds of a book with a change and without it holds of it after a facility was to make the change. -/
theorem change_elim (w : World) (f : Facility) {b c : Book} {P : Book → Prop} (hb : P b) (hc : P c) :
    P (w.change f b c) := by
  simp only [World.change]
  split
  · exact hb
  · exact hc

/-- What a step does to the book: nothing, or it writes the page of a recall to the cache, or empties the
cache, or stores the phrase of a render, or counts up the generation for one that was stored. -/
inductive Deed (b : Book) : Stage → Stage → Book → Prop
  | none (s t : Stage) : Deed b s t b
  | fill (g : Nat) (h : History) :
    Deed b (.filling g h) (.filled g h (.ok ())) { b with cached := some h }
  | empty (s t : Stage) : Deed b s t { b with cached := Option.none }
  | store (q : Query) (p : Phrase) :
    Deed b (.asked q (.ok p)) (.stored p (.ok ())) { b with records := b.records ++ [p] }
  | count (p : Phrase) :
    Deed b (.stored p (.ok ())) (.counted p) { b with generation := b.generation + 1 }

/-- Each step does one of the deeds. -/
theorem deed_step (w : World) (b : Book) (s : Stage) : Deed b s (step w b s).stage (step w b s).book := by
  -- most stages only look; the five that write have a deed of their own
  cases s with
  | «recall» | render q =>
    simp only [step]
    split <;> exact .none _ _
  | looked f => rcases f with c | (_ | h) <;> exact .none _ _
  | haveRead g p =>
    cases p with
    | error c => exact .none _ _
    | ok h =>
      simp only [step]
      split <;> exact .none _ _
  | filling g h =>
    simp only [step, World.answer, World.change]
    split
    · exact .none _ _
    · exact .fill g h
  | filled g h d =>
    cases d with
    | error c => exact .none _ _
    | ok u =>
      simp only [step]
      split <;> exact .none _ _
  | clearing g h =>
    exact change_elim w _ (P := fun b' => Deed b _ _ b') (.none _ _) (.empty _ _)
  | asked q a =>
    cases a with
    | error c => exact .none _ _
    | ok p =>
      simp only [step, World.answer, World.change]
      split
      · exact .none _ _
      · exact .store q p
  | stored p d =>
    cases d with
    | error c => exact .none _ _
    | ok u => exact .count p
  | counted p =>
    simp only [step]
    split
    · exact change_elim w _ (P := fun b' => Deed b _ _ b') (.none _ _) (.empty _ _)
    · exact .none _ _
  | reading g | recalled a | rendered a => exact .none _ _
  | cleared p d | invalidated p d => cases d <;> exact .none _ _

/-- Each deed lets the book grow. -/
theorem Deed.grows {b b' : Book} {s t : Stage} (h : Deed b s t b') : Grows b b' := by
  cases h with
  | none | fill g h | empty => exact ⟨rfl, Nat.le_refl _, [], (List.append_nil _).symm⟩
  | store q p => exact ⟨rfl, Nat.le_refl _, [p], rfl⟩
  | count p => exact ⟨rfl, Nat.le_succ _, [], (List.append_nil _).symm⟩

/-- So each step does. -/
theorem grows_step (w : World) (b : Book) (s : Stage) : Grows b (step w b s).book :=
  (deed_step w b s).grows

/-- A call that is over goes no further. -/
theorem step_of_isDone {w : World} {b : Book} {s : Stage} (h : s.isDone = true) :
    step w b s = ⟨s, b, []⟩ := by
  cases s <;> first | rfl | cases h

/-- A use of the cache leaves the generation as it is, whether or not it fails. -/
theorem generation_change (w : World) (f : Facility) {b c : Book} (h : c.generation = b.generation) :
    (w.change f b c).generation = b.generation :=
  change_elim w f (P := fun b' => b'.generation = b.generation) rfl h

/-- A step that takes a render past its count counts the generation up by one, and no other step does. -/
theorem counts_step (w : World) (b : Book) (s : Stage) :
    (step w b s).book.generation + s.hasCounted.toNat =
      b.generation + (step w b s).stage.hasCounted.toNat := by
  -- the counter and the call step together, at the one stage that counts
  cases s with
  | «recall» | render q =>
    simp only [step]
    split <;> rfl
  | looked f => rcases f with c | (_ | h) <;> rfl
  | haveRead g p =>
    cases p with
    | error c => rfl
    | ok h =>
      simp only [step]
      split <;> rfl
  | filling g h | clearing g h => exact generation_change w _ rfl
  | filled g h d =>
    cases d with
    | error c => rfl
    | ok u =>
      simp only [step]
      split <;> rfl
  | asked q a =>
    cases a with
    | error c => rfl
    | ok p => exact generation_change w _ rfl
  | counted p =>
    simp only [step]
    split
    · exact congrArg (· + 1) (generation_change w _ rfl)
    · rfl
  | stored p d | cleared p d | invalidated p d => cases d <;> rfl
  | reading g | recalled a | rendered a => rfl

/-- A generation is noted as it is. -/
theorem noted_step {w : World} {b : Book} {s : Stage} {g : Nat}
    (h : (step w b s).stage.noted? = some g) : s.noted? = some g ∨ g = b.generation := by
  -- a generation is noted where the book is about to be read, and carried on unchanged
  cases s with
  | «recall» =>
    simp only [step] at h
    split at h
    · cases h
    · exact Or.inr (Option.some.inj h).symm
  | looked f =>
    rcases f with c | (_ | p)
    · exact Or.inr (Option.some.inj h).symm
    · exact Or.inr (Option.some.inj h).symm
    · cases h
  | haveRead g' p =>
    cases p with
    | error c => cases h
    | ok p =>
      simp only [step] at h
      split at h
      · exact Or.inl h
      · cases h
  | filled g' p d =>
    cases d with
    | error c => cases h
    | ok u =>
      simp only [step] at h
      split at h
      · cases h
      · exact Or.inl h
  | render q =>
    simp only [step] at h
    split at h <;> cases h
  | counted p =>
    simp only [step] at h
    split at h <;> cases h
  | asked q a => cases a <;> cases h
  | cleared p d | stored p d | invalidated p d => cases d <;> cases h
  | clearing g' p => cases h
  | reading g' | filling g' p | recalled a | rendered a => exact Or.inl h

/-- A step notes the generation as it is then, or keeps the note that it has. -/
theorem notes_step (w : World) (b : Book) (s : Stage) (g : Nat) (h : (step w b s).stage.noted? = some g) :
    s.noted? = some g ∨ b.generation ≤ g ∧ g ≤ (step w b s).book.generation := by
  rcases noted_step h with hnoted | rfl
  · exact Or.inl hnoted
  · exact Or.inr ⟨Nat.le_refl _, (grows_step w b s).generation⟩

instance : Steady step where
  grows := grows_step
  rests w b s h := by rw [step_of_isDone h]
  counts := counts_step
  notes := notes_step

/-- Several steps in a row let the book grow. -/
theorem grows_runTo (w : World) (stops : Facility → Bool) (fuel : Nat) (b : Book) (s : Stage) :
    Grows b (runTo w stops fuel b s).book := by
  induction fuel generalizing b s with
  | zero => exact Grows.refl b
  | succ fuel ih =>
    simp only [runTo]
    split
    · exact Grows.refl b
    · split
      · exact grows_step w b s
      · exact (grows_step w b s).trans (ih _ _)

/-- Several steps in a row count as each of them does. -/
theorem counts_runTo (w : World) (stops : Facility → Bool) (fuel : Nat) (b : Book) (s : Stage) :
    (runTo w stops fuel b s).book.generation + s.hasCounted.toNat =
      b.generation + (runTo w stops fuel b s).stage.hasCounted.toNat := by
  induction fuel generalizing b s with
  | zero => rfl
  | succ fuel ih =>
    simp only [runTo]
    split
    · rfl
    · split
      · exact counts_step w b s
      · have hfirst := counts_step w b s
        have hrest := ih (step w b s).book (step w b s).stage
        dsimp only
        omega

/-- Several steps in a row note the generation as it is at one of them, or keep the note. -/
theorem notes_runTo (w : World) (stops : Facility → Bool) (fuel : Nat) (b : Book) (s : Stage) (g : Nat)
    (h : (runTo w stops fuel b s).stage.noted? = some g) :
    s.noted? = some g ∨ b.generation ≤ g ∧ g ≤ (runTo w stops fuel b s).book.generation := by
  -- by induction on the fuel: what is noted at the end was noted by the first step or by the rest
  induction fuel generalizing b s with
  | zero => exact Or.inl h
  | succ fuel ih =>
    simp only [runTo] at h ⊢
    split at h
    · exact Or.inl h
    · rename_i hdone
      rw [if_neg hdone]
      split at h
      · rename_i hstop
        rw [if_pos hstop]
        exact notes_step w b s g h
      · rename_i hstop
        rw [if_neg hstop]
        have hgrows := (grows_step w b s).generation
        -- the bound of the first step is still one at the end, as the counter only grows
        have hrest := (grows_runTo w stops fuel (step w b s).book (step w b s).stage).generation
        rcases ih _ _ h with hnoted | ⟨hle, hge⟩
        · rcases notes_step w b s g hnoted with hnoted | ⟨hle, hge⟩
          · exact Or.inl hnoted
          · exact Or.inr ⟨hle, Nat.le_trans hge hrest⟩
        · exact Or.inr ⟨Nat.le_trans hgrows hle, hge⟩

/-- **A call comes to an end or to a stop.** -/
theorem ends_advance (w : World) (stops : Facility → Bool) (b : Book) (s : Stage) :
    (advance w stops b s).stage.isDone = true ∨
      ∃ f, (advance w stops b s).stage.justUsed = some f ∧ stops f = true := by
  -- there are always as many steps to come as are left
  have hruns : ∀ fuel b s, s.stepsLeft ≤ fuel → (runTo w stops fuel b s).stage.isDone = true ∨
      ∃ f, (runTo w stops fuel b s).stage.justUsed = some f ∧ stops f = true := by
    intro fuel
    induction fuel with
    | zero =>
      intro b s hleft
      refine Or.inl ?_
      cases s <;> simp [Stage.stepsLeft] at hleft <;> rfl
    | succ fuel ih =>
      intro b s hleft
      simp only [runTo]
      split
      · rename_i hdone
        exact Or.inl hdone
      · rename_i hdone
        split
        · rename_i hstop
          obtain ⟨f, hf, hstops⟩ : ∃ f, (step w b s).stage.justUsed = some f ∧ stops f = true := by
            cases hused : (step w b s).stage.justUsed with
            | none => simp [hused] at hstop
            | some f => exact ⟨f, rfl, by simpa [hused] using hstop⟩
          exact Or.inr ⟨f, hf, hstops⟩
        · have hlt := stepsLeft_step_lt w b s (Bool.eq_false_iff.2 hdone)
          exact ih _ _ (by omega)
  exact hruns _ b s (Nat.le_refl _)

/-- **A call that is not stopped has its answer at the end, or has just used a facility that breaks down.** -/
theorem ends_finish (w : World) (b : Book) (s : Stage) :
    (finish w b s).stage.isDone = true ∨ ∃ p, (finish w b s).stage.breakdown? w = some p := by
  rcases ends_advance w (fun f => (w.panics f).isSome) b s with hdone | ⟨f, hf, hbreaks⟩
  · exact Or.inl hdone
  · obtain ⟨p, hp⟩ := Option.isSome_iff_exists.1 hbreaks
    exact Or.inr ⟨p, (congrArg (Option.bind · w.panics) hf).trans hp⟩

/-- A call that is over goes no further in a segment either. -/
theorem segment_of_isDone {w : World} {b : Book} {s : Stage} (h : s.isDone = true) :
    segment w b s = ⟨s, b, []⟩ := by
  cases s <;> first | rfl | cases h

instance : Steady segment where
  grows w b s := grows_runTo w _ _ b s
  rests w b s h := by rw [segment_of_isDone h]
  counts w b s := counts_runTo w _ _ b s
  notes w b s := notes_runTo w _ _ b s

namespace Run

variable {pace : Pace} [Steady pace] (r : Run pace)

/-- Each move lets the book grow. -/
theorem grows_succ (n : Nat) : Grows (r.book n) (r.book (n + 1)) := by
  rcases r.book_succ n with h | ⟨i, w, s, -, -, -, h⟩
  · rw [h]
    exact Grows.refl _
  · rw [h]
    exact Steady.grows w (r.book n) s

/-- **Along a run the book only grows.** -/
theorem grows {m n : Nat} (h : m ≤ n) : Grows (r.book m) (r.book n) := by
  induction h with
  | refl => exact Grows.refl _
  | step _ ih => exact ih.trans (r.grows_succ _)

/-- Whether there is a cache never changes in a run. -/
theorem hasCache_eq (n : Nat) : (r.book n).hasCache = r.start.hasCache :=
  (r.grows (Nat.zero_le n)).hasCache

/-- The generation tells moments apart in one direction: a greater one comes later. -/
theorem lt_of_generation_lt {m n : Nat} (h : (r.book m).generation < (r.book n).generation) : m < n := by
  by_cases hmn : m < n
  · exact hmn
  · have := (r.grows (Nat.le_of_not_lt hmn)).generation
    omega

/-- **A call that has ended stays as it is.** -/
theorem call_of_isDone {m n i : Nat} {s : Stage} (h : r.call m i = some s) (hs : s.isDone = true)
    (hmn : m ≤ n) : r.call n i = some s := by
  induction hmn with
  | refl => exact h
  | step _ ih =>
    rcases r.call_next ih with h' | ⟨w, -, h', -⟩
    · exact h'
    · rw [h', Steady.rests w _ s hs]

/-- **The generation counts the renders that are past their count**, so it is never more than the number of
calls that were begun. -/
theorem generation_eq (n : Nat) :
    (r.book n).generation = r.start.generation + (r.after n).calls.countP Stage.hasCounted := by
  -- by induction on the moves; only a call that goes on can have counted
  induction n with
  | zero => rfl
  | succ n ih =>
    simp only [book, after] at ih ⊢
    cases hm : r.moves n with
    | newRecall =>
      simp only [Traffic.move, List.countP_append]
      exact ih
    | newRender q =>
      simp only [Traffic.move, List.countP_append]
      exact ih
    | go i w =>
      simp only [Traffic.move]
      cases hs : (r.after n).calls[i]? with
      | none => exact ih
      | some s =>
        obtain ⟨hi, hget⟩ := List.getElem?_eq_some_iff.1 hs
        have hcounts : (pace w (r.after n).book s).book.generation + s.hasCounted.toNat =
          (r.after n).book.generation + (pace w (r.after n).book s).stage.hasCounted.toNat :=
          Steady.counts w _ s
        -- a call that had counted is among those counted, so taking it out of the number is safe
        have hpos : s.hasCounted = true → 0 < (r.after n).calls.countP Stage.hasCounted := by
          intro hc
          exact List.countP_pos_iff.2 ⟨s, List.mem_of_getElem? hs, hc⟩
        rw [List.countP_set hi, hget]
        generalize (pace w (r.after n).book s).stage.hasCounted = after at hcounts ⊢
        cases hc : s.hasCounted with
        | false =>
          rw [hc] at hcounts
          cases after <;> simp at hcounts ⊢ <;> omega
        | true =>
          have := hpos hc
          rw [hc] at hcounts
          cases after <;> simp at hcounts ⊢ <;> omega

/-- The generation is never more than the number of calls that were begun. -/
theorem generation_le (n : Nat) : (r.book n).generation ≤ r.start.generation + r.begun n := by
  rw [r.generation_eq n]
  exact Nat.add_le_add_left List.countP_le_length _

/-- A generation that was noted is one that the book has had since the start. -/
theorem noted_le {n i : Nat} {s : Stage} {g : Nat} (h : r.call n i = some s) (hg : s.noted? = some g) :
    r.start.generation ≤ g ∧ g ≤ (r.book n).generation := by
  induction n generalizing s with
  | zero => cases h
  | succ n ih =>
    have hgrows := (r.grows_succ n).generation
    rcases r.call_succ h with hsame | ⟨hfresh, -⟩ | ⟨w, s', -, hs', rfl, hbook⟩
    · obtain ⟨hle, hge⟩ := ih hsame hg
      exact ⟨hle, Nat.le_trans hge hgrows⟩
    · cases s <;> first | exact hfresh.elim | cases hg
    · rcases Steady.notes w (r.book n) s' g hg with hnoted | ⟨hle, hge⟩
      · obtain ⟨hle, hge⟩ := ih hs' hnoted
        exact ⟨hle, Nat.le_trans hge hgrows⟩
      · rw [hbook]
        exact ⟨Nat.le_trans (r.grows (Nat.zero_le n)).generation hle, hge⟩

/-- **A counter of limited size would do.** A recall compares the generation that it has noted with the present
one. As long as fewer calls have been begun than the counter has values, it finds them equal exactly if a counter
that begins again from zero after its last value would. -/
theorem wrapped_eq_iff {n i : Nat} {s : Stage} {g size : Nat} (h : r.call n i = some s) (hg : s.noted? = some g)
    (hfew : r.begun n < size) : (r.book n).generation % size = g % size ↔ (r.book n).generation = g := by
  obtain ⟨hle, hge⟩ := r.noted_le h hg
  have hbound := r.generation_le n
  constructor
  · intro hwrapped
    -- the two are less than a whole round apart
    have hrounds : ((r.book n).generation - g) % size = 0 := Nat.sub_mod_eq_zero_of_mod_eq hwrapped
    have hapart : (r.book n).generation - g < size := by omega
    rw [Nat.mod_eq_of_lt hapart] at hrounds
    omega
  · intro heq
    rw [heq]

end Run

end Phrasebook.Book
