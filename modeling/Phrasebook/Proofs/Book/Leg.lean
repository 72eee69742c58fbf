import Phrasebook.Proofs.Book.Run
/-!
# What a segment does

A segment takes a call from one use of a facility to the next, so between segments a call never stands
where something is only about to be done (`Stage.Rests`). `Leg` lists what one segment makes of a call that
rests and of the book, one clause for each use of a facility and each way to the end, and `leg_segment`
says that there is nothing else. Everything about runs of segments is read off these clauses.
-/

set_option autoImplicit false

namespace Phrasebook.Book

/-- The call has just used a facility, has not begun or has ended. -/
def Stage.Rests : Stage → Prop
  | .reading _ | .filling .. | .clearing .. | .counted _ => False
  | _ => True

/-- The next thing the call does is to read the newest page. -/
def Stage.WantsPage (b : Book) : Stage → Prop
  | .recall => b.hasCache = false
  | .looked (.ok none) | .looked (.error _) => True
  | _ => False

/-- What one segment makes of a call and the book. -/
inductive Leg (w : World) (b : Book) : Stage → Stage → Book → Prop
  | look (hc : b.hasCache = true) : Leg w b .recall (.looked (w.answer .cacheGet b.cached)) b
  | hit (h : History) : Leg w b (.looked (.ok (some h))) (.recalled (.ok h)) b
  | read {s : Stage} (hs : s.WantsPage b) :
    Leg w b s (.haveRead b.generation (w.answer .repoGet b.newest)) b
  | unread (g : Nat) (c : Chain) :
    Leg w b (.haveRead g (.error c)) (.recalled (.error (.internal (c.context readContext)))) b
  | fill (h : History) (hc : b.hasCache = true) :
    Leg w b (.haveRead b.generation (.ok h)) (.filled b.generation h (w.answer .cacheSet ()))
      (w.change .cacheSet b { b with cached := some h })
  | refrain {g : Nat} (h : History) (hg : b.hasCache = true → b.generation ≠ g) :
    Leg w b (.haveRead g (.ok h)) (.recalled (.ok h)) b
  | settle {g : Nat} {d : Except Chain Unit} (h : History) (hd : d = .ok () → b.generation = g) :
    Leg w b (.filled g h d) (.recalled (.ok h)) b
  | clear {g : Nat} (h : History) (hg : b.generation ≠ g) :
    Leg w b (.filled g h (.ok ())) (.cleared h (w.answer .cacheInvalidate ()))
      (w.change .cacheInvalidate b { b with cached := none })
  | cleared (h : History) (d : Except Chain Unit) : Leg w b (.cleared h d) (.recalled (.ok h)) b
  | refuse {q : Query} {e : ServiceError} (hq : q.validate = .error e) :
    Leg w b (.render q) (.rendered (.error e)) b
  | ask {q : Query} (hq : q.validate = .ok ()) : Leg w b (.render q) (.asked q (w.reply q)) b
  | unasked (q : Query) (c : Chain) :
    Leg w b (.asked q (.error c)) (.rendered (.error (.external (c.context webContext)))) b
  | store (q : Query) (p : Phrase) :
    Leg w b (.asked q (.ok p)) (.stored p (w.answer .repoStore ()))
      (w.change .repoStore b { b with records := b.records ++ [p] })
  | unstored (p : Phrase) (c : Chain) :
    Leg w b (.stored p (.error c)) (.rendered (.error (.internal (c.context storeContext)))) b
  | invalidate (p : Phrase) (hc : b.hasCache = true) :
    Leg w b (.stored p (.ok ())) (.invalidated p (w.answer .cacheInvalidate ()))
      (w.change .cacheInvalidate { b with generation := b.generation + 1 }
        { b with generation := b.generation + 1, cached := none })
  | count (p : Phrase) (hc : b.hasCache = false) :
    Leg w b (.stored p (.ok ())) (.rendered (.ok p)) { b with generation := b.generation + 1 }
  | invalidated (p : Phrase) (d : Except Chain Unit) : Leg w b (.invalidated p d) (.rendered (.ok p)) b
  | recalled (a : Except ServiceError History) : Leg w b (.recalled a) (.recalled a) b
  | rendered (a : Except ServiceError Phrase) : Leg w b (.rendered a) (.rendered a) b

/-- A leg ends where the call rests. -/
theorem Leg.rests {w : World} {b b' : Book} {s s' : Stage} (h : Leg w b s s' b') : s'.Rests := by
  cases h <;> trivial

attribute [local simp] segment advance runTo step Stage.stepsLeft Stage.isDone Stage.justUsed

/-- **A segment of a call that rests is a leg.** -/
theorem leg_segment (w : World) (b : Book) {s : Stage} (hs : s.Rests) :
    Leg w b s (segment w b s).stage (segment w b s).book := by
  -- at a stage that rests a segment is one leg; the stages inside an access are excluded
  cases s with
  | «recall» =>
    cases hc : b.hasCache with
    | true => simpa [hc] using Leg.look (w := w) hc
    | false => simpa [hc] using Leg.read (w := w) (s := .recall) hc
  | reading g | filling g p | clearing g p | counted p => exact hs.elim
  | looked f =>
    rcases f with c | (_ | h)
    · exact .read trivial
    · exact .read trivial
    · exact .hit h
  | haveRead g p =>
    cases p with
    | error c => exact .unread g c
    | ok h =>
      by_cases hg : b.hasCache = true ∧ b.generation = g
      · obtain ⟨hc, rfl⟩ := hg
        simpa [hc] using Leg.fill (w := w) h hc
      · simpa [hg] using Leg.refrain (w := w) h (by simpa using hg)
  | filled g p d =>
    cases d with
    | error c => exact .settle p (by simp)
    | ok u =>
      by_cases hg : b.generation = g
      · simpa [hg] using Leg.settle (w := w) p (fun _ => hg)
      · simpa [hg] using Leg.clear (w := w) p hg
  | cleared p d => cases d <;> exact .cleared p _
  | recalled a => exact .recalled a
  | rendered a => exact .rendered a
  | render q =>
    cases hq : q.validate with
    | error e => simpa [hq] using Leg.refuse (w := w) (b := b) hq
    | ok u => simpa [hq] using Leg.ask (w := w) (b := b) hq
  | asked q a =>
    cases a with
    | error c => exact .unasked q c
    | ok p => exact .store q p
  | stored p d =>
    cases d with
    | error c => exact .unstored p c
    | ok u =>
      cases hc : b.hasCache with
      | true => simpa [hc] using Leg.invalidate (w := w) p hc
      | false => simpa [hc] using Leg.count (w := w) p hc
  | invalidated p d => cases d <;> exact .invalidated p _

/-! ## What a leg does to the book -/

/-- A facility that answers well has made its change. -/
theorem change_of_answer {α : Type} {w : World} {f : Facility} {value a : α} (b changed : Book)
    (h : w.answer f value = .ok a) : w.change f b changed = changed := by
  simp only [World.answer] at h
  simp only [World.change]
  split at h
  · cases h
  · rfl

/-- A facility that fails changes nothing. -/
theorem change_of_failure {α : Type} {w : World} {f : Facility} {value : α} {c : Chain} (b changed : Book)
    (h : w.answer f value = .error c) : w.change f b changed = b := by
  simp only [World.answer] at h
  simp only [World.change]
  split at h
  · rfl
  · cases h

/-- A facility that answers well answers with the value. -/
theorem eq_of_answer {α : Type} {w : World} {f : Facility} {value a : α}
    (h : w.answer f value = .ok a) : a = value := by
  simp only [World.answer] at h
  split at h
  · cases h
  · exact (Except.ok.inj h).symm

/-- The cache keeps what it holds, or is emptied, or gets the page of a recall whose generation is still
the same. -/
theorem Leg.cached_cases {w : World} {b b' : Book} {s s' : Stage} (h : Leg w b s s' b') :
    b'.cached = b.cached ∨ b'.cached = none ∨
      ∃ p, s = .haveRead b.generation (.ok p) ∧ b'.cached = some p := by
  cases h with
  | fill p hc =>
    have hset := change_elim w .cacheSet (P := fun b' => b'.cached = b.cached ∨ b'.cached = some p)
      (b := b) (c := { b with cached := some p }) (Or.inl rfl) (Or.inr rfl)
    exact hset.imp id fun hp => Or.inr ⟨p, rfl, hp⟩
  | clear p hg =>
    refine Or.imp_right Or.inl ?_
    exact change_elim w _ (P := fun b' => b'.cached = b.cached ∨ b'.cached = none) (Or.inl rfl) (Or.inr rfl)
  | invalidate p hc =>
    refine Or.imp_right Or.inl ?_
    exact change_elim w _ (P := fun b' => b'.cached = b.cached ∨ b'.cached = none) (Or.inl rfl) (Or.inr rfl)
  | store q p => exact Or.inl (change_elim w _ (P := fun b' => b'.cached = b.cached) rfl rfl)
  | _ => exact Or.inl rfl

/-- The phrases stay as they are, or one that has just been stored is added. -/
theorem Leg.records_cases {w : World} {b b' : Book} {s s' : Stage} (h : Leg w b s s' b') :
    b'.records = b.records ∨ ∃ p, s' = .stored p (.ok ()) ∧ b'.records = b.records ++ [p] := by
  cases h with
  | fill p hc => exact Or.inl (change_elim w _ (P := fun b' => b'.records = b.records) rfl rfl)
  | clear p hg => exact Or.inl (change_elim w _ (P := fun b' => b'.records = b.records) rfl rfl)
  | invalidate p hc => exact Or.inl (change_elim w _ (P := fun b' => b'.records = b.records) rfl rfl)
  | store q p =>
    cases ha : w.answer .repoStore () with
    | error c => exact Or.inl (by rw [change_of_failure _ _ ha])
    | ok u => exact Or.inr ⟨p, rfl, by rw [change_of_answer _ _ ha]⟩
  | _ => exact Or.inl rfl

/-- A render that has stored its phrase counts up the generation next. -/
theorem Leg.generation_of_stored {w : World} {b b' : Book} {s : Stage} {p : Phrase}
    (h : Leg w b (.stored p (.ok ())) s b') : b'.generation = b.generation + 1 := by
  generalize ht : Stage.stored p (.ok ()) = t at h
  cases h with
  | invalidate p' hc =>
    exact change_elim w _ (P := fun b' => b'.generation = b.generation + 1) rfl rfl
  | count p' hc => rfl
  | read hw =>
    rw [← ht] at hw
    exact hw.elim
  | _ => cases ht

/-- The way into having read a page. -/
theorem Leg.of_haveRead {w : World} {b b' : Book} {s : Stage} {g : Nat} {p : History}
    (h : Leg w b s (.haveRead g (.ok p)) b') :
    s.WantsPage b ∧ g = b.generation ∧ p = b.newest ∧ b' = b := by
  generalize ht : Stage.haveRead g (.ok p) = t at h
  cases h with
  | read hw =>
    obtain ⟨rfl, ha⟩ := Stage.haveRead.inj ht
    exact ⟨hw, rfl, eq_of_answer ha.symm, rfl⟩
  | _ => cases ht

/-- The way into having filled the cache. -/
theorem Leg.of_filled {w : World} {b b' : Book} {s : Stage} {g : Nat} {p : History}
    (h : Leg w b s (.filled g p (.ok ())) b') :
    s = .haveRead g (.ok p) ∧ b.hasCache = true ∧ g = b.generation ∧
      b' = { b with cached := some p } := by
  generalize ht : Stage.filled g p (.ok ()) = t at h
  cases h with
  | fill p' hc =>
    obtain ⟨rfl, rfl, ha⟩ := Stage.filled.inj ht
    exact ⟨rfl, hc, rfl, change_of_answer b _ ha.symm⟩
  | _ => cases ht

/-- The way into having emptied the cache for a phrase that was stored. -/
theorem Leg.of_invalidated {w : World} {b b' : Book} {s : Stage} {p : Phrase}
    (h : Leg w b s (.invalidated p (.ok ())) b') :
    s = .stored p (.ok ()) ∧ b' = { b with generation := b.generation + 1, cached := none } := by
  generalize ht : Stage.invalidated p (.ok ()) = t at h
  cases h with
  | invalidate p' hc =>
    obtain ⟨rfl, ha⟩ := Stage.invalidated.inj ht
    exact ⟨rfl, change_of_answer _ _ ha.symm⟩
  | _ => cases ht

namespace Run

variable (r : Run segment)

/-- Between segments every call rests. -/
theorem rests {n i : Nat} {s : Stage} (h : r.call n i = some s) : s.Rests := by
  induction n generalizing s with
  | zero => simp at h
  | succ n ih =>
    rcases r.call_succ h with h' | ⟨hs, -⟩ | ⟨w, s', -, hs', rfl, -⟩
    · exact ih h'
    · cases s <;> trivial
    · exact (leg_segment w _ (ih hs')).rests

/-- A call stands after a move where it stood before, or at its beginning, or at the end of a leg. -/
theorem leg_of_call_succ {n i : Nat} {t : Stage} (h : r.call (n + 1) i = some t) :
    r.call n i = some t ∨ (t.isFresh ∧ r.begun n ≤ i) ∨
      ∃ w s, r.moves n = .go i w ∧ r.call n i = some s ∧ Leg w (r.book n) s t (r.book (n + 1)) := by
  rcases r.call_succ h with h' | h' | ⟨w, s, hw, hs, rfl, hb⟩
  · exact Or.inl h'
  · exact Or.inr (Or.inl h')
  · refine Or.inr (Or.inr ⟨w, s, hw, hs, ?_⟩)
    rw [hb]
    exact leg_segment w _ (r.rests hs)

/-- A move leaves the book as it is, or it is the leg of some call. -/
theorem leg_of_book_succ (n : Nat) :
    r.book (n + 1) = r.book n ∨
      ∃ i w s t, r.moves n = .go i w ∧ r.call n i = some s ∧ r.call (n + 1) i = some t ∧
        Leg w (r.book n) s t (r.book (n + 1)) := by
  rcases r.book_succ n with h | ⟨i, w, s, hw, hs, ht, hb⟩
  · exact Or.inl h
  · refine Or.inr ⟨i, w, s, _, hw, hs, ht, ?_⟩
    rw [hb]
    exact leg_segment w _ (r.rests hs)

end Run

end Phrasebook.Book
