import Mathlib.Data.Nat.Count
import Phrasebook.Proofs.Book.Freshness
/-!
# The account of what is stored

Calls run on one book at the finest pace, one step at a time, in any order and with any facility failing at
any time. Every phrase that gets into the book does so in a use of the store that does not fail, and
`Run.stores` lists these phrases with the calls that stored them, in the order of the uses. The account
balances if the book is what it was at first followed by that list, if no call is in the list twice, and if
the calls in it are just those that are past their store.

A step of a call is looked at once for each of three questions: what it stores (`store_cases`), what it can
have done if nothing is stored after it (`of_empty`), and what a failing cache makes of it (`alike_step`). The
lead result is `Run.account_balances`.
-/

set_option autoImplicit false

namespace Phrasebook

/-- The phrase that a use of the store is about. -/
def BookEvent.stored? : BookEvent → Option Phrase
  | .use (.repoStore p) => some p
  | _ => none

/-- Whether a facility is the cache's. -/
def Facility.isCache : Facility → Bool
  | .cacheGet | .cacheSet | .cacheInvalidate => true
  | _ => false

/-- To a step a world is the same as another one but for the failures of the cache. -/
structure World.SameButCache (w w' : World) : Prop where
  brings : w.brings = w'.brings
  fails (f : Facility) : f.isCache = false → w.fails f = w'.fails f

/-- A book without what its cache holds. -/
def Book.uncached (b : Book) : Book := { b with cached := none }

namespace Book

/-! ## What a step stores -/

/-- The phrases that the next step of a call stores. -/
def Stage.stores (w : World) (b : Book) (s : Stage) : List Phrase :=
  if (w.fails .repoStore).isSome then [] else (step w b s).events.filterMap BookEvent.stored?

/-- **A step stores the phrase of a render that has it from the outside service, or it stores nothing** and
the call has kept what it had kept before. -/
theorem store_cases (w : World) (b : Book) (s : Stage) :
    (∃ q p, s = .asked q (.ok p) ∧ s.stores w b = [p] ∧ (step w b s).stage = .stored p (.ok ()) ∧
      (step w b s).book = { b with records := b.records ++ [p] }) ∨
    (s.stores w b = [] ∧ (step w b s).book.records = b.records ∧ (step w b s).stage.kept = s.kept) := by
  have hchange : ∀ (f : Facility) (c : Book), c.records = b.records →
      (w.change f b c).records = b.records := by
    intro f c h
    exact change_elim w f (P := fun b' => b'.records = b.records) rfl h
  have hidle : (step w b s).events.filterMap BookEvent.stored? = [] → s.stores w b = [] := by
    intro h
    simp only [Stage.stores, h, ite_self]
  -- only the stage with an answer in hand stores, and it does unless the book fails
  cases s with
  | «recall» | render q =>
    refine Or.inr ⟨hidle ?_, ?_, ?_⟩ <;> simp only [step] <;> split <;> rfl
  | looked f => rcases f with c | (_ | h) <;> exact Or.inr ⟨hidle rfl, rfl, rfl⟩
  | haveRead g a =>
    cases a with
    | error c => exact Or.inr ⟨hidle rfl, rfl, rfl⟩
    | ok h => refine Or.inr ⟨hidle ?_, ?_, ?_⟩ <;> simp only [step] <;> split <;> rfl
  | filling g h | clearing g h => exact Or.inr ⟨hidle rfl, hchange _ _ rfl, rfl⟩
  | filled g h d =>
    cases d with
    | error c => exact Or.inr ⟨hidle rfl, rfl, rfl⟩
    | ok u => refine Or.inr ⟨hidle ?_, ?_, ?_⟩ <;> simp only [step] <;> split <;> rfl
  | asked q a =>
    cases a with
    | error c => exact Or.inr ⟨hidle rfl, rfl, rfl⟩
    | ok p =>
      simp only [Stage.stores, step, World.answer, World.change]
      cases w.fails .repoStore with
      | none => exact Or.inl ⟨q, p, rfl, rfl, rfl, rfl⟩
      | some c => exact Or.inr ⟨rfl, rfl, rfl⟩
  | counted p =>
    refine Or.inr ⟨hidle ?_, ?_, ?_⟩ <;> simp only [step] <;> split <;>
      first | rfl | exact hchange _ _ rfl
  | stored p d | cleared h d | invalidated p d => cases d <;> exact Or.inr ⟨hidle rfl, rfl, rfl⟩
  | reading g | recalled a | rendered a => exact Or.inr ⟨hidle rfl, rfl, rfl⟩

/-- A step puts what it stores behind what was in the book, and nothing else changes there. -/
theorem records_step (w : World) (b : Book) (s : Stage) :
    (step w b s).book.records = b.records ++ s.stores w b := by
  rcases store_cases w b s with ⟨q, p, -, hstores, -, hbook⟩ | ⟨hstores, hrecords, -⟩
  · rw [hbook, hstores]
  · rw [hrecords, hstores, List.append_nil]

/-- What a call has kept after a step is what it had kept and what the step stores. -/
theorem kept_step (w : World) (b : Book) (s : Stage) :
    (step w b s).stage.kept.toList = s.kept.toList ++ s.stores w b := by
  rcases store_cases w b s with ⟨q, p, rfl, hstores, hstage, -⟩ | ⟨hstores, -, hkept⟩
  · rw [hstage, hstores]
    rfl
  · rw [hkept, hstores, List.append_nil]

/-! ## Where an error answer can come from -/

/-- A render that has stored nothing and will store nothing, or has yet to try. -/
def Stage.isEmpty : Stage → Prop
  | .render _ | .asked .. | .stored _ (.error _) | .rendered (.error _) => True
  | _ => False

/-- A step changes nothing and does not touch the cache: at most it asks the outside service, or the store
in vain. -/
structure Step.LeavesNoTrace (b : Book) (s : Step) : Prop where
  book : s.book = b
  uses (u : FacilityUse) : .use u ∈ s.events → u.facility = .web ∨ u.facility = .repoStore

/-- **A render that has stored nothing after a step had stored nothing before it**, and the step changed
nothing and did not touch the cache. -/
theorem of_empty {w : World} {b : Book} {s : Stage} (h : (step w b s).stage.isEmpty) :
    s.isEmpty ∧ (step w b s).LeavesNoTrace b := by
  have hquiet : ∀ t : Stage, Step.LeavesNoTrace b ⟨t, b, []⟩ := by
    intro t
    exact ⟨rfl, fun u hu => absurd hu List.not_mem_nil⟩
  -- a recall never stands where a render with nothing stored does, so its stages drop out
  cases s with
  | «recall» =>
    simp only [step] at h
    split at h <;> exact h.elim
  | looked f => rcases f with c | (_ | h') <;> exact h.elim
  | haveRead g a =>
    cases a with
    | error c => exact h.elim
    | ok h' =>
      simp only [step] at h
      split at h <;> exact h.elim
  | filled g h' d =>
    cases d with
    | error c => exact h.elim
    | ok u =>
      simp only [step] at h
      split at h <;> exact h.elim
  | render q =>
    refine ⟨trivial, ?_⟩
    simp only [step]
    split
    · exact hquiet _
    · refine ⟨rfl, fun u hu => Or.inl ?_⟩
      cases List.mem_singleton.1 hu
      rfl
  | asked q a =>
    refine ⟨trivial, ?_⟩
    cases a with
    | error c => exact hquiet _
    | ok p =>
      simp only [step, World.answer, World.change] at h ⊢
      cases hw : w.fails .repoStore with
      | none =>
        rw [hw] at h
        exact h.elim
      | some c =>
        refine ⟨rfl, fun u hu => Or.inr ?_⟩
        cases List.mem_singleton.1 hu
        rfl
  | stored p d =>
    cases d with
    | error c => exact ⟨trivial, hquiet _⟩
    | ok u => exact h.elim
  | counted p =>
    simp only [step] at h
    split at h <;> exact h.elim
  | rendered a => exact ⟨h, hquiet _⟩
  | cleared h' d | invalidated p d => cases d <;> exact h.elim
  | reading g | filling g h' | clearing g h' | recalled a => exact h.elim

/-! ## What a failing cache makes of a step -/

/-- A stage of a recall. -/
def Stage.isRecall : Stage → Bool
  | .render _ | .asked .. | .stored .. | .counted _ | .invalidated .. | .rendered _ => false
  | _ => true

/-- What a failing cache leaves of a stage: which render it is and how far, and of a recall only that it is
one. -/
def Stage.outline : Stage → Option Stage
  | .invalidated p _ => some (.invalidated p (.ok ()))
  | s => if s.isRecall then none else some s

/-- What a facility of the cache does, and whether it fails, is not seen in a book without what its cache holds. -/
theorem uncached_change (w : World) (f : Facility) {b c : Book} (h : c.uncached = b.uncached) :
    (w.change f b c).uncached = b.uncached :=
  change_elim w f (P := fun b' => b'.uncached = b.uncached) rfl h

/-- A recall stays one, and changes nothing but what the cache holds. -/
theorem isRecall_step {w : World} {b : Book} {s : Stage} (h : s.isRecall = true) :
    (step w b s).stage.isRecall = true ∧ (step w b s).book.uncached = b.uncached := by
  -- each stage of a recall goes on to a stage of a recall, and touches nothing but the cache
  cases s with
  | «recall» =>
    simp only [step]
    split <;> exact ⟨rfl, rfl⟩
  | looked f => rcases f with c | (_ | h') <;> exact ⟨rfl, rfl⟩
  | haveRead g a =>
    cases a with
    | error c => exact ⟨rfl, rfl⟩
    | ok h' =>
      simp only [step]
      split <;> exact ⟨rfl, rfl⟩
  | filled g h' d =>
    cases d with
    | error c => exact ⟨rfl, rfl⟩
    | ok u =>
      simp only [step]
      split <;> exact ⟨rfl, rfl⟩
  | filling g h' | clearing g h' => exact ⟨rfl, uncached_change w _ rfl⟩
  | cleared h' d => cases d <;> exact ⟨rfl, rfl⟩
  | reading g | recalled a => exact ⟨rfl, rfl⟩
  | _ => cases h

/-- A recall has no outline. -/
theorem outline_of_isRecall {s : Stage} (h : s.isRecall = true) : s.outline = none := by
  cases s <;> first | rfl | cases h

/-- Stages with the same outline are both recalls, or are the same stage of a render, or differ only in whether
the cache could be emptied. -/
theorem outline_cases {s t : Stage} (h : s.outline = t.outline) :
    (s.isRecall = true ∧ t.isRecall = true) ∨ (s = t ∧ s.isRecall = false) ∨
      ∃ p d d', s = .invalidated p d ∧ t = .invalidated p d' := by
  cases s <;> cases t <;>
    first
    | exact Or.inl ⟨rfl, rfl⟩
    | (cases h; exact Or.inr (Or.inl ⟨rfl, rfl⟩))
    | (cases h; exact Or.inr (Or.inr ⟨_, _, _, rfl, rfl⟩))
    | cases h

/-- **Whether the cache fails makes no difference to a render**, nor to the book but for what the cache
holds. -/
theorem alike_step {w w' : World} {b b' : Book} {s t : Stage} (hw : w.SameButCache w')
    (hb : b.uncached = b'.uncached) (hs : s.outline = t.outline) :
    (step w b s).stage.outline = (step w' b' t).stage.outline ∧
      (step w b s).book.uncached = (step w' b' t).book.uncached := by
  rcases outline_cases hs with ⟨hsr, htr⟩ | ⟨rfl, hr⟩ | ⟨p, d, d', rfl, rfl⟩
  · -- a recall has no outline and stores nothing
    obtain ⟨hs', hbook⟩ := isRecall_step (w := w) (b := b) hsr
    obtain ⟨ht', hbook'⟩ := isRecall_step (w := w') (b := b') htr
    exact ⟨by rw [outline_of_isRecall hs', outline_of_isRecall ht'], by rw [hbook, hbook', hb]⟩
  · -- a render goes the same way in both, since the worlds answer it alike
    have hreply : ∀ q, w.reply q = w'.reply q := by
      intro q
      simp only [World.reply, hw.brings, hw.fails .web rfl]
    have hcache : b.hasCache = b'.hasCache := by
      have h := congrArg Book.hasCache hb
      exact h
    cases s with
    | render q =>
      simp only [step, hreply]
      cases q.validate with
      | error e => exact ⟨rfl, hb⟩
      | ok u => exact ⟨rfl, hb⟩
    | asked q a =>
      cases a with
      | error c => exact ⟨rfl, hb⟩
      | ok p =>
        have hfails : w.fails .repoStore = w'.fails .repoStore := hw.fails .repoStore rfl
        refine ⟨by simp only [step, World.answer, hfails], ?_⟩
        simp only [step, World.change, hfails]
        cases w'.fails .repoStore with
        | none => exact congrArg (fun c : Book => { c with records := c.records ++ [p] }) hb
        | some c => exact hb
    | stored p d =>
      cases d with
      | error c => exact ⟨rfl, hb⟩
      | ok u => exact ⟨rfl, congrArg (fun c : Book => { c with generation := c.generation + 1 }) hb⟩
    | counted p =>
      have hstage : ∀ (w : World) (b : Book), (step w b (.counted p)).stage.outline =
          if b.hasCache then some (.invalidated p (.ok ())) else some (.rendered (.ok p)) := by
        intro w b
        simp only [step]
        split <;> rfl
      have hbook : ∀ (w : World) (b : Book), (step w b (.counted p)).book.uncached = b.uncached := by
        intro w b
        simp only [step]
        split
        · exact uncached_change w _ rfl
        · rfl
      exact ⟨by rw [hstage, hstage, hcache], by rw [hbook, hbook, hb]⟩
    | rendered a => exact ⟨rfl, hb⟩
    | invalidated p d => cases d <;> exact ⟨rfl, hb⟩
    | _ => cases hr
  · -- two renders that differ in whether the cache could be emptied, which is only told in the log
    cases d <;> cases d' <;> exact ⟨rfl, hb⟩

/-! ## What is said of a run -/

/-- The move is one of the call of a number. -/
def Move.isOf (j : Nat) : Move → Bool
  | .go i _ => i == j
  | _ => false

/-- A move is the same as another one but for the failures of the cache. -/
def Move.SameButCache : Move → Move → Prop
  | .newRecall, .newRecall => True
  | .newRender q, .newRender q' => q = q'
  | .go i w, .go j w' => i = j ∧ w.SameButCache w'
  | _, _ => False

namespace Run

variable (r : Run step)

/-- What is stored in a move, and by which call. -/
def storesIn (k : Nat) : List (Nat × Phrase) :=
  match r.moves k with
  | .go j w =>
    match r.call k j with
    | some s => (s.stores w (r.book k)).map (j, ·)
    | none => []
  | _ => []

/-- What has been stored after so many moves, and by which calls, in the order of the moves. -/
def stores (n : Nat) : List (Nat × Phrase) := (List.range n).flatMap r.storesIn

/-- Call `j` was begun with a query that is acceptable, and the outside service has answered it with `p`. -/
def Obtains (n j : Nat) (p : Phrase) : Prop :=
  ∃ q, ∃ k < n, ∃ w, r.moves k = .go j w ∧ r.call k j = some (.render q) ∧
    q.validate = .ok () ∧ w.reply q = .ok p

/-- Call `i` has tried to read the book, and the reading failed. -/
def FailsToRead (n i : Nat) (c : Chain) : Prop :=
  ∃ k < n, ∃ w g, r.moves k = .go i w ∧ r.call k i = some (.reading g) ∧ w.fails .repoGet = some c

/-- How many moves call `j` has had. -/
def turns (j n : Nat) : Nat := Nat.count (fun k => (r.moves k).isOf j = true) n

/-- A run is the same as another one but for the failures of the cache. -/
structure SameButCache (r r' : Run step) : Prop where
  start : r.start = r'.start
  moves (n : Nat) : (r.moves n).SameButCache (r'.moves n)

/-! ## Stores, move by move -/

/-- A move lets one call go on, or no call at all and stores nothing. -/
theorem go_cases (n : Nat) :
    (∃ j w s, r.moves n = .go j w ∧ r.call n j = some s ∧
      r.storesIn n = (s.stores w (r.book n)).map (j, ·)) ∨
    (r.storesIn n = [] ∧ r.book (n + 1) = r.book n ∧
      ∀ j s, r.call n j = some s → r.call (n + 1) j = some s) := by
  -- a move that sends no existing call on stores nothing and leaves every call where it was
  by_cases hgo : ∃ j w s, r.moves n = .go j w ∧ r.call n j = some s
  · obtain ⟨j, w, s, hm, hs⟩ := hgo
    exact Or.inl ⟨j, w, s, hm, hs, by simp only [storesIn, hm, hs]⟩
  · refine Or.inr ⟨?_, ?_, ?_⟩
    · simp only [storesIn]
      split
      · rename_i j w hm
        cases hs : r.call n j with
        | none => rfl
        | some s => exact absurd ⟨j, w, s, hm, hs⟩ hgo
      · rfl
    · rcases r.book_succ n with h | ⟨j, w, s, hm, hs, -⟩
      · exact h
      · exact absurd ⟨j, w, s, hm, hs⟩ hgo
    · intro j s hs
      rcases r.call_next hs with h | ⟨w, hm, -⟩
      · exact h
      · exact absurd ⟨j, w, s, hm, hs⟩ hgo

/-- What has been stored grows by what the next move stores. -/
theorem stores_succ (n : Nat) : r.stores (n + 1) = r.stores n ++ r.storesIn n := by
  simp only [stores, List.range_succ, List.flatMap_append, List.flatMap_singleton]

/-- **The book is what it was at first, followed by what was stored.** -/
theorem records_eq_stores (n : Nat) : (r.book n).records = r.start.records ++ (r.stores n).map Prod.snd := by
  induction n with
  | zero => exact (List.append_nil _).symm
  | succ n ih =>
    rw [stores_succ, List.map_append, ← List.append_assoc, ← ih]
    rcases r.go_cases n with ⟨j, w, s, hm, hs, hstores⟩ | ⟨hstores, hbook, -⟩
    · have hsnd : ((s.stores w (r.book n)).map (Prod.mk j)).map Prod.snd = s.stores w (r.book n) := by
        rw [List.map_map]
        exact List.map_id _
      rw [(r.call_go hm hs).2, records_step, hstores, hsnd]
    · rw [hbook, hstores, List.map_nil, List.append_nil]

/-- What call `j` has stored according to a list of stores. -/
def storedBy (j : Nat) (l : List (Nat × Phrase)) : List Phrase := (l.filter (·.1 == j)).map Prod.snd

/-- What one call has stored is all its own. -/
theorem storedBy_map_self (j : Nat) (l : List Phrase) : storedBy j (l.map (j, ·)) = l := by
  simp [storedBy, List.filter_map, Function.comp_def]

/-- And none of it is another's. -/
theorem storedBy_map_of_ne {i j : Nat} (h : i ≠ j) (l : List Phrase) : storedBy j (l.map (i, ·)) = [] := by
  simp [storedBy, List.filter_map, Function.comp_def, h]

/-- What a move adds to what a call has kept is what the call stores in it. -/
theorem kept_succ (n j : Nat) :
    ((r.call (n + 1) j).bind Stage.kept).toList =
      ((r.call n j).bind Stage.kept).toList ++ storedBy j (r.storesIn n) := by
  cases hj : r.call n j with
  | none =>
    -- no call as yet: it can only be begun, and the move of another call stores nothing for it
    have hstores : storedBy j (r.storesIn n) = [] := by
      rcases r.go_cases n with ⟨i, w, s, -, hs, hstores⟩ | ⟨hstores, -, -⟩
      · have hij : i ≠ j := by
          rintro rfl
          rw [hs] at hj
          cases hj
        rw [hstores, storedBy_map_of_ne hij]
      · rw [hstores]
        rfl
    rw [hstores]
    cases ht : r.call (n + 1) j with
    | none => rfl
    | some t =>
      rcases r.call_succ ht with h | ⟨hf, -⟩ | ⟨w, s, -, hs, -⟩
      · rw [hj] at h
        cases h
      · cases t <;> first | rfl | exact hf.elim
      · rw [hj] at hs
        cases hs
  | some s =>
    rcases r.go_cases n with ⟨i, w, s', hm, hs', hstores⟩ | ⟨hstores, -, hcalls⟩
    · by_cases hij : i = j
      · subst hij
        cases hj.symm.trans hs'
        rw [(r.call_go hm hs').1, hstores, storedBy_map_self]
        exact kept_step w (r.book n) s
      · have hsame : r.call (n + 1) j = some s := by
          rcases r.call_next hj with h | ⟨w', hm', -⟩
          · exact h
          · rw [hm] at hm'
            cases hm'
            exact absurd rfl hij
        rw [hsame, hstores, storedBy_map_of_ne hij, List.append_nil]
    · rw [hcalls j s hj, hstores]
      exact (List.append_nil _).symm

/-- **What a call has stored is what it has kept**, so it stores at most once. -/
theorem storedBy_stores (n j : Nat) :
    storedBy j (r.stores n) = ((r.call n j).bind Stage.kept).toList := by
  induction n with
  | zero => rfl
  | succ n ih =>
    rw [kept_succ, ← ih, stores_succ]
    simp only [storedBy, List.filter_append, List.map_append]

/-- A phrase has been stored by a call exactly if the call has got past storing it. -/
theorem mem_stores_iff (n j : Nat) (p : Phrase) :
    (j, p) ∈ r.stores n ↔ ∃ s, r.call n j = some s ∧ s.kept = some p := by
  have hmem : (j, p) ∈ r.stores n ↔ p ∈ storedBy j (r.stores n) := by
    simp [storedBy]
  rw [hmem, storedBy_stores, Option.mem_toList, Option.bind_eq_some_iff]

/-- No call stores twice. -/
theorem nodup_stores (n : Nat) : ((r.stores n).map Prod.fst).Nodup := by
  rw [List.nodup_iff_count_le_one]
  intro j
  have hcount : ((r.stores n).map Prod.fst).count j = (storedBy j (r.stores n)).length := by
    rw [List.count, List.countP_map, List.countP_eq_length_filter, storedBy, List.length_map]
    rfl
  rw [hcount, storedBy_stores]
  cases (r.call n j).bind Stage.kept <;> simp

/-! ## Where answers come from -/

/-- What is known of a call at a stage: a phrase at hand was obtained, and a failed reading was tried. -/
def Backed (n i : Nat) : Stage → Prop
  | .asked _ (.ok p) | .stored p _ | .counted p | .invalidated p _ | .rendered (.ok p) => r.Obtains n i p
  | .haveRead _ (.error c) => r.FailsToRead n i c
  | .recalled (.error e) => ∃ c, r.FailsToRead n i c ∧ e = .internal (c.context readContext)
  | _ => True

variable {r}

/-- What has been obtained stays so. -/
theorem Obtains.succ {n j : Nat} {p : Phrase} (h : r.Obtains n j p) : r.Obtains (n + 1) j p := by
  obtain ⟨q, k, hk, hrest⟩ := h
  exact ⟨q, k, Nat.lt_succ_of_lt hk, hrest⟩

/-- What has failed to be read stays so. -/
theorem FailsToRead.succ {n i : Nat} {c : Chain} (h : r.FailsToRead n i c) :
    r.FailsToRead (n + 1) i c := by
  obtain ⟨k, hk, hrest⟩ := h
  exact ⟨k, Nat.lt_succ_of_lt hk, hrest⟩

/-- What is known of a stage stays known as the run goes on. -/
theorem Backed.succ {n i : Nat} {s : Stage} (h : r.Backed n i s) : r.Backed (n + 1) i s := by
  cases s with
  | asked q a | haveRead g a | rendered a =>
    cases a <;> first | trivial | exact Obtains.succ h | exact FailsToRead.succ h
  | stored p d | counted p | invalidated p d => exact Obtains.succ h
  | recalled a =>
    cases a with
    | error e =>
      obtain ⟨c, hc, he⟩ := h
      exact ⟨c, hc.succ, he⟩
    | ok h' => trivial
  | _ => trivial

/-- A step hands on what is known of the call, and finds it out when it asks or reads. -/
theorem Backed.step {n i : Nat} {w : World} {s : Stage} (hm : r.moves n = .go i w)
    (hs : r.call n i = some s) (h : r.Backed n i s) :
    r.Backed (n + 1) i (Book.step w (r.book n) s).stage := by
  have h' : r.Backed (n + 1) i s := h.succ
  cases s with
  | «recall» =>
    simp only [Book.step]
    split <;> trivial
  | looked f => rcases f with c | (_ | h) <;> trivial
  | reading g =>
    simp only [Book.step, World.answer]
    cases hw : w.fails .repoGet with
    | none => trivial
    | some c =>
      -- this is the move in which the reading failed
      exact ⟨n, Nat.lt_succ_self n, w, g, hm, hs, hw⟩
  | haveRead g a =>
    cases a with
    | error c => exact ⟨c, h', rfl⟩
    | ok page =>
      simp only [Book.step]
      split <;> trivial
  | filled g page d =>
    cases d with
    | error c => trivial
    | ok u =>
      simp only [Book.step]
      split <;> trivial
  | render q =>
    simp only [Book.step]
    cases hq : q.validate with
    | error e => trivial
    | ok u =>
      cases hp : w.reply q with
      | error c => trivial
      | ok p =>
        -- and this the one in which the service answered
        exact ⟨q, n, Nat.lt_succ_self n, w, hm, hs, hq, hp⟩
  | asked q a =>
    cases a with
    | error c => trivial
    | ok p => exact h'
  | stored p d =>
    cases d with
    | error c => trivial
    | ok u => exact h'
  | counted p =>
    simp only [Book.step]
    split <;> exact h'
  | invalidated p d => cases d <;> exact h'
  | cleared page d => cases d <;> trivial
  | filling g page | clearing g page => trivial
  | recalled a | rendered a => exact h'

variable (r)

/-- **Every phrase at hand was obtained from the outside service, and every reading that failed was tried.** -/
theorem backed {n i : Nat} {s : Stage} (h : r.call n i = some s) : r.Backed n i s := by
  induction n generalizing s with
  | zero => simp at h
  | succ n ih =>
    rcases r.call_succ h with h' | ⟨hf, -⟩ | ⟨w, s', hm, hs', rfl, -⟩
    · exact (ih h').succ
    · -- a call that has just been begun has nothing at hand
      cases s <;> trivial
    · exact (ih hs').step hm hs'

/-- **A render that has stored nothing has left no trace in any of its moves.** -/
theorem empty_leaves_no_trace {n j : Nat} {t : Stage} (ht : r.call n j = some t) (hempty : t.isEmpty) :
    ∀ k < n, ∀ w s, r.moves k = .go j w → r.call k j = some s →
      (step w (r.book k) s).LeavesNoTrace (r.book k) := by
  induction n generalizing t with
  | zero =>
    intro k hk
    exact absurd hk (Nat.not_lt_zero k)
  | succ n ih =>
    intro k hk w s hm hs
    rcases Nat.lt_succ_iff_lt_or_eq.1 hk with hlt | rfl
    · -- an earlier move: the call stood at an empty stage before the last move too
      obtain ⟨t', ht', hempty'⟩ : ∃ t', r.call n j = some t' ∧ t'.isEmpty := by
        rcases r.call_succ ht with h | ⟨-, hnew⟩ | ⟨w', s', -, hs', rfl, -⟩
        · exact ⟨t, h, hempty⟩
        · have hold := r.lt_begun_of_call hs
          have := r.begun_mono (Nat.le_of_lt hlt)
          omega
        · exact ⟨s', hs', (of_empty hempty).1⟩
      exact ih ht' hempty' k hlt w s hm hs
    · obtain ⟨hstage, -⟩ := r.call_go hm hs
      cases ht.symm.trans hstage
      exact (of_empty hempty).2

/-! ## Two runs that differ in the failures of the cache -/

/-- **Runs that differ only in the failures of the cache have the same renders at the same stages**, and the
same book but for what the cache holds. -/
theorem SameButCache.after {r r' : Run step} (h : r.SameButCache r') (n : Nat) :
    (r.after n).calls.map Stage.outline = (r'.after n).calls.map Stage.outline ∧
      (r.after n).book.uncached = (r'.after n).book.uncached := by
  -- by induction on the moves, which are of one kind and of the same call in both runs
  induction n with
  | zero => exact ⟨rfl, congrArg Book.uncached h.start⟩
  | succ n ih =>
    obtain ⟨hcalls, hbook⟩ := ih
    have hmove := h.moves n
    simp only [Run.after]
    generalize r.moves n = m at hmove
    generalize r'.moves n = m' at hmove
    cases m with
    | newRecall =>
      cases m' with
      | newRecall => exact ⟨by simp only [Traffic.move, List.map_append, hcalls], hbook⟩
      | _ => exact hmove.elim
    | newRender q =>
      cases m' with
      | newRender q' =>
        cases hmove
        exact ⟨by simp only [Traffic.move, List.map_append, hcalls], hbook⟩
      | _ => exact hmove.elim
    | go i w =>
      cases m' with
      | go i' w' =>
        obtain ⟨rfl, hw⟩ := hmove
        have hi : (r.after n).calls[i]?.map Stage.outline = (r'.after n).calls[i]?.map Stage.outline := by
          rw [← List.getElem?_map, ← List.getElem?_map, hcalls]
        simp only [Traffic.move]
        cases hs : (r.after n).calls[i]? with
        | none =>
          cases ht : (r'.after n).calls[i]? with
          | none => exact ⟨hcalls, hbook⟩
          | some t => rw [hs, ht] at hi; cases hi
        | some s =>
          cases ht : (r'.after n).calls[i]? with
          | none => rw [hs, ht] at hi; cases hi
          | some t =>
            rw [hs, ht] at hi
            obtain ⟨hstage, hbook'⟩ := alike_step hw hbook (Option.some.inj hi)
            refine ⟨?_, hbook'⟩
            simp only [List.map_set, hcalls, hstage]
      | _ => exact hmove.elim

/-- The outline of an answered render is the answer, whatever became of the cache. -/
theorem outline_eq_rendered {s : Stage} {a : Except ServiceError Phrase} :
    s.outline = some (.rendered a) ↔ s = .rendered a := by
  constructor
  · intro h
    cases s <;> first | (cases h; rfl) | cases h
  · rintro rfl
    rfl

/-- Runs that differ only in failures of the cache answer their renders alike. -/
theorem SameButCache.rendered_iff {r r' : Run step} (h : r.SameButCache r') (n j : Nat)
    (a : Except ServiceError Phrase) :
    r.call n j = some (.rendered a) ↔ r'.call n j = some (.rendered a) := by
  have houtline : (r.call n j).map Stage.outline = (r'.call n j).map Stage.outline := by
    simp only [call, ← List.getElem?_map, (h.after n).1]
  have hiff : ∀ o : Option Stage,
      o = some (.rendered a) ↔ o.map Stage.outline = some (some (.rendered a)) := by
    intro o
    cases o with
    | none => simp
    | some s => simp [outline_eq_rendered]
  rw [hiff, hiff, houtline]

/-! ## Every call comes to its end -/

/-- A call with no step left is over. -/
theorem isDone_of_stepsLeft {s : Stage} (h : s.stepsLeft = 0) : s.isDone = true := by
  cases s <;> first | rfl | cases h

/-- A call has ended, or it has taken as many steps as it has had moves. -/
theorem stepsLeft_add_turns {m n j : Nat} {s : Stage} (h : r.call m j = some s) (hmn : m ≤ n) :
    ∃ t, r.call n j = some t ∧
      (t.isDone = true ∨ r.turns j n + t.stepsLeft ≤ r.turns j m + s.stepsLeft) := by
  -- by induction on the moves in between: one of its own uses up a step, any other leaves it alone
  induction hmn with
  | refl => exact ⟨s, h, Or.inr (Nat.le_refl _)⟩
  | @step n _ ih =>
    obtain ⟨t, ht, hleft⟩ := ih
    have hturns : r.turns j (n + 1) = r.turns j n + if (r.moves n).isOf j = true then 1 else 0 := by
      simp only [turns, Nat.count_succ]
    by_cases hown : (r.moves n).isOf j = true
    · -- a move of its own
      obtain ⟨w, hm⟩ : ∃ w, r.moves n = .go j w := by
        cases hm : r.moves n with
        | go i w =>
          rw [hm] at hown
          exact ⟨w, by rw [eq_of_beq hown]⟩
        | newRecall | newRender q => rw [hm] at hown; cases hown
      refine ⟨_, (r.call_go hm ht).1, ?_⟩
      cases hdone : t.isDone with
      | true => exact Or.inl (by rw [step_of_isDone hdone]; exact hdone)
      | false =>
        have hlt := stepsLeft_step_lt w (r.book n) t hdone
        rw [hdone] at hleft
        rw [hturns, if_pos hown]
        right
        rcases hleft with hleft | hleft
        · cases hleft
        · omega
    · rcases r.call_next ht with hsame | ⟨w, hm, -⟩
      · refine ⟨t, hsame, ?_⟩
        rw [hturns, if_neg hown]
        exact hleft
      · rw [hm] at hown
        exact absurd (beq_self_eq_true j) hown

/-- A call that has had as many turns as it had steps left is over. -/
theorem ends_of_turns {m n j : Nat} {s : Stage} (hmn : m ≤ n) (h : r.call m j = some s)
    (hturns : r.turns j m + s.stepsLeft ≤ r.turns j n) : ∃ t, r.call n j = some t ∧ t.isDone = true := by
  obtain ⟨t, ht, hdone | hleft⟩ := r.stepsLeft_add_turns h hmn
  · exact ⟨t, ht, hdone⟩
  · exact ⟨t, ht, isDone_of_stepsLeft (by omega)⟩

/-! ## The account -/

/-- **The account of a run balances**, whatever fails and however the calls overlap.

The book is what it was at first, followed by one phrase for each call that is past its store, in the order
of the stores. A render that has ended has answered with a phrase just if its query was acceptable, the outside
service answered it with that phrase and the phrase was stored; if it has answered with an error it has
stored nothing, and has in none of its moves changed anything or touched the cache. A recall answers with an
error only if its own reading of the book failed, and a render answers the same whether or not the cache
fails. Every call that is let go on often enough comes to its end. -/
theorem account_balances (n : Nat) :
    ((r.book n).records = r.start.records ++ (r.stores n).map Prod.snd ∧
      ((r.stores n).map Prod.fst).Nodup ∧
      ∀ j p, (j, p) ∈ r.stores n ↔ ∃ s, r.call n j = some s ∧ s.kept = some p) ∧
    (∀ j a p, r.call n j = some (.rendered a) →
      (a = .ok p ↔ r.Obtains n j p ∧ (j, p) ∈ r.stores n)) ∧
    (∀ j e, r.call n j = some (.rendered (.error e)) →
      (∀ p, (j, p) ∉ r.stores n) ∧
      ∀ k < n, ∀ w s, r.moves k = .go j w → r.call k j = some s →
        (step w (r.book k) s).LeavesNoTrace (r.book k)) ∧
    (∀ i e, r.call n i = some (.recalled (.error e)) →
      ∃ c, r.FailsToRead n i c ∧ e = .internal (c.context readContext)) ∧
    (∀ r' : Run step, r.SameButCache r' → ∀ j a,
      r.call n j = some (.rendered a) ↔ r'.call n j = some (.rendered a)) ∧
    ∀ m ≤ n, ∀ j s, r.call m j = some s → r.turns j m + s.stepsLeft ≤ r.turns j n →
      ∃ t, r.call n j = some t ∧ t.isDone = true := by
  refine ⟨⟨r.records_eq_stores n, r.nodup_stores n, r.mem_stores_iff n⟩, ?_, ?_, ?_, ?_, ?_⟩
  · intro j a p ha
    constructor
    · rintro rfl
      exact ⟨r.backed ha, (r.mem_stores_iff n j p).2 ⟨_, ha, rfl⟩⟩
    · rintro ⟨-, hstored⟩
      obtain ⟨s, hs, hkept⟩ := (r.mem_stores_iff n j p).1 hstored
      cases ha.symm.trans hs
      cases a with
      | error e => cases hkept
      | ok p' => cases hkept; rfl
  · intro j e he
    refine ⟨?_, r.empty_leaves_no_trace he trivial⟩
    intro p hp
    obtain ⟨s, hs, hkept⟩ := (r.mem_stores_iff n j p).1 hp
    cases he.symm.trans hs
    cases hkept
  · intro i e he
    exact r.backed he
  · intro r' h j a
    exact h.rendered_iff n j a
  · intro m hmn j s hs hturns
    exact r.ends_of_turns hmn hs hturns

/-! ## A shaky run

Render 0 stores its phrase, for render 1 the store fails, and for recall 2 the reading of the book. The cache
may fail all the time. -/

/-- Moves that are the same one by one but for the failures of the cache make such runs. -/
theorem sameButCache_ofList {start : Book} {moves moves' : List Move}
    (h : List.Forall₂ Move.SameButCache moves moves') :
    (ofList step start moves).SameButCache (ofList step start moves') := by
  have hget : ∀ (n : Nat) (m : Move), m.SameButCache m →
      (moves.getD n m).SameButCache (moves'.getD n m) := by
    induction h with
    | nil => exact fun n m hm => hm
    | cons hfirst _ ih =>
      intro n m hm
      cases n with
      | zero => exact hfirst
      | succ n => exact ih n m hm
  refine ⟨rfl, fun n => ?_⟩
  simp only [ofList, ← h.length_eq]
  exact hget n _ ⟨rfl, rfl, fun _ _ => rfl⟩

/-- A world in which some facilities fail. -/
def down (facilities : List Facility) : World where
  fails f := if f ∈ facilities then some ⟨"down", []⟩ else none
  brings q := .ok (q.phrase "NEW")

/-- The moves of the shaky run, some facilities of the cache being down. -/
def shakyMoves (cache : List Facility) : List Move :=
  let w := down cache
  [.newRender ⟨"en", "de", "new"⟩, .newRender ⟨"en", "de", "lost"⟩, .newRecall,
   .go 0 w, .go 1 w, .go 2 w, .go 0 w, .go 1 (down (.repoStore :: cache)), .go 0 w, .go 2 w, .go 1 w,
   .go 0 w, .go 2 (down (.repoGet :: cache)), .go 0 w, .go 2 w]

/-- The shaky run, on a book with one phrase and a cache. -/
def shaky (cache : List Facility) : Run step :=
  .ofList step { records := [⟨"en", "de", "old", "OLD"⟩], hasCache := true } (shakyMoves cache)

/-- The phrase that the shaky run stores. -/
def shakyPhrase : Phrase := ⟨"en", "de", "new", "NEW"⟩

/-- The facilities of the cache. -/
def cacheFacilities : List Facility := [.cacheGet, .cacheSet, .cacheInvalidate]

/-- A world in which the cache is down as well differs from the other only in that. -/
theorem sameButCache_down (fs : List Facility) :
    (down (fs ++ cacheFacilities)).SameButCache (down fs) := by
  refine ⟨rfl, fun f hf => ?_⟩
  have hnot : f ∉ cacheFacilities := by
    revert hf
    cases f <;> decide
  simp only [down, List.mem_append, hnot, or_false]

/-- So do the two shaky runs, move by move. -/
theorem shaky_sameButCache : (shaky cacheFacilities).SameButCache (shaky []) := by
  have hmoves : List.Forall₂ Move.SameButCache (shakyMoves cacheFacilities) (shakyMoves []) := by
    have h := sameButCache_down []
    have hstore := sameButCache_down [.repoStore]
    have hread := sameButCache_down [.repoGet]
    simp only [List.nil_append, List.cons_append] at h hstore hread
    simp [shakyMoves, Move.SameButCache, h, hstore, hread]
  exact sameButCache_ofList hmoves

/-- In the shaky run one phrase was obtained and stored, the other render stored nothing, the recall failed to
read, and the first render is answered as it would be with the cache up. -/
theorem shaky_account_balances :
    ((shaky cacheFacilities).book 15).records = [⟨"en", "de", "old", "OLD"⟩, shakyPhrase] ∧
      (shaky cacheFacilities).Obtains 15 0 shakyPhrase ∧
      (0, shakyPhrase) ∈ (shaky cacheFacilities).stores 15 ∧
      (∀ p, (1, p) ∉ (shaky cacheFacilities).stores 15) ∧
      (shaky []).call 15 0 = some (.rendered (.ok shakyPhrase)) ∧
      ∃ c, (shaky cacheFacilities).FailsToRead 15 2 c := by
  obtain ⟨⟨hrecords, -, -⟩, hok, herror, hread, hsame, -⟩ := (shaky cacheFacilities).account_balances 15
  have hrendered : (shaky cacheFacilities).call 15 0 = some (.rendered (.ok shakyPhrase)) := by rfl
  have hlost : (shaky cacheFacilities).call 15 1 =
      some (.rendered (.error (.internal ((⟨"down", []⟩ : Chain).context storeContext)))) := by rfl
  have hfailed : (shaky cacheFacilities).call 15 2 =
      some (.recalled (.error (.internal ((⟨"down", []⟩ : Chain).context readContext)))) := by rfl
  obtain ⟨hobtained, hstored⟩ := (hok 0 _ shakyPhrase hrendered).1 rfl
  obtain ⟨c, hc, -⟩ := hread 2 _ hfailed
  refine ⟨hrecords, hobtained, hstored, (herror 1 _ hlost).1, ?_, c, hc⟩
  exact (hsame (shaky []) shaky_sameButCache 0 _).1 hrendered

end Run

end Book

end Phrasebook
