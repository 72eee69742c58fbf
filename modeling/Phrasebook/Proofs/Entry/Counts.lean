import Phrasebook.Http.Metrics
/-!
# What the counts show

The counts are kept as lines in order, each with its number, and a counted request counts up two lines, one of each
family. A line that is counted up is looked for from the front, which finds it only because the lines are in order
and each is there once (`InOrder`); so that is the invariant. With it, the number on a line is the number of counted
requests that belong to it (`numberOn_counts`), whatever came in between.
-/

set_option autoImplicit false

namespace Phrasebook.Http.Metrics

/-- The lines are in order, and none is there twice. -/
def InOrder (l : List (String × Nat)) : Prop := l.Pairwise fun a b => a.1 < b.1

/-- The number on a line; a line that is not there has none. -/
def numberOn (l : List (String × Nat)) (name : String) : Nat := (l.lookup name).getD 0

section Tally

variable {name other : String} {k : Nat} {l : List (String × Nat)}

/-- The number on the first line is the one there. -/
theorem numberOn_cons_self : numberOn ((name, k) :: l) name = k := by
  simp [numberOn]

/-- The number on another line is to be found further on. -/
theorem numberOn_cons_of_ne (h : name ≠ other) : numberOn ((other, k) :: l) name = numberOn l name := by
  rw [numberOn, List.lookup_cons, beq_false_of_ne h, numberOn]

/-- A line before the first one is not there. -/
theorem numberOn_of_lt (h : ∀ e ∈ l, name < e.1) : numberOn l name = 0 := by
  have hnone : l.lookup name = none := by
    rw [List.lookup_eq_none_iff]
    intro e he
    rw [bne_iff_ne]
    intro heq
    exact String.lt_irrefl _ (heq ▸ h e he)
  rw [numberOn, hnone, Option.getD_none]

/-- Counting a name brings in no line but its own. -/
theorem mem_keys_tally {e : String × Nat} (he : e ∈ tally name l) : e.1 = name ∨ ∃ d ∈ l, e.1 = d.1 := by
  induction l with
  | nil => exact .inl (by rw [List.mem_singleton.1 he])
  | cons d l ih =>
    obtain ⟨n, k⟩ := d
    rw [tally] at he
    split at he
    · rcases List.mem_cons.1 he with rfl | hmem
      · exact .inl rfl
      · exact .inr ⟨e, hmem, rfl⟩
    · split at he
      · rcases List.mem_cons.1 he with rfl | hmem
        · exact .inr ⟨(n, k), List.mem_cons_self, rfl⟩
        · exact .inr ⟨e, List.mem_cons_of_mem _ hmem, rfl⟩
      · rcases List.mem_cons.1 he with rfl | hmem
        · exact .inr ⟨(n, k), List.mem_cons_self, rfl⟩
        · rcases ih hmem with hname | ⟨d, hd, heq⟩
          · exact .inl hname
          · exact .inr ⟨d, List.mem_cons_of_mem _ hd, heq⟩

/-- Of two different names one comes before the other. -/
theorem lt_of_not_lt (hlt : ¬ name < other) (hne : ¬ (name == other) = true) : other < name := by
  rcases Std.lt_trichotomy name other with h | h | h
  · exact absurd h hlt
  · exact absurd (beq_iff_eq.2 h) hne
  · exact h

/-- Counting keeps the lines in order. -/
theorem InOrder.tally (h : InOrder l) : InOrder (tally name l) := by
  induction l with
  | nil => exact List.pairwise_singleton _ _
  | cons d l ih =>
    obtain ⟨n, k⟩ := d
    obtain ⟨hfirst, hrest⟩ := List.pairwise_cons.1 h
    rw [Metrics.tally]
    split
    · -- the line is new, and comes before all others
      rename_i hlt
      refine List.pairwise_cons.2 ⟨?_, h⟩
      intro e he
      rcases List.mem_cons.1 he with rfl | hmem
      · exact hlt
      · exact String.lt_trans hlt (hfirst e hmem)
    · split
      · exact List.pairwise_cons.2 ⟨hfirst, hrest⟩
      · -- it belongs behind the first one, which stays the first
        rename_i hlt hne
        refine List.pairwise_cons.2 ⟨?_, ih hrest⟩
        intro e he
        rcases mem_keys_tally he with hname | ⟨d, hd, heq⟩
        · rw [hname]
          exact lt_of_not_lt hlt hne
        · rw [heq]
          exact hfirst d hd

/-- **A tally counts up one line by one**, and no other. -/
theorem numberOn_tally (h : InOrder l) (line : String) :
    numberOn (Metrics.tally name l) line = numberOn l line + if line = name then 1 else 0 := by
  induction l with
  | nil =>
    by_cases hline : line = name
    · rw [if_pos hline, hline]
      simp [Metrics.tally, numberOn]
    · rw [if_neg hline, Metrics.tally, numberOn_cons_of_ne hline, Nat.add_zero]
  | cons d l ih =>
    obtain ⟨n, k⟩ := d
    obtain ⟨hfirst, hrest⟩ := List.pairwise_cons.1 h
    rw [Metrics.tally]
    by_cases hlt : name < n
    · -- the line is put in front, and was not there
      rw [if_pos hlt]
      by_cases hline : line = name
      · have hnew : numberOn ((n, k) :: l) name = 0 := by
          apply numberOn_of_lt
          intro e he
          rcases List.mem_cons.1 he with rfl | hmem
          · exact hlt
          · exact String.lt_trans hlt (hfirst e hmem)
        rw [if_pos hline, hline, numberOn_cons_self, hnew]
      · rw [if_neg hline, numberOn_cons_of_ne hline, Nat.add_zero]
    · rw [if_neg hlt]
      by_cases hname : (name == n) = true
      · -- it is the first one, which is counted up
        rw [if_pos hname, eq_of_beq hname]
        by_cases hline : line = n
        · rw [if_pos hline, hline, numberOn_cons_self, numberOn_cons_self]
        · rw [if_neg hline, numberOn_cons_of_ne hline, numberOn_cons_of_ne hline, Nat.add_zero]
      · -- it is looked for behind the first one, which is another
        rw [if_neg hname]
        by_cases hline : line = n
        · have hother : ¬ n = name := fun heq => hname (by rw [heq, beq_self_eq_true])
          rw [hline, numberOn_cons_self, numberOn_cons_self, if_neg hother, Nat.add_zero]
        · rw [numberOn_cons_of_ne hline, numberOn_cons_of_ne hline, ih hrest]

/-- Counting many names adds to each line as often as its name is among them. -/
theorem foldl_tally (names : List String) (h : InOrder l) :
    InOrder (names.foldl (fun acc name => Metrics.tally name acc) l) ∧
      ∀ line, numberOn (names.foldl (fun acc name => Metrics.tally name acc) l) line =
        numberOn l line + names.count line := by
  induction names generalizing l with
  | nil => exact ⟨h, fun line => by rw [List.foldl_nil, List.count_nil, Nat.add_zero]⟩
  | cons name names ih =>
    have hnext : InOrder (Metrics.tally name l) := h.tally
    obtain ⟨horder, hnumber⟩ := ih hnext
    refine ⟨horder, fun line => ?_⟩
    rw [List.foldl_cons, hnumber, numberOn_tally h, List.count_cons]
    simp only [beq_iff_eq, eq_comm (a := name)]
    omega

end Tally

variable (m : Metrics) (s : Sample) (line : String)

/-- **The number on a line is the number of counted requests that belong to it.** -/
theorem numberOn_counts : numberOn m.counts line = (m.samples.flatMap lines).count line := by
  have hnumber := (foldl_tally (m.samples.flatMap lines) (l := []) List.Pairwise.nil).2 line
  rw [counts, hnumber, numberOn, List.lookup_nil, Option.getD_none, Nat.zero_add]

/-- The two lines about a request are two, whatever their labels. -/
theorem line_ne (labels labels' : List String) :
    Metrics.line "http_request_duration_seconds_count" labels ≠ Metrics.line "http_requests_total" labels' := by
  intro h
  have hstart := congrArg (fun text : String => text.toList.take 13) h
  simp [Metrics.line] at hstart

/-- **A counted request counts up two lines by one**, one of each family, and no other. -/
theorem numberOn_record :
    numberOn (m.record s).counts line = numberOn m.counts line + if line ∈ lines s then 1 else 0 := by
  have hnodup : (lines s).Nodup := by
    simp only [lines, List.nodup_cons, List.mem_singleton, List.not_mem_nil, not_false_eq_true, List.nodup_nil, and_true]
    exact line_ne _ _
  rw [numberOn_counts, numberOn_counts, record, List.flatMap_append, List.count_append,
    List.flatMap_singleton, hnodup.count]

end Phrasebook.Http.Metrics
