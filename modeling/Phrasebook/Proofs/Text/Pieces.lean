import Mathlib.Data.List.DropRight
import Phrasebook.Text.Blank
/-!
# Lists that are written as one text

A setting may hold several texts, with a character between each two of them and blanks around each. What the texts
are is said by where they stand (`Lists`): between two separators, or between one and an end of the list, with nothing
but blanks up to them. Cutting such a list at its separators and trimming the pieces finds exactly these
(`mem_pieces_iff`), and blanks around the whole list make no difference to that (`pieces_trimWhile`).
-/

set_option autoImplicit false

namespace Phrasebook.Text

/-! ## Blanks around a text -/

section Trim

variable {p : Char → Bool} {left right : List Char}

/-- Neither the first nor the last of some characters has a property. -/
def IsBare (p : Char → Bool) (cs : List Char) : Prop := ∀ h : cs ≠ [], p (cs.head h) = false ∧ p (cs.getLast h) = false

/-- Trimming is dropping at both ends. -/
theorem trimWhile_eq_rdropWhile (p : Char → Bool) (cs : List Char) :
    trimWhile p cs = (cs.dropWhile p).rdropWhile p := rfl

/-- What is dropped at the front makes no difference. -/
theorem trimWhile_append_left (hleft : ∀ c ∈ left, p c = true) (cs : List Char) :
    trimWhile p (left ++ cs) = trimWhile p cs := by
  rw [trimWhile, List.dropWhile_append_of_pos hleft, trimWhile]

/-- What is dropped at the back makes none there. -/
theorem rdropWhile_append_right (hright : ∀ c ∈ right, p c = true) (cs : List Char) :
    (cs ++ right).rdropWhile p = cs.rdropWhile p := by
  have hreverse : ∀ c ∈ right.reverse, p c = true := fun c hc => hright c (List.mem_reverse.1 hc)
  rw [List.rdropWhile, List.reverse_append, List.dropWhile_append_of_pos hreverse, List.rdropWhile]

/-- Nor does it to trimming. -/
theorem trimWhile_append_right (hright : ∀ c ∈ right, p c = true) (cs : List Char) :
    trimWhile p (cs ++ right) = trimWhile p cs := by
  rw [trimWhile_eq_rdropWhile, List.dropWhile_append]
  split
  · -- nothing is left of the characters in front, so the blanks after them are all that there is
    rename_i hempty
    have hgone : right.dropWhile p = [] := List.dropWhile_eq_nil_iff.2 hright
    rw [hgone, trimWhile_eq_rdropWhile, List.isEmpty_iff.1 hempty]
  · rw [rdropWhile_append_right hright, trimWhile_eq_rdropWhile]

/-- What has nothing to drop at its ends stays as it is. -/
theorem trimWhile_of_isBare {cs : List Char} (hbare : IsBare p cs) : trimWhile p cs = cs := by
  have hfront : cs.dropWhile p = cs := by
    rw [List.dropWhile_eq_self_iff]
    intro hlength
    have hne := List.ne_nil_of_length_pos hlength
    rw [List.getElem_zero_eq_head, (hbare hne).1]
    exact Bool.false_ne_true
  rw [trimWhile_eq_rdropWhile, hfront, List.rdropWhile_eq_self_iff]
  intro hne
  rw [(hbare hne).2]
  exact Bool.false_ne_true

/-- What has been trimmed has nothing to drop at its ends. -/
theorem isBare_trimWhile (p : Char → Bool) (cs : List Char) : IsBare p (trimWhile p cs) := by
  intro hne
  have hfront : trimWhile p cs <+: cs.dropWhile p := List.rdropWhile_prefix p (cs.dropWhile p)
  constructor
  · rw [hfront.head hne]
    exact List.head_dropWhile_not p (hfront.ne_nil hne)
  · exact Bool.eq_false_iff.2 (List.rdropWhile_last_not p (cs.dropWhile p) hne)

/-- What is trimmed off stands on both sides. -/
theorem exists_around (p : Char → Bool) (cs : List Char) :
    ∃ left right, cs = left ++ trimWhile p cs ++ right ∧ (∀ c ∈ left, p c = true) ∧ ∀ c ∈ right, p c = true := by
  refine ⟨cs.takeWhile p, (cs.dropWhile p).rtakeWhile p, ?_, fun c => List.mem_takeWhile_imp,
    fun c => List.mem_rtakeWhile_imp⟩
  rw [List.append_assoc, trimWhile_eq_rdropWhile, List.rdropWhile_append_rtakeWhile,
    List.takeWhile_append_dropWhile]

/-- **Trimming**: what is left is bare, and all around it is trimmed off. -/
theorem trimWhile_eq_iff {cs inner : List Char} : trimWhile p cs = inner ↔
    IsBare p inner ∧
      ∃ left right, cs = left ++ inner ++ right ∧ (∀ c ∈ left, p c = true) ∧ ∀ c ∈ right, p c = true := by
  constructor
  · rintro rfl
    exact ⟨isBare_trimWhile p cs, exists_around p cs⟩
  · rintro ⟨hbare, left, right, rfl, hleft, hright⟩
    rw [trimWhile_append_right hright, trimWhile_append_left hleft, trimWhile_of_isBare hbare]

end Trim

/-! ## Pieces between separators -/

section Pieces

variable {α : Type} {sep : α} {list piece : List α}

/-- A list is cut from its front: it has no separator, or it has a first one and a list after it. -/
@[elab_as_elim]
theorem separated_induction {motive : List α → Prop} (sep : α) (last : ∀ list, sep ∉ list → motive list)
    (cons : ∀ front rest, sep ∉ front → motive rest → motive (front ++ sep :: rest)) (list : List α) :
    motive list := by
  by_cases hsep : sep ∈ list
  · obtain ⟨front, rest, hlist, hnot⟩ := List.eq_append_cons_of_mem hsep
    rw [hlist]
    exact cons front rest hnot (separated_induction sep last cons rest)
  · exact last list hsep
termination_by list.length
decreasing_by
  rw [hlist, List.length_append, List.length_cons]
  omega

/-- A piece of a list: it stands between two separators, or between one and an end of the list, and has none in it. -/
def IsPiece (sep : α) (list piece : List α) : Prop :=
  sep ∉ piece ∧ ∃ before after, list = before ++ piece ++ after ∧
    (before = [] ∨ before.getLast? = some sep) ∧ (after = [] ∨ after.head? = some sep)

/-- A piece of what follows a separator is one of the whole list. -/
theorem IsPiece.append_cons (front : List α) (h : IsPiece sep list piece) :
    IsPiece sep (front ++ sep :: list) piece := by
  obtain ⟨hnot, before, after, rfl, hbefore, hafter⟩ := h
  refine ⟨hnot, front ++ sep :: before, after, by simp only [List.append_assoc, List.cons_append], .inr ?_, hafter⟩
  rcases hbefore with rfl | hlast
  · exact List.getLast?_concat
  · rw [List.getLast?_append_cons, List.getLast?_cons, hlast, Option.getD_some]

variable [BEq α] [LawfulBEq α]

/-- A piece at the front is one of the parts. -/
theorem mem_splitOn_front (hnot : sep ∉ piece) {after : List α} (hafter : after = [] ∨ after.head? = some sep) :
    piece ∈ (piece ++ after).splitOn sep := by
  rcases hafter with rfl | hhead
  · rw [List.append_nil, List.splitOn_eq_singleton hnot]
    exact List.mem_singleton_self piece
  · obtain ⟨rest, rfl⟩ := List.head?_eq_some_iff.1 hhead
    rw [List.splitOn_append_cons_self_of_not_mem hnot]
    exact List.mem_cons_self

/-- A piece is one of the parts. -/
theorem IsPiece.mem_splitOn (h : IsPiece sep list piece) : piece ∈ list.splitOn sep := by
  obtain ⟨hnot, before, after, rfl, hbefore, hafter⟩ := h
  rcases hbefore with rfl | hlast
  · exact mem_splitOn_front hnot hafter
  · -- the separator in front of the piece cuts the list, and the piece is at the front of what follows
    obtain ⟨front, rfl⟩ := List.getLast?_eq_some_iff.1 hlast
    rw [List.append_assoc, List.append_assoc, List.singleton_append, List.splitOn_append_cons_self]
    exact List.mem_append_right _ (mem_splitOn_front hnot hafter)

/-- A part is a piece. -/
theorem isPiece_of_mem_splitOn (hmem : piece ∈ list.splitOn sep) : IsPiece sep list piece := by
  induction list using separated_induction sep with
  | last list hnot =>
    rw [List.splitOn_eq_singleton hnot, List.mem_singleton] at hmem
    rw [hmem]
    exact ⟨hnot, [], [], by rw [List.nil_append, List.append_nil], .inl rfl, .inl rfl⟩
  | cons front rest hnot ih =>
    rw [List.splitOn_append_cons_self_of_not_mem hnot, List.mem_cons] at hmem
    rcases hmem with rfl | hrest
    · exact ⟨hnot, [], sep :: rest, rfl, .inl rfl, .inr rfl⟩
    · exact (ih hrest).append_cons front

/-- **Cutting a list at its separators** finds its pieces. -/
theorem mem_splitOn_iff : piece ∈ list.splitOn sep ↔ IsPiece sep list piece :=
  ⟨isPiece_of_mem_splitOn, IsPiece.mem_splitOn⟩

end Pieces

/-! ## Both together -/

section Entries

variable {p : Char → Bool} {sep : Char}

/-- The pieces of a list, trimmed. -/
def pieces (p : Char → Bool) (sep : Char) (list : List Char) : List (List Char) :=
  (list.splitOn sep).map (trimWhile p)

/-- A list without separators is one piece. -/
theorem pieces_of_not_mem {list : List Char} (hnot : sep ∉ list) : pieces p sep list = [trimWhile p list] := by
  rw [pieces, List.splitOn_eq_singleton hnot, List.map_singleton]

/-- A list is the piece before its first separator and the pieces of the rest. -/
theorem pieces_append_cons {front : List Char} (hnot : sep ∉ front) (rest : List Char) :
    pieces p sep (front ++ sep :: rest) = trimWhile p front :: pieces p sep rest := by
  rw [pieces, List.splitOn_append_cons_self_of_not_mem hnot, List.map_cons, pieces]

/-- What is trimmed off is no separator. -/
theorem not_mem_of_all (hsep : p sep = false) {around : List Char} (haround : ∀ c ∈ around, p c = true) :
    sep ∉ around := by
  intro hmem
  rw [haround sep hmem] at hsep
  cases hsep

/-- Blanks in front of a list make no difference to its pieces. -/
theorem pieces_append_left (hsep : p sep = false) {left : List Char} (hleft : ∀ c ∈ left, p c = true)
    (list : List Char) : pieces p sep (left ++ list) = pieces p sep list := by
  have hnone := not_mem_of_all hsep hleft
  induction list using separated_induction sep with
  | last list hnot =>
    rw [pieces_of_not_mem (List.not_mem_append hnone hnot), pieces_of_not_mem hnot, trimWhile_append_left hleft]
  | cons front rest hnot _ =>
    -- only the first piece is another one, and it is trimmed
    rw [← List.append_assoc, pieces_append_cons (List.not_mem_append hnone hnot), pieces_append_cons hnot,
      trimWhile_append_left hleft]

/-- Nor do blanks after it. -/
theorem pieces_append_right (hsep : p sep = false) {right : List Char} (hright : ∀ c ∈ right, p c = true)
    (list : List Char) : pieces p sep (list ++ right) = pieces p sep list := by
  have hnone := not_mem_of_all hsep hright
  induction list using separated_induction sep with
  | last list hnot =>
    rw [pieces_of_not_mem (List.not_mem_append hnot hnone), pieces_of_not_mem hnot, trimWhile_append_right hright]
  | cons front rest hnot ih =>
    rw [List.append_assoc, List.cons_append, pieces_append_cons hnot, pieces_append_cons hnot, ih]

/-- What stands around a list does not matter to its pieces. -/
theorem pieces_trimWhile (hsep : p sep = false) (list : List Char) :
    pieces p sep (trimWhile p list) = pieces p sep list := by
  obtain ⟨left, right, hlist, hleft, hright⟩ := exists_around p list
  conv_rhs => rw [hlist, pieces_append_right hsep hright, pieces_append_left hsep hleft]

/-- A list has a text among its entries: it stands, with nothing but blanks around it, between two commas, or between
one and an end of the list. -/
def Lists (list entry : String) : Prop :=
  ∃ left right, IsPiece ',' list.toList (left ++ entry.toList ++ right) ∧ IsBare isBlank entry.toList ∧
    (∀ c ∈ left, isBlank c = true) ∧ ∀ c ∈ right, isBlank c = true

/-- **The trimmed pieces of a list are its entries.** -/
theorem mem_pieces_iff (list entry : String) :
    entry.toList ∈ pieces isBlank ',' list.toList ↔ Lists list entry := by
  rw [pieces, List.mem_map]
  simp only [mem_splitOn_iff, trimWhile_eq_iff]
  constructor
  · rintro ⟨_, hpiece, hbare, left, right, rfl, hleft, hright⟩
    exact ⟨left, right, hpiece, hbare, hleft, hright⟩
  · rintro ⟨left, right, hpiece, hbare, hleft, hright⟩
    exact ⟨_, hpiece, hbare, left, right, rfl, hleft, hright⟩

instance (list entry : String) : Decidable (Lists list entry) := decidable_of_iff _ (mem_pieces_iff list entry)

end Entries

end Phrasebook.Text
