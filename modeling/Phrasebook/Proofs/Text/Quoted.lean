import Phrasebook.Text.Quoted
/-!
# Quoted text can be read in one way only

Of two texts that are shown between quotes, each with something after it, the one is the other if the lines are the
same (`quoted_append_inj`). For what a character becomes tells which character it was and where it ends: a
character that is shown as it is is no backslash, a backslash with a letter is one of six, and a code point stands
between braces.
-/

set_option autoImplicit false

namespace Phrasebook.Text

/-- Two lists are the same up to the first place where a sign stands that neither has before it. -/
theorem append_cons_inj {α : Type} {a : α} {l m x y : List α} (hl : a ∉ l) (hm : a ∉ m)
    (h : l ++ a :: x = m ++ a :: y) : l = m ∧ x = y := by
  rcases List.append_eq_append_iff.1 h with ⟨as, rfl, hx⟩ | ⟨as, rfl, hy⟩
  · cases as with
    | nil => exact ⟨(List.append_nil l).symm, (List.cons.inj hx).2⟩
    | cons b as =>
      -- the sign would stand in the longer list
      rw [← (List.cons.inj hx).1] at hm
      simp at hm
  · cases as with
    | nil => exact ⟨List.append_nil m, (List.cons.inj hy).2.symm⟩
    | cons b as =>
      rw [← (List.cons.inj hy).1] at hl
      simp at hl

/-! ## Hexadecimal digits -/

/-- Different digits are written differently. -/
theorem digitChar_inj : ∀ m < 16, ∀ n < 16, Nat.digitChar m = Nat.digitChar n → m = n := by decide

/-- No digit is a brace. -/
theorem digitChar_ne_brace : ∀ n < 16, Nat.digitChar n ≠ '\x7d' := by decide

/-- Different numbers are written differently. -/
theorem toDigits_inj {m n : Nat} (h : Nat.toDigits 16 m = Nat.toDigits 16 n) : m = n := by
  -- by strong induction on the number, which is sixteen times its front digits and the last one
  induction m using Nat.strongRecOn generalizing n with
  | ind m ih =>
    have hpos : ∀ k, 0 < (Nat.toDigits 16 k).length := fun k => Nat.length_toDigits_pos
    rw [Nat.toDigits_eq_if (by decide), Nat.toDigits_eq_if (n := n) (by decide)] at h
    by_cases hm : m < 16
    · by_cases hn : n < 16
      · rw [if_pos hm, if_pos hn, List.cons.injEq] at h
        exact digitChar_inj m hm n hn h.1
      · -- one digit against two
        rw [if_pos hm, if_neg hn] at h
        have hlength := congrArg List.length h
        rw [List.length_append, List.length_singleton, List.length_singleton] at hlength
        have := hpos (n / 16)
        omega
    · by_cases hn : n < 16
      · rw [if_neg hm, if_pos hn] at h
        have hlength := congrArg List.length h
        rw [List.length_append, List.length_singleton, List.length_singleton] at hlength
        have := hpos (m / 16)
        omega
      · rw [if_neg hm, if_neg hn] at h
        obtain ⟨hfront, hlast⟩ := List.append_inj' h rfl
        have hhigh := ih (m / 16) (by omega) hfront
        have hlow := digitChar_inj (m % 16) (by omega) (n % 16) (by omega) (List.cons.inj hlast).1
        omega

/-- No brace stands among the digits of a number. -/
theorem brace_not_mem_toDigits (n : Nat) : '\x7d' ∉ Nat.toDigits 16 n := by
  induction n using Nat.strongRecOn with
  | ind n ih =>
    rw [Nat.toDigits_eq_if (by decide)]
    split
    · rename_i hn
      rw [List.mem_singleton]
      exact (digitChar_ne_brace n hn).symm
    · rw [List.mem_append, List.mem_singleton, not_or]
      exact ⟨ih (n / 16) (by omega), (digitChar_ne_brace (n % 16) (by omega)).symm⟩

/-! ## One character -/

/-- The letters after a backslash, with the characters they stand for. -/
def shownLetters : List (Char × Char) :=
  [('0', '\x00'), ('t', '\t'), ('n', '\n'), ('r', '\r'), ('"', '"'), ('\\', '\\')]

/-- What a character becomes: itself, a letter, or its code point. -/
inductive Shown (c : Char) : List Char → Prop where
  | self (hbackslash : c ≠ '\\') (hquote : c ≠ '"') : Shown c [c]
  | letter {e : Char} (h : (e, c) ∈ shownLetters) : Shown c ['\\', e]
  | codePoint : Shown c ('\\' :: 'u' :: '\x7b' :: (Nat.toDigits 16 c.toNat ++ ['\x7d']))

/-- Each character is shown in one of the three ways. -/
theorem shown_quotedChar (c : Char) : Shown c (quotedChar c).toList := by
  unfold quotedChar
  by_cases hletter : ∃ e, (e, c) ∈ shownLetters
  · obtain ⟨e, he⟩ := hletter
    simp only [shownLetters, List.mem_cons, Prod.mk.injEq, List.not_mem_nil, or_false] at he
    rcases he with ⟨rfl, rfl⟩ | ⟨rfl, rfl⟩ | ⟨rfl, rfl⟩ | ⟨rfl, rfl⟩ | ⟨rfl, rfl⟩ | ⟨rfl, rfl⟩ <;>
      exact Shown.letter (by decide)
  · simp only [shownLetters, List.mem_cons, Prod.mk.injEq, List.not_mem_nil, or_false, exists_or, exists_eq_left,
      not_or] at hletter
    obtain ⟨hnul, htab, hfeed, hreturn, hquote, hbackslash⟩ := hletter
    simp only [beq_iff_eq, hnul, htab, hfeed, hreturn, hquote, hbackslash, if_false]
    split
    · have hshown : ("\\u\x7b" ++ hex c.toNat ++ "\x7d").toList =
          '\\' :: 'u' :: '\x7b' :: (Nat.toDigits 16 c.toNat ++ ['\x7d']) := by
        simp [hex]
      rw [hshown]
      exact Shown.codePoint
    · rw [String.toList_ofList]
      exact Shown.self hbackslash hquote

/-- What a character becomes does not begin with a quote. -/
theorem Shown.ne_quote {c : Char} {l : List Char} (h : Shown c l) : ∃ d more, l = d :: more ∧ d ≠ '"' := by
  cases h with
  | self _ hquote => exact ⟨c, [], rfl, hquote⟩
  | letter _ => exact ⟨'\\', _, rfl, by decide⟩
  | codePoint => exact ⟨'\\', _, rfl, by decide⟩

/-- **What is shown of a character tells which it was**, and what comes after it. -/
theorem Shown.append_inj {c d : Char} {l m x y : List Char} (hc : Shown c l) (hd : Shown d m) (h : l ++ x = m ++ y) :
    c = d ∧ x = y := by
  -- the letter of a code point is none of the short escapes
  have hno : ∀ c, ('u', c) ∉ shownLetters := by
    intro c hmem
    simp [shownLetters] at hmem
  cases hc with
  | self hback _ =>
    cases hd with
    | self _ _ => simpa using h
    | letter _ => exact absurd (List.cons.inj h).1 hback
    | codePoint => exact absurd (List.cons.inj h).1 hback
  | @letter e he =>
    cases hd with
    | self hback _ => exact absurd (List.cons.inj h).1.symm hback
    | @letter f hf =>
      obtain ⟨rfl, rfl⟩ : e = f ∧ x = y := by simpa using h
      refine ⟨?_, rfl⟩
      simp only [shownLetters, List.mem_cons, Prod.mk.injEq, List.not_mem_nil, or_false] at he hf
      rcases he with ⟨rfl, rfl⟩ | ⟨rfl, rfl⟩ | ⟨rfl, rfl⟩ | ⟨rfl, rfl⟩ | ⟨rfl, rfl⟩ | ⟨rfl, rfl⟩ <;> simp_all
    | codePoint =>
      obtain ⟨rfl, -⟩ : e = 'u' ∧ _ := by simpa using h
      exact absurd he (hno c)
  | codePoint =>
    cases hd with
    | self hback _ => exact absurd (List.cons.inj h).1.symm hback
    | @letter f hf =>
      obtain ⟨rfl, -⟩ : 'u' = f ∧ _ := by simpa using h
      exact absurd hf (hno d)
    | codePoint =>
      simp only [List.cons_append, List.cons.injEq, true_and, List.append_assoc, List.nil_append] at h
      obtain ⟨hdigits, hrest⟩ := append_cons_inj (brace_not_mem_toDigits _) (brace_not_mem_toDigits _) h
      exact ⟨Char.toNat_inj.1 (toDigits_inj hdigits), hrest⟩

/-! ## Texts -/

/-- What stands between the quotes. -/
theorem toList_quoted (s : String) :
    (quoted s).toList = '"' :: (s.toList.flatMap (fun c => (quotedChar c).toList) ++ ['"']) := by
  rw [quoted, String.toList_append, String.toList_append, String.toList_join, List.flatMap_map]
  rfl

/-- Two texts that are shown alike up to their closing quotes are the same, and so is what comes after. -/
theorem flatMap_quotedChar_inj {cs ds x y : List Char}
    (h : cs.flatMap (fun c => (quotedChar c).toList) ++ '"' :: x =
      ds.flatMap (fun c => (quotedChar c).toList) ++ '"' :: y) : cs = ds ∧ x = y := by
  -- the closing quote is no beginning of a character, so both texts end together
  have hend : ∀ c (l z x : List Char), (quotedChar c).toList ++ l ++ z ≠ '"' :: x := by
    intro c l z x heq
    obtain ⟨d, more, hshown, hne⟩ := (shown_quotedChar c).ne_quote
    rw [hshown] at heq
    exact hne (List.cons.inj heq).1
  induction cs generalizing ds with
  | nil =>
    cases ds with
    | nil => exact ⟨rfl, (List.cons.inj h).2⟩
    | cons d ds =>
      rw [List.flatMap_cons] at h
      exact absurd h.symm (hend d _ _ _)
  | cons c cs ih =>
    cases ds with
    | nil =>
      rw [List.flatMap_cons] at h
      exact absurd h (hend c _ _ _)
    | cons d ds =>
      rw [List.flatMap_cons, List.flatMap_cons, List.append_assoc, List.append_assoc] at h
      obtain ⟨rfl, hmore⟩ := (shown_quotedChar c).append_inj (shown_quotedChar d) h
      obtain ⟨rfl, hrest⟩ := ih hmore
      exact ⟨rfl, hrest⟩

/-- **Quoted text can be read in one way only**, whatever comes after it. -/
theorem quoted_append_inj {s t x y : String} (h : quoted s ++ x = quoted t ++ y) : s = t ∧ x = y := by
  rw [← String.toList_inj, String.toList_append, String.toList_append, toList_quoted, toList_quoted, List.cons_append,
    List.cons_append, List.cons.injEq, List.append_assoc, List.append_assoc] at h
  obtain ⟨htext, hrest⟩ := flatMap_quotedChar_inj h.2
  exact ⟨String.toList_inj.1 htext, String.toList_inj.1 hrest⟩

end Phrasebook.Text
