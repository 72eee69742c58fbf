import Phrasebook.Proofs.Json.Grammar
import Phrasebook.Proofs.Json.Strings
/-!
# Strings are read from any spelling

What is read depends on the code units alone (`string_spelled`): if these are a text it is this text, and otherwise the
string is refused. The reader puts the halves of a pair together when it finds the first, so that the induction is
on the bytes that are left and not on the spelling. Skipping a string does not look at the code units at all
(`skipString_spelled`).
-/

set_option autoImplicit false

namespace Phrasebook.Json

open Text (bytesOf bytesOf_append)

variable {units : List Nat} {b rest seen : Bytes}

/-! ## The characters of code units -/

/-- No character is half of a pair. -/
theorem not_isSurrogate (c : Char) : isHighSurrogate c.toNat = false ∧ isLowSurrogate c.toNat = false := by
  have hvalid : c.toNat < 0xD800 ∨ 0xDFFF < c.toNat := c.valid.imp_right And.left
  simp only [isHighSurrogate, isLowSurrogate, Bool.and_eq_false_iff, decide_eq_false_iff_not]
  omega

/-- A unit that is no half of a pair is a character by itself. -/
theorem ofUnits?_cons {n : Nat} (hhigh : isHighSurrogate n = false) (hlow : isLowSurrogate n = false) :
    ofUnits? (n :: units) = (ofUnits? units).map (Char.ofNat n :: ·) := by
  rw [ofUnits?.eq_def]
  simp only [hhigh, hlow, Bool.false_eq_true, if_false]

/-- A high half and a low half after it are one character. -/
theorem ofUnits?_pair {n m : Nat} (hhigh : isHighSurrogate n = true) (hlow : isLowSurrogate m = true) :
    ofUnits? (n :: m :: units) =
      (ofUnits? units).map (Char.ofNat (0x10000 + (n - 0xD800) * 0x400 + (m - 0xDC00)) :: ·) := by
  rw [ofUnits?, if_pos hhigh, if_pos hlow]

/-- The first half of a pair needs the second. -/
theorem ofUnits?_high {n : Nat} (hhigh : isHighSurrogate n = true) (h : ∀ m ∈ units.head?, isLowSurrogate m = false) :
    ofUnits? (n :: units) = none := by
  rw [ofUnits?.eq_def]
  cases units with
  | nil => simp only [hhigh, if_true]
  | cons m more =>
    have hm := h m rfl
    simp only [hhigh, hm, Bool.false_eq_true, if_false, if_true]

/-- The code units of a character are read as the character. -/
theorem ofUnits?_unitsOf (c : Char) (units : List Nat) :
    ofUnits? (unitsOf c ++ units) = (ofUnits? units).map (c :: ·) := by
  rw [unitsOf]
  split
  · rw [List.singleton_append, ofUnits?_cons (not_isSurrogate c).1 (not_isSurrogate c).2, Char.ofNat_toNat]
  · have hbound : c.toNat < 0x110000 := by
      have hvalid := c.valid
      change c.toNat < 0xD800 ∨ 0xDFFF < c.toNat ∧ c.toNat < 0x110000 at hvalid
      omega
    have hhigh : isHighSurrogate (0xD800 + (c.toNat - 0x10000) / 0x400) = true := by
      simp only [isHighSurrogate, Bool.and_eq_true, decide_eq_true_eq]
      omega
    have hlow : isLowSurrogate (0xDC00 + (c.toNat - 0x10000) % 0x400) = true := by
      simp only [isLowSurrogate, Bool.and_eq_true, decide_eq_true_eq]
      omega
    have hvalue : 0x10000 + (0xD800 + (c.toNat - 0x10000) / 0x400 - 0xD800) * 0x400 +
        (0xDC00 + (c.toNat - 0x10000) % 0x400 - 0xDC00) = c.toNat := by omega
    rw [List.cons_append, List.singleton_append, ofUnits?_pair hhigh hlow, hvalue, Char.ofNat_toNat]

/-- The text of a text's code units is the text. -/
theorem textOf?_unitsOfText (s : String) : textOf? (unitsOfText s) = some s := by
  have hchars : ∀ cs : List Char, ofUnits? (cs.flatMap unitsOf) = some cs := by
    intro cs
    induction cs with
    | nil => rfl
    | cons c more ih => rw [List.flatMap_cons, ofUnits?_unitsOf, ih, Option.map_some]
  rw [textOf?, unitsOfText, hchars, Option.map_some, String.ofList_toList]

/-- No character begins with the second half of a pair. -/
theorem head?_unitsOf (c : Char) (units : List Nat) : ∀ m ∈ (unitsOf c ++ units).head?, isLowSurrogate m = false := by
  intro m hm
  rw [unitsOf] at hm
  split at hm
  · obtain rfl : c.toNat = m := Option.some.inj hm
    exact (not_isSurrogate c).2
  · next hlarge =>
    obtain rfl : 0xD800 + (c.toNat - 0x10000) / 0x400 = m := Option.some.inj hm
    have hvalid := c.valid
    change c.toNat < 0xD800 ∨ 0xDFFF < c.toNat ∧ c.toNat < 0x110000 at hvalid
    simp only [isLowSurrogate, Bool.and_eq_false_iff, decide_eq_false_iff_not]
    omega

/-! ## One escape -/

/-- A letter stands for an ASCII character. -/
theorem codePoint_of_shortEscape? {e x : UInt8} (h : shortEscape? e = some x) : codePoint x.toNat = [x] := by
  unfold shortEscape? at h
  split at h <;> cases h <;> rfl

/-- A byte is no half of a pair. -/
theorem not_isSurrogate_of_lt {n : Nat} (h : n < 0x100) : isHighSurrogate n = false ∧ isLowSurrogate n = false := by
  simp only [isHighSurrogate, isLowSurrogate, Bool.and_eq_false_iff, decide_eq_false_iff_not]
  omega

section High

variable {h₁ h₂ h₃ h₄ : UInt8} {n : Nat}

/-- A high half is no low half. -/
theorem not_isLow_of_isHigh (hhigh : isHighSurrogate n = true) : isLowSurrogate n = false := by
  simp only [isHighSurrogate, Bool.and_eq_true, decide_eq_true_eq] at hhigh
  simp only [isLowSurrogate, Bool.and_eq_false_iff, decide_eq_false_iff_not]
  omega

/-- Without another escape of four digits the string is refused. -/
theorem stringTail_high (hn : hexValues? h₁ h₂ h₃ h₄ = some n) (hhigh : isHighSurrogate n = true)
    (h : ∀ more, b ≠ 0x5C :: 0x75 :: more) :
    ∃ f, stringTail seen (0x5C :: 0x75 :: h₁ :: h₂ :: h₃ :: h₄ :: b) = .error f := by
  rw [stringTail, hn]
  simp only [hhigh, not_isLow_of_isHigh hhigh, Bool.false_eq_true, if_false, if_true]
  split
  · exact ⟨_, rfl⟩
  · exact ⟨_, rfl⟩
  · exact absurd rfl (h _)
  · exact absurd rfl (h _)
  · exact ⟨_, rfl⟩
  · exact ⟨_, rfl⟩

variable {l₁ l₂ l₃ l₄ : UInt8} {m : Nat}

/-- Two escapes that make a pair are read as one character. -/
theorem stringTail_pair (hn : hexValues? h₁ h₂ h₃ h₄ = some n) (hhigh : isHighSurrogate n = true)
    (hm : hexValues? l₁ l₂ l₃ l₄ = some m) (hlow : isLowSurrogate m = true) :
    stringTail seen (0x5C :: 0x75 :: h₁ :: h₂ :: h₃ :: h₄ :: 0x5C :: 0x75 :: l₁ :: l₂ :: l₃ :: l₄ :: b) =
      stringTail ((codePoint (0x10000 + (n - 0xD800) * 0x400 + (m - 0xDC00))).reverse ++ seen) b := by
  rw [stringTail, hn]
  simp only [hhigh, not_isLow_of_isHigh hhigh, hm, hlow, Bool.false_eq_true, if_false, if_true]

/-- A high half without a low one after it is a fault. -/
theorem stringTail_no_pair (hn : hexValues? h₁ h₂ h₃ h₄ = some n) (hhigh : isHighSurrogate n = true)
    (hm : hexValues? l₁ l₂ l₃ l₄ = some m) (hlow : isLowSurrogate m = false) :
    ∃ f, stringTail seen (0x5C :: 0x75 :: h₁ :: h₂ :: h₃ :: h₄ :: 0x5C :: 0x75 :: l₁ :: l₂ :: l₃ :: l₄ :: b) =
      .error f := by
  rw [stringTail, hn]
  simp only [hhigh, not_isLow_of_isHigh hhigh, hm, hlow, Bool.false_eq_true, if_false, if_true]
  exact ⟨_, rfl⟩

/-- So is a low half that comes first. -/
theorem stringTail_low (hn : hexValues? h₁ h₂ h₃ h₄ = some n) (hlow : isLowSurrogate n = true) :
    ∃ f, stringTail seen (0x5C :: 0x75 :: h₁ :: h₂ :: h₃ :: h₄ :: b) = .error f := by
  rw [stringTail, hn]
  simp only [hlow, if_true]
  exact ⟨_, rfl⟩

end High

/-! ## Whole strings -/

/-- What the reader makes of the rest of a string when the characters of `seen` stand before it. -/
def TailYields (seen : List Char) (units : List Nat) (b rest : Bytes) : Prop :=
  match ofUnits? units with
  | some cs => stringTail (bytesOf seen).reverse b = .ok (String.ofList (seen ++ cs), rest)
  | none => ∃ f, stringTail (bytesOf seen).reverse b = .error f

variable {before : List Char}

/-- A character that has been read is one of those that have been seen. -/
theorem TailYields.of_char {c : Char} {b' : Bytes} {units' : List Nat}
    (hread : stringTail (bytesOf before).reverse b =
      stringTail ((String.utf8EncodeChar c).reverse ++ (bytesOf before).reverse) b')
    (hunits : ofUnits? units = (ofUnits? units').map (c :: ·)) (h : TailYields (before ++ [c]) units' b' rest) :
    TailYields before units b rest := by
  have hseen : (String.utf8EncodeChar c).reverse ++ (bytesOf before).reverse = (bytesOf (before ++ [c])).reverse := by
    rw [bytesOf_append, List.reverse_append]
    simp
  rw [TailYields] at h ⊢
  rw [hread, hunits, hseen]
  cases hmore : ofUnits? units' with
  | none =>
    rw [hmore] at h
    exact h
  | some cs =>
    rw [hmore] at h
    dsimp only at h
    rw [List.append_assoc] at h
    exact h

/-- What spells no text yields a fault. -/
theorem TailYields.of_error (hunits : ofUnits? units = none)
    (h : ∃ f, stringTail (bytesOf before).reverse b = .error f) : TailYields before units b rest := by
  rw [TailYields, hunits]
  exact h

/-- The escape of half a pair, with what comes after it. -/
theorem tailYields_high {h₁ h₂ h₃ h₄ : UInt8} {n : Nat} (hn : hexValues? h₁ h₂ h₃ h₄ = some n)
    (hhigh : isHighSurrogate n = true) (h : Spelled units b rest)
    (ih : ∀ {units' : List Nat} {b' : Bytes} (before' : List Char), Spelled units' b' rest → b'.length < b.length →
      TailYields before' units' b' rest) :
    TailYields before (n :: units) (0x5C :: 0x75 :: h₁ :: h₂ :: h₃ :: h₄ :: b) rest := by
  -- only a second escape of a low surrogate completes the pair; whatever else follows is refused
  cases h with
  | quote => exact .of_error (ofUnits?_high hhigh (by simp)) (stringTail_high hn hhigh (by simp))
  | @plain c units' b' _ hquote hbackslash hcontrol h =>
    refine .of_error (ofUnits?_high hhigh (head?_unitsOf c units')) (stringTail_high hn hhigh ?_)
    intro more heq
    obtain ⟨x, xs, hbytes⟩ := List.exists_cons_of_ne_nil (String.utf8EncodeChar_ne_nil (c := c))
    rw [hbytes, List.cons_append, List.cons.injEq] at heq
    have hplain := isPlain_of_mem hquote hbackslash hcontrol x (by rw [hbytes]; exact List.mem_cons_self)
    exact hplain.ne_backslash heq.1
  | @short e x units' b' _ he h =>
    refine .of_error (ofUnits?_high hhigh ?_) (stringTail_high hn hhigh ?_)
    · intro m hm
      obtain rfl := Option.some.inj hm
      exact (not_isSurrogate_of_lt x.toNat_lt).2
    · rintro more heq
      simp only [List.cons.injEq, true_and] at heq
      rw [heq.1] at he
      cases he
  | @hex l₁ l₂ l₃ l₄ m units' b' _ hm h =>
    cases hlow : isLowSurrogate m with
    | false =>
      refine .of_error (ofUnits?_high hhigh ?_) (stringTail_no_pair hn hhigh hm hlow)
      intro m' hm'
      rw [← Option.some.inj hm']
      exact hlow
    | true =>
      have hlength : b'.length < (0x5C :: 0x75 :: l₁ :: l₂ :: l₃ :: l₄ :: b').length := by
        simp only [List.length_cons]
        omega
      exact .of_char (stringTail_pair hn hhigh hm hlow) (ofUnits?_pair hhigh hlow) (ih _ h hlength)

/-- **The rest of a string** is read from any spelling. -/
theorem tailYields (before : List Char) (h : Spelled units b rest) : TailYields before units b rest := by
  -- a pair is read at once, so one step of the spelling is not enough for the induction
  induction hlength : b.length using Nat.strongRecOn generalizing units b before with
  | ind k ih =>
    subst hlength
    cases h with
    | quote =>
      have hdecode : Text.decode? (bytesOf before) = some (String.ofList before) := by
        have hback := Text.decode?_encode (String.ofList before)
        rw [Text.encode_ofList] at hback
        exact hback
      rw [TailYields, ofUnits?]
      dsimp only
      rw [stringTail, List.reverse_reverse, hdecode, List.append_nil]
    | @plain c units' b' _ hquote hbackslash hcontrol h =>
      refine .of_char (stringTail_plains (isPlain_of_mem hquote hbackslash hcontrol)) (ofUnits?_unitsOf c units') ?_
      refine ih _ ?_ _ h rfl
      have hpos := List.length_pos_iff.2 (String.utf8EncodeChar_ne_nil (c := c))
      rw [List.length_append]
      omega
    | @short e x units' b' _ he h =>
      have hx := not_isSurrogate_of_lt x.toNat_lt
      have hshort : b'.length < (0x5C :: e :: b').length := Nat.lt_succ_of_lt (Nat.lt_succ_self _)
      have hread : stringTail (bytesOf before).reverse (0x5C :: e :: b') =
          stringTail ((codePoint x.toNat).reverse ++ (bytesOf before).reverse) b' := by
        rw [stringTail_short he, codePoint_of_shortEscape? he]
        rfl
      exact .of_char hread (ofUnits?_cons hx.1 hx.2) (ih _ hshort _ h rfl)
    | @hex h₁ h₂ h₃ h₄ n units' b' _ hn h =>
      have hshort : b'.length < (0x5C :: 0x75 :: h₁ :: h₂ :: h₃ :: h₄ :: b').length := by
        simp only [List.length_cons]
        omega
      cases hhigh : isHighSurrogate n with
      | true =>
        exact tailYields_high hn hhigh h fun _ h' hlength => ih _ (Nat.lt_trans hlength hshort) _ h' rfl
      | false =>
        cases hlow : isLowSurrogate n with
        | true =>
          refine .of_error ?_ (stringTail_low hn hlow)
          rw [ofUnits?.eq_def]
          simp only [hhigh, hlow, Bool.false_eq_true, if_false, if_true]
        | false => exact .of_char (stringTail_hex hn hlow hhigh) (ofUnits?_cons hhigh hlow) (ih _ hshort _ h rfl)

/-- **A string is read** from any spelling as the text that it is, or refused if it is none. -/
theorem string_spelled (h : Spelled units b rest) :
    match textOf? units with
    | some s => string b = .ok (s, rest)
    | none => ∃ f, string b = .error f := by
  have htail := tailYields [] h
  rw [TailYields] at htail
  rw [textOf?]
  cases hunits : ofUnits? units with
  | some cs =>
    rw [hunits] at htail
    change stringTail [] b = _ at htail
    change string b = _
    rw [string, htail]
    rfl
  | none =>
    rw [hunits] at htail
    obtain ⟨f, hf⟩ := htail
    change stringTail [] b = _ at hf
    change ∃ f, string b = _
    rw [string, hf]
    -- the place of a fault in the encoding is looked for anew
    split
    · exact ⟨_, rfl⟩
    · exact ⟨f, rfl⟩

/-! ## Skipping -/

/-- A plain byte in a string is skipped. -/
theorem skipString_plain {x : UInt8} (h : IsPlain x) (b : Bytes) : skipString (x :: b) = skipString b := by
  obtain ⟨hquote, hbackslash, hcontrol⟩ := h
  rw [skipString, if_neg hcontrol]
  all_goals simp_all

/-- So are many. -/
theorem skipString_plains {bs : Bytes} (h : ∀ x ∈ bs, IsPlain x) (b : Bytes) :
    skipString (bs ++ b) = skipString b := by
  induction bs with
  | nil => rfl
  | cons x more ih =>
    rw [List.cons_append, skipString_plain (h x List.mem_cons_self), ih fun y hy => h y (List.mem_cons_of_mem _ hy)]

/-- **A string is skipped** in any spelling, be it a text or not. -/
theorem skipString_spelled (h : Spelled units b rest) : skipString b = .ok rest := by
  induction h with
  | quote => rfl
  | plain hquote hbackslash hcontrol _ ih =>
    rw [skipString_plains (isPlain_of_mem hquote hbackslash hcontrol), ih]
  | @short e x units b rest he _ ih =>
    have hu : e ≠ 0x75 := by
      rintro rfl
      cases he
    rw [skipString, he]
    · exact ih
    all_goals simp_all
  | hex hn _ ih =>
    rw [skipString, hn]
    exact ih

end Phrasebook.Json
