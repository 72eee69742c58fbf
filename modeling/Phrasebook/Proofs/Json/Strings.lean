import Phrasebook.Json.Printer
import Phrasebook.Json.Reader
/-!
# Strings are read back

A string is written character by character and read byte by byte. What the reader makes of the bytes of one
character is said once, by `stringTail_escapeChar`: it adds the bytes of the character itself to what it has seen,
be they written as they are, as an escape of one letter or as one of four digits. The induction over the
string follows (`string_quote`).

Bytes that stand for themselves (`IsPlain`) are all bytes of a character beyond ASCII, and all ASCII characters
but the quote, the backslash and the controls, which are exactly those that the writer escapes.
-/

set_option autoImplicit false

namespace Phrasebook

namespace Text

/-- Texts are encoded one after the other. -/
theorem encode_append (s t : String) : encode (s ++ t) = encode s ++ encode t := by
  rw [encode, String.toList_append, List.flatMap_append, encode, encode]

/-- A text is encoded character by character. -/
theorem encode_ofList (cs : List Char) : encode (String.ofList cs) = cs.flatMap String.utf8EncodeChar := by
  rw [encode, String.toList_ofList]

end Text

namespace Text.Hex

/-- A digit is one byte, and is read back from it. -/
theorem byteValue?_digit (d : Nat) (hd : d < 16) :
    ∃ b, String.utf8EncodeChar (digit d) = [b] ∧ byteValue? b = some d := by
  have hall : ∀ d < 16, String.utf8EncodeChar (digit d) = [(digit d).toUInt8] ∧
      byteValue? (digit d).toUInt8 = some d := by decide
  exact ⟨_, hall d hd⟩

end Text.Hex

namespace Json

/-! ## Bytes that stand for themselves -/

/-- A byte that stands for itself in a string. -/
structure IsPlain (b : UInt8) : Prop where
  ne_quote : b ≠ 0x22
  ne_backslash : b ≠ 0x5C
  not_control : ¬ b < 0x20

/-- A byte that is not of ASCII means nothing in a string. -/
theorem isPlain_of_le {b : UInt8} (h : 0x80 ≤ b.toNat) : IsPlain b := by
  refine ⟨?_, ?_, ?_⟩
  · rintro rfl
    exact absurd h (by decide)
  · rintro rfl
    exact absurd h (by decide)
  · intro hlt
    have : b.toNat < 0x20 := hlt
    omega

/-- The marks that are added to the bytes of a longer character keep them out of ASCII. -/
theorem toNat_ofNat_add {n k : Nat} (hk : 0x80 ≤ k) (hlt : n + k < 0x100) : 0x80 ≤ (UInt8.ofNat (n + k)).toNat := by
  rw [UInt8.toNat_ofNat_of_lt' hlt]
  omega

/-- Every byte of a character beyond ASCII is beyond ASCII. -/
theorem le_of_mem_utf8EncodeChar {c : Char} (hc : 0x80 ≤ c.toNat) :
    ∀ b ∈ String.utf8EncodeChar c, 0x80 ≤ b.toNat := by
  have hmore : ¬ c.val.toNat ≤ 0x7F := by
    have : c.toNat = c.val.toNat := rfl
    omega
  intro b hb
  simp only [String.utf8EncodeChar, if_neg hmore] at hb
  split at hb
  · simp only [List.mem_cons, List.not_mem_nil, or_false] at hb
    rcases hb with rfl | rfl <;> exact toNat_ofNat_add (by decide) (by omega)
  · split at hb
    · simp only [List.mem_cons, List.not_mem_nil, or_false] at hb
      rcases hb with rfl | rfl | rfl <;> exact toNat_ofNat_add (by decide) (by omega)
    · simp only [List.mem_cons, List.not_mem_nil, or_false] at hb
      rcases hb with rfl | rfl | rfl | rfl <;> exact toNat_ofNat_add (by decide) (by omega)

/-- A character of ASCII is one byte. -/
theorem utf8EncodeChar_of_ascii {c : Char} (hc : c.toNat < 0x80) :
    String.utf8EncodeChar c = [UInt8.ofNat c.toNat] := by
  have hle : c.val.toNat ≤ 0x7F := by
    have : c.toNat = c.val.toNat := rfl
    omega
  simp only [String.utf8EncodeChar, if_pos hle]
  rfl

/-- The bytes of a character that is written as it is. -/
theorem isPlain_of_mem {c : Char} (hquote : c ≠ '"') (hbackslash : c ≠ '\\') (hcontrol : ¬ c.toNat < 0x20) :
    ∀ b ∈ String.utf8EncodeChar c, IsPlain b := by
  -- an ASCII character is its own byte, and any other has bytes above the ASCII ones only
  by_cases hascii : c.toNat < 0x80
  · rw [utf8EncodeChar_of_ascii hascii]
    intro b hb
    obtain rfl := List.mem_singleton.1 hb
    have hbyte : ∀ {n : Nat}, n < 0x80 → (UInt8.ofNat n).toNat = n := fun hn =>
      UInt8.toNat_ofNat_of_lt' (Nat.lt_trans hn (by decide))
    have hne : ∀ d : Char, c ≠ d → d.toNat < 0x80 → UInt8.ofNat c.toNat ≠ UInt8.ofNat d.toNat := by
      intro d hd hlt heq
      have := congrArg UInt8.toNat heq
      rw [hbyte hascii, hbyte hlt] at this
      exact hd (Char.toNat_inj.1 this)
    refine ⟨hne '"' hquote (by decide), hne '\\' hbackslash (by decide), ?_⟩
    intro hlt
    have : (UInt8.ofNat c.toNat).toNat < 0x20 := hlt
    rw [hbyte hascii] at this
    exact hcontrol this
  · intro b hb
    exact isPlain_of_le (le_of_mem_utf8EncodeChar (by omega) b hb)

/-! ## The reader, one piece at a time -/

variable {seen rest : Bytes}

/-- A plain byte is taken as it is. -/
theorem stringTail_plain {b : UInt8} (h : IsPlain b) :
    stringTail seen (b :: rest) = stringTail (b :: seen) rest := by
  obtain ⟨hquote, hbackslash, hcontrol⟩ := h
  rw [stringTail, if_neg hcontrol]
  all_goals simp_all

/-- So are many. -/
theorem stringTail_plains {bs : Bytes} (h : ∀ b ∈ bs, IsPlain b) :
    stringTail seen (bs ++ rest) = stringTail (bs.reverse ++ seen) rest := by
  induction bs generalizing seen with
  | nil => rfl
  | cons b more ih =>
    rw [List.cons_append, stringTail_plain (h b List.mem_cons_self),
      ih fun b hb => h b (List.mem_cons_of_mem _ hb), List.reverse_cons, List.append_assoc]
    rfl

/-- A backslash and a letter are taken for the byte that they stand for. -/
theorem stringTail_short {e b : UInt8} (h : shortEscape? e = some b) :
    stringTail seen (0x5C :: e :: rest) = stringTail (b :: seen) rest := by
  have hu : e ≠ 0x75 := by
    rintro rfl
    cases h
  rw [stringTail]
  · rw [h]
  all_goals simp_all

/-- An escape of four digits that is no half of a pair. -/
theorem stringTail_hex {h₁ h₂ h₃ h₄ : UInt8} {n : Nat} (h : hexValues? h₁ h₂ h₃ h₄ = some n)
    (hlow : isLowSurrogate n = false) (hhigh : isHighSurrogate n = false) :
    stringTail seen (0x5C :: 0x75 :: h₁ :: h₂ :: h₃ :: h₄ :: rest) =
      stringTail ((codePoint n).reverse ++ seen) rest := by
  rw [stringTail, h]
  dsimp only
  rw [hlow, hhigh]
  rfl

/-- The four digits of a code unit are read back. -/
theorem hexValues?_digits {n : Nat} (hn : n < 0x10000) :
    ∃ h₁ h₂ h₃ h₄, (Text.Hex.digits 4 n).flatMap String.utf8EncodeChar = [h₁, h₂, h₃, h₄] ∧
      hexValues? h₁ h₂ h₃ h₄ = some n := by
  have hlt : ∀ m : Nat, m % 16 < 16 := fun m => Nat.mod_lt m (by decide)
  obtain ⟨h₁, he₁, hv₁⟩ := Text.Hex.byteValue?_digit _ (hlt (n / 16 / 16 / 16))
  obtain ⟨h₂, he₂, hv₂⟩ := Text.Hex.byteValue?_digit _ (hlt (n / 16 / 16))
  obtain ⟨h₃, he₃, hv₃⟩ := Text.Hex.byteValue?_digit _ (hlt (n / 16))
  obtain ⟨h₄, he₄, hv₄⟩ := Text.Hex.byteValue?_digit _ (hlt n)
  refine ⟨h₁, h₂, h₃, h₄, ?_, ?_⟩
  · simp only [Text.Hex.digits, List.nil_append, List.cons_append, List.flatMap_cons, List.flatMap_nil, he₁, he₂,
      he₃, he₄]
  · simp only [hexValues?, List.mapM_cons, List.mapM_nil, hv₁, hv₂, hv₃, hv₄, Option.pure_def, Option.bind_eq_bind,
      Option.bind_some, List.foldl_cons, List.foldl_nil]
    congr 1
    omega

/-! ## Reading back -/

/-- **One character.** However it is written, the reader has seen its bytes. -/
theorem stringTail_escapeChar (c : Char) :
    stringTail seen ((escapeChar c).flatMap String.utf8EncodeChar ++ rest) =
      stringTail ((String.utf8EncodeChar c).reverse ++ seen) rest := by
  by_cases hquote : c = '"'
  · subst hquote
    exact stringTail_short rfl
  by_cases hbackslash : c = '\\'
  · subst hbackslash
    exact stringTail_short rfl
  by_cases hcontrol : c.toNat < 0x20
  · -- a control: one of five with a letter of its own, or four digits
    by_cases hletter : c = '\x08' ∨ c = '\t' ∨ c = '\n' ∨ c = '\x0c' ∨ c = '\r'
    · rcases hletter with rfl | rfl | rfl | rfl | rfl <;> exact stringTail_short rfl
    · have hdigits : escapeChar c = '\\' :: 'u' :: Text.Hex.digits 4 c.toNat := by
        simp only [not_or] at hletter
        simp only [escapeChar, beq_iff_eq, hquote, hbackslash, hcontrol, hletter, if_false, if_true]
      obtain ⟨h₁, h₂, h₃, h₄, hbytes, hvalue⟩ := hexValues?_digits (n := c.toNat) (by omega)
      have hlow : isLowSurrogate c.toNat = false := by
        rw [isLowSurrogate, Bool.and_eq_false_iff]
        exact Or.inl (decide_eq_false (by omega))
      have hhigh : isHighSurrogate c.toNat = false := by
        rw [isHighSurrogate, Bool.and_eq_false_iff]
        exact Or.inl (decide_eq_false (by omega))
      have hsame : codePoint c.toNat = String.utf8EncodeChar c := by rw [codePoint, Char.ofNat_toNat]
      rw [hdigits, List.flatMap_cons, List.flatMap_cons, hbytes, ← hsame]
      exact stringTail_hex hvalue hlow hhigh
  · have hself : escapeChar c = [c] := by
      simp only [escapeChar, beq_iff_eq, hquote, hbackslash, hcontrol, if_false]
    rw [hself, List.flatMap_singleton]
    exact stringTail_plains (isPlain_of_mem hquote hbackslash hcontrol)

/-- **Printed characters are read back**, whichever of them are escaped. -/
theorem stringTail_escapeChars (cs : List Char) :
    stringTail seen ((cs.flatMap escapeChar).flatMap String.utf8EncodeChar ++ rest) =
      stringTail ((cs.flatMap String.utf8EncodeChar).reverse ++ seen) rest := by
  induction cs generalizing seen with
  | nil => rfl
  | cons c more ih =>
    rw [List.flatMap_cons, List.flatMap_append, List.append_assoc, stringTail_escapeChar, ih, List.flatMap_cons,
      List.reverse_append, List.append_assoc]

/-- The bytes of a string as it is written. -/
theorem encode_quote (s : String) :
    Text.encode (quote s) = 0x22 :: ((s.toList.flatMap escapeChar).flatMap String.utf8EncodeChar ++ [0x22]) := by
  rw [quote, Text.encode_ofList, List.cons_append, List.flatMap_cons, List.flatMap_append]
  rfl

/-- **A string is read back**, whatever follows it. -/
theorem string_quote (s : String) (rest : Bytes) :
    ∃ body, Text.encode (quote s) = 0x22 :: body ∧ string (body ++ rest) = .ok (s, rest) := by
  refine ⟨_, encode_quote s, ?_⟩
  have hread : stringTail [] ((s.toList.flatMap escapeChar).flatMap String.utf8EncodeChar ++ [0x22] ++ rest) =
      .ok (s, rest) := by
    rw [List.append_assoc, stringTail_escapeChars, List.append_nil]
    have hdecode : Text.decode? ((s.toList.flatMap String.utf8EncodeChar).reverse.reverse) = some s := by
      rw [List.reverse_reverse]
      exact Text.decode?_encode s
    rw [List.cons_append, stringTail, hdecode]
    rfl
  rw [string, hread]

end Json

end Phrasebook
