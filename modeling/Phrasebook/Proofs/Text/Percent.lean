import Phrasebook.Address
import Phrasebook.Proofs.Text.Ascii
/-!
# What percent decoding leaves alone

An escape is three bytes for one, so decoding makes a text shorter wherever it does anything: a text stays as it is
exactly if no percent sign in it is followed by two hexadecimal digits (`unescape?_eq_self_iff`), and nothing shorter
than a text is decoded to it (`length_le_of_unescape?`).
-/

set_option autoImplicit false

namespace Phrasebook

namespace Text

/-- A text is read from its own bytes only. -/
theorem encode_of_decode? {b : Bytes} {s : String} (h : decode? b = some s) : encode s = b := by
  have hbytes : (encode s).toByteArray = s.toByteArray := by
    conv => rhs; rw [← String.ofList_toList (s := s), String.toByteArray_ofList]
    rfl
  unfold decode? String.fromUTF8? at h
  split at h
  · obtain rfl := Option.some.inj h
    have hdata := congrArg ByteArray.data hbytes
    rw [List.data_toByteArray, String.fromUTF8, List.data_toByteArray] at hdata
    exact List.toArray_inj hdata
  · cases h

/-! ## Bytes -/

namespace Percent

/-- Two bytes are the digits of an escape. -/
def AreDigits (x y : UInt8) : Prop := (Hex.byteValue? x).isSome = true ∧ (Hex.byteValue? y).isSome = true

/-- Decoding makes nothing longer. -/
theorem length_decode_le (b : Bytes) : (decode b).length ≤ b.length := by
  fun_induction decode b with
  | case1 => exact Nat.le_refl _
  | case2 a b rest x y hx hy ih =>
    simp only [List.length_cons]
    omega
  | case3 a b rest _ ih =>
    simp only [List.length_cons] at ih ⊢
    omega
  | case4 c rest _ ih =>
    simp only [List.length_cons]
    omega

/-- Where no escape begins, it is a matter of the bytes after that. -/
theorem no_escape_cons_iff {c : UInt8} {rest : Bytes} (h : ∀ x y, AreDigits x y → ¬ [0x25, x, y] <+: c :: rest) :
    (∀ x y, AreDigits x y → ¬ [0x25, x, y] <:+: c :: rest) ↔ ∀ x y, AreDigits x y → ¬ [0x25, x, y] <:+: rest := by
  refine forall_congr' fun x => forall_congr' fun y => forall_congr' fun hdigits => not_congr ?_
  rw [List.infix_cons_iff]
  exact or_iff_right (h x y hdigits)

/-- **Bytes stay as they are** exactly if there is no escape among them. -/
theorem decode_eq_self_iff (b : Bytes) : decode b = b ↔ ∀ x y, AreDigits x y → ¬ [0x25, x, y] <:+: b := by
  -- by the cases of the decoder: an escape, an escape sign without its digits, any other byte
  fun_induction decode b with
  | case1 => simp
  | case2 a b rest x y hx hy ih =>
    refine iff_of_false ?_ ?_
    · -- what comes of an escape is too short
      intro heq
      have hlength := congrArg List.length heq
      have hrest := length_decode_le rest
      simp only [List.length_cons] at hlength
      omega
    · intro hnone
      exact hnone a b ⟨Option.isSome_of_eq_some hy, Option.isSome_of_eq_some hx⟩ ⟨[], rest, rfl⟩
  | case3 a b rest hnot ih =>
    rw [List.cons.injEq, and_iff_right rfl]
    refine ih.trans (no_escape_cons_iff ?_).symm
    intro x y hdigits hprefix
    obtain ⟨x', hx⟩ := Option.isSome_iff_exists.1 hdigits.1
    obtain ⟨y', hy⟩ := Option.isSome_iff_exists.1 hdigits.2
    obtain ⟨-, rfl, rfl⟩ : True ∧ x = a ∧ y = b := by simpa using hprefix
    exact hnot x' y' hx hy
  | case4 c rest hnot ih =>
    rw [List.cons.injEq, and_iff_right rfl]
    refine ih.trans (no_escape_cons_iff ?_).symm
    rintro x y - ⟨tail, htail⟩
    obtain ⟨rfl, rfl⟩ := List.cons.inj htail
    exact hnot x y tail rfl rfl

end Percent

/-! ## Texts -/

/-- A hexadecimal digit is of ASCII. -/
theorem toNat_lt_of_value? {c : Char} (h : (Hex.value? c).isSome = true) : c.toNat < 0x80 := by
  unfold Hex.value? at h
  have hbound : ∀ d : Char, c ≤ d → c.toNat ≤ d.toNat := fun _ h => h
  simp only [Bool.and_eq_true, decide_eq_true_eq] at h
  split at h
  · rename_i hc
    exact Nat.lt_of_le_of_lt (hbound '9' hc.2) (by decide)
  · split at h
    · rename_i hc
      exact Nat.lt_of_le_of_lt (hbound 'f' hc.2) (by decide)
    · split at h
      · rename_i hc
        exact Nat.lt_of_le_of_lt (hbound 'F' hc.2) (by decide)
      · cases h

/-- No percent sign in a text is followed by two hexadecimal digits. -/
def IsUnescaped (s : String) : Prop :=
  ∀ x y : Char, (Hex.value? x).isSome = true → (Hex.value? y).isSome = true → ¬ ['%', x, y] <:+: s.toList

/-- As a byte it has the same value. -/
theorem byteValue?_ofNat {c : Char} (hc : c.toNat < 0x80) : Hex.byteValue? (UInt8.ofNat c.toNat) = Hex.value? c := by
  rw [Hex.byteValue?, toNat_ofNat_of_ascii hc, Char.ofNat_toNat]

/-- A byte that is a digit is the byte of a character that is one. -/
theorem exists_char_of_byteValue? {b : UInt8} (h : (Hex.byteValue? b).isSome = true) :
    ∃ c : Char, (Hex.value? c).isSome = true ∧ UInt8.ofNat c.toNat = b := by
  refine ⟨Char.ofNat b.toNat, h, ?_⟩
  have hvalid : b.toNat.isValidChar := Or.inl (Nat.lt_trans b.toNat_lt (by decide))
  have htoNat : (Char.ofNat b.toNat).toNat = b.toNat := by
    rw [Char.ofNat, dif_pos hvalid]
    rfl
  rw [htoNat, UInt8.ofNat_toNat]

/-- An escape takes three bytes. -/
theorem bytesOf_escape {x y : Char} (hx : x.toNat < 0x80) (hy : y.toNat < 0x80) :
    bytesOf ['%', x, y] = [0x25, UInt8.ofNat x.toNat, UInt8.ofNat y.toNat] := by
  rw [bytesOf_cons_of_ascii (by decide), bytesOf_cons_of_ascii hx, bytesOf_cons_of_ascii hy]
  rfl

/-- A text has no escape exactly if its bytes have none. -/
theorem isUnescaped_iff (s : String) :
    IsUnescaped s ↔ ∀ x y, Percent.AreDigits x y → ¬ [0x25, x, y] <:+: encode s := by
  -- an escape is ASCII, so it is found among the bytes where it is found among the characters
  have hfound : ∀ x y : Char, x.toNat < 0x80 → y.toNat < 0x80 →
      ([0x25, UInt8.ofNat x.toNat, UInt8.ofNat y.toNat] <:+: encode s ↔ ['%', x, y] <:+: s.toList) := by
    intro x y hx hy
    have hascii : IsAscii ['%', x, y] := by
      simp [IsAscii, hx, hy]
    rw [← bytesOf_escape hx hy]
    exact infix_bytesOf_iff hascii (List.cons_ne_nil _ _)
  constructor
  · intro h x y hdigits
    obtain ⟨c, hc, rfl⟩ := exists_char_of_byteValue? hdigits.1
    obtain ⟨d, hd, rfl⟩ := exists_char_of_byteValue? hdigits.2
    rw [hfound c d (toNat_lt_of_value? hc) (toNat_lt_of_value? hd)]
    exact h c d hc hd
  · intro h x y hx hy
    have hxascii := toNat_lt_of_value? hx
    have hyascii := toNat_lt_of_value? hy
    rw [← hfound x y hxascii hyascii]
    refine h _ _ ⟨?_, ?_⟩
    · rw [byteValue?_ofNat hxascii]
      exact hx
    · rw [byteValue?_ofNat hyascii]
      exact hy

end Text

namespace Address

open Text

/-- **A text means itself** exactly if there is no escape in it. -/
theorem unescape?_eq_self_iff (s : String) : unescape? s = some s ↔ IsUnescaped s := by
  rw [isUnescaped_iff, ← Percent.decode_eq_self_iff, unescape?]
  constructor
  · intro h
    exact (encode_of_decode? h).symm
  · intro h
    rw [h, decode?_encode]

/-- Replacing escapes makes nothing longer. -/
theorem length_le_of_unescape? {s t : String} (h : unescape? s = some t) : (encode t).length ≤ (encode s).length := by
  rw [encode_of_decode? h]
  exact Percent.length_decode_le _

end Address

end Phrasebook
