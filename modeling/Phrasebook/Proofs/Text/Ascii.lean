import Mathlib.Data.List.Infix
import Phrasebook.Proofs.Json.Strings
/-!
# Looking for ASCII in UTF-8

A text may be searched by its bytes: what consists of ASCII characters is found among them exactly where it stands in
the text, because no byte of a longer character is ASCII.
-/

set_option autoImplicit false

namespace Phrasebook.Text

open Json (utf8EncodeChar_of_ascii le_of_mem_utf8EncodeChar)

/-- All characters are ASCII. -/
def IsAscii (cs : List Char) : Prop := ∀ c ∈ cs, c.toNat < 0x80

instance (cs : List Char) : Decidable (IsAscii cs) := List.decidableBAll _ cs

/-- The bytes of characters. -/
abbrev bytesOf (cs : List Char) : Bytes := cs.flatMap String.utf8EncodeChar

/-- The bytes of characters are those of the first and those of the rest. -/
theorem bytesOf_cons (c : Char) (cs : List Char) : bytesOf (c :: cs) = String.utf8EncodeChar c ++ bytesOf cs :=
  List.flatMap_cons

/-- The bytes of characters in two parts are those of the parts. -/
theorem bytesOf_append (cs ds : List Char) : bytesOf (cs ++ ds) = bytesOf cs ++ bytesOf ds := List.flatMap_append

/-- A character of ASCII has the number of its byte. -/
theorem toNat_ofNat_of_ascii {c : Char} (hc : c.toNat < 0x80) : (UInt8.ofNat c.toNat).toNat = c.toNat :=
  UInt8.toNat_ofNat_of_lt' (Nat.lt_trans hc (by decide))

/-- Characters of ASCII with the same byte are the same. -/
theorem ofNat_inj_of_ascii {c d : Char} (hc : c.toNat < 0x80) (hd : d.toNat < 0x80)
    (h : UInt8.ofNat c.toNat = UInt8.ofNat d.toNat) : c = d := by
  have hvalue := congrArg UInt8.toNat h
  rw [toNat_ofNat_of_ascii hc, toNat_ofNat_of_ascii hd] at hvalue
  exact Char.toNat_inj.1 hvalue

/-- A character of ASCII is the one byte. -/
theorem bytesOf_cons_of_ascii {c : Char} (hc : c.toNat < 0x80) (cs : List Char) :
    bytesOf (c :: cs) = UInt8.ofNat c.toNat :: bytesOf cs := by
  rw [bytesOf_cons, utf8EncodeChar_of_ascii hc, List.singleton_append]

/-- A character is at the front of a text exactly if its byte is at the front of the bytes. -/
theorem bytesOf_eq_cons_iff {c : Char} (hc : c.toNat < 0x80) {cs : List Char} {rest : Bytes} :
    bytesOf cs = UInt8.ofNat c.toNat :: rest ↔ ∃ more, cs = c :: more ∧ bytesOf more = rest := by
  constructor
  · intro h
    match cs with
    | [] => cases h
    | d :: more =>
      by_cases hd : d.toNat < 0x80
      · rw [bytesOf_cons_of_ascii hd, List.cons.injEq] at h
        obtain ⟨hbyte, hrest⟩ := h
        exact ⟨more, by rw [ofNat_inj_of_ascii hd hc hbyte], hrest⟩
      · -- the first byte of a longer character is not ASCII
        have hmem : UInt8.ofNat c.toNat ∈ String.utf8EncodeChar d := by
          have hlong := String.utf8EncodeChar_ne_nil (c := d)
          obtain ⟨b, bs, hbs⟩ := List.exists_cons_of_ne_nil hlong
          rw [bytesOf_cons, hbs, List.cons_append, List.cons.injEq] at h
          rw [hbs, ← h.1]
          exact List.mem_cons_self
        have hbig := le_of_mem_utf8EncodeChar (by omega) _ hmem
        rw [toNat_ofNat_of_ascii hc] at hbig
        omega
  · rintro ⟨more, rfl, rfl⟩
    exact bytesOf_cons_of_ascii hc more

/-- Characters of ASCII begin a text exactly if their bytes begin its bytes. -/
theorem prefix_bytesOf_iff {p : List Char} (hp : IsAscii p) {cs : List Char} :
    bytesOf p <+: bytesOf cs ↔ p <+: cs := by
  induction p generalizing cs with
  | nil => simp
  | cons c p ih =>
    have hc := hp c List.mem_cons_self
    have hmore : IsAscii p := fun d hd => hp d (List.mem_cons_of_mem c hd)
    constructor
    · rintro ⟨tail, htail⟩
      rw [bytesOf_cons_of_ascii hc, List.cons_append] at htail
      obtain ⟨more, rfl, hbytes⟩ := (bytesOf_eq_cons_iff hc).1 htail.symm
      rw [List.prefix_cons_inj]
      exact (ih hmore).1 ⟨tail, hbytes.symm⟩
    · rintro ⟨tail, rfl⟩
      exact ⟨bytesOf tail, (bytesOf_append ..).symm⟩

/-- Bytes that are not ASCII can be passed over. -/
theorem infix_append_of_not_ascii {p : List Char} (hp : IsAscii p) (hne : p ≠ []) {bs : Bytes}
    (hbs : ∀ b ∈ bs, 0x80 ≤ b.toNat) (rest : Bytes) : bytesOf p <:+: bs ++ rest ↔ bytesOf p <:+: rest := by
  induction bs with
  | nil => rfl
  | cons b bs ih =>
    rw [List.cons_append, List.infix_cons_iff, ih fun d hd => hbs d (List.mem_cons_of_mem b hd)]
    refine or_iff_right ?_
    obtain ⟨c, more, rfl⟩ := List.exists_cons_of_ne_nil hne
    have hc := hp c List.mem_cons_self
    rw [bytesOf_cons_of_ascii hc, List.cons_prefix_cons]
    rintro ⟨rfl, -⟩
    have hbig := hbs _ List.mem_cons_self
    rw [toNat_ofNat_of_ascii hc] at hbig
    omega

/-- **What is ASCII stands in the bytes exactly if it stands in the text.** -/
theorem infix_bytesOf_iff {p : List Char} (hp : IsAscii p) (hne : p ≠ []) {cs : List Char} :
    bytesOf p <:+: bytesOf cs ↔ p <:+: cs := by
  induction cs with
  | nil =>
    obtain ⟨c, more, rfl⟩ := List.exists_cons_of_ne_nil hne
    rw [bytesOf_cons_of_ascii (hp c List.mem_cons_self)]
    simp [bytesOf]
  | cons c cs ih =>
    rw [List.infix_cons_iff, ← prefix_bytesOf_iff hp, ← ih]
    by_cases hc : c.toNat < 0x80
    · rw [bytesOf_cons_of_ascii hc, List.infix_cons_iff]
    · have hbs := le_of_mem_utf8EncodeChar (Nat.le_of_not_lt hc)
      have hpass := infix_append_of_not_ascii hp hne hbs (bytesOf cs)
      rw [bytesOf_cons, hpass]
      refine (or_iff_right_of_imp ?_).symm
      intro hprefix
      exact hpass.1 hprefix.isInfix

/-- A character of ASCII is in a text exactly if its byte is among the bytes. -/
theorem mem_bytesOf_iff {c : Char} (hc : c.toNat < 0x80) {cs : List Char} :
    UInt8.ofNat c.toNat ∈ bytesOf cs ↔ c ∈ cs := by
  have hascii : IsAscii [c] := List.forall_mem_singleton.2 hc
  have hone : bytesOf [c] = [UInt8.ofNat c.toNat] := bytesOf_cons_of_ascii hc []
  rw [← List.singleton_infix_iff, ← List.singleton_infix_iff, ← hone,
    infix_bytesOf_iff hascii (List.cons_ne_nil c [])]

end Phrasebook.Text
