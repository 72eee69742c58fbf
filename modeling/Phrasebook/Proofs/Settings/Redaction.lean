import Phrasebook.Settings.Redaction
import Phrasebook.Proofs.Text.Ascii
/-!
# What hiding credentials leaves of an address

The credentials end at the last at sign, and begin after the first `://`. A scheme that holds no `://` cannot lend
half of one to what follows it either, because no end of `://` is a beginning of it; so the two places are found
whatever stands between them (`splitScheme?_append`, `afterLastAt?_append`). An address that has been dealt with has
three stars for credentials, and dealing with it again changes nothing.

An address is searched byte by byte and cut where the search stopped (`cut?`). The bytes that are searched for are
ASCII, so no byte of a longer character is taken for one of them, and the cuts go between characters.
-/

set_option autoImplicit false

namespace Phrasebook.Settings

/-- What stands between a scheme and the rest of an address. -/
abbrev schemeMark : List Char := [':', '/', '/']

/-! ## The scheme -/

section Scheme

variable {cs scheme rest : List Char}

/-- A text that begins with the mark has an empty scheme. -/
theorem splitScheme?_mark (rest : List Char) : splitScheme? (schemeMark ++ rest) = some ([], rest) := rfl

/-- A character with which no mark begins belongs to the scheme. -/
theorem splitScheme?_cons {c : Char} (h : ¬ schemeMark <+: c :: cs) :
    splitScheme? (c :: cs) = (splitScheme? cs).map fun p => (c :: p.1, p.2) := by
  rw [splitScheme?]
  rintro rest rfl rfl
  exact h ⟨rest, rfl⟩

/-- The first `://` ends the scheme. -/
theorem splitScheme?_append (h : ¬ schemeMark <:+: scheme) (rest : List Char) :
    splitScheme? (scheme ++ schemeMark ++ rest) = some (scheme, rest) := by
  induction scheme with
  | nil => exact splitScheme?_mark rest
  | cons c scheme ih =>
    rw [List.infix_cons_iff, not_or] at h
    obtain ⟨hfirst, hlater⟩ := h
    have hnot : ¬ schemeMark <+: c :: (scheme ++ schemeMark ++ rest) := by
      -- a mark that begins here lies in the scheme, or ends in the colon or the slash of the mark after it
      match scheme with
      | [] => simp
      | [d] => simp
      | d :: e :: more =>
        intro hmark
        apply hfirst
        simpa using hmark
    rw [List.cons_append, List.cons_append, splitScheme?_cons hnot, ih hlater, Option.map_some]

/-- A scheme that is found is what stands before the first mark, for the mark is not in it. -/
theorem of_splitScheme? (h : splitScheme? cs = some (scheme, rest)) :
    cs = scheme ++ schemeMark ++ rest ∧ ¬ schemeMark <:+: scheme := by
  -- by induction on the characters, the mark being found at the first place it stands
  induction cs generalizing scheme with
  | nil => cases h
  | cons c cs ih =>
    by_cases hmark : schemeMark <+: c :: cs
    · obtain ⟨tail, htail⟩ := hmark
      rw [← htail, splitScheme?_mark, Option.some.injEq, Prod.mk.injEq] at h
      obtain ⟨rfl, rfl⟩ := h
      exact ⟨htail.symm, by simp⟩
    · rw [splitScheme?_cons hmark, Option.map_eq_some_iff] at h
      obtain ⟨⟨scheme, rest⟩, hsplit, hp⟩ := h
      rw [Prod.mk.injEq] at hp
      obtain ⟨rfl, rfl⟩ := hp
      obtain ⟨rfl, hnot⟩ := ih hsplit
      refine ⟨rfl, ?_⟩
      rw [List.infix_cons_iff, not_or]
      refine ⟨?_, hnot⟩
      intro hprefix
      apply hmark
      rw [List.append_assoc, ← List.cons_append]
      exact hprefix.trans (List.prefix_append _ _)

end Scheme

/-! ## The last at sign -/

section LastAt

variable {cs rest : List Char}

/-- What stands after the last at sign is found, whatever is before it. -/
theorem afterLastAt?_append (credentials : List Char) (h : '@' ∉ rest) :
    afterLastAt? (credentials ++ '@' :: rest) = some rest := by
  have hthere : (credentials ++ '@' :: rest).contains '@' = true := by simp
  have hrest : ∀ c ∈ rest.reverse, (c != '@') = true := by
    intro c hc
    rw [bne_iff_ne]
    rintro rfl
    exact h (List.mem_reverse.1 hc)
  rw [afterLastAt?, if_pos hthere, List.reverse_append, List.reverse_cons, List.append_assoc,
    List.takeWhile_append_of_pos hrest]
  simp

/-- Nothing is found after an at sign exactly if there is none. -/
theorem afterLastAt?_eq_none_iff : afterLastAt? cs = none ↔ '@' ∉ cs := by
  unfold afterLastAt?
  split <;> simp_all

/-- A text with an at sign in it has a last one. -/
theorem exists_last_of_mem (h : '@' ∈ cs) : ∃ front back, cs = front ++ '@' :: back ∧ '@' ∉ back := by
  obtain ⟨back, front, hrev, hnot⟩ := List.eq_append_cons_of_mem (List.mem_reverse.2 h)
  refine ⟨front.reverse, back.reverse, ?_, fun hback => hnot (List.mem_reverse.1 hback)⟩
  rw [← List.reverse_reverse cs, hrev]
  simp

/-- What is found after an at sign stands after the last one. -/
theorem of_afterLastAt? (h : afterLastAt? cs = some rest) :
    ∃ credentials, cs = credentials ++ '@' :: rest ∧ '@' ∉ rest := by
  by_cases hthere : '@' ∈ cs
  · obtain ⟨credentials, back, rfl, hlast⟩ := exists_last_of_mem hthere
    rw [afterLastAt?_append credentials hlast, Option.some.injEq] at h
    exact ⟨credentials, h ▸ rfl, h ▸ hlast⟩
  · rw [afterLastAt?_eq_none_iff.2 hthere] at h
    cases h

end LastAt

/-! ## Without credentials -/

section Redacted

variable {cs scheme : List Char}

/-- All that stands between the mark and the last at sign is hidden. -/
theorem redactChars_of_credentials (h : ¬ schemeMark <:+: scheme) (credentials : List Char) {host : List Char}
    (hhost : '@' ∉ host) :
    redactChars (scheme ++ schemeMark ++ (credentials ++ '@' :: host)) = scheme ++ "://***@".toList ++ host := by
  rw [redactChars, splitScheme?_append h]
  dsimp only
  rw [afterLastAt?_append credentials hhost]

/-- An address either stays as it is, or has credentials after its scheme. -/
theorem redactChars_cases (cs : List Char) :
    (redactChars cs = cs ∧ ∀ scheme rest, splitScheme? cs = some (scheme, rest) → '@' ∉ rest) ∨
      ∃ scheme credentials host, cs = scheme ++ schemeMark ++ (credentials ++ '@' :: host) ∧
        ¬ schemeMark <:+: scheme ∧ '@' ∉ host ∧ splitScheme? cs = some (scheme, credentials ++ '@' :: host) := by
  -- no mark, a mark without an at sign behind it, or both
  cases hsplit : splitScheme? cs with
  | none =>
    refine Or.inl ⟨?_, fun _ _ h => absurd h (Option.some_ne_none _).symm⟩
    rw [redactChars, hsplit]
  | some p =>
    obtain ⟨scheme, rest⟩ := p
    obtain ⟨hcs, hscheme⟩ := of_splitScheme? hsplit
    cases hlast : afterLastAt? rest with
    | none =>
      refine Or.inl ⟨?_, ?_⟩
      · rw [redactChars, hsplit]
        dsimp only
        rw [hlast]
      · intro _ _ h
        rw [Option.some.injEq, Prod.mk.injEq] at h
        rw [← h.2]
        exact afterLastAt?_eq_none_iff.1 hlast
    | some host =>
      obtain ⟨credentials, rfl, hhost⟩ := of_afterLastAt? hlast
      exact Or.inr ⟨scheme, credentials, host, hcs, hscheme, hhost, rfl⟩

/-- What has been hidden once stays as it is when it is hidden again. -/
theorem redactChars_redactChars (cs : List Char) : redactChars (redactChars cs) = redactChars cs := by
  rcases redactChars_cases cs with ⟨hsame, -⟩ | ⟨scheme, credentials, host, rfl, hscheme, hhost, -⟩
  · rw [hsame, hsame]
  · -- the stars are credentials like any others
    rw [redactChars_of_credentials hscheme credentials hhost]
    have hstars : scheme ++ "://***@".toList ++ host = scheme ++ schemeMark ++ (['*', '*', '*'] ++ '@' :: host) := by
      simp
    rw [hstars, redactChars_of_credentials hscheme _ hhost, hstars]

end Redacted

/-- Hiding in a text is hiding in its characters. -/
theorem redact_ofList (cs : List Char) : redact (String.ofList cs) = String.ofList (redactChars cs) := by
  rw [redact, String.toList_ofList]

/-- Credentials after a scheme are not shown. -/
theorem redact_of_credentials {scheme host : String} (hscheme : ¬ "://".toList <:+: scheme.toList)
    (hhost : '@' ∉ host.toList) (credentials : String) :
    redact (scheme ++ "://" ++ credentials ++ "@" ++ host) = scheme ++ "://***@" ++ host := by
  have hurl : (scheme ++ "://" ++ credentials ++ "@" ++ host).toList =
      scheme.toList ++ schemeMark ++ (credentials.toList ++ '@' :: host.toList) := by
    simp
  rw [redact, hurl, redactChars_of_credentials hscheme _ hhost, ← String.toList_inj]
  simp

/-! ## Where the bytes are cut -/

/-- How many bytes stand before the first `://`. -/
def schemeEnd? : Bytes → Option Nat
  | [] => none
  | 0x3A :: 0x2F :: 0x2F :: _ => some 0
  | _ :: rest => (schemeEnd? rest).map (· + 1)

/-- How many bytes stand before the last at sign. -/
def lastAt? : Bytes → Option Nat
  | [] => none
  | b :: rest =>
    match lastAt? rest with
    | some n => some (n + 1)
    | none => if b == 0x40 then some 0 else none

/-- The two places at which an address is cut, in bytes: before the first `://`, and after the last at sign if that
stands further back. -/
def cut? (b : Bytes) : Option (Nat × Nat) :=
  match schemeEnd? b, lastAt? b with
  | some mark, some sign => if mark < sign then some (mark, sign + 1) else none
  | _, _ => none

section Cut

open Text

/-- In bytes, too, a byte with which no mark begins belongs to the scheme. -/
theorem schemeEnd?_cons {b : UInt8} {rest : Bytes} (h : ¬ bytesOf schemeMark <+: b :: rest) :
    schemeEnd? (b :: rest) = (schemeEnd? rest).map (· + 1) := by
  rw [schemeEnd?]
  rintro more rfl rfl
  exact h ⟨more, rfl⟩

/-- Bytes beyond ASCII are passed over. -/
theorem schemeEnd?_append {bs : Bytes} (h : ∀ b ∈ bs, 0x80 ≤ b.toNat) (rest : Bytes) :
    schemeEnd? (bs ++ rest) = (schemeEnd? rest).map (· + bs.length) := by
  induction bs with
  | nil => simp
  | cons b bs ih =>
    have hnot : ¬ bytesOf schemeMark <+: b :: (bs ++ rest) := by
      intro hmark
      have hb : (0x3A : UInt8) = b := (List.cons_prefix_cons.1 hmark).1
      have hbig := h b List.mem_cons_self
      rw [← hb] at hbig
      exact absurd hbig (by decide)
    rw [List.cons_append, schemeEnd?_cons hnot, ih fun d hd => h d (List.mem_cons_of_mem b hd), Option.map_map]
    rfl

/-- The bytes are searched for the end of the scheme as the characters are. -/
theorem schemeEnd?_bytesOf (cs : List Char) :
    schemeEnd? (bytesOf cs) = (splitScheme? cs).map fun p => (bytesOf p.1).length := by
  have hascii : IsAscii schemeMark := by decide
  induction cs with
  | nil => rfl
  | cons c cs ih =>
    by_cases hmark : schemeMark <+: c :: cs
    · obtain ⟨rest, hrest⟩ := hmark
      rw [← hrest, splitScheme?_mark]
      rfl
    · rw [splitScheme?_cons hmark, Option.map_map]
      rw [← prefix_bytesOf_iff hascii] at hmark
      -- the mark is ASCII, so it does not begin inside a longer character
      by_cases hc : c.toNat < 0x80
      · rw [bytesOf_cons_of_ascii hc] at hmark ⊢
        rw [schemeEnd?_cons hmark, ih, Option.map_map]
        refine congrArg (Option.map · _) (funext fun p => ?_)
        change _ = (bytesOf (c :: p.1)).length
        rw [bytesOf_cons_of_ascii hc, List.length_cons]
        rfl
      · rw [bytesOf_cons, schemeEnd?_append (Json.le_of_mem_utf8EncodeChar (Nat.le_of_not_lt hc)), ih, Option.map_map]
        refine congrArg (Option.map · _) (funext fun p => ?_)
        change _ = (bytesOf (c :: p.1)).length
        rw [bytesOf_cons, List.length_append, Nat.add_comm]
        rfl

/-- A sign that is not there is not found. -/
theorem lastAt?_eq_none {b : Bytes} (h : 0x40 ∉ b) : lastAt? b = none := by
  induction b with
  | nil => rfl
  | cons c b ih =>
    rw [List.mem_cons, not_or] at h
    rw [lastAt?, ih h.2]
    simpa using Ne.symm h.1

/-- The last sign is found where the bytes in front of it are over. -/
theorem lastAt?_append (front : Bytes) {back : Bytes} (h : 0x40 ∉ back) :
    lastAt? (front ++ 0x40 :: back) = some front.length := by
  induction front with
  | nil =>
    rw [List.nil_append, lastAt?, lastAt?_eq_none h]
    rfl
  | cons b front ih =>
    rw [List.cons_append, lastAt?, ih]
    rfl

/-- The byte of the at sign stands only for the at sign: it is part of no other character. -/
theorem sign_mem_bytesOf_iff {cs : List Char} : 0x40 ∈ bytesOf cs ↔ '@' ∈ cs :=
  mem_bytesOf_iff (c := '@') (by decide)

/-- So a text with an at sign is cut there in bytes as it is in characters. -/
theorem bytesOf_sign (front back : List Char) :
    bytesOf (front ++ '@' :: back) = bytesOf front ++ 0x40 :: bytesOf back := by
  rw [bytesOf_append]
  rfl

/-- Where an address stays as it is, it is not cut. -/
theorem cut?_eq_none {cs : List Char} (h : ∀ scheme rest, splitScheme? cs = some (scheme, rest) → '@' ∉ rest) :
    cut? (bytesOf cs) = none := by
  rw [cut?, schemeEnd?_bytesOf]
  cases hsplit : splitScheme? cs with
  | none => rfl
  | some p =>
    obtain ⟨scheme, rest⟩ := p
    have hrest := h scheme rest hsplit
    obtain ⟨rfl, -⟩ := of_splitScheme? hsplit
    rw [Option.map_some]
    by_cases hthere : '@' ∈ scheme
    · -- the last at sign is in the scheme
      obtain ⟨front, back, rfl, hlast⟩ := exists_last_of_mem hthere
      have hnone : 0x40 ∉ bytesOf (back ++ schemeMark ++ rest) := by
        rw [sign_mem_bytesOf_iff]
        simp [hlast, hrest]
      have hcs : front ++ '@' :: back ++ schemeMark ++ rest = front ++ '@' :: (back ++ schemeMark ++ rest) := by simp
      rw [hcs, bytesOf_sign, bytesOf_sign, lastAt?_append _ hnone]
      refine if_neg ?_
      rw [List.length_append]
      omega
    · have hnone : 0x40 ∉ bytesOf (scheme ++ schemeMark ++ rest) := by
        rw [sign_mem_bytesOf_iff]
        simp [hthere, hrest]
      rw [lastAt?_eq_none hnone]

/-- Credentials are cut out with the mark before them and the at sign behind them. -/
theorem cut?_of_credentials {scheme host : List Char} (hscheme : ¬ schemeMark <:+: scheme) (credentials : List Char)
    (hhost : '@' ∉ host) : cut? (bytesOf (scheme ++ schemeMark ++ (credentials ++ '@' :: host))) =
      some ((bytesOf scheme).length, (bytesOf (scheme ++ schemeMark ++ credentials ++ ['@'])).length) := by
  have hback : 0x40 ∉ bytesOf host := sign_mem_bytesOf_iff.not.2 hhost
  rw [cut?, schemeEnd?_bytesOf, splitScheme?_append hscheme, ← List.append_assoc, bytesOf_sign,
    lastAt?_append _ hback, bytesOf_append (scheme ++ schemeMark ++ credentials), List.length_append]
  refine if_pos ?_
  have hmark : 0 < (bytesOf schemeMark).length := by decide
  dsimp only
  rw [List.append_assoc, bytesOf_append, bytesOf_append, List.length_append, List.length_append]
  omega

/-- A part of a text ends between two of its characters. -/
theorem isValid_bytesOf (front back : List Char) :
    String.Pos.Raw.IsValid (String.ofList (front ++ back)) ⟨(bytesOf front).length⟩ := by
  rw [String.Pos.Raw.isValid_iff_exists_append]
  refine ⟨String.ofList front, String.ofList back, String.ofList_append, ?_⟩
  rw [String.rawEndPos, String.utf8ByteSize, String.toByteArray_ofList]
  simp [List.utf8Encode]

/-- A cut after some characters gives these characters. -/
theorem take_bytesOf (front back : List Char) :
    (bytesOf (front ++ back)).take (bytesOf front).length = bytesOf front := by
  rw [bytesOf_append, List.take_left]

/-- And it leaves the others. -/
theorem drop_bytesOf (front back : List Char) :
    (bytesOf (front ++ back)).drop (bytesOf front).length = bytesOf back := by
  rw [bytesOf_append, List.drop_left]

end Cut

/-! ## Every address -/

/-- **Hiding credentials.** Whatever stands between the first `://` and the last at sign, three stars are shown for
it. Hiding the credentials of an address again changes nothing; and what is shown of any address is the address
itself, or its bytes but for those between two places, with three stars for them, and both places lie between
characters. -/
theorem redact_hides_credentials :
    (∀ scheme credentials host : String, ¬ "://".toList <:+: scheme.toList → '@' ∉ host.toList →
      redact (scheme ++ "://" ++ credentials ++ "@" ++ host) = scheme ++ "://***@" ++ host) ∧
    ∀ url : String, redact (redact url) = redact url ∧
      match cut? (Text.encode url) with
      | none => redact url = url
      | some (i, j) =>
        String.Pos.Raw.IsValid url ⟨i⟩ ∧ String.Pos.Raw.IsValid url ⟨j⟩ ∧
          Text.encode (redact url) = (Text.encode url).take i ++ Text.encode "://***@" ++ (Text.encode url).drop j := by
  constructor
  · intro scheme credentials host hscheme hhost
    exact redact_of_credentials hscheme hhost credentials
  · intro url
    obtain ⟨cs, rfl⟩ : ∃ cs, url = String.ofList cs := ⟨url.toList, String.ofList_toList.symm⟩
    rw [redact_ofList, redact_ofList, redactChars_redactChars, Text.encode_ofList, Text.encode_ofList]
    refine ⟨rfl, ?_⟩
    rcases redactChars_cases cs with ⟨hsame, hnone⟩ | ⟨scheme, credentials, host, rfl, hscheme, hhost, -⟩
    · rw [cut?_eq_none hnone, hsame]
    · rw [cut?_of_credentials hscheme credentials hhost, redactChars_of_credentials hscheme credentials hhost]
      -- the two ways in which the address falls into what is kept and what is not
      have hfront : scheme ++ schemeMark ++ (credentials ++ '@' :: host) =
          scheme ++ (schemeMark ++ credentials ++ '@' :: host) := by simp
      have hback : scheme ++ schemeMark ++ (credentials ++ '@' :: host) =
          scheme ++ schemeMark ++ credentials ++ ['@'] ++ host := by simp
      refine ⟨?_, ?_, ?_⟩
      · rw [hfront]
        exact isValid_bytesOf scheme _
      · rw [hback]
        exact isValid_bytesOf _ host
      · rw [hback, drop_bytesOf, ← hback, hfront, take_bytesOf, List.flatMap_append, List.flatMap_append]
        rfl

/-- The credentials are hidden up to the last at sign, with colons, slashes and the mark itself in the password,
and letters of more than one byte around the cuts. -/
theorem shouted_password_is_hidden :
    ¬ "://".toList <:+: "a:/".toList ∧ '@' ∉ "host/é".toList ∧
      redact ("a:/" ++ "://" ++ "üser:p@ss://word" ++ "@" ++ "host/é") = "a:/" ++ "://***@" ++ "host/é" :=
  ⟨by decide, by decide, redact_hides_credentials.1 _ _ _ (by decide) (by decide)⟩

end Phrasebook.Settings
