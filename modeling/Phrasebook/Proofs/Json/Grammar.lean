import Mathlib.Data.List.TakeWhile
import Phrasebook.Json.Record
import Phrasebook.Proofs.Text.Ascii
/-!
# The grammar of JSON texts

What a JSON text is, apart from any reader. A `Tree` keeps of a text what does not depend on how it is presented: the
members of an object in their order, numbers as they stand, and strings as UTF-16 code units, since an escape may
write half of a surrogate pair. Its tokens are spelled in many ways: blanks stand between them, and a code unit is
written as its character, by a letter or by four digits (`Spells`).

The relations between bytes are stated with what is left after them, as the readers go through a text.
-/

set_option autoImplicit false

namespace Phrasebook.Json

/-! ## Code units -/

/-- The code units of a character. -/
def unitsOf (c : Char) : List Nat :=
  if c.toNat < 0x10000 then [c.toNat]
  else [0xD800 + (c.toNat - 0x10000) / 0x400, 0xDC00 + (c.toNat - 0x10000) % 0x400]

/-- The code units of a text. -/
def unitsOfText (s : String) : List Nat := s.toList.flatMap unitsOf

/-- The characters of code units, unless half of a pair stands alone. -/
def ofUnits? : List Nat → Option (List Char)
  | [] => some []
  | n :: rest =>
    if isHighSurrogate n then
      match rest with
      | m :: rest =>
        if isLowSurrogate m then
          (ofUnits? rest).map (Char.ofNat (0x10000 + (n - 0xD800) * 0x400 + (m - 0xDC00)) :: ·)
        else none
      | [] => none
    else if isLowSurrogate n then none
    else (ofUnits? rest).map (Char.ofNat n :: ·)

/-- The text of code units. -/
def textOf? (units : List Nat) : Option String := (ofUnits? units).map String.ofList

/-! ## Tokens -/

/-- A string after its first quote, up to the bytes after its last: every code unit is part of a character or has an
escape. -/
inductive Spelled : List Nat → Bytes → Bytes → Prop where
  | quote {rest : Bytes} : Spelled [] (0x22 :: rest) rest
  | plain {c : Char} {units : List Nat} {b rest : Bytes} (hquote : c ≠ '"') (hbackslash : c ≠ '\\')
      (hcontrol : ¬ c.toNat < 0x20) (h : Spelled units b rest) :
      Spelled (unitsOf c ++ units) (String.utf8EncodeChar c ++ b) rest
  | short {e x : UInt8} {units : List Nat} {b rest : Bytes} (he : shortEscape? e = some x)
      (h : Spelled units b rest) : Spelled (x.toNat :: units) (0x5C :: e :: b) rest
  | hex {h₁ h₂ h₃ h₄ : UInt8} {n : Nat} {units : List Nat} {b rest : Bytes} (hn : hexValues? h₁ h₂ h₃ h₄ = some n)
      (h : Spelled units b rest) : Spelled (n :: units) (0x5C :: 0x75 :: h₁ :: h₂ :: h₃ :: h₄ :: b) rest

/-- Digits, and at least one. -/
def IsDigits (b : Bytes) : Prop := b ≠ [] ∧ ∀ c ∈ b, isDigit c = true

/-- The integer part of a number. -/
inductive IsWhole : Bytes → Prop where
  | zero : IsWhole [0x30]
  | digits {c : UInt8} {b : Bytes} (hc : isDigit c = true) (hzero : c ≠ 0x30) (hb : ∀ d ∈ b, isDigit d = true) :
      IsWhole (c :: b)

/-- The fraction of a number, if it has one. -/
inductive IsFraction : Bytes → Prop where
  | absent : IsFraction []
  | digits {b : Bytes} (h : IsDigits b) : IsFraction (0x2E :: b)

/-- The exponent of a number, if it has one. -/
inductive IsExponent : Bytes → Prop where
  | absent : IsExponent []
  | digits {e : UInt8} {sign b : Bytes} (he : e = 0x65 ∨ e = 0x45) (hsign : sign = [] ∨ sign = [0x2B] ∨ sign = [0x2D])
      (h : IsDigits b) : IsExponent (e :: (sign ++ b))

/-- A number without its sign. -/
inductive IsMagnitude : Bytes → Prop where
  | parts {whole fraction exponent : Bytes} (hwhole : IsWhole whole) (hfraction : IsFraction fraction)
      (hexponent : IsExponent exponent) : IsMagnitude (whole ++ (fraction ++ exponent))

/-- A value that is no string and has no parts. -/
inductive IsScalar : Bytes → Prop where
  | null : IsScalar (0x6E :: nullTail)
  | yes : IsScalar (0x74 :: trueTail)
  | no : IsScalar (0x66 :: falseTail)
  | positive {b : Bytes} (h : IsMagnitude b) : IsScalar b
  | negative {b : Bytes} (h : IsMagnitude b) : IsScalar (0x2D :: b)

/-- Comma, colon, brackets and braces. -/
def marks : List UInt8 := [0x2C, 0x3A, 0x5B, 0x5D, 0x7B, 0x7D]

/-- What a text is made of. -/
inductive Token where
  | mark (c : UInt8)
  | scalar (b : Bytes)
  | str (units : List Nat)

/-- A token at the front of bytes, with the bytes after it. -/
inductive Begins : Token → Bytes → Bytes → Prop where
  | mark {c : UInt8} {rest : Bytes} (h : c ∈ marks) : Begins (.mark c) (c :: rest) rest
  | scalar {b rest : Bytes} (h : IsScalar b) : Begins (.scalar b) (b ++ rest) rest
  | str {units : List Nat} {b rest : Bytes} (h : Spelled units b rest) : Begins (.str units) (0x22 :: b) rest

/-- Tokens with blanks around them. -/
inductive Spells : List Token → Bytes → Prop where
  | nil {b : Bytes} (hb : ∀ c ∈ b, isSpace c = true) : Spells [] b
  | cons {token : Token} {tokens : List Token} {blanks b rest : Bytes} (hblanks : ∀ c ∈ blanks, isSpace c = true)
      (htoken : Begins token b rest) (h : Spells tokens rest) : Spells (token :: tokens) (blanks ++ b)

/-! ## Values -/

/-- A JSON value as it is written, apart from its presentation. -/
inductive Tree where
  | scalar (b : Bytes)
  | str (units : List Nat)
  | arr (items : List Tree)
  | obj (members : List (List Nat × Tree))

/-- Parts with commas between them; without `first`, a comma stands before the first of them as well. -/
def row : Bool → List (List Token) → List Token
  | _, [] => []
  | true, part :: more => part ++ row false more
  | false, part :: more => .mark 0x2C :: (part ++ row false more)

mutual

/-- The tokens of a value. -/
def Tree.tokens : Tree → List Token
  | .scalar b => [.scalar b]
  | .str units => [.str units]
  | .arr items => .mark 0x5B :: (row true (itemTokens items) ++ [.mark 0x5D])
  | .obj members => .mark 0x7B :: (row true (memberTokens members) ++ [.mark 0x7D])

/-- The tokens of items, item by item. -/
def itemTokens : List Tree → List (List Token)
  | [] => []
  | v :: more => v.tokens :: itemTokens more

/-- The tokens of members, member by member. -/
def memberTokens : List (List Nat × Tree) → List (List Token)
  | [] => []
  | (name, v) :: more => (.str name :: .mark 0x3A :: v.tokens) :: memberTokens more

end

/-- The tokens of items are theirs one by one. -/
theorem itemTokens_eq_map (items : List Tree) : itemTokens items = items.map Tree.tokens := by
  induction items with
  | nil => rfl
  | cons v more ih => rw [itemTokens, ih, List.map_cons]

/-- The tokens of members are theirs one by one: the name, the colon and the value. -/
theorem memberTokens_eq_map (members : List (List Nat × Tree)) :
    memberTokens members = members.map fun m => .str m.1 :: .mark 0x3A :: m.2.tokens := by
  induction members with
  | nil => rfl
  | cons m more ih => rw [memberTokens, ih, List.map_cons]

/-- An array is its items in a row between brackets. -/
theorem Tree.tokens_arr (items : List Tree) :
    (Tree.arr items).tokens = .mark 0x5B :: (row true (items.map tokens) ++ [.mark 0x5D]) := by
  rw [tokens, itemTokens_eq_map]

/-- An object is its members in a row between braces. -/
theorem Tree.tokens_obj (members : List (List Nat × Tree)) :
    (Tree.obj members).tokens =
      .mark 0x7B :: (row true (members.map fun m => .str m.1 :: .mark 0x3A :: m.2.tokens) ++ [.mark 0x7D]) := by
  rw [tokens, memberTokens_eq_map]

/-- Induction over a value and the values in it. -/
@[elab_as_elim]
theorem Tree.induct {P : Tree → Prop} (scalar : ∀ b, P (.scalar b)) (str : ∀ units, P (.str units))
    (arr : ∀ items, (∀ v ∈ items, P v) → P (.arr items))
    (obj : ∀ members, (∀ m ∈ members, P m.2) → P (.obj members)) : ∀ t, P t
  | .scalar b => scalar b
  | .str units => str units
  | .arr items => arr items fun v hv =>
    have := List.sizeOf_lt_of_mem hv
    Tree.induct scalar str arr obj v
  | .obj members => obj members fun m hm =>
    have := List.sizeOf_lt_of_mem hm
    have : sizeOf m.2 < sizeOf m := by
      cases m
      simp only [Prod.mk.sizeOf_spec]
      omega
    Tree.induct scalar str arr obj m.2

/-- Every tree has a token. -/
theorem Tree.tokens_ne_nil (t : Tree) : t.tokens ≠ [] := by
  cases t <;> exact List.cons_ne_nil _ _

/-- A row has at least as many tokens as parts. -/
theorem length_le_row (first : Bool) {parts : List (List Token)} (h : ∀ p ∈ parts, p ≠ []) :
    parts.length ≤ (row first parts).length := by
  induction parts generalizing first with
  | nil => exact Nat.zero_le _
  | cons p more ih =>
    have hp := List.length_pos_iff.2 (h p List.mem_cons_self)
    have hmore := ih false fun q hq => h q (List.mem_cons_of_mem _ hq)
    cases first <;> simp only [row, List.length_cons, List.length_append] <;> omega

/-- Bytes are a text of a value. -/
def Tree.Writes (t : Tree) (b : Bytes) : Prop := Spells t.tokens b

/-- What may follow a value: nothing, a comma or the end of what it is in. -/
inductive Follows : List Token → Prop where
  | nothing : Follows []
  | mark {c : UInt8} (h : c = 0x2C ∨ c = 0x5D ∨ c = 0x7D) (tokens : List Token) : Follows (.mark c :: tokens)

/-- What comes after a part of a row may follow a value: a comma, or the sign that closes the row. -/
theorem follows_row {parts : List (List Token)} {c : UInt8} (h : c = 0x5D ∨ c = 0x7D) (tokens : List Token) :
    Follows (row false parts ++ .mark c :: tokens) := by
  cases parts with
  | nil => exact .mark (Or.inr h) tokens
  | cons part more => exact .mark (Or.inl rfl) _

/-! ## Where tokens begin -/

variable {token : Token} {tokens : List Token} {b rest : Bytes}

/-- The byte by which a value other than a string, an array or an object begins. -/
def opensScalar (c : UInt8) : Bool := c == 0x6E || c == 0x74 || c == 0x66 || c == 0x2D || isDigit c

/-- A magnitude begins with a digit. -/
theorem IsMagnitude.head (h : IsMagnitude b) : ∃ c more, b = c :: more ∧ isDigit c = true := by
  obtain ⟨hwhole, -, -⟩ := h
  cases hwhole with
  | zero => exact ⟨0x30, _, rfl, rfl⟩
  | digits hc => exact ⟨_, _, rfl, hc⟩

/-- A scalar begins with a sign by which it is known. -/
theorem IsScalar.head (h : IsScalar b) : ∃ c more, b = c :: more ∧ opensScalar c = true := by
  cases h with
  | null => exact ⟨_, _, rfl, rfl⟩
  | yes => exact ⟨_, _, rfl, rfl⟩
  | no => exact ⟨_, _, rfl, rfl⟩
  | positive h =>
    obtain ⟨c, more, rfl, hc⟩ := h.head
    exact ⟨c, more, rfl, by rw [opensScalar, hc, Bool.or_true]⟩
  | negative h => exact ⟨_, _, rfl, rfl⟩

/-- Such a sign is none of the others. -/
theorem ne_of_opensScalar {c d : UInt8} (hc : opensScalar c = true) (hd : opensScalar d = false) : c ≠ d := by
  rintro rfl
  rw [hc] at hd
  cases hd

/-- In particular it is no white space. -/
theorem isSpace_eq_false {c : UInt8} (h : opensScalar c = true) : isSpace c = false := by
  rw [← Bool.not_eq_true]
  intro hspace
  simp only [isSpace, Bool.or_eq_true, beq_iff_eq] at hspace
  rcases hspace with ((rfl | rfl) | rfl) | rfl <;> cases h

/-- No token begins with white space. -/
theorem Begins.head (h : Begins token b rest) : ∃ c more, b = c :: more ∧ isSpace c = false := by
  cases h with
  | mark h =>
    have hall : marks.all (!isSpace ·) = true := rfl
    have hmark := List.all_eq_true.1 hall _ h
    exact ⟨_, _, rfl, by simpa using hmark⟩
  | scalar h =>
    obtain ⟨c, more, rfl, hc⟩ := h.head
    exact ⟨c, _, rfl, isSpace_eq_false hc⟩
  | str h => exact ⟨0x22, _, rfl, rfl⟩

/-- White space in front makes no difference to what comes after it. -/
theorem skipSpace_append {blanks : Bytes} (h : ∀ c ∈ blanks, isSpace c = true) (b : Bytes) :
    skipSpace (blanks ++ b) = skipSpace b := List.dropWhile_append_of_pos h

/-- After the blanks the first token begins. -/
theorem Spells.uncons (h : Spells (token :: tokens) b) :
    ∃ rest, Begins token (skipSpace b) rest ∧ Spells tokens rest := by
  cases h with
  | @cons _ _ blanks b rest hblanks htoken h =>
    refine ⟨rest, ?_, h⟩
    obtain ⟨c, more, rfl, hc⟩ := htoken.head
    rw [skipSpace_append hblanks, skipSpace, List.dropWhile_cons, hc]
    exact htoken

/-- Blanks in front of the first token do not matter. -/
theorem Spells.skipSpace (h : Spells (token :: tokens) b) : Spells (token :: tokens) (skipSpace b) := by
  obtain ⟨rest, htoken, hrest⟩ := h.uncons
  exact @Spells.cons _ _ [] _ _ (fun _ hc => nomatch hc) htoken hrest

/-- A mark is found after the blanks. -/
theorem Spells.mark_cons {c : UInt8} (h : Spells (.mark c :: tokens) b) :
    ∃ rest, Json.skipSpace b = c :: rest ∧ Spells tokens rest := by
  obtain ⟨rest, hbegins, hrest⟩ := h.uncons
  generalize Json.skipSpace b = b' at hbegins
  cases hbegins
  exact ⟨rest, rfl, hrest⟩

/-- A string is found after the blanks. -/
theorem Spells.str_cons {units : List Nat} (h : Spells (.str units :: tokens) b) :
    ∃ body rest, Json.skipSpace b = 0x22 :: body ∧ Spelled units body rest ∧ Spells tokens rest := by
  obtain ⟨rest, hbegins, hrest⟩ := h.uncons
  generalize Json.skipSpace b = b' at hbegins
  cases hbegins with
  | @str _ body _ hs => exact ⟨body, rest, rfl, hs, hrest⟩

/-- The byte by which a string, an array or an object begins. -/
def Tree.opener? : Tree → Option UInt8
  | .scalar _ => none
  | .str _ => some 0x22
  | .arr _ => some 0x5B
  | .obj _ => some 0x7B

/-- The bytes by which a value may begin. -/
def Tree.Opens : Tree → UInt8 → Prop
  | .scalar _, c => opensScalar c = true
  | .str _, c => c = 0x22
  | .arr _, c => c = 0x5B
  | .obj _, c => c = 0x7B

/-- A tree does not open with white space. -/
theorem Tree.Opens.isSpace {t : Tree} {c : UInt8} (h : t.Opens c) : isSpace c = false := by
  cases t with
  | scalar s => exact isSpace_eq_false h
  | str units => rw [show c = 0x22 from h]; rfl
  | arr items => rw [show c = 0x5B from h]; rfl
  | obj members => rw [show c = 0x7B from h]; rfl

/-- Nor with any other sign but those by which it is known. -/
theorem Tree.Opens.ne {t : Tree} {c d : UInt8} (h : t.Opens c) (hscalar : opensScalar d = false)
    (hother : t.opener? ≠ some d) : c ≠ d := by
  rintro rfl
  cases t with
  | scalar s => exact ne_of_opensScalar h hscalar rfl
  | str units => exact hother (congrArg some (Eq.symm h))
  | arr items => exact hother (congrArg some (Eq.symm h))
  | obj members => exact hother (congrArg some (Eq.symm h))

/-- No value begins with what closes an array. -/
theorem Tree.Opens.ne_close {t : Tree} {c : UInt8} (h : t.Opens c) : c ≠ 0x5D :=
  h.ne rfl (by cases t <;> simp [opener?])

/-- A value begins after the blanks. -/
theorem Tree.head {t : Tree} (h : Spells (t.tokens ++ tokens) b) :
    ∃ c more, Json.skipSpace b = c :: more ∧ t.Opens c ∧ Spells (t.tokens ++ tokens) (c :: more) := by
  -- the first token of each kind begins with a byte of its own
  cases t with
  | scalar s =>
    rw [Tree.tokens, List.singleton_append] at h ⊢
    have hspells := h.skipSpace
    obtain ⟨rest, hbegins, -⟩ := h.uncons
    generalize Json.skipSpace b = b' at hbegins hspells
    cases hbegins with
    | scalar hs =>
      obtain ⟨c, more, rfl, hc⟩ := hs.head
      exact ⟨c, _, rfl, hc, hspells⟩
  | str units =>
    have hspells := Spells.skipSpace h
    obtain ⟨body, -, hskip, -⟩ := Spells.str_cons h
    exact ⟨_, body, hskip, rfl, hskip ▸ hspells⟩
  | arr items =>
    have hspells := Spells.skipSpace h
    obtain ⟨rest, hskip, -⟩ := Spells.mark_cons h
    exact ⟨_, rest, hskip, rfl, hskip ▸ hspells⟩
  | obj members =>
    have hspells := Spells.skipSpace h
    obtain ⟨rest, hskip, -⟩ := Spells.mark_cons h
    exact ⟨_, rest, hskip, rfl, hskip ▸ hspells⟩

/-- Where no token is left only white space is. -/
theorem Spells.skipSpace_nil (h : Spells [] b) : Json.skipSpace b = [] := by
  obtain ⟨hb⟩ := h
  exact List.dropWhile_eq_nil_iff.2 hb

end Phrasebook.Json
