import Phrasebook.Proofs.Json.Grammar
import Phrasebook.Proofs.Json.ReadBack
/-!
# What is printed is JSON

The compact text of a value is one of the texts of its tree (`Prints`): strings are spelled with escapes where there has
to be one, and nothing stands between the tokens. Numbers are left out, as no phrase, query or history has any.
-/

set_option autoImplicit false

namespace Phrasebook.Json

/-- The text of a value spells the tokens of a tree, whatever comes after it. -/
structure Prints (j : Json) (t : Tree) : Prop where
  spells : ∀ {tokens : List Token} {rest : Bytes}, Spells tokens rest →
    Spells (t.tokens ++ tokens) (j.toBytes ++ rest)

variable {units : List Nat} {tokens : List Token} {b rest : Bytes}

/-- A token with no white space before it comes before the others. -/
theorem Spells.token {token : Token} (htoken : Begins token b rest) (h : Spells tokens rest) :
    Spells (token :: tokens) b :=
  @Spells.cons _ _ [] _ _ (fun _ hc => nomatch hc) htoken h

/-- So does a mark. -/
theorem Spells.mark {c : UInt8} (hc : c ∈ marks) (h : Spells tokens rest) : Spells (.mark c :: tokens) (c :: rest) :=
  .token (.mark hc) h

/-- Blanks may stand before a text. -/
theorem Spells.blanks {blanks : Bytes} (hblanks : ∀ c ∈ blanks, isSpace c = true) (h : Spells tokens b) :
    Spells tokens (blanks ++ b) := by
  cases h with
  | nil hb =>
    refine .nil fun c hc => ?_
    rcases List.mem_append.1 hc with hc | hc
    · exact hblanks c hc
    · exact hb c hc
  | @cons token tokens before b' rest' hbefore htoken h =>
    rw [← List.append_assoc]
    refine .cons (fun c hc => ?_) htoken h
    rcases List.mem_append.1 hc with hc | hc
    · exact hblanks c hc
    · exact hbefore c hc

/-! ## Strings -/

/-- A character of the first plane is one unit. -/
theorem unitsOf_of_lt {c : Char} (h : c.toNat < 0x10000) : unitsOf c = [c.toNat] := if_pos h

/-- A character that is printed with a letter after a backslash spells itself. -/
theorem spelled_letter {c : Char} (e x : UInt8) (he : shortEscape? e = some x) (hunits : unitsOf c = [x.toNat])
    (hbytes : (escapeChar c).flatMap String.utf8EncodeChar = [0x5C, e]) (h : Spelled units b rest) :
    Spelled (unitsOf c ++ units) ((escapeChar c).flatMap String.utf8EncodeChar ++ b) rest := by
  rw [hunits, hbytes]
  exact .short he h

/-- A character is spelled as it is printed. -/
theorem spelled_escapeChar (c : Char) (h : Spelled units b rest) :
    Spelled (unitsOf c ++ units) ((escapeChar c).flatMap String.utf8EncodeChar ++ b) rest := by
  -- the printer escapes the quote, the backslash and the controls, and copies every other character
  by_cases hquote : c = '"'
  · subst hquote
    exact spelled_letter 0x22 0x22 rfl rfl rfl h
  by_cases hbackslash : c = '\\'
  · subst hbackslash
    exact spelled_letter 0x5C 0x5C rfl rfl rfl h
  by_cases hcontrol : c.toNat < 0x20
  · by_cases hletter : c = '\x08' ∨ c = '\t' ∨ c = '\n' ∨ c = '\x0c' ∨ c = '\r'
    · rcases hletter with rfl | rfl | rfl | rfl | rfl
      · exact spelled_letter 0x62 0x08 rfl rfl rfl h
      · exact spelled_letter 0x74 0x09 rfl rfl rfl h
      · exact spelled_letter 0x6E 0x0A rfl rfl rfl h
      · exact spelled_letter 0x66 0x0C rfl rfl rfl h
      · exact spelled_letter 0x72 0x0D rfl rfl rfl h
    · have hdigits : escapeChar c = '\\' :: 'u' :: Text.Hex.digits 4 c.toNat := by
        simp only [not_or] at hletter
        simp only [escapeChar, beq_iff_eq, hquote, hbackslash, hcontrol, hletter, if_false, if_true]
      obtain ⟨h₁, h₂, h₃, h₄, hbytes, hvalue⟩ := hexValues?_digits (n := c.toNat) (by omega)
      rw [hdigits, List.flatMap_cons, List.flatMap_cons, hbytes, unitsOf_of_lt (by omega)]
      exact .hex hvalue h
  · have hself : escapeChar c = [c] := by
      simp only [escapeChar, beq_iff_eq, hquote, hbackslash, hcontrol, if_false]
    rw [hself, List.flatMap_singleton]
    exact .plain hquote hbackslash hcontrol h

/-- Printed characters spell their units, whichever of them are escaped. -/
theorem spelled_escapeChars (cs : List Char) (rest : Bytes) :
    Spelled (cs.flatMap unitsOf) ((cs.flatMap escapeChar).flatMap String.utf8EncodeChar ++ 0x22 :: rest) rest := by
  induction cs with
  | nil => exact .quote
  | cons c more ih =>
    rw [List.flatMap_cons, List.flatMap_cons, List.flatMap_append, List.append_assoc]
    exact spelled_escapeChar c ih

/-- A printed text is a string of its units. -/
theorem begins_quote (s : String) (rest : Bytes) :
    Begins (.str (unitsOfText s)) (Text.encode (quote s) ++ rest) rest := by
  rw [encode_quote, List.cons_append, List.append_assoc]
  exact .str (spelled_escapeChars s.toList rest)

/-- A text prints as the string of its units. -/
theorem prints_str (s : String) : Prints (.str s) (.str (unitsOfText s)) :=
  ⟨fun h => .token (begins_quote s _) h⟩

/-! ## Arrays and objects -/

/-- `null` prints as the scalar that it is. -/
theorem prints_null : Prints .null (.scalar (0x6E :: nullTail)) :=
  ⟨fun h => .token (.scalar .null) h⟩

/-- A row of parts is printed as a row. -/
theorem prints_row {α : Type} {bytes : α → Bytes} {tokensOf : α → List Token} {parts : List α}
    (hparts : ∀ p ∈ parts, ∀ {tokens : List Token} {rest : Bytes}, Spells tokens rest →
      Spells (tokensOf p ++ tokens) (bytes p ++ rest)) (first : Bool) (h : Spells tokens rest) :
    Spells (row first (parts.map tokensOf) ++ tokens) (separated first (parts.map bytes) ++ rest) := by
  induction parts generalizing first with
  | nil => exact h
  | cons p more ih =>
    have hmore := ih (fun q hq => hparts q (List.mem_cons_of_mem _ hq)) false
    have hpart := hparts p List.mem_cons_self hmore
    rw [← List.append_assoc, ← List.append_assoc] at hpart
    cases first with
    | true => exact hpart
    | false => exact .mark (by decide) hpart

/-- An array prints as the array of what its items print as. -/
theorem prints_arr (parts : List (Json × Tree)) (h : ∀ p ∈ parts, Prints p.1 p.2) :
    Prints (.arr (parts.map Prod.fst)) (.arr (parts.map Prod.snd)) := by
  refine ⟨?_⟩
  intro tokens rest hrest
  have hrow := prints_row (fun p hp => (h p hp).spells) true (.mark (c := 0x5D) (by decide) hrest)
  rw [toBytes_arr, Tree.tokens_arr, List.map_map, List.map_map, List.cons_append, List.cons_append, List.append_assoc,
    List.append_assoc]
  exact .mark (by decide) hrow

/-- A printed member is its name, the colon and its value. -/
theorem spells_member (name : String) {j : Json} {t : Tree} (h : Prints j t) {tokens : List Token} {rest : Bytes}
    (hrest : Spells tokens rest) :
    Spells (.str (unitsOfText name) :: .mark 0x3A :: t.tokens ++ tokens) (memberBytes (name, j) ++ rest) := by
  rw [memberBytes, List.append_assoc, List.cons_append, List.cons_append, List.cons_append]
  exact .token (begins_quote name _) (.mark (by decide) (h.spells hrest))

/-- An object prints as the object of what its members print as. -/
theorem prints_obj (parts : List (String × Json × Tree)) (h : ∀ p ∈ parts, Prints p.2.1 p.2.2) :
    Prints (.obj (parts.map fun p => (p.1, p.2.1))) (.obj (parts.map fun p => (unitsOfText p.1, p.2.2))) := by
  refine ⟨?_⟩
  intro tokens rest hrest
  have hrow := prints_row (fun p hp => spells_member p.1 (h p hp)) true (.mark (c := 0x7D) (by decide) hrest)
  rw [toBytes_obj, Tree.tokens_obj, List.map_map, List.map_map, List.cons_append, List.cons_append, List.append_assoc,
    List.append_assoc]
  exact .mark (by decide) hrow

/-- **What is printed is a text** of the tree. -/
theorem Prints.writes {j : Json} {t : Tree} (h : Prints j t) : t.Writes j.toBytes := by
  have hempty : Spells [] [] := .nil fun _ hc => nomatch hc
  have htext := h.spells hempty
  rw [List.append_nil, List.append_nil] at htext
  exact htext

end Phrasebook.Json
