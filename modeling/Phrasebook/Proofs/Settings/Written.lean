import Phrasebook.Proofs.Decimal.Plain
import Phrasebook.Settings.FromValue
/-!
# What a text field makes of a variable

The text of a variable is first taken for a flag or a number, if it can be, and only then for a text. A field that wants
a text gets what the variable stands for written out again, and this need not be the text that was there: `007` comes
out as `7`, and `1.50` as `1.5`. It is the same exactly for a text that stands only for itself, or that has the form
in which the flag or the number is written (`written_ofVariable_eq_iff`).
-/

set_option autoImplicit false

namespace Phrasebook.Settings

open Decimal (readInt? readReal? IsPlainInt IsPlainReal Layout)

/-- An atom written out. -/
def Atom.written : Atom → String
  | .nothing => ""
  | .flag b => toString b
  | .int i => toString i
  | .real x => Layout.plain.render x
  | .text s => s

/-- A text of digits and a sign is an integer of 64 bits. -/
def IsInt64 (text : String) : Prop := ∃ i, readInt? text.toList = some i ∧ inInt64 i = true

/-- A text stays as it is in a variable. -/
structure Stays (text : String) : Prop where
  /-- It is no flag in other letters. -/
  flag : ∀ b : Bool, lower text = toString b → text = toString b
  /-- It is no integer but in the plain form. -/
  integer : IsInt64 text → IsPlainInt text.toList
  /-- It is no other number but in the form in which that is written. -/
  real : ¬ IsInt64 text → ∀ x, readReal? text.toList = some x → Layout.plain.render x = text

section Variable

variable {text : String}

/-- A word for a flag, in whatever letter case, is a flag before it is anything else. -/
theorem ofVariable_of_flag {b : Bool} (h : lower text = toString b) : Atom.ofVariable text = .flag b := by
  change String.ofList (text.toList.map Char.toLower) = toString b at h
  unfold Atom.ofVariable
  rw [h]
  cases b <;> rfl

/-- Any other text is an integer of 64 bits if it reads as one, else a number if it reads as one, and else a text. -/
theorem ofVariable_of_not_flag (h : ∀ b : Bool, lower text ≠ toString b) : Atom.ofVariable text =
    match (readInt? text.toList).filter inInt64, readReal? text.toList with
    | some i, _ => .int i
    | none, some x => .real x
    | none, none => .text text := by
  unfold Atom.ofVariable
  split
  · rename_i htrue
    exact absurd htrue (h true)
  · rename_i hfalse
    exact absurd hfalse (h false)
  · rfl

/-- No integer is taken of a text exactly if it is none of 64 bits. -/
theorem filter_eq_none_iff : (readInt? text.toList).filter inInt64 = none ↔ ¬ IsInt64 text := by
  rw [Option.filter_eq_none_iff, IsInt64, not_exists]
  exact forall_congr' fun i => not_and.symm

/-- A field that wants a text gets what the variable stands for, written out. -/
theorem asText_ofVariable (origin : Option String) (text : String) :
    (Value.atom origin (.ofVariable text)).asText = .ok (Atom.ofVariable text).written := by
  by_cases hflag : ∃ b : Bool, lower text = toString b
  · obtain ⟨b, hb⟩ := hflag
    rw [ofVariable_of_flag hb]
    rfl
  · rw [ofVariable_of_not_flag (not_exists.1 hflag)]
    split <;> rfl

/-- The two flags in small letters stay as they are. -/
theorem stays_flag (b : Bool) : Stays (toString b) := by
  have hnumber : readInt? (toString b).toList = none ∧ readReal? (toString b).toList = none := by
    cases b <;> exact ⟨rfl, rfl⟩
  have hlow : lower (toString b) = toString b := by
    cases b <;> rfl
  refine ⟨fun other h => hlow ▸ h, ?_, ?_⟩
  · rintro ⟨i, hread, -⟩
    rw [hnumber.1] at hread
    cases hread
  · intro _ x hread
    rw [hnumber.2] at hread
    cases hread

/-- **Which texts a text field gets as they are.** -/
theorem written_ofVariable_eq_iff (text : String) : (Atom.ofVariable text).written = text ↔ Stays text := by
  -- a flag first, then an integer, then a real: the order in which a variable is read
  by_cases hflag : ∃ b : Bool, lower text = toString b
  · obtain ⟨b, hb⟩ := hflag
    rw [ofVariable_of_flag hb]
    constructor
    · -- then it is the flag as it is written, which is no number
      intro hsame
      rw [← hsame]
      exact stays_flag b
    · intro hstays
      exact (hstays.flag b hb).symm
  · rw [not_exists] at hflag
    rw [ofVariable_of_not_flag hflag]
    by_cases hint : IsInt64 text
    · obtain ⟨i, hread, hrange⟩ := hint
      have hform := Decimal.toString_iff_of_readInt? hread
      rw [hread, Option.filter_some, if_pos hrange]
      change toString i = text ↔ _
      rw [← String.toList_inj, hform]
      constructor
      · intro hplain
        exact ⟨fun b hb => absurd hb (hflag b), fun _ => hplain, fun hnot => absurd ⟨i, hread, hrange⟩ hnot⟩
      · intro hstays
        exact hstays.integer ⟨i, hread, hrange⟩
    · rw [filter_eq_none_iff.2 hint]
      cases hreal : readReal? text.toList with
      | none =>
        refine iff_of_true rfl ⟨fun b hb => absurd hb (hflag b), fun h => absurd h hint, ?_⟩
        intro _ x hx
        rw [hreal] at hx
        cases hx
      | some x =>
        change Layout.plain.render x = text ↔ _
        constructor
        · intro hsame
          refine ⟨fun b hb => absurd hb (hflag b), fun h => absurd h hint, ?_⟩
          intro _ y hy
          rw [hreal, Option.some.injEq] at hy
          rw [← hy, hsame]
        · intro hstays
          exact hstays.real hint x hreal

example : (Atom.ofVariable "1.50").written = "1.5" := by decide +kernel

/-- So a number that stays as it is has the plain form: no sign but a minus, no needless zeros, and no power of ten. -/
theorem Stays.isPlainReal (h : Stays text) (hreal : (readReal? text.toList).isSome = true) :
    IsPlainReal text.toList := by
  by_cases hint : IsInt64 text
  · rcases h.integer hint with hwhole | ⟨ds, hds, hwhole, -⟩
    · exact .inr (.inl (.inr (.inl hwhole)))
    · exact .inr (.inr ⟨ds, hds, .inr (.inl hwhole)⟩)
  · obtain ⟨x, hx⟩ := Option.isSome_iff_exists.1 hreal
    rw [← h.real hint x hx]
    exact Decimal.isPlainReal_render x

end Variable

end Phrasebook.Settings
