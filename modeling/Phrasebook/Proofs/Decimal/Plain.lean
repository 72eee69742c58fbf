import Mathlib.Data.List.Basic
import Mathlib.Data.List.Induction
import Phrasebook.Decimal.Layout
import Phrasebook.Decimal.Numeral
/-!
# The plain form of a number

A number has many forms that are read, and one in which it is written. An integer is written without a plus, without
needless zeros and with a minus only if it is negative; an integer that is read is written as it was read exactly if it
was in this form (`toString_iff_of_readInt?`). Of a real number less can be told from its text alone, as its digits are
rounded; but what is written always is in a form of this kind, with a fraction that ends in no zero and without a power
of ten (`isPlainReal_render`).
-/

set_option autoImplicit false

namespace Phrasebook.Decimal

/-- Digits without a needless zero at the front. -/
structure IsWhole (ds : List Char) : Prop where
  nonempty : ds ≠ []
  digits : ∀ c ∈ ds, c.isDigit = true
  front : ds.head? = some '0' → ds = ['0']

/-- Digits without a needless zero at the end. -/
structure IsFraction (ds : List Char) : Prop where
  nonempty : ds ≠ []
  digits : ∀ c ∈ ds, c.isDigit = true
  back : ds.getLast? ≠ some '0'

/-- An integer in its plain form. -/
def IsPlainInt (cs : List Char) : Prop := IsWhole cs ∨ ∃ ds, cs = '-' :: ds ∧ IsWhole ds ∧ ds ≠ ['0']

/-- The magnitude of a real number in its plain form: it is infinite, or whole, or has a fraction. -/
def IsPlainMagnitude (cs : List Char) : Prop :=
  cs = ['i', 'n', 'f'] ∨ IsWhole cs ∨ ∃ whole fraction, cs = whole ++ '.' :: fraction ∧ IsWhole whole ∧ IsFraction fraction

/-- A real number in its plain form. -/
def IsPlainReal (cs : List Char) : Prop :=
  cs = ['N', 'a', 'N'] ∨ IsPlainMagnitude cs ∨ ∃ rest, cs = '-' :: rest ∧ IsPlainMagnitude rest

/-! ## Digits -/

section Digits

/-- The digits are ten code points in a row. -/
theorem isDigit_iff {c : Char} : c.isDigit = true ↔ 48 ≤ c.toNat ∧ c.toNat ≤ 57 := by
  rw [Char.isDigit, Bool.and_eq_true, decide_eq_true_eq, decide_eq_true_eq]
  exact Iff.rfl

/-- A digit is the one for its value. -/
theorem digitChar_of_isDigit {c : Char} (h : c.isDigit = true) : (c.toNat - '0'.toNat).digitChar = c := by
  have hzero : '0'.toNat = 48 := rfl
  obtain ⟨hlow, hhigh⟩ := isDigit_iff.1 h
  apply Char.toNat_inj.1
  rw [Nat.toNat_digitChar_of_lt_ten] <;> omega

/-- One more digit makes a number ten times as large and adds its value. -/
theorem digitsFrom_append_singleton (n : Nat) (ds : List Char) (d : Char) :
    digitsFrom n (ds ++ [d]) = digitsFrom n ds * 10 + (d.toNat - '0'.toNat) := by
  rw [digitsFrom, List.foldl_append]
  rfl

/-- A number is written with digits only. -/
theorem mem_toDigits {n : Nat} {c : Char} (h : c ∈ Nat.toDigits 10 n) : c.isDigit = true :=
  Nat.isDigit_of_mem_toDigits (by decide) (by decide) h

/-- The last digit of a number is written last, and the others before it. -/
theorem toDigits_of_ten_le {n : Nat} (h : 10 ≤ n) :
    Nat.toDigits 10 n = Nat.toDigits 10 (n / 10) ++ [(n % 10).digitChar] := by
  rw [Nat.toDigits_eq_if (by decide), if_neg (Nat.not_lt.2 h)]

/-- No number but zero begins with a zero. -/
theorem head?_toDigits {n : Nat} (h : n ≠ 0) : (Nat.toDigits 10 n).head? ≠ some '0' := by
  induction n using Nat.strongRecOn with
  | ind n ih =>
    by_cases hsmall : n < 10
    · rw [Nat.toDigits_of_lt_base hsmall]
      simpa using h
    · rw [toDigits_of_ten_le (Nat.not_lt.1 hsmall), List.head?_append_of_ne_nil _ Nat.toDigits_ne_nil]
      exact ih (n / 10) (by omega) (by omega)

/-- The last digit is the rest on division by ten. -/
theorem getLast?_toDigits (n : Nat) : (Nat.toDigits 10 n).getLast? = some (n % 10).digitChar := by
  by_cases hsmall : n < 10
  · rw [Nat.toDigits_of_lt_base hsmall, Nat.mod_eq_of_lt hsmall]
    rfl
  · rw [toDigits_of_ten_le (Nat.not_lt.1 hsmall), List.getLast?_concat]

/-- So the digits of a number are a whole. -/
theorem isWhole_toDigits (n : Nat) : IsWhole (Nat.toDigits 10 n) where
  nonempty := Nat.toDigits_ne_nil
  digits _ := mem_toDigits
  front h := by
    by_cases hzero : n = 0
    · rw [hzero, Nat.toDigits_zero]
    · exact absurd h (head?_toDigits hzero)

/-- Without its last digit a number that is written as it should be still is. -/
theorem IsWhole.of_append_singleton {ds : List Char} {d : Char} (h : IsWhole (ds ++ [d])) (hne : ds ≠ []) :
    IsWhole ds ∧ ds ≠ ['0'] := by
  have hhead : ds.head? ≠ some '0' := by
    intro hzero
    have hall := h.front (by rw [List.head?_append_of_ne_nil _ hne, hzero])
    have hlen := congrArg List.length hall
    rw [List.length_append, List.length_singleton, List.length_singleton] at hlen
    exact hne (List.eq_nil_of_length_eq_zero (by omega))
  refine ⟨⟨hne, fun c hc => h.digits c (List.mem_append_left _ hc), fun hzero => absurd hzero hhead⟩, ?_⟩
  rintro rfl
  exact hhead rfl

/-- The digits of a whole are those of the number that it stands for. -/
theorem IsWhole.toDigits_digitsFrom {ds : List Char} (h : IsWhole ds) : Nat.toDigits 10 (digitsFrom 0 ds) = ds := by
  induction ds using List.reverseRecOn with
  | nil => exact absurd rfl h.nonempty
  | append_singleton ds d ih =>
    have hdigit : d.isDigit = true := h.digits d (by simp)
    have hlast := digitChar_of_isDigit hdigit
    have hlt : d.toNat - '0'.toNat < 10 := by
      have hzero : '0'.toNat = 48 := rfl
      have hbounds := isDigit_iff.1 hdigit
      omega
    rw [digitsFrom_append_singleton]
    by_cases hne : ds = []
    · subst hne
      rw [digitsFrom, List.foldl_nil, Nat.zero_mul, Nat.zero_add, Nat.toDigits_of_lt_base hlt, hlast]
      rfl
    · obtain ⟨hds, hzero⟩ := h.of_append_singleton hne
      have hfront := ih hds
      -- the digits in front make a number of their own, as they are not a single zero
      have hpos : 0 < digitsFrom 0 ds := by
        rw [Nat.pos_iff_ne_zero]
        intro hnull
        rw [hnull, Nat.toDigits_zero] at hfront
        exact hzero hfront.symm
      rw [Nat.mul_comm, ← Nat.toDigits_append_toDigits (by decide) hpos hlt, hfront,
        Nat.toDigits_of_lt_base hlt, hlast]

/-- Digits are written again as they were exactly if they are a whole. -/
theorem toDigits_digitsFrom_iff (ds : List Char) : Nat.toDigits 10 (digitsFrom 0 ds) = ds ↔ IsWhole ds :=
  ⟨fun h => h ▸ isWhole_toDigits _, IsWhole.toDigits_digitsFrom⟩

end Digits

/-! ## Integers -/

section Integers

/-- What begins with anything else is none. -/
theorem not_isWhole_of_head {c : Char} (h : c.isDigit = false) (cs : List Char) : ¬ IsWhole (c :: cs) := by
  intro hwhole
  have hdigit := hwhole.digits c List.mem_cons_self
  rw [h] at hdigit
  cases hdigit

/-- A number that is not negative is written with its digits. -/
theorem toList_toString_nat (n : Nat) : (toString (n : Int)).toList = Nat.toDigits 10 n := by
  rw [Int.toString_eq_repr, Int.repr_eq_if, if_pos (Int.natCast_nonneg n), Int.toNat_natCast, Nat.toList_repr]

/-- A negative one has a sign before them. -/
theorem toList_toString_neg {n : Nat} (h : n ≠ 0) : (toString (-(n : Int))).toList = '-' :: Nat.toDigits 10 n := by
  have hneg : ¬ (0 : Int) ≤ -(n : Int) := by omega
  rw [Int.toString_eq_repr, Int.repr_eq_if, if_neg hneg, Int.neg_neg, Int.toNat_natCast, String.toList_append,
    Nat.toList_repr]
  rfl

/-- **When an integer is written as it was read.** -/
theorem toString_iff_of_readInt? {cs : List Char} {i : Int} (h : readInt? cs = some i) :
    (toString i).toList = cs ↔ IsPlainInt cs := by
  have hnat : ∀ n : Nat, (toString (n : Int)).toList.head? ≠ some '-' := by
    intro n hhead
    rw [toList_toString_nat] at hhead
    exact absurd (mem_toDigits (List.mem_of_head? hhead)) (by decide)
  rw [readInt?] at h
  simp only [Option.ite_none_left_eq_some, Option.some.injEq] at h
  obtain ⟨hdigits, rfl⟩ := h
  unfold splitSign
  split
  · -- a minus is written again only if there is a number to be negative
    rename_i rest
    have hminus : ¬ IsWhole ('-' :: rest) := not_isWhole_of_head (by decide) rest
    rw [if_pos rfl, IsPlainInt, or_iff_right hminus]
    by_cases hzero : digitsFrom 0 rest = 0
    · rw [hzero]
      refine iff_of_false (fun heq => hnat 0 (by rw [show (((0 : Nat) : Int)) = -((0 : Nat) : Int) from rfl, heq]; rfl)) ?_
      rintro ⟨ds, hds, hwhole, hne⟩
      obtain rfl : rest = ds := (List.cons.inj hds).2
      have hself := hwhole.toDigits_digitsFrom
      rw [hzero, Nat.toDigits_zero] at hself
      exact hne hself.symm
    · rw [toList_toString_neg hzero, List.cons_inj_right, toDigits_digitsFrom_iff]
      constructor
      · intro hwhole
        refine ⟨rest, rfl, hwhole, ?_⟩
        rintro rfl
        exact hzero rfl
      · rintro ⟨ds, hds, hwhole, -⟩
        rwa [(List.cons.inj hds).2]
  · -- a plus is never written
    rename_i rest
    refine iff_of_false (fun heq => ?_) ?_
    · have hhead : '+' ∈ Nat.toDigits 10 (digitsFrom 0 rest) := by
        rw [← toList_toString_nat]
        exact heq ▸ List.mem_cons_self
      exact absurd (mem_toDigits hhead) (by decide)
    · rintro (hwhole | ⟨ds, hds, -⟩)
      · exact not_isWhole_of_head (by decide) rest hwhole
      · exact absurd (List.cons.inj hds).1 (by decide)
  · -- without a sign the text is its digits
    rename_i hminus _
    rw [if_neg Bool.false_ne_true, toList_toString_nat, toDigits_digitsFrom_iff, IsPlainInt]
    refine (or_iff_left ?_).symm
    rintro ⟨ds, rfl, -⟩
    exact hminus ds rfl

end Integers

/-! ## Real numbers

The digits that are written are the fewest that read back, without the zeros at their end. -/

section Reals

/-- No digits but zero end in a zero. -/
def Dec.IsBare (d : Dec) : Prop := d.digits % 10 = 0 → d.digits = 0

/-- Taking zeros from the end leaves none there, given that all the fuel has not been used up. -/
theorem isBare_stripGo (fuel n : Nat) (e : Int) (h : n ≤ fuel + 1) : (Dec.strip.go fuel n e).IsBare := by
  -- the fuel goes down with the number, so when it is used up only a single digit can be left
  fun_induction Dec.strip.go fuel n e with
  | case1 n e =>
    have hsmall : n ≤ 1 := h
    intro hmod
    have hrest : n % 10 = 0 := hmod
    change n = 0
    omega
  | case2 fuel n e hzero ih =>
    simp only [Bool.and_eq_true, bne_iff_ne, beq_iff_eq] at hzero
    exact ih (by omega)
  | case3 fuel n e hzero =>
    simp only [Bool.and_eq_true, bne_iff_ne, beq_iff_eq, not_and] at hzero
    intro hmod
    by_contra hne
    exact hzero hne hmod

/-- A decimal that was stripped ends in no zero, as it has more fuel than digits. -/
theorem Dec.isBare_strip (d : Dec) : d.strip.IsBare := isBare_stripGo d.digits d.digits d.exp (Nat.le_succ _)

/-- So does the shortest decimal for a binary number. -/
theorem Binary.isBare_shortest (x : Binary) (tie : Tie) : (x.shortest tie).IsBare := by
  rw [Binary.shortest]
  split
  · exact fun _ => rfl
  · dsimp only
    split
    · exact Dec.isBare_strip _
    · exact Dec.isBare_strip _

/-- Zero is a whole. -/
theorem isWhole_zero : IsWhole ['0'] := isWhole_toDigits 0

/-- Digits without a zero at the front stay so when something is taken away or put at the end. -/
theorem isWhole_of_head {ds : List Char} (hne : ds ≠ []) (hdigits : ∀ c ∈ ds, c.isDigit = true)
    (hhead : ds.head? ≠ some '0') : IsWhole ds := ⟨hne, hdigits, fun h => absurd h hhead⟩

/-- What is written of digits that are no zero, by where the point is: after them, among them, or before them. -/
theorem toList_place {d : Dec} (h : d.digits ≠ 0) :
    let ds := Nat.toDigits 10 d.digits
    let lead : Int := d.exp + ds.length - 1
    (Layout.plain.place d).toList =
      if 0 ≤ d.exp then ds ++ List.replicate d.exp.toNat '0'
      else if 0 ≤ lead then ds.take (lead.toNat + 1) ++ '.' :: ds.drop (lead.toNat + 1)
      else ['0'] ++ '.' :: (List.replicate (-lead - 1).toNat '0' ++ ds) := by
  intro ds lead
  have hds : (toString d.digits).toList = ds := by rw [Nat.toString_eq_repr, Nat.toList_repr]
  have hlen : (toString d.digits).length = ds.length := by rw [← hds, String.length_toList]
  have hnot : (d.digits == 0) = false := beq_false_of_ne h
  unfold Layout.place
  rw [hnot]
  simp only [hlen, hds, Layout.plain, ge_iff_le, Bool.false_eq_true, if_false, if_true]
  split
  · rw [String.append_empty, String.toList_append, hds, String.toList_ofList]
  · split
    · simp only [String.toList_append, String.toList_ofList]
      exact List.append_assoc _ _ _
    · simp only [String.toList_append, String.toList_ofList, hds]
      exact List.append_assoc _ _ _

/-- A decimal without zeros at the end is placed as a plain magnitude, with the point wherever it falls. -/
theorem isPlainMagnitude_place {d : Dec} (h : d.IsBare) : IsPlainMagnitude (Layout.plain.place d).toList := by
  by_cases hzero : d.digits = 0
  · have hplace : (Layout.plain.place d).toList = ['0'] := by
      unfold Layout.place
      simp [hzero, Layout.plain]
    rw [hplace]
    exact .inr (.inl isWhole_zero)
  · rw [toList_place hzero]
    set ds := Nat.toDigits 10 d.digits with hds
    have hne : ds ≠ [] := Nat.toDigits_ne_nil
    have hdigits : ∀ c ∈ ds, c.isDigit = true := fun c hc => mem_toDigits hc
    have hzeros : ∀ n, ∀ c ∈ List.replicate n '0', c.isDigit = true := by
      intro n c hc
      rw [List.eq_of_mem_replicate hc]
      decide
    have hhead : ds.head? ≠ some '0' := head?_toDigits hzero
    have hlast : ds.getLast? ≠ some '0' := by
      rw [hds, getLast?_toDigits]
      intro hzeroLast
      rw [Option.some.injEq, Nat.digitChar_eq_zero] at hzeroLast
      exact hzero (h hzeroLast)
    split
    · -- the point is after the digits
      refine .inr (.inl (isWhole_of_head (List.append_ne_nil_of_left_ne_nil hne _) ?_ ?_))
      · exact List.forall_mem_append.2 ⟨hdigits, hzeros _⟩
      · rwa [List.head?_append_of_ne_nil _ hne]
    · split
      · -- it is among them, and some are left for the fraction
        have hlt : (d.exp + ds.length - 1).toNat + 1 < ds.length := by omega
        refine .inr (.inr ⟨_, _, rfl, isWhole_of_head ?_ ?_ ?_, ?_, ?_, ?_⟩)
        · exact List.ne_nil_of_length_pos (by rw [List.length_take]; omega)
        · exact fun c hc => hdigits c (List.mem_of_mem_take hc)
        · rwa [List.head?_take, if_neg (by omega)]
        · exact List.ne_nil_of_length_pos (by rw [List.length_drop]; omega)
        · exact fun c hc => hdigits c (List.mem_of_mem_drop hc)
        · rwa [List.getLast?_drop, if_neg (by omega)]
      · -- it is before them, after a zero
        refine .inr (.inr ⟨['0'], _, rfl, isWhole_zero, ?_, ?_, ?_⟩)
        · exact List.append_ne_nil_of_right_ne_nil _ hne
        · exact List.forall_mem_append.2 ⟨hzeros _, hdigits⟩
        · rwa [List.getLast?_append_of_ne_nil _ hne]

/-- **A number is rendered in the plain form**, whatever it is. -/
theorem isPlainReal_render (x : Float) : IsPlainReal (Layout.plain.render x).toList := by
  rw [Layout.render]
  split
  · exact .inl rfl
  · dsimp only
    have hmagnitude : ∀ magnitude : String, IsPlainMagnitude magnitude.toList → ∀ negative : Bool,
        IsPlainReal ((if negative = true then "-" else "") ++ magnitude).toList := by
      intro magnitude hplain negative
      rw [String.toList_append]
      cases negative with
      | true => exact .inr (.inr ⟨_, rfl, hplain⟩)
      | false => exact .inr (.inl hplain)
    split
    · exact hmagnitude "inf" (.inl rfl) _
    · exact hmagnitude _ (isPlainMagnitude_place (Binary.isBare_shortest _ _)) _

end Reals

end Phrasebook.Decimal
