import Phrasebook.Proofs.Json.Spelling
/-!
# Skipping takes one value

A value that nobody wants is skipped without a stack of calls: the arrays and objects that are open are kept in a
list, and one round skips a scalar or opens another of them. What the rounds of one value amount to is said by
`Skips`: afterwards the same is open as before, and the tokens behind the value are left. It holds of every tree
(`skips`), by induction on the tree, with one lemma for the parts of arrays and objects alike (`skips_row`).

Rounds are counted by tokens, of which every one has a byte.
-/

set_option autoImplicit false

namespace Phrasebook.Json

variable {b rest : Bytes} {tokens : List Token} {o : Open} {outer opened : List Open}

/-! ## Numbers -/

/-- A number that ends before these bytes goes no further. -/
def EndsNumber (b : Bytes) : Prop := ∀ c ∈ b.head?, isDigit c = false ∧ c ≠ 0x2E ∧ c ≠ 0x65 ∧ c ≠ 0x45

/-- White space ends a number: it is no digit, no point and no sign of an exponent. -/
theorem endsNumber_of_blank {c : UInt8} (h : isSpace c = true) :
    isDigit c = false ∧ c ≠ 0x2E ∧ c ≠ 0x65 ∧ c ≠ 0x45 := by
  simp only [isSpace, Bool.or_eq_true, beq_iff_eq] at h
  rcases h with ((rfl | rfl) | rfl) | rfl <;> decide

/-- What may follow a value ends a number. -/
theorem Follows.endsNumber (hfollows : Follows tokens) (h : Spells tokens b) : EndsNumber b := by
  intro c hc
  cases hfollows with
  | nothing =>
    obtain ⟨hb⟩ := h
    exact endsNumber_of_blank (hb c (List.mem_of_mem_head? hc))
  | mark hmark more =>
    cases h with
    | @cons _ _ blanks b rest hblanks htoken _ =>
      cases blanks with
      | cons d blanks =>
        obtain rfl := Option.some.inj hc
        exact endsNumber_of_blank (hblanks _ List.mem_cons_self)
      | nil =>
        cases htoken
        obtain rfl := Option.some.inj hc
        rcases hmark with rfl | rfl | rfl <;> decide

/-- A run of digits ends where they do. -/
theorem dropWhile_digits {digits : Bytes} (h : ∀ c ∈ digits, isDigit c = true)
    (hrest : ∀ c ∈ rest.head?, isDigit c = false) : (digits ++ rest).dropWhile isDigit = rest := by
  rw [List.dropWhile_append_of_pos h]
  cases rest with
  | nil => rfl
  | cons c more =>
    rw [List.dropWhile_cons, hrest c rfl]
    rfl

section Number

variable {whole fraction exponent : Bytes}

/-- Where an exponent begins, or what comes after a number, no digit stands and no point. -/
theorem head_exponent (h : IsExponent exponent) (hend : EndsNumber rest) :
    ∀ c ∈ (exponent ++ rest).head?, isDigit c = false ∧ c ≠ 0x2E := by
  intro c hc
  cases h with
  | absent => exact ⟨(hend c hc).1, (hend c hc).2.1⟩
  | digits he =>
    obtain rfl := Option.some.inj hc
    rcases he with rfl | rfl <;> decide

/-- Where a fraction begins, or what comes after it, no digit stands. -/
theorem head_fraction (h : IsFraction fraction) (hrest : ∀ c ∈ rest.head?, isDigit c = false) :
    ∀ c ∈ (fraction ++ rest).head?, isDigit c = false := by
  intro c hc
  cases h with
  | absent => exact hrest c hc
  | digits =>
    obtain rfl := Option.some.inj hc
    rfl

/-- The digits of an exponent are skipped, with their sign if they have one. -/
theorem skipExponent_digits {sign digits : Bytes} (hsign : sign = [] ∨ sign = [0x2B] ∨ sign = [0x2D])
    (hdigits : IsDigits digits) (hend : EndsNumber rest) : skipExponent (sign ++ digits ++ rest) = .ok rest := by
  obtain ⟨hne, hall⟩ := hdigits
  obtain ⟨c, more, rfl⟩ := List.exists_cons_of_ne_nil hne
  have hc : isDigit c = true := hall c List.mem_cons_self
  have hrun : (more ++ rest).dropWhile isDigit = rest :=
    dropWhile_digits (fun d hd => hall d (List.mem_cons_of_mem _ hd)) fun d hd => (hend d hd).1
  refine Eq.trans ?_ (congrArg Except.ok hrun)
  have hunsigned : (if isDigit c then Except.ok ((more ++ rest).dropWhile isDigit)
      else failAt .invalidNumber (more ++ rest)) = .ok ((more ++ rest).dropWhile isDigit) := if_pos hc
  rcases hsign with rfl | rfl | rfl
  · rw [skipExponent.eq_def]
    split
    · next heq => cases heq; cases hc
    · next heq => cases heq; cases hc
    · exact hunsigned
  · exact hunsigned
  · exact hunsigned

/-- An exponent is skipped if there is one. -/
theorem skipExponent?_append (h : IsExponent exponent) (hend : EndsNumber rest) :
    skipExponent? (exponent ++ rest) = .ok rest := by
  cases h with
  | absent =>
    rw [List.nil_append]
    cases rest with
    | nil => rfl
    | cons c more =>
      obtain ⟨-, -, hlower, hupper⟩ := hend c rfl
      rw [skipExponent?, if_neg (by simp [hlower, hupper])]
  | @digits e sign digits he hsign h =>
    have hletter : (e == 0x65 || e == 0x45) = true := by simpa using he
    rw [List.cons_append, skipExponent?, if_pos hletter, skipExponent_digits hsign h hend]

/-- A fraction is skipped if there is one, and the exponent after it. -/
theorem skipFraction?_append (hfraction : IsFraction fraction) (hexponent : IsExponent exponent)
    (hend : EndsNumber rest) : skipFraction? (fraction ++ (exponent ++ rest)) = .ok rest := by
  have hhead := head_exponent hexponent hend
  cases hfraction with
  | absent =>
    rw [List.nil_append, skipFraction?, skipExponent?_append hexponent hend]
    rintro more heq
    rw [heq] at hhead
    exact (hhead 0x2E rfl).2 rfl
  | digits h =>
    obtain ⟨hne, hall⟩ := h
    obtain ⟨c, more, rfl⟩ := List.exists_cons_of_ne_nil hne
    have hrun : (more ++ (exponent ++ rest)).dropWhile isDigit = exponent ++ rest :=
      dropWhile_digits (fun d hd => hall d (List.mem_cons_of_mem _ hd)) fun d hd => (hhead d hd).1
    rw [List.cons_append, List.cons_append, skipFraction?, if_pos (hall c List.mem_cons_self), hrun,
      skipExponent?_append hexponent hend]

/-- **A number is skipped** up to the first byte that cannot belong to it. -/
theorem skipNumber_append {magnitude : Bytes} (h : IsMagnitude magnitude) (hend : EndsNumber rest) :
    skipNumber (magnitude ++ rest) = .ok rest := by
  obtain ⟨hwhole, hfraction, hexponent⟩ := h
  have hhead := head_fraction hfraction fun c hc => (head_exponent hexponent hend c hc).1
  rw [List.append_assoc, List.append_assoc]
  have hmore := skipFraction?_append hfraction hexponent hend
  generalize _ ++ (_ ++ rest) = tail at hhead hmore
  cases hwhole with
  | zero =>
    -- a digit behind the zero would be refused, and there is none
    cases tail with
    | nil => exact hmore
    | cons d more =>
      have hd : isDigit d = false := hhead d rfl
      rw [List.singleton_append, skipNumber.eq_def]
      simp only [beq_self_eq_true, hd, Bool.false_eq_true, if_false, if_true]
      exact hmore
  | @digits c digits hc hzero hall =>
    have hzero : (c == 0x30) = false := by simpa using hzero
    rw [List.cons_append, skipNumber.eq_def]
    simp only [hzero, hc, Bool.false_eq_true, if_false, if_true, dropWhile_digits hall hhead]
    exact hmore

end Number

/-! ## One round -/

/-- What is a digit is none of the other signs. -/
theorem ne_of_isDigit {c d : UInt8} (hc : isDigit c = true) (hd : isDigit d = false) : (c == d) = false := by
  rw [beq_eq_false_iff_ne]
  rintro rfl
  rw [hc] at hd
  cases hd

/-- A scalar is skipped whole, and nothing stays open after it. -/
theorem skipOne_scalar {s : Bytes} (hs : IsScalar s) (h : skipSpace b = s ++ rest) (hend : EndsNumber rest) :
    skipOne b = .ok (rest, none) := by
  rw [skipOne, h]
  -- each scalar is told by its first byte, a number by being none of the others
  cases hs with
  | null => rfl
  | yes => rfl
  | no => rfl
  | positive hmagnitude =>
    have hskip := skipNumber_append hmagnitude hend
    obtain ⟨c, more, rfl, hc⟩ := hmagnitude.head
    rw [List.cons_append] at hskip ⊢
    simp only [ne_of_isDigit hc (d := 0x6E) rfl, ne_of_isDigit hc (d := 0x74) rfl, ne_of_isDigit hc (d := 0x66) rfl,
      ne_of_isDigit hc (d := 0x2D) rfl, hc, hskip, Bool.false_eq_true, if_false, if_true]
    rfl
  | negative hmagnitude =>
    have hskip := skipNumber_append hmagnitude hend
    rw [List.cons_append]
    change (skipNumber _).map _ = _
    rw [hskip]
    rfl

/-- So is a token that is a value by itself. -/
theorem skipOne_token {token : Token} (htoken : (∃ s, token = .scalar s) ∨ ∃ units, token = .str units)
    (hfollows : Follows tokens) (h : Spells (token :: tokens) b) :
    ∃ rest, Spells tokens rest ∧ skipOne b = .ok (rest, none) := by
  obtain ⟨rest, hbegins, hrest⟩ := h.uncons
  refine ⟨rest, hrest, ?_⟩
  generalize hskip : skipSpace b = b' at hbegins
  cases hbegins with
  | mark => simp at htoken
  | scalar hs => exact skipOne_scalar hs hskip (hfollows.endsNumber hrest)
  | str hs =>
    rw [skipOne, hskip]
    change (skipString _).map _ = _
    rw [skipString_spelled hs]
    rfl

/-- The byte that opens an array or an object. -/
def Open.opener : Open → UInt8
  | .list => 0x5B
  | .object => 0x7B

/-- Where a list or an object opens it stays open, and the skipping goes on inside. -/
theorem skipOne_opener (h : Spells (.mark o.opener :: tokens) b) :
    ∃ rest, Spells tokens rest ∧ skipOne b = .ok (rest, some o) := by
  obtain ⟨rest, hskip, hrest⟩ := h.mark_cons
  refine ⟨rest, hrest, ?_⟩
  rw [skipOne, hskip]
  cases o <;> rfl

/-! ## Between two values -/

/-- White space on the way to the next value is passed over. -/
theorem skipToValue_blank {c : UInt8} (h : isSpace c = true) (b : Bytes) (comma : Bool) :
    skipToValue (c :: b) (o :: outer) comma = skipToValue b (o :: outer) comma := by
  rw [skipToValue.eq_def]
  simp only [h, if_true]

/-- All of it is. -/
theorem skipToValue_skipSpace (b : Bytes) (comma : Bool) :
    skipToValue b (o :: outer) comma = skipToValue (skipSpace b) (o :: outer) comma := by
  induction b with
  | nil => rfl
  | cons c more ih =>
    cases hc : isSpace c with
    | true =>
      have hblank : skipSpace (c :: more) = skipSpace more := List.dropWhile_cons_of_pos hc
      rw [hblank, ← ih, skipToValue_blank hc]
    | false =>
      have hfirst : skipSpace (c :: more) = c :: more := List.dropWhile_cons_of_neg (by simp [hc])
      rw [hfirst]

/-- What is closed is left, whether a comma might have followed or not. -/
theorem skipToValue_closer (outer : List Open) (h : Spells (.mark o.closer :: tokens) b) (comma : Bool) :
    ∃ rest, Spells tokens rest ∧ skipToValue b (o :: outer) comma = skipToValue rest outer true := by
  obtain ⟨rest, hskip, hrest⟩ := h.mark_cons
  refine ⟨rest, hrest, ?_⟩
  have hspace : isSpace o.closer = false := by cases o <;> rfl
  have hcomma : (o.closer == 0x2C) = false := by cases o <;> rfl
  rw [skipToValue_skipSpace, hskip, skipToValue.eq_def]
  simp only [hspace, hcomma, Bool.and_false, Bool.false_eq_true, beq_self_eq_true, if_false, if_true]

/-- The tokens before the value of a part: none in an array, name and colon in an object. -/
inductive Leads : Open → List Token → Prop where
  | item : Leads .list []
  | member (name : List Nat) : Leads .object [.str name, .mark 0x3A]

/-- A name is skipped with the colon after it. -/
theorem skipKey_spells {name : List Nat} (h : Spells (.str name :: .mark 0x3A :: tokens) b) :
    ∃ rest, Spells tokens rest ∧ skipKey b = .ok rest := by
  obtain ⟨body, after, hskip, hname, hafter⟩ := h.str_cons
  obtain ⟨rest, hcolon, hrest⟩ := hafter.mark_cons
  refine ⟨rest, hrest, ?_⟩
  rw [skipKey, hskip]
  change (skipString body).bind _ = _
  rw [skipString_spelled hname]
  change colon after = _
  rw [colon, hcolon]
  rfl

variable {lead : List Token} {t : Tree}

/-- After a comma the value of the next part is found. -/
theorem skipToValue_comma (outer : List Open) (hlead : Leads o lead) (h : Spells (.mark 0x2C :: (lead ++ tokens)) b) :
    ∃ rest, Spells tokens rest ∧ skipToValue b (o :: outer) true = .ok (.value rest (o :: outer)) := by
  obtain ⟨after, hskip, hafter⟩ := h.mark_cons
  rw [skipToValue_skipSpace, hskip]
  cases hlead with
  | item => exact ⟨after, hafter, rfl⟩
  | member name =>
    obtain ⟨rest, hrest, hkey⟩ := skipKey_spells hafter
    refine ⟨rest, hrest, ?_⟩
    change (skipKey after).map _ = _
    rw [hkey]
    rfl

/-- The value of the first part is found without a comma. -/
theorem skipToValue_first (outer : List Open) (hlead : Leads o lead) (h : Spells (lead ++ (t.tokens ++ tokens)) b) :
    ∃ rest, Spells (t.tokens ++ tokens) rest ∧
      skipToValue b (o :: outer) false = .ok (.value rest (o :: outer)) := by
  rw [skipToValue_skipSpace]
  cases hlead with
  | item =>
    obtain ⟨c, more, hskip, hopens, hspells⟩ := Tree.head h
    refine ⟨c :: more, hspells, ?_⟩
    have hcloser : (c == Open.list.closer) = false := beq_eq_false_iff_ne.2 hopens.ne_close
    rw [hskip, skipToValue.eq_def]
    simp only [hopens.isSpace, hcloser, Bool.false_and, Bool.false_eq_true, if_false]
  | member name =>
    obtain ⟨rest, hrest, hkey⟩ := skipKey_spells h.skipSpace
    obtain ⟨body, -, hskip, -⟩ := Spells.str_cons h
    refine ⟨rest, hrest, ?_⟩
    rw [hskip] at hkey ⊢
    change (skipKey _).map _ = _
    rw [hkey]
    rfl

/-! ## Rounds -/

/-- What is skipped after a value or an opener. -/
def goOn (fuel : Nat) (next : Except Fault Between) : Except Fault Bytes :=
  next.bind fun
    | .value rest opened => skipOpen fuel rest opened
    | .done rest => .ok rest

/-- Where nothing has been opened the way leads to the next value after this one. -/
theorem skipOpen_of_none {fuel : Nat} (h : skipOne b = .ok (rest, none)) :
    skipOpen (fuel + 1) b opened = goOn fuel (skipToValue rest opened true) := by
  rw [skipOpen, h]
  simp only [bind, Except.bind, goOn]
  cases skipToValue rest opened true with
  | error f => rfl
  | ok next => cases next <;> rfl

/-- Where something has been opened the way leads inside. -/
theorem skipOpen_of_some {fuel : Nat} (h : skipOne b = .ok (rest, some o)) :
    skipOpen (fuel + 1) b opened = goOn fuel (skipToValue rest (o :: opened) false) := by
  rw [skipOpen, h]
  simp only [bind, Except.bind, goOn]
  cases skipToValue rest (o :: opened) false with
  | error f => rfl
  | ok next => cases next <;> rfl

/-- The rounds of a value: afterwards the same is open, and what follows the value is left. -/
def Skips (t : Tree) : Prop :=
  ∀ (opened : List Open) {fuel : Nat} {tokens : List Token} {b : Bytes}, t.tokens.length ≤ fuel → Follows tokens →
    Spells (t.tokens ++ tokens) b → ∃ fuel' rest, fuel ≤ fuel' + t.tokens.length ∧ Spells tokens rest ∧
      skipOpen fuel b opened = goOn fuel' (skipToValue rest opened true)

/-- A value of one token is skipped. -/
theorem skips_token {token : Token} (htoken : (∃ s, token = .scalar s) ∨ ∃ units, token = .str units)
    (htokens : t.tokens = [token]) : Skips t := by
  intro opened fuel tokens b hfuel hfollows h
  rw [htokens, List.length_singleton] at hfuel
  rw [htokens, List.singleton_append] at h
  obtain ⟨fuel, rfl⟩ := Nat.exists_eq_add_of_le' hfuel
  obtain ⟨rest, hrest, hone⟩ := skipOne_token htoken hfollows h
  exact ⟨fuel, rest, by rw [htokens]; exact Nat.le_refl _, hrest, skipOpen_of_none hone⟩

/-! ## Parts of arrays and objects -/

/-- The tokens of a part: what leads to its value, and the value. -/
def partTokens (p : List Token × Tree) : List Token := p.1 ++ p.2.tokens

/-- **A value and the parts behind it**, each with a comma before it, are skipped up to what closes them. -/
theorem skips_row (hvalue : Skips t) {parts : List (List Token × Tree)} (hleads : ∀ p ∈ parts, Leads o p.1)
    (hskips : ∀ p ∈ parts, Skips p.2) {fuel : Nat}
    (hfuel : t.tokens.length + (row false (parts.map partTokens)).length ≤ fuel)
    (h : Spells (t.tokens ++ (row false (parts.map partTokens) ++ .mark o.closer :: tokens)) b) :
    ∃ fuel' rest, fuel ≤ fuel' + (t.tokens.length + (row false (parts.map partTokens)).length) ∧ Spells tokens rest ∧
      skipOpen fuel b (o :: outer) = goOn fuel' (skipToValue rest outer true) := by
  -- by induction on the parts behind the first value, each led in by its comma and its name
  induction parts generalizing t fuel b with
  | nil =>
    have hfollows : Follows (.mark o.closer :: tokens) := .mark (by cases o <;> simp [Open.closer]) tokens
    obtain ⟨fuel₁, rest₁, hfuel₁, hrest₁, hskip⟩ := hvalue (o :: outer) hfuel hfollows h
    obtain ⟨rest, hrest, hclose⟩ := skipToValue_closer outer hrest₁ true
    exact ⟨fuel₁, rest, hfuel₁, hrest, hskip.trans (by rw [hclose])⟩
  | cons p parts ih =>
    have hfollows : Follows (row false ((p :: parts).map partTokens) ++ .mark o.closer :: tokens) :=
      follows_row (by cases o <;> simp [Open.closer]) tokens
    have henough : t.tokens.length ≤ fuel := Nat.le_of_add_right_le hfuel
    obtain ⟨fuel₁, rest₁, hfuel₁, hrest₁, hskip⟩ := hvalue (o :: outer) henough hfollows h
    simp only [List.map_cons, row, partTokens, List.cons_append, List.append_assoc, List.length_cons,
      List.length_append] at hfuel hrest₁ ⊢
    obtain ⟨hlead, hleads⟩ := List.forall_mem_cons.1 hleads
    obtain ⟨hpart, hskips⟩ := List.forall_mem_cons.1 hskips
    obtain ⟨rest₂, hrest₂, hcomma⟩ := skipToValue_comma outer hlead hrest₁
    have hleft : p.2.tokens.length + (row false (parts.map partTokens)).length ≤ fuel₁ := by omega
    obtain ⟨fuel₃, rest₃, hfuel₃, hrest₃, hmore⟩ := ih hpart hleads hskips hleft hrest₂
    refine ⟨fuel₃, rest₃, by omega, hrest₃, hskip.trans ?_⟩
    rw [hcomma]
    exact hmore

/-- **An array or an object** is skipped if its values are. -/
theorem skips_parts (o : Open) (parts : List (List Token × Tree)) (hleads : ∀ p ∈ parts, Leads o p.1)
    (hskips : ∀ p ∈ parts, Skips p.2)
    (htokens : t.tokens = .mark o.opener :: (row true (parts.map partTokens) ++ [.mark o.closer])) : Skips t := by
  intro opened fuel tokens b hfuel hfollows h
  have hlength : t.tokens.length = (row true (parts.map partTokens)).length + 2 := by
    rw [htokens, List.length_cons, List.length_append, List.length_singleton]
  rw [htokens, List.cons_append, List.append_assoc, List.singleton_append] at h
  obtain ⟨rest, hrest, hone⟩ := skipOne_opener h
  obtain ⟨fuel, rfl⟩ := Nat.exists_eq_add_of_le' (show 1 ≤ fuel by omega)
  rw [skipOpen_of_some hone]
  cases parts with
  | nil =>
    obtain ⟨rest', hrest', hclose⟩ := skipToValue_closer opened hrest false
    exact ⟨fuel, rest', by omega, hrest', by rw [hclose]⟩
  | cons p parts =>
    -- the first part has no comma before it, so that it is not one of a row
    simp only [List.map_cons, row, partTokens, List.append_assoc, List.length_append] at hlength hrest
    obtain ⟨hlead, hleads⟩ := List.forall_mem_cons.1 hleads
    obtain ⟨hpart, hskips⟩ := List.forall_mem_cons.1 hskips
    obtain ⟨rest₁, hrest₁, hfirst⟩ := skipToValue_first opened hlead hrest
    have hleft : p.2.tokens.length + (row false (parts.map partTokens)).length ≤ fuel := by omega
    obtain ⟨fuel₂, rest₂, hfuel₂, hrest₂, hmore⟩ := skips_row hpart hleads hskips hleft hrest₁
    refine ⟨fuel₂, rest₂, by omega, hrest₂, ?_⟩
    rw [hfirst]
    exact hmore

/-- **Every value is skipped** in its rounds. -/
theorem skips (t : Tree) : Skips t := by
  -- by induction on the tree, with the list of the parts of a node for its children
  induction t using Tree.induct with
  | scalar s => exact skips_token (Or.inl ⟨s, rfl⟩) rfl
  | str units => exact skips_token (Or.inr ⟨units, rfl⟩) rfl
  | arr items ih =>
    refine skips_parts .list (items.map fun v => ([], v)) ?_ ?_ ?_
    · intro p hp
      obtain ⟨v, -, rfl⟩ := List.mem_map.1 hp
      exact .item
    · intro p hp
      obtain ⟨v, hv, rfl⟩ := List.mem_map.1 hp
      exact ih v hv
    · rw [List.map_map]
      exact Tree.tokens_arr items
  | obj members ih =>
    refine skips_parts .object (members.map fun m => ([.str m.1, .mark 0x3A], m.2)) ?_ ?_ ?_
    · intro p hp
      obtain ⟨m, -, rfl⟩ := List.mem_map.1 hp
      exact .member m.1
    · intro p hp
      obtain ⟨m, hm, rfl⟩ := List.mem_map.1 hp
      exact ih m hm
    · rw [List.map_map]
      exact Tree.tokens_obj members

/-- A string takes up at least its closing quote. -/
theorem Spelled.length_lt {units : List Nat} (h : Spelled units b rest) : rest.length < b.length := by
  induction h with
  | quote => exact Nat.lt_succ_self _
  | plain _ _ _ _ ih =>
    rw [List.length_append]
    omega
  | short _ _ ih =>
    simp only [List.length_cons]
    omega
  | hex _ _ ih =>
    simp only [List.length_cons]
    omega

/-- So every token takes up at least one byte. -/
theorem Begins.length_lt {token : Token} (h : Begins token b rest) : rest.length < b.length := by
  cases h with
  | mark => exact Nat.lt_succ_self _
  | scalar hs =>
    obtain ⟨c, more, rfl, -⟩ := hs.head
    simp only [List.cons_append, List.length_cons, List.length_append]
    omega
  | str hs => exact Nat.lt_succ_of_lt hs.length_lt

/-- Every token has a byte. -/
theorem Spells.length_le (h : Spells tokens b) : tokens.length ≤ b.length := by
  induction h with
  | nil => exact Nat.zero_le _
  | cons _ htoken _ ih =>
    have hlt := htoken.length_lt
    rw [List.length_cons, List.length_append]
    omega

/-- **Skipping takes exactly one value**, whatever it is and however deep it goes. -/
theorem skipValue_spells (hfollows : Follows tokens) (h : Spells (t.tokens ++ tokens) b) :
    ∃ rest, skipValue b = .ok rest ∧ Spells tokens rest := by
  have hlength := h.length_le
  rw [List.length_append] at hlength
  have henough : t.tokens.length ≤ b.length + 1 := by omega
  obtain ⟨fuel, rest, -, hrest, hskip⟩ := skips t [] henough hfollows h
  refine ⟨rest, ?_, hrest⟩
  rw [skipValue, hskip, skipToValue]
  rfl

end Phrasebook.Json
