import Phrasebook.Proofs.Json.Skipping
/-!
# Values of a known type are read from their trees

What a reader makes of a text depends on the tree of the text and on nothing else: a reader `Agrees` with a function on
trees if it gives the value of the tree, with what follows it left, and refuses the text where there is none. Texts do
(`agrees_text`), and lists and records do if their parts do (`agrees_list`, `agrees_record`).

The function for a record says what the loop over its members comes to: every name is a text, and every field has
exactly one member, with a value of its type (`membersOf?`). The loop itself goes through the members in their order
and refuses the first that is wrong (`gather`); that both are the same is `gather_eq`.
-/

set_option autoImplicit false

namespace Phrasebook.Json

variable {α β : Type} {item : Reader α} {decode : Tree → Option α} {b rest : Bytes} {tokens : List Token} {t : Tree}

/-! ## Results -/

/-- A reader gives a value and leaves the tokens behind it, or refuses. -/
def Yields (r : Except Fault (α × Bytes)) (x : Option α) (tokens : List Token) : Prop :=
  match x with
  | some v => ∃ rest, r = .ok (v, rest) ∧ Spells tokens rest
  | none => ∃ f, r = .error f

/-- A reader gives what a function makes of the tree. -/
structure Agrees (item : Reader α) (decode : Tree → Option α) : Prop where
  yields : ∀ {t : Tree} {tokens : List Token} {b : Bytes}, Follows tokens → Spells (t.tokens ++ tokens) b →
    Yields (item b) (decode t) tokens

/-- A tree with a value is read as the value. -/
theorem Agrees.read_some (hitem : Agrees item decode) (hfollows : Follows tokens) (h : Spells (t.tokens ++ tokens) b)
    {v : α} (hv : decode t = some v) : ∃ rest, item b = .ok (v, rest) ∧ Spells tokens rest := by
  have hyields := hitem.yields hfollows h
  rw [hv] at hyields
  exact hyields

/-- A tree without one is refused. -/
theorem Agrees.read_none (hitem : Agrees item decode) (hfollows : Follows tokens) (h : Spells (t.tokens ++ tokens) b)
    (hv : decode t = none) : ∃ f, item b = .error f := by
  have hyields := hitem.yields hfollows h
  rw [hv] at hyields
  exact hyields

/-- A result with what comes after it. -/
def ending (r : Except Fault (α × Bytes)) (close : Bytes → Except Fault Bytes) : Except Fault (α × Bytes) := do
  let (v, rest) ← r
  return (v, ← close rest)

/-- A value of the wrong type is refused, whatever it is. -/
theorem wrongType_eq_error (expected : String) (b : Bytes) : ∃ f, @wrongType α expected b = .error f := by
  unfold wrongType
  split
  · next c more =>
    split
    · exact ⟨_, rfl⟩
    split
    · exact ⟨_, rfl⟩
    cases scalar? (c :: more) with
    | error f => exact ⟨f, rfl⟩
    | ok found =>
      simp only [bind, Except.bind]
      split <;> exact ⟨_, rfl⟩
  · exact ⟨_, rfl⟩

/-- There are no more parts than bytes: every part has a token, and every token a byte. -/
theorem Spells.length_parts_le {first : Bool} {parts : List (List Token)} (hparts : ∀ p ∈ parts, p ≠ [])
    (h : Spells (row first parts ++ tokens) b) : parts.length ≤ b.length := by
  have hrow := length_le_row first hparts
  have hbytes := h.length_le
  rw [List.length_append] at hbytes
  omega

/-! ## Texts -/

/-- The text of a string. -/
def Tree.text? : Tree → Option String
  | .str units => textOf? units
  | _ => none

/-- A text is read from a tree that is a string of proper units, and from no other tree. -/
theorem agrees_text : Agrees readText Tree.text? := by
  refine ⟨?_⟩
  intro t tokens b _ h
  -- a tree of another kind is told from a text by the byte it begins with
  have hwrong : t.opener? ≠ some 0x22 → ∃ f, readText b = .error f := by
    intro hopener
    obtain ⟨c, more, hskip, hopens, -⟩ := Tree.head h
    have hc : (c == 0x22) = false := beq_eq_false_iff_ne.2 (hopens.ne rfl hopener)
    rw [readText, hskip]
    dsimp only
    rw [hc, if_neg Bool.false_ne_true]
    exact wrongType_eq_error _ _
  cases t with
  | str units =>
    obtain ⟨body, rest, hskip, hs, hrest⟩ := Spells.str_cons h
    have hread : readText b = string body := by
      rw [readText, hskip]
      rfl
    have hstring := string_spelled hs
    rw [hread, Tree.text?]
    cases htext : textOf? units with
    | none =>
      rw [htext] at hstring
      exact hstring
    | some s =>
      rw [htext] at hstring
      exact ⟨rest, hstring, hrest⟩
  | scalar s => exact hwrong (by simp [Tree.opener?])
  | arr items => exact hwrong (by simp [Tree.opener?])
  | obj members => exact hwrong (by simp [Tree.opener?])

/-! ## Lists -/

/-- Where a list closes there is no next item, and the bracket is left for whoever ends the list. -/
theorem nextItem_close (first : Bool) (h : Spells (.mark 0x5D :: tokens) b) :
    ∃ rest, nextItem first b = .ok (.close rest) ∧ Spells (.mark 0x5D :: tokens) rest := by
  refine ⟨skipSpace b, ?_, h.skipSpace⟩
  obtain ⟨rest, hskip, -⟩ := h.mark_cons
  rw [nextItem, hskip]
  rfl

/-- The next item of a row is found, with or without a comma before it. -/
theorem nextItem_more {first : Bool} {parts : List (List Token)}
    (h : Spells (row first (t.tokens :: parts) ++ tokens) b) :
    ∃ rest, nextItem first b = .ok (.more rest) ∧ Spells (t.tokens ++ (row false parts ++ tokens)) rest := by
  -- before the first item there is no comma, before every other there is one
  cases first with
  | true =>
    rw [row, List.append_assoc] at h
    obtain ⟨c, more, hskip, hopens, hspells⟩ := Tree.head h
    have hclose : (c == 0x5D) = false := beq_eq_false_iff_ne.2 hopens.ne_close
    refine ⟨c :: more, ?_, hspells⟩
    rw [nextItem, hskip]
    simp only [hclose, Bool.false_eq_true, if_false, if_true]
  | false =>
    rw [row, List.cons_append, List.append_assoc] at h
    obtain ⟨after, hskip, hafter⟩ := h.mark_cons
    obtain ⟨c, more, hskip', hopens, hspells⟩ := Tree.head hafter
    have hclose : (c == 0x5D) = false := beq_eq_false_iff_ne.2 hopens.ne_close
    have hcomma : ((0x2C : UInt8) == 0x5D) = false := rfl
    refine ⟨c :: more, ?_, hspells⟩
    rw [nextItem, hskip]
    simp only [hcomma, beq_self_eq_true, hskip', hclose, Bool.false_eq_true, if_false, if_true]

/-- Before an item, with the comma in front of it where there is one, no list closes. -/
theorem row_head {first : Bool} {parts : List (List Token)} (h : Spells (row first (t.tokens :: parts) ++ tokens) b) :
    ∃ c more, skipSpace b = c :: more ∧ c ≠ 0x5D := by
  cases first with
  | true =>
    rw [row, List.append_assoc] at h
    obtain ⟨c, more, hskip, hopens, -⟩ := Tree.head h
    exact ⟨c, more, hskip, hopens.ne_close⟩
  | false =>
    rw [row, List.cons_append] at h
    obtain ⟨rest, hskip, -⟩ := h.mark_cons
    exact ⟨_, rest, hskip, by decide⟩

/-- A list is ended by its bracket. -/
theorem listEnd_close (h : Spells (.mark 0x5D :: tokens) b) : ∃ rest, listEnd b = .ok rest ∧ Spells tokens rest := by
  obtain ⟨rest, hskip, hrest⟩ := h.mark_cons
  refine ⟨rest, ?_, hrest⟩
  rw [listEnd, hskip]
  rfl

/-- Anything else where a list should end is a fault. -/
theorem listEnd_eq_error {c : UInt8} {more : Bytes} (hskip : skipSpace b = c :: more) (hc : c ≠ 0x5D) :
    ∃ f, listEnd b = .error f := by
  have hclose : (c == 0x5D) = false := beq_eq_false_iff_ne.2 hc
  rw [listEnd, hskip]
  simp only [hclose, Bool.false_eq_true, if_false]
  split
  · split <;> exact ⟨_, rfl⟩
  · exact ⟨_, rfl⟩

/-- The items of an array, if all of them are values of their type. -/
def Tree.items? (decode : Tree → Option α) : Tree → Option (List α)
  | .arr items => items.mapM decode
  | _ => none

/-- An item that can be decoded is put before the others. -/
theorem mapM_cons_some {v : Tree} {x : α} (h : decode v = some x) (more : List Tree) :
    (v :: more).mapM decode = (more.mapM decode).map (x :: ·) := by
  rw [List.mapM_cons, h]
  cases more.mapM decode <;> rfl

/-- One that cannot be decoded spoils the whole list. -/
theorem mapM_cons_none {v : Tree} (h : decode v = none) (more : List Tree) : (v :: more).mapM decode = none := by
  rw [List.mapM_cons, h]
  rfl

/-- One item more has been seen. -/
theorem map_reverse_cons (seen : List α) {v : Tree} {x : α} (h : decode v = some x) (more : List Tree) :
    ((v :: more).mapM decode).map (seen.reverse ++ ·) = (more.mapM decode).map ((x :: seen).reverse ++ ·) := by
  rw [mapM_cons_some h, Option.map_map, List.reverse_cons]
  congr 1
  funext xs
  exact List.append_cons seen.reverse x xs

/-- The items behind those that have been seen. -/
theorem listItems_row (hitem : Agrees item decode) (seen : List α) {items : List Tree} {fuel : Nat}
    (hfuel : items.length < fuel)
    (h : Spells (row seen.isEmpty (items.map Tree.tokens) ++ .mark 0x5D :: tokens) b) :
    Yields (ending (listItems item fuel seen b) listEnd) ((items.mapM decode).map (seen.reverse ++ ·)) tokens := by
  -- by induction on the items that are left, `seen` holding those read before
  induction items generalizing seen fuel b with
  | nil =>
    obtain ⟨fuel, rfl⟩ := Nat.exists_eq_add_of_le' hfuel
    obtain ⟨rest, hnext, hrest⟩ := nextItem_close seen.isEmpty h
    obtain ⟨rest', hend, hrest'⟩ := listEnd_close hrest
    refine ⟨rest', ?_, hrest'⟩
    simp only [ending, listItems, hnext, bind, Except.bind, pure, Except.pure, hend, List.reverse_nil,
      List.append_nil]
  | cons v more ih =>
    obtain ⟨fuel, rfl⟩ := Nat.exists_eq_add_of_le' (Nat.zero_lt_of_lt hfuel)
    obtain ⟨rest, hnext, hrest⟩ := nextItem_more h
    have hfollows : Follows (row false (more.map Tree.tokens) ++ .mark 0x5D :: tokens) :=
      follows_row (Or.inl rfl) tokens
    cases hv : decode v with
    | none =>
      obtain ⟨f, hf⟩ := hitem.read_none hfollows hrest hv
      rw [mapM_cons_none hv]
      refine ⟨{ f with path := .index seen.length :: f.path }, ?_⟩
      simp only [ending, listItems, hnext, bind, Except.bind, hf, within, Except.mapError]
    | some x =>
      obtain ⟨rest', hx, hrest'⟩ := hitem.read_some hfollows hrest hv
      have hstep : ending (listItems item (fuel + 1) seen b) listEnd =
          ending (listItems item fuel (x :: seen) rest') listEnd := by
        simp only [ending, listItems, hnext, bind, Except.bind, hx, within, Except.mapError]
      rw [hstep, map_reverse_cons seen hv]
      exact ih (x :: seen) (Nat.lt_of_succ_lt_succ hfuel) hrest'

/-- **Lists are read** if their items are. -/
theorem agrees_list (hitem : Agrees item decode) : Agrees (readList item) (Tree.items? decode) := by
  refine ⟨?_⟩
  intro t tokens b _ h
  -- as for a text, the first byte rules out the other kinds
  have hwrong : t.opener? ≠ some 0x5B → ∃ f, readList item b = .error f := by
    intro hopener
    obtain ⟨c, more, hskip, hopens, -⟩ := Tree.head h
    have hc : (c == 0x5B) = false := beq_eq_false_iff_ne.2 (hopens.ne rfl hopener)
    rw [readList, hskip]
    dsimp only
    rw [hc, if_neg Bool.false_ne_true]
    exact wrongType_eq_error _ _
  cases t with
  | arr items =>
    rw [Tree.tokens_arr, List.cons_append, List.append_assoc, List.singleton_append] at h
    obtain ⟨rest, hskip, hrest⟩ := h.mark_cons
    have hparts : ∀ p ∈ items.map Tree.tokens, p ≠ [] := by
      intro p hp
      obtain ⟨v, -, rfl⟩ := List.mem_map.1 hp
      exact v.tokens_ne_nil
    -- each item has at least one byte, so the input itself is fuel enough
    have hfuel := hrest.length_parts_le hparts
    rw [List.length_map] at hfuel
    have hread : readList item b = ending (listItems item (rest.length + 1) [] rest) listEnd := by
      rw [readList, hskip]
      rfl
    have hall : Tree.items? decode (.arr items) = (items.mapM decode).map (([] : List α).reverse ++ ·) :=
      Option.map_id'.symm
    rw [hread, hall]
    exact listItems_row hitem [] (Nat.lt_succ_of_le hfuel) hrest
  | str units => exact hwrong (by simp [Tree.opener?])
  | scalar s => exact hwrong (by simp [Tree.opener?])
  | obj members => exact hwrong (by simp [Tree.opener?])

/-! ## Records -/

/-- Whether a member has a name. -/
def isNamed (name : String) (m : List Nat × Tree) : Bool := textOf? m.1 == some name

/-- The value of a field: of the one member that has its name. -/
def fieldOf? (decode : Tree → Option α) (members : List (List Nat × Tree)) (name : String) : Option α :=
  match members.filter (isNamed name) with
  | [m] => decode m.2
  | _ => none

/-- The values of fields among members, all of which have a text as their name. -/
def membersOf? (fields : List String) (decode : Tree → Option α) (members : List (List Nat × Tree)) :
    Option (List α) :=
  if members.all fun m => (textOf? m.1).isSome then fields.mapM (fieldOf? decode members) else none

/-- The values of the fields of a record, from an object or from an array with the values in their order. -/
def Tree.fields? (fields : List String) (decode : Tree → Option α) : Tree → Option (List α)
  | .obj members => membersOf? fields decode members
  | .arr items => if items.length = fields.length then items.mapM decode else none
  | _ => none

/-- The members of a record that are wanted, added to those that have been found; the first that is wrong ends it. -/
def gather (fields : List String) (decode : Tree → Option α) :
    List (String × α) → List (List Nat × Tree) → Option (List (String × α))
  | found, [] => some found
  | found, m :: more =>
    match textOf? m.1 with
    | none => none
    | some key =>
      if fields.contains key then
        if (found.lookup key).isSome then none
        else
          match decode m.2 with
          | none => none
          | some v => gather fields decode ((key, v) :: found) more
      else gather fields decode found more

/-- A record is complete exactly if each of its fields was found. -/
theorem toOption_collect (fields : List String) (found : List (String × α)) :
    (collect fields found).toOption = fields.mapM (found.lookup ·) := by
  induction fields with
  | nil => rfl
  | cons name more ih =>
    rw [collect] at ih
    rw [collect, List.mapM_cons, List.mapM_cons]
    cases found.lookup name with
    | none => rfl
    | some v =>
      rw [← ih]
      simp only [bind, Except.bind, Option.bind, pure, Except.pure]
      cases more.mapM (fun f => match found.lookup f with | some v => Except.ok v | none => .error f) <;> rfl

/-- Where an object closes there is no next name, and the brace is left for whoever ends the object. -/
theorem nextKey_close (first : Bool) (h : Spells (.mark 0x7D :: tokens) b) :
    ∃ rest, nextKey first b = .ok (.close rest) ∧ Spells (.mark 0x7D :: tokens) rest := by
  refine ⟨skipSpace b, ?_, h.skipSpace⟩
  obtain ⟨rest, hskip, -⟩ := h.mark_cons
  rw [nextKey, hskip]
  rfl

/-- The next name of a row is found, with or without a comma before it. -/
theorem nextKey_more {first : Bool} {name : List Nat} {lead : List Token} {parts : List (List Token)}
    (h : Spells (row first ((.str name :: lead) :: parts) ++ tokens) b) :
    ∃ body rest, nextKey first b = .ok (.more (0x22 :: body)) ∧ Spelled name body rest ∧
      Spells (lead ++ (row false parts ++ tokens)) rest := by
  cases first with
  | true =>
    rw [row, List.append_assoc, List.cons_append] at h
    obtain ⟨body, rest, hskip, hs, hrest⟩ := h.str_cons
    refine ⟨body, rest, ?_, hs, hrest⟩
    rw [nextKey, hskip]
    rfl
  | false =>
    rw [row, List.cons_append, List.append_assoc, List.cons_append] at h
    obtain ⟨after, hcomma, hafter⟩ := h.mark_cons
    obtain ⟨body, rest, hskip, hs, hrest⟩ := hafter.str_cons
    have hclose : ((0x2C : UInt8) == 0x7D) = false := rfl
    refine ⟨body, rest, ?_, hs, hrest⟩
    rw [nextKey, hcomma]
    simp only [hclose, beq_self_eq_true, hskip, Bool.false_eq_true, if_false, if_true]

/-- The colon after a name is passed over. -/
theorem colon_spells (h : Spells (.mark 0x3A :: tokens) b) : ∃ rest, colon b = .ok rest ∧ Spells tokens rest := by
  obtain ⟨rest, hskip, hrest⟩ := h.mark_cons
  refine ⟨rest, ?_, hrest⟩
  rw [colon, hskip]
  rfl

/-- An object is ended by its brace. -/
theorem objectEnd_close (h : Spells (.mark 0x7D :: tokens) b) :
    ∃ rest, objectEnd b = .ok rest ∧ Spells tokens rest := by
  obtain ⟨rest, hskip, hrest⟩ := h.mark_cons
  refine ⟨rest, ?_, hrest⟩
  rw [objectEnd, hskip]
  rfl

/-- What is wrong with an object is a fault, wherever it is placed. -/
theorem objectFault_eq_error (reason : Reason) (b : Bytes) : ∃ f, @objectFault α reason b = .error f := by
  unfold objectFault
  split <;> exact ⟨_, rfl⟩

/-- The same of a list. -/
theorem listFault_eq_error (reason : Reason) (b : Bytes) : ∃ f, @listFault α reason b = .error f := by
  unfold listFault
  split <;> exact ⟨_, rfl⟩

variable {type : RecordType}

section Step

-- one member: its name has been read, and what stands behind the name
variable {first : Bool} {found : List (String × α)} {body afterName : Bytes} {key : String}
  (hnext : nextKey first b = .ok (.more (0x22 :: body))) (hname : string body = .ok (key, afterName)) (fuel : Nat)

include hnext hname

/-- The value of a name that is no field is skipped, and the reading goes on after it. -/
theorem recordMembers_unwanted {value rest : Bytes} (hfield : type.fields.contains key = false)
    (hcolon : colon afterName = .ok value) (hskip : skipValue value = .ok rest) :
    recordMembers type item (fuel + 1) first found b = recordMembers type item fuel false found rest := by
  simp only [recordMembers, hnext, bind, Except.bind, List.drop_succ_cons, List.drop_zero, hname, hfield, hcolon, hskip,
    within, Except.mapError, Bool.false_eq_true, if_false]

variable (hfield : type.fields.contains key = true)

include hfield

/-- A field that comes a second time is a fault. -/
theorem recordMembers_twice (htwice : (found.lookup key).isSome = true) :
    recordMembers type item (fuel + 1) first found b = objectFault (.duplicateField key) afterName := by
  simp only [recordMembers, hnext, bind, Except.bind, List.drop_succ_cons, List.drop_zero, hname, hfield, htwice,
    if_true]

variable {value : Bytes} (hnew : (found.lookup key).isSome = false) (hcolon : colon afterName = .ok value)

include hnew hcolon

/-- What is wrong with the value of a field is a fault there, and its path begins with the name. -/
theorem recordMembers_wrong {f : Fault} (hvalue : item value = .error f) :
    recordMembers type item (fuel + 1) first found b = .error { f with path := .key key :: f.path } := by
  simp only [recordMembers, hnext, bind, Except.bind, List.drop_succ_cons, List.drop_zero, hname, hfield, hnew, hcolon,
    hvalue, within, Except.mapError, Bool.false_eq_true, if_false, if_true]

/-- The value of a field is put with what was found, and the reading goes on after it. -/
theorem recordMembers_wanted {v : α} {rest : Bytes} (hvalue : item value = .ok (v, rest)) :
    recordMembers type item (fuel + 1) first found b =
      recordMembers type item fuel false ((key, v) :: found) rest := by
  simp only [recordMembers, hnext, bind, Except.bind, List.drop_succ_cons, List.drop_zero, hname, hfield, hnew, hcolon,
    hvalue, within, Except.mapError, Bool.false_eq_true, if_false, if_true]

end Step

/-- A fault inside is the fault of the whole, whatever closes it. -/
theorem ending_error (f : Fault) (close : Bytes → Except Fault Bytes) :
    ending (.error f : Except Fault (α × Bytes)) close = .error f := rfl

/-- **The loop over the members** of an object does what `gather` does. -/
theorem recordMembers_row (hitem : Agrees item decode) (first : Bool) (found : List (String × α))
    {members : List (List Nat × Tree)} {fuel : Nat} (hfuel : members.length < fuel)
    (h : Spells (row first (members.map fun m => .str m.1 :: .mark 0x3A :: m.2.tokens) ++ .mark 0x7D :: tokens) b) :
    Yields (ending (recordMembers type item fuel first found b) objectEnd)
      ((gather type.fields decode found members).bind fun found => (collect type.fields found).toOption) tokens := by
  induction members generalizing first found fuel b with
  | nil =>
    obtain ⟨fuel, rfl⟩ := Nat.exists_eq_add_of_le' hfuel
    obtain ⟨rest, hnext, hrest⟩ := nextKey_close first h
    obtain ⟨rest', hend, hrest'⟩ := objectEnd_close hrest
    rw [gather, Option.bind_some]
    cases hcollect : collect type.fields found with
    | ok values =>
      refine ⟨rest', ?_, hrest'⟩
      simp only [ending, recordMembers, hnext, hcollect, bind, Except.bind, pure, Except.pure, hend]
    | error name =>
      obtain ⟨f, hf⟩ := @objectFault_eq_error (List α × Bytes) (.missingField name) rest
      refine ⟨f, ?_⟩
      simp only [ending, recordMembers, hnext, hcollect, bind, Except.bind, hf]
  | cons m more ih =>
    obtain ⟨fuel, rfl⟩ := Nat.exists_eq_add_of_le' (Nat.zero_lt_of_lt hfuel)
    have hfuel := Nat.lt_of_succ_lt_succ hfuel
    obtain ⟨body, rest, hnext, hspelled, hrest⟩ := nextKey_more h
    have hname := string_spelled hspelled
    rw [gather]
    -- the name is read first of all, so that it has to be a text even if nobody asked for it
    cases hkey : textOf? m.1 with
    | none =>
      rw [hkey] at hname
      obtain ⟨f, hf⟩ := hname
      refine ⟨f, ?_⟩
      simp only [ending, recordMembers, hnext, bind, Except.bind, List.drop_succ_cons, List.drop_zero, hf]
    | some key =>
      rw [hkey] at hname
      dsimp only at hname ⊢
      obtain ⟨value, hcolon, hvalue⟩ := colon_spells hrest
      have hfollows : Follows (row false (more.map fun m => .str m.1 :: .mark 0x3A :: m.2.tokens) ++
          .mark 0x7D :: tokens) := follows_row (Or.inr rfl) tokens
      cases hfield : type.fields.contains key with
      | false =>
        obtain ⟨rest', hskip, hrest'⟩ := skipValue_spells hfollows hvalue
        rw [recordMembers_unwanted hnext hname fuel hfield hcolon hskip]
        exact ih false found hfuel hrest'
      | true =>
        cases hfound : (found.lookup key).isSome with
        | true =>
          obtain ⟨f, hf⟩ := @objectFault_eq_error (List α × Bytes) (.duplicateField key) rest
          rw [recordMembers_twice hnext hname fuel hfield hfound, hf, ending_error]
          exact ⟨f, rfl⟩
        | false =>
          cases hv : decode m.2 with
          | none =>
            obtain ⟨f, hf⟩ := hitem.read_none hfollows hvalue hv
            rw [recordMembers_wrong hnext hname fuel hfield hfound hcolon hf, ending_error]
            exact ⟨_, rfl⟩
          | some v =>
            obtain ⟨rest', hx, hrest'⟩ := hitem.read_some hfollows hvalue hv
            rw [recordMembers_wanted hnext hname fuel hfield hfound hcolon hx]
            exact ih false ((key, v) :: found) hfuel hrest'

/-! ## What the loop comes to -/

/-- A traversal fails if it fails at one member. -/
theorem mapM_eq_none {γ : Type} {f : γ → Option α} {l : List γ} {a : γ} (ha : a ∈ l) (h : f a = none) :
    l.mapM f = none := by
  induction l with
  | nil => cases ha
  | cons c more ih =>
    rw [List.mapM_cons]
    rcases List.mem_cons.1 ha with rfl | ha
    · rw [h]
      rfl
    · rw [ih ha]
      cases f c <;> rfl

/-- Two ways of decoding that agree on the items agree on the list. -/
theorem mapM_congr {γ : Type} {f g : γ → Option α} {l : List γ} (h : ∀ a ∈ l, f a = g a) : l.mapM f = l.mapM g := by
  induction l with
  | nil => rfl
  | cons c more ih =>
    rw [List.mapM_cons, List.mapM_cons, h c List.mem_cons_self, ih fun a ha => h a (List.mem_cons_of_mem _ ha)]

/-- The value of a field while the members are gone through: it has been found, or its member is still to come. -/
def slot? (decode : Tree → Option α) (found : List (String × α)) (members : List (List Nat × Tree)) (name : String) :
    Option α :=
  match found.lookup name, members.filter (isNamed name) with
  | some v, [] => some v
  | none, [m] => decode m.2
  | _, _ => none

section Slots

variable {fields : List String} {found : List (String × α)} {m : List Nat × Tree} {more : List (List Nat × Tree)}
  {key name : String}

/-- A member of another name does not fill a field. -/
theorem slot?_of_ne (hkey : textOf? m.1 = some key) (hne : name ≠ key) :
    slot? decode found (m :: more) name = slot? decode found more name := by
  have hnamed : isNamed name m = false := by
    rw [isNamed, hkey]
    simpa using fun h => hne h.symm
  rw [slot?, slot?, List.filter_cons, hnamed]
  rfl

/-- Nor does what was found under another name. -/
theorem slot?_found_of_ne (v : α) (hne : name ≠ key) :
    slot? decode ((key, v) :: found) more name = slot? decode found more name := by
  rw [slot?, slot?, List.lookup_cons, beq_eq_false_iff_ne.2 hne]

/-- A member has the name that its units spell. -/
theorem isNamed_of_key (hkey : textOf? m.1 = some key) : isNamed key m = true := by
  rw [isNamed, hkey]
  exact beq_self_eq_true _

/-- A second member for a field: its slot has too much in it. -/
theorem slot?_of_found {v : α} (hkey : textOf? m.1 = some key) (hfound : found.lookup key = some v) :
    slot? decode found (m :: more) key = none := by
  rw [slot?, hfound, List.filter_cons, if_pos (isNamed_of_key hkey)]

/-- A member with nothing for its field in it. -/
theorem slot?_of_decode_none (hkey : textOf? m.1 = some key) (hfound : found.lookup key = none)
    (hv : decode m.2 = none) : slot? decode found (m :: more) key = none := by
  rw [slot?, hfound, List.filter_cons, if_pos (isNamed_of_key hkey)]
  cases more.filter (isNamed key) with
  | nil => exact hv
  | cons => rfl

/-- The first member for a field is found. -/
theorem slot?_of_decode_some {v : α} (hkey : textOf? m.1 = some key) (hfound : found.lookup key = none)
    (hv : decode m.2 = some v) :
    slot? decode found (m :: more) key = slot? decode ((key, v) :: found) more key := by
  rw [slot?, slot?, hfound, List.lookup_cons_self, List.filter_cons, if_pos (isNamed_of_key hkey)]
  cases more.filter (isNamed key) with
  | nil => exact hv
  | cons => rfl

/-- **What the loop comes to** is found field by field. -/
theorem gather_eq_slots (found : List (String × α)) (members : List (List Nat × Tree)) :
    ((gather fields decode found members).bind fun found => (collect fields found).toOption) =
      if members.all fun m => (textOf? m.1).isSome then fields.mapM (slot? decode found members) else none := by
  -- by induction on the members: one that is not asked for, one that is there twice, one that is new
  induction members generalizing found with
  | nil =>
    rw [gather, Option.bind_some, toOption_collect, List.all_nil, if_pos rfl]
    refine mapM_congr fun name _ => ?_
    rw [slot?, List.filter_nil]
    cases found.lookup name <;> rfl
  | cons m more ih =>
    rw [gather, List.all_cons]
    cases hkey : textOf? m.1 with
    | none => rfl
    | some key =>
      dsimp only
      rw [Option.isSome_some, Bool.true_and]
      cases hfield : fields.contains key with
      | false =>
        rw [if_neg Bool.false_ne_true, ih]
        congr 1
        refine mapM_congr fun name hname => (slot?_of_ne hkey ?_).symm
        rintro rfl
        rw [List.contains_iff_mem.2 hname] at hfield
        cases hfield
      | true =>
        have hmem : key ∈ fields := List.contains_iff_mem.1 hfield
        rw [if_pos rfl]
        cases hfound : found.lookup key with
        | some v =>
          rw [mapM_eq_none hmem (slot?_of_found hkey hfound)]
          exact (ite_self none).symm
        | none =>
          rw [Option.isSome_none, if_neg Bool.false_ne_true]
          cases hv : decode m.2 with
          | none =>
            rw [mapM_eq_none hmem (slot?_of_decode_none hkey hfound hv)]
            exact (ite_self none).symm
          | some v =>
            dsimp only
            rw [ih]
            congr 1
            refine mapM_congr fun name _ => ?_
            by_cases hne : name = key
            · rw [hne, slot?_of_decode_some hkey hfound hv]
            · rw [slot?_of_ne hkey hne, slot?_found_of_ne v hne]

/-- Members read one after the other give the same as looking each field up among them: both ask for proper names,
and for each field once. -/
theorem gather_eq (members : List (List Nat × Tree)) :
    ((gather fields decode [] members).bind fun found => (collect fields found).toOption) =
      membersOf? fields decode members := by
  rw [gather_eq_slots, membersOf?]
  congr 1
  refine mapM_congr fun name _ => ?_
  rw [slot?, fieldOf?, List.lookup_nil]
  rcases members.filter (isNamed name) with _ | ⟨m, _ | ⟨m', more⟩⟩ <;> rfl

end Slots

/-! ## Records as arrays -/

/-- The values of the fields still to come. -/
theorem recordItems_row (hitem : Agrees item decode) (left : List String) (seen : List α) {items : List Tree}
    (h : Spells (row seen.isEmpty (items.map Tree.tokens) ++ .mark 0x5D :: tokens) b) :
    Yields (ending (recordItems type item left seen b) listEnd)
      (if items.length = left.length then (items.mapM decode).map (seen.reverse ++ ·) else none) tokens := by
  -- by induction on the fields that are left, to be filled by the items in their order
  induction left generalizing seen items b with
  | nil =>
    cases items with
    | nil =>
      obtain ⟨rest, hend, hrest⟩ := listEnd_close h
      refine ⟨rest, ?_, hrest⟩
      simp only [ending, recordItems, bind, Except.bind, pure, Except.pure, hend, List.reverse_nil, List.append_nil]
    | cons v more =>
      obtain ⟨c, tail, hskip, hc⟩ := row_head h
      obtain ⟨f, hf⟩ := listEnd_eq_error hskip hc
      rw [if_neg (by simp)]
      refine ⟨f, ?_⟩
      simp only [ending, recordItems, bind, Except.bind, hf]
  | cons name left ih =>
    cases items with
    | nil =>
      -- too few items
      obtain ⟨rest, hnext, -⟩ := nextItem_close seen.isEmpty h
      rw [if_neg (by simp)]
      obtain ⟨f, hf⟩ := @listFault_eq_error (List α × Bytes) (.wrongLength seen.length (type.describe ++
        if type.fields.length == 1 then " with 1 element" else
          " with " ++ toString type.fields.length ++ " elements")) rest
      refine ⟨f, ?_⟩
      simp only [ending, recordItems, hnext, bind, Except.bind, hf]
    | cons v more =>
      obtain ⟨rest, hnext, hrest⟩ := nextItem_more h
      have hfollows : Follows (row false (more.map Tree.tokens) ++ .mark 0x5D :: tokens) :=
        follows_row (Or.inl rfl) tokens
      simp only [List.length_cons, Nat.add_right_cancel_iff]
      cases hv : decode v with
      | none =>
        obtain ⟨f, hf⟩ := hitem.read_none hfollows hrest hv
        rw [mapM_cons_none hv, Option.map_none, ite_self]
        refine ⟨{ f with path := .index seen.length :: f.path }, ?_⟩
        simp only [ending, recordItems, hnext, bind, Except.bind, hf, within, Except.mapError]
      | some x =>
        obtain ⟨rest', hx, hrest'⟩ := hitem.read_some hfollows hrest hv
        have hstep : ending (recordItems type item (name :: left) seen b) listEnd =
            ending (recordItems type item left (x :: seen) rest') listEnd := by
          simp only [ending, recordItems, hnext, bind, Except.bind, hx, within, Except.mapError]
        rw [hstep, map_reverse_cons seen hv]
        exact ih (x :: seen) hrest'

/-- **Records are read** if the values of their fields are. -/
theorem agrees_record (hitem : Agrees item decode) (type : RecordType) :
    Agrees (readRecord type item) (Tree.fields? type.fields decode) := by
  refine ⟨?_⟩
  intro t tokens b _ h
  -- a record may be written as an object or as a list, and as nothing else
  have hwrong : t.opener? ≠ some 0x7B → t.opener? ≠ some 0x5B → ∃ f, readRecord type item b = .error f := by
    intro hobject hlist
    obtain ⟨c, more, hskip, hopens, -⟩ := Tree.head h
    have hobject : (c == 0x7B) = false := beq_eq_false_iff_ne.2 (hopens.ne rfl hobject)
    have hlist : (c == 0x5B) = false := beq_eq_false_iff_ne.2 (hopens.ne rfl hlist)
    rw [readRecord, hskip]
    dsimp only
    rw [hobject, hlist, if_neg Bool.false_ne_true, if_neg Bool.false_ne_true]
    exact wrongType_eq_error _ _
  cases t with
  | obj members =>
    rw [Tree.tokens_obj, List.cons_append, List.append_assoc, List.singleton_append] at h
    obtain ⟨rest, hskip, hrest⟩ := h.mark_cons
    have hparts : ∀ p ∈ members.map fun m => .str m.1 :: .mark 0x3A :: m.2.tokens, p ≠ [] := by
      intro p hp
      obtain ⟨m, -, rfl⟩ := List.mem_map.1 hp
      exact List.cons_ne_nil _ _
    have hfuel := hrest.length_parts_le hparts
    rw [List.length_map] at hfuel
    have hread : readRecord type item b =
        ending (recordMembers type item (rest.length + 1) true [] rest) objectEnd := by
      rw [readRecord, hskip]
      rfl
    rw [hread, Tree.fields?, ← gather_eq]
    exact recordMembers_row hitem true [] (Nat.lt_succ_of_le hfuel) hrest
  | arr items =>
    rw [Tree.tokens_arr, List.cons_append, List.append_assoc, List.singleton_append] at h
    obtain ⟨rest, hskip, hrest⟩ := h.mark_cons
    have hread : readRecord type item b = ending (recordItems type item type.fields [] rest) listEnd := by
      rw [readRecord, hskip]
      rfl
    have hall : items.mapM decode = (items.mapM decode).map (([] : List α).reverse ++ ·) := Option.map_id'.symm
    rw [hread, Tree.fields?, hall]
    exact recordItems_row hitem type.fields [] hrest
  | str units => exact hwrong (by simp [Tree.opener?]) (by simp [Tree.opener?])
  | scalar s => exact hwrong (by simp [Tree.opener?]) (by simp [Tree.opener?])

/-- A reader that makes something of a value. -/
theorem Agrees.map (hitem : Agrees item decode) (f : α → β) :
    Agrees (fun b => item b >>= fun p => pure (f p.1, p.2)) fun t => (decode t).map f := by
  refine ⟨?_⟩
  intro t tokens b hfollows h
  cases hv : decode t with
  | none =>
    obtain ⟨fault, hf⟩ := hitem.read_none hfollows h hv
    exact ⟨fault, by rw [hf]; rfl⟩
  | some v =>
    obtain ⟨rest, hread, hrest⟩ := hitem.read_some hfollows h hv
    exact ⟨rest, by rw [hread]; rfl, hrest⟩

/-! ## Whole texts -/

/-- **A text is read** as the value of its tree, or refused if that has none. -/
theorem Agrees.readAll (hitem : Agrees item decode) {t : Tree} {b : Bytes} (h : t.Writes b) :
    match decode t with
    | some v => Json.readAll item b = .ok v
    | none => ∃ f, Json.readAll item b = .error f := by
  rw [Tree.Writes, ← List.append_nil t.tokens] at h
  cases hv : decode t with
  | none =>
    obtain ⟨f, hf⟩ := hitem.read_none .nothing h hv
    exact ⟨f, by simp only [Json.readAll, hf, bind, Except.bind]⟩
  | some v =>
    obtain ⟨rest, hread, hrest⟩ := hitem.read_some .nothing h hv
    have hend : textEnd rest = .ok () := by rw [textEnd, hrest.skipSpace_nil]
    simp only [Json.readAll, hread, hend, bind, Except.bind, pure, Except.pure]

/-- What reads the whole text gives a value exactly if the tree that the text writes decodes to it. -/
theorem Agrees.readAll_eq_ok_iff (hitem : Agrees item decode) {t : Tree} {b : Bytes} (h : t.Writes b) {v : α} :
    Json.readAll item b = .ok v ↔ decode t = some v := by
  have hread := hitem.readAll h
  cases hv : decode t with
  | none =>
    rw [hv] at hread
    obtain ⟨f, hf⟩ := hread
    rw [hf]
    simp
  | some w =>
    rw [hv] at hread
    dsimp only at hread
    rw [hread]
    simp

end Phrasebook.Json
