import Phrasebook.Json.Record
import Phrasebook.Proofs.Json.Strings
/-!
# Lists and records are read back

A list and a record are both written as parts with commas between them, and both readers look for the next part
in the same way: without a comma for the first, after a comma for the others. `separated` says how such a row is
written, in the form in which the readers go through it, so that each loop is one induction over the row.

A reader *reads back* a form (`ReadsBack`) if it gives the value from the bytes of its form, whatever follows
them. Texts do (`readsBack_text`), and lists and records do if their parts do (`readsBack_list`, `readRecord_obj`).
The members of a record may stand in any order for that.
-/

set_option autoImplicit false

namespace Phrasebook.Json

/-! ## What is written -/

/-- Parts with commas between them; without `first`, a comma stands before the first of them as well. -/
def separated : Bool → List Bytes → Bytes
  | _, [] => []
  | true, b :: more => b ++ separated false more
  | false, b :: more => 0x2C :: (b ++ separated false more)

/-- The bytes of a member. -/
def memberBytes (m : String × Json) : Bytes := Text.encode (quote m.1) ++ 0x3A :: m.2.toBytes

/-- A row of parts has at least as many bytes as parts. -/
theorem length_le_separated (first : Bool) {bs : List Bytes} (h : ∀ b ∈ bs, b ≠ []) :
    bs.length ≤ (separated first bs).length := by
  induction bs generalizing first with
  | nil => exact Nat.zero_le _
  | cons b more ih =>
    have hb : 0 < b.length := List.length_pos_iff.2 (h b List.mem_cons_self)
    have hmore := ih false fun c hc => h c (List.mem_cons_of_mem _ hc)
    cases first <;> simp only [separated, List.length_cons, List.length_append] <;> omega

/-- One round for each byte that is left, and one more, is enough to get through a row. -/
theorem length_lt_of_separated (first : Bool) {bs : List Bytes} (h : ∀ b ∈ bs, b ≠ []) (rest : Bytes) :
    bs.length < (separated first bs ++ rest).length + 1 := by
  have hrow := length_le_separated first h
  rw [List.length_append]
  omega

/-- Two parts in a row have a comma between them. -/
theorem separated_cons_cons (b c : Bytes) (more : List Bytes) :
    separated true (b :: c :: more) = b ++ 0x2C :: separated true (c :: more) := rfl

/-- Printed items are their bytes with commas between them. -/
theorem encode_renderItems (items : List Json) :
    Text.encode (renderItems items) = separated true (items.map toBytes) := by
  induction items with
  | nil => rfl
  | cons v more ih =>
    cases more with
    | nil => rw [renderItems, List.map_singleton, separated, separated, List.append_nil, toBytes]
    | cons w rest =>
      have hcomma : Text.encode "," = [0x2C] := rfl
      rw [renderItems, Text.encode_append, Text.encode_append, ih, hcomma, List.append_assoc]
      simp only [List.map_cons, separated_cons_cons, List.singleton_append, toBytes]

/-- Printed members are their bytes with commas between them. -/
theorem encode_renderMembers (members : List (String × Json)) :
    Text.encode (renderMembers members) = separated true (members.map memberBytes) := by
  have hone : ∀ (k : String) (v : Json), Text.encode (quote k ++ ":" ++ render v) = memberBytes (k, v) := by
    intro k v
    rw [Text.encode_append, Text.encode_append, List.append_assoc]
    rfl
  induction members with
  | nil => rfl
  | cons m more ih =>
    obtain ⟨k, v⟩ := m
    cases more with
    | nil => rw [renderMembers, hone, List.map_singleton, separated, separated, List.append_nil]
    | cons m' rest =>
      have hcomma : Text.encode "," = [0x2C] := rfl
      rw [renderMembers, Text.encode_append, Text.encode_append, hone, ih, hcomma, List.append_assoc]
      simp only [List.map_cons, separated_cons_cons, List.singleton_append]

/-- A printed array is its items between brackets. -/
theorem toBytes_arr (items : List Json) :
    (Json.arr items).toBytes = 0x5B :: (separated true (items.map toBytes) ++ [0x5D]) := by
  rw [toBytes, render, Text.encode_append, Text.encode_append, encode_renderItems]
  rfl

/-- A printed object is its members between braces. -/
theorem toBytes_obj (members : List (String × Json)) :
    (Json.obj members).toBytes = 0x7B :: (separated true (members.map memberBytes) ++ [0x7D]) := by
  rw [toBytes, render, Text.encode_append, Text.encode_append, encode_renderMembers]
  rfl

/-! ## What is looked at between the parts -/

/-- Nothing is skipped where no white space stands. -/
theorem skipSpace_cons {c : UInt8} (h : isSpace c = false) (rest : Bytes) : skipSpace (c :: rest) = c :: rest := by
  rw [skipSpace, List.dropWhile_cons_of_neg (by rw [h]; exact Bool.false_ne_true)]

/-- The bytes begin as a value does. -/
def Opens (b : Bytes) : Prop := ∃ c more, b = c :: more ∧ isSpace c = false ∧ c ≠ 0x5D

/-- What opens is not empty. -/
theorem Opens.ne_nil {b : Bytes} (h : Opens b) : b ≠ [] := by
  obtain ⟨c, more, rfl, -, -⟩ := h
  exact List.cons_ne_nil c more

/-- A printed text opens with a quote. -/
theorem opens_str (s : String) : Opens (Json.str s).toBytes := ⟨0x22, _, encode_quote s, rfl, by decide⟩

/-- A printed array opens with its bracket. -/
theorem opens_arr (items : List Json) : Opens (Json.arr items).toBytes :=
  ⟨0x5B, _, toBytes_arr items, rfl, by decide⟩

/-- A printed object opens with its brace. -/
theorem opens_obj (members : List (String × Json)) : Opens (Json.obj members).toBytes :=
  ⟨0x7B, _, toBytes_obj members, rfl, by decide⟩

/-- The next item of a row is found, with or without a comma before it. -/
theorem nextItem_separated {first : Bool} {b : Bytes} (h : Opens b) (more : List Bytes) (rest : Bytes) :
    nextItem first (separated first (b :: more) ++ rest) = .ok (.more (b ++ (separated false more ++ rest))) := by
  obtain ⟨c, tail, rfl, hspace, hclose⟩ := h
  cases first with
  | true =>
    simp only [separated, List.cons_append, List.append_assoc, nextItem, skipSpace_cons hspace, beq_iff_eq, hclose,
      if_false, if_true]
  | false =>
    have hcomma : isSpace 0x2C = false := rfl
    simp only [separated, List.cons_append, List.append_assoc, nextItem, skipSpace_cons hcomma, skipSpace_cons hspace,
      beq_iff_eq, hclose, if_false]
    rfl

/-- The next key of a row is found, with or without a comma before it. -/
theorem nextKey_separated {first : Bool} (tail : Bytes) (more : List Bytes) (rest : Bytes) :
    nextKey first (separated first ((0x22 :: tail) :: more) ++ rest) =
      .ok (.more (0x22 :: (tail ++ (separated false more ++ rest)))) := by
  have hquote : isSpace 0x22 = false := rfl
  have hcomma : isSpace 0x2C = false := rfl
  cases first with
  | true =>
    simp only [separated, List.cons_append, List.append_assoc, nextKey, skipSpace_cons hquote]
    rfl
  | false =>
    simp only [separated, List.cons_append, List.append_assoc, nextKey, skipSpace_cons hcomma, skipSpace_cons hquote]
    rfl

/-- What goes well is not placed anywhere. -/
theorem within_ok {α : Type} (s : Step) (v : α) : within s (.ok v) = .ok v := rfl

/-! ## Reading back -/

variable {α : Type} {item : Reader α} {form : α → Json}

/-- A value is read from the bytes of its form, whatever follows them. -/
structure ReadsBack (item : Reader α) (form : α → Json) : Prop where
  opens : ∀ v, Opens (form v).toBytes
  reads : ∀ v rest, item ((form v).toBytes ++ rest) = .ok (v, rest)

/-- A text that is the form of a value is read as the value. -/
theorem ReadsBack.readAll (h : ReadsBack item form) (v : α) : readAll item (form v).toBytes = .ok v := by
  have hitem := h.reads v []
  rw [List.append_nil] at hitem
  simp only [Json.readAll, hitem]
  rfl

/-- **A text is read back** from its printed form. -/
theorem readsBack_text : ReadsBack readText Json.str where
  opens := opens_str
  reads s rest := by
    obtain ⟨body, hbytes, hread⟩ := string_quote s rest
    have hquote : isSpace 0x22 = false := rfl
    rw [toBytes, render, hbytes, List.cons_append, readText, skipSpace_cons hquote]
    exact hread

/-- The items of a list, after those that have been seen. -/
theorem listItems_separated (h : ReadsBack item form) (seen : List α) {vs : List α} {fuel : Nat}
    (hfuel : vs.length < fuel) (rest : Bytes) :
    listItems item fuel seen (separated seen.isEmpty (vs.map fun v => (form v).toBytes) ++ 0x5D :: rest) =
      .ok (seen.reverse ++ vs, 0x5D :: rest) := by
  -- whether a comma stands before the next item depends on `seen`, so the row starts over with it
  induction vs generalizing seen fuel with
  | nil =>
    obtain ⟨fuel, rfl⟩ := Nat.exists_eq_succ_of_ne_zero (Nat.ne_of_gt hfuel)
    rw [List.append_nil]
    rfl
  | cons v more ih =>
    obtain ⟨fuel, rfl⟩ := Nat.exists_eq_succ_of_ne_zero (Nat.ne_of_gt (Nat.zero_lt_of_lt hfuel))
    rw [List.map_cons, listItems, nextItem_separated (h.opens v)]
    simp only [bind, Except.bind, h.reads, within_ok]
    rw [List.append_cons seen.reverse, ← List.reverse_cons]
    exact ih (v :: seen) (Nat.lt_of_succ_lt_succ hfuel)

/-- **Lists are read back** if their items are. -/
theorem readsBack_list (h : ReadsBack item form) :
    ReadsBack (readList item) fun vs => Json.arr (vs.map form) where
  opens vs := opens_arr (vs.map form)
  reads vs rest := by
    have hopen : isSpace 0x5B = false := rfl
    have hmap : (vs.map form).map toBytes = vs.map fun v => (form v).toBytes := List.map_map ..
    have hne : ∀ b ∈ vs.map fun v => (form v).toBytes, b ≠ [] := by
      intro b hb
      obtain ⟨v, -, rfl⟩ := List.mem_map.1 hb
      exact (h.opens v).ne_nil
    have hfuel := length_lt_of_separated true hne (0x5D :: rest)
    rw [List.length_map] at hfuel
    have hitems := listItems_separated h [] hfuel rest
    rw [toBytes_arr, hmap, List.cons_append, List.append_assoc, readList, skipSpace_cons hopen]
    simp only [List.cons_append, List.nil_append, bind, Except.bind, beq_self_eq_true, if_true]
    rw [List.isEmpty_nil] at hitems
    rw [hitems]
    rfl

/-! ## Records -/

/-- The values of members whose keys differ are collected in the order of the keys asked for. -/
theorem collect_eq {ms found : List (String × α)} (h : ∀ m ∈ ms, found.lookup m.1 = some m.2) :
    collect (ms.map Prod.fst) found = .ok (ms.map Prod.snd) := by
  induction ms with
  | nil => rfl
  | cons m more ih =>
    have hmore := ih fun m' hm' => h m' (List.mem_cons_of_mem _ hm')
    rw [collect] at hmore
    rw [List.map_cons, collect, List.mapM_cons, h m List.mem_cons_self, hmore]
    rfl

/-- In a record without repetitions each member is found under its name. -/
theorem lookup_of_mem {ms : List (String × α)} (hnodup : (ms.map Prod.fst).Nodup) {m : String × α} (hm : m ∈ ms) :
    ms.lookup m.1 = some m.2 := by
  induction ms with
  | nil => cases hm
  | cons m' more ih =>
    rw [List.map_cons, List.nodup_cons] at hnodup
    obtain ⟨hnew, hnodup⟩ := hnodup
    rcases List.mem_cons.1 hm with rfl | hm
    · exact List.lookup_cons_self
    · have hne : (m.1 == m'.1) = false := by
        rw [beq_eq_false_iff_ne]
        intro heq
        exact hnew (List.mem_map.2 ⟨m, hm, heq⟩)
      rw [List.lookup_cons, hne]
      exact ih hnodup hm

variable {t : RecordType}

/-- One member that no member before it repeats. -/
theorem recordMembers_member (h : ReadsBack item form) {first : Bool} {found : List (String × α)} {k : String} {v : α}
    (hfield : k ∈ t.fields) (hnew : found.lookup k = none) (fuel : Nat) (more : List Bytes) (rest : Bytes) :
    recordMembers t item (fuel + 1) first found (separated first (memberBytes (k, form v) :: more) ++ rest) =
      recordMembers t item fuel false ((k, v) :: found) (separated false more ++ rest) := by
  have hcolon : isSpace 0x3A = false := rfl
  obtain ⟨body, hbytes, hread⟩ := string_quote k (0x3A :: ((form v).toBytes ++ (separated false more ++ rest)))
  have hmember : memberBytes (k, form v) = 0x22 :: (body ++ 0x3A :: (form v).toBytes) := by
    rw [memberBytes, hbytes, List.cons_append]
  have hkey : t.fields.contains k = true := List.contains_iff_mem.2 hfield
  rw [hmember, recordMembers, nextKey_separated, List.append_assoc, List.cons_append]
  simp only [bind, Except.bind, List.drop_succ_cons, List.drop_zero, hread, hkey, hnew, if_true, Option.isSome_none,
    Bool.false_eq_true, if_false, colon, skipSpace_cons hcolon, beq_self_eq_true, h.reads, within_ok]

/-- The members of a record, in any order, after those that have been found. -/
theorem recordMembers_separated (h : ReadsBack item form) (first : Bool) {ms found : List (String × α)} {fuel : Nat}
    {values : List α} (hfuel : ms.length < fuel) (hfields : ∀ m ∈ ms, m.1 ∈ t.fields)
    (hnodup : (ms.map Prod.fst).Nodup) (hnew : ∀ m ∈ ms, found.lookup m.1 = none)
    (hvalues : collect t.fields (ms.reverse ++ found) = .ok values) (rest : Bytes) :
    recordMembers t item fuel first found
        (separated first (ms.map fun m => memberBytes (m.1, form m.2)) ++ 0x7D :: rest) =
      .ok (values, 0x7D :: rest) := by
  -- a member moves from the front of the row to the front of what was found; the list collected from stays
  induction ms generalizing found first fuel with
  | nil =>
    obtain ⟨fuel, rfl⟩ := Nat.exists_eq_succ_of_ne_zero (Nat.ne_of_gt hfuel)
    have hclose : nextKey first (0x7D :: rest) = .ok (.close (0x7D :: rest)) := rfl
    rw [List.map_nil, separated, List.nil_append, recordMembers, hclose]
    rw [List.reverse_nil, List.nil_append] at hvalues
    simp only [bind, Except.bind, hvalues]
    rfl
  | cons m more ih =>
    obtain ⟨k, v⟩ := m
    obtain ⟨fuel, rfl⟩ := Nat.exists_eq_succ_of_ne_zero (Nat.ne_of_gt (Nat.zero_lt_of_lt hfuel))
    rw [List.map_cons, List.nodup_cons] at hnodup
    obtain ⟨honce, hnodup⟩ := hnodup
    rw [List.map_cons, recordMembers_member h (hfields _ List.mem_cons_self) (hnew _ List.mem_cons_self)]
    refine ih false (Nat.lt_of_succ_lt_succ hfuel) (fun m hm => hfields m (List.mem_cons_of_mem _ hm)) hnodup ?_ ?_
    · -- the key that was just read does not stand in the row again
      intro m hm
      have hne : (m.1 == k) = false := by
        rw [beq_eq_false_iff_ne]
        intro heq
        exact honce (List.mem_map.2 ⟨m, hm, heq⟩)
      rw [List.lookup_cons, hne]
      exact hnew m (List.mem_cons_of_mem _ hm)
    · rw [List.reverse_cons, List.append_assoc] at hvalues
      exact hvalues

/-- **Records are read back** from members in any order, if the values of the fields are. -/
theorem readRecord_obj (h : ReadsBack item form) {ms : List (String × α)} {values : List α}
    (hfields : ∀ m ∈ ms, m.1 ∈ t.fields) (hnodup : (ms.map Prod.fst).Nodup)
    (hvalues : collect t.fields ms.reverse = .ok values) (rest : Bytes) :
    readRecord t item ((Json.obj (ms.map fun m => (m.1, form m.2))).toBytes ++ rest) = .ok (values, rest) := by
  have hopen : isSpace 0x7B = false := rfl
  have hmap : (ms.map fun m => (m.1, form m.2)).map memberBytes = ms.map fun m => memberBytes (m.1, form m.2) :=
    List.map_map ..
  -- no member is empty, so the length of what is left is fuel enough
  have hne : ∀ b ∈ ms.map fun m => memberBytes (m.1, form m.2), b ≠ [] := by
    intro b hb
    obtain ⟨m, -, rfl⟩ := List.mem_map.1 hb
    exact List.append_ne_nil_of_right_ne_nil _ (List.cons_ne_nil _ _)
  have hfuel := length_lt_of_separated true hne (0x7D :: rest)
  rw [List.length_map] at hfuel
  have hnew : ∀ m ∈ ms, ([] : List (String × α)).lookup m.1 = none := fun m _ => rfl
  rw [← List.append_nil ms.reverse] at hvalues
  have hmembers := recordMembers_separated h true hfuel hfields hnodup hnew hvalues rest
  rw [toBytes_obj, hmap, List.cons_append, List.append_assoc, readRecord, skipSpace_cons hopen]
  simp only [List.cons_append, List.nil_append, bind, Except.bind, beq_self_eq_true, if_true]
  rw [hmembers]
  rfl

/-- A record is read back from its members as they are written. -/
theorem readRecord_fields (h : ReadsBack item form) (ms : List (String × α)) (hfields : t.fields = ms.map Prod.fst)
    (hnodup : t.fields.Nodup) (rest : Bytes) :
    readRecord t item ((Json.obj (ms.map fun m => (m.1, form m.2))).toBytes ++ rest) = .ok (ms.map Prod.snd, rest) := by
  rw [hfields] at hnodup
  refine readRecord_obj h ?_ hnodup ?_ rest
  · intro m hm
    rw [hfields]
    exact List.mem_map_of_mem hm
  · -- the members were found from the last to the first, which does not matter as no key is repeated
    rw [hfields]
    refine collect_eq fun m hm => lookup_of_mem ?_ (List.mem_reverse.2 hm)
    rw [List.map_reverse]
    exact (List.reverse_perm _).nodup_iff.2 hnodup

end Phrasebook.Json
