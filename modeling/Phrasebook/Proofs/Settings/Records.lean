import Phrasebook.Proofs.Settings.Overlay
import Phrasebook.Settings.FromValue
/-!
# Reading records

What is read of a table depends on its members one by one. If one of them is another, the field of that name is another,
and nothing else: neither another field, nor whether the record can be read at all (`recordOfValue_change`).
-/

set_option autoImplicit false

namespace Phrasebook.Settings

/-! ## Results -/

section Results

variable {ε δ α β : Type} {x : Except ε α} {b : β}

/-- What follows a step that can fail has been reached with what that step gave. -/
theorem bind_eq_ok {f : α → Except ε β} (h : x.bind f = .ok b) : ∃ a, x = .ok a ∧ f a = .ok b := by
  cases x with
  | error e => cases h
  | ok a => exact ⟨a, rfl, h⟩

/-- A result that was turned into another one was there before. -/
theorem map_eq_ok {f : α → β} (h : x.map f = .ok b) : ∃ a, x = .ok a ∧ f a = b := by
  cases x with
  | error e => cases h
  | ok a => exact ⟨a, rfl, Except.ok.inj h⟩

/-- Other words for a failure make no result of it. -/
theorem mapError_eq_ok {f : ε → δ} {a : α} (h : x.mapError f = .ok a) : x = .ok a := by
  cases x with
  | error e => cases h
  | ok b => exact congrArg Except.ok (Except.ok.inj h)

end Results

/-! ## Changed fields -/

/-- A record with the value of one field changed. -/
def change {α : Type} (k : String) (f : α → α) (l : List (String × α)) : List (String × α) :=
  l.map fun (name, x) => (name, if name = k then f x else x)

section Change

variable {α : Type} (k : String) (f : α → α)

/-- There is nothing to change in a record without fields. -/
theorem change_nil : change k f [] = [] := rfl

/-- Changing a field goes through the fields one by one. -/
theorem change_cons (name : String) (x : α) (l : List (String × α)) :
    change k f ((name, x) :: l) = (name, if name = k then f x else x) :: change k f l := rfl

/-- Only the field of that name is found changed. -/
theorem lookup_change (l : List (String × α)) (name : String) :
    (change k f l).lookup name = if name = k then (l.lookup name).map f else l.lookup name := by
  induction l with
  | nil => simp [change]
  | cons entry l ih =>
    obtain ⟨here, x⟩ := entry
    rw [change_cons, lookup_cons_eq, lookup_cons_eq, ih]
    by_cases hhere : name = here
    · subst hhere
      by_cases hk : name = k <;> simp [hk]
    · rw [if_neg hhere, if_neg hhere]

end Change

section Record

variable {α : Type} {keys : List String} {read : String → Value → Except Misfit α}
  {whenAbsent : String → Option α} {m n : List (String × Value)} {values fields : List (String × α)} {k : String}

/-! ## A member that is there -/

/-- A member that is there is read before the rest, and its name is put before the path of a misfit in it. -/
theorem readMembers_cons_of_some {v : Value} (hv : m.lookup k = some v) (keys : List String) :
    readMembers read m (k :: keys) = ((read k v).mapError (Misfit.under k)).bind fun x =>
      (readMembers read m keys).map ((k, x) :: ·) := by
  rw [readMembers, hv]
  rfl

/-- A member that is not there is passed over when the members are read. -/
theorem readMembers_cons_of_none (hv : m.lookup k = none) (keys : List String) :
    readMembers read m (k :: keys) = readMembers read m keys := by
  rw [readMembers, hv]

/-- A member that is there has been read, and what was read of it is found under its name. -/
theorem lookup_readMembers {v : Value} (h : readMembers read m keys = .ok values) (hk : k ∈ keys)
    (hv : m.lookup k = some v) : ∃ x, read k v = .ok x ∧ values.lookup k = some x := by
  -- by induction on the keys, the first with the name being the one that is read
  induction keys generalizing values with
  | nil => cases hk
  | cons a keys ih =>
    cases ha : m.lookup a with
    | none =>
      rw [readMembers_cons_of_none ha] at h
      refine ih h ((List.mem_cons.1 hk).resolve_left ?_)
      rintro rfl
      rw [hv] at ha
      cases ha
    | some u =>
      rw [readMembers_cons_of_some ha] at h
      obtain ⟨x, hx, hcons⟩ := bind_eq_ok h
      obtain ⟨rest, hrest, rfl⟩ := map_eq_ok hcons
      rw [lookup_cons_eq]
      by_cases hka : k = a
      · subst hka
        obtain rfl : v = u := Option.some.inj (hv.symm.trans ha)
        exact ⟨x, mapError_eq_ok hx, if_pos rfl⟩
      · rw [if_neg hka]
        exact ih hrest ((List.mem_cons.1 hk).resolve_left hka)

/-- A field that was read, or has a value for its absence, is taken into the record. -/
theorem complete_cons_of_some {x : α} (hx : (values.lookup k).or (whenAbsent k) = some x) (keys : List String) :
    complete whenAbsent values (k :: keys) = (complete whenAbsent values keys).map ((k, x) :: ·) := by
  rw [complete, hx]
  rfl

/-- A field that was not read and has no value for its absence is the misfit, whatever comes after it. -/
theorem complete_cons_of_none (hx : (values.lookup k).or (whenAbsent k) = none) (keys : List String) :
    complete whenAbsent values (k :: keys) = .error (.missing [k]) := by
  rw [complete, hx]

/-- In a record that is complete each field has what was read for it, or else the value for its absence. -/
theorem lookup_complete (h : complete whenAbsent values keys = .ok fields) (hk : k ∈ keys) :
    fields.lookup k = (values.lookup k).or (whenAbsent k) := by
  induction keys generalizing fields with
  | nil => cases hk
  | cons a keys ih =>
    cases ha : (values.lookup a).or (whenAbsent a) with
    | none =>
      rw [complete_cons_of_none ha] at h
      cases h
    | some x =>
      rw [complete_cons_of_some ha] at h
      obtain ⟨rest, hrest, rfl⟩ := map_eq_ok h
      rw [lookup_cons_eq]
      by_cases hka : k = a
      · rw [if_pos hka, hka, ha]
      · rw [if_neg hka]
        exact ih hrest ((List.mem_cons.1 hk).resolve_left hka)

/-- **What a record tells of a member that is there.** -/
theorem lookup_recordOfValue (name : String) (o : Option String) {v : Value}
    (h : recordOfValue name keys read whenAbsent (.table o m) = .ok fields) (hk : k ∈ keys)
    (hv : m.lookup k = some v) : ∃ x, read k v = .ok x ∧ fields.lookup k = some x := by
  obtain ⟨values, hvalues, hfields⟩ := bind_eq_ok h
  obtain ⟨x, hx, hlookup⟩ := lookup_readMembers hvalues hk hv
  refine ⟨x, hx, ?_⟩
  rw [lookup_complete hfields hk, hlookup]
  rfl

/-! ## Another member in its place -/

section Other

variable {u w : Value} {f : α → α} (left : m.lookup k = some u) (right : n.lookup k = some w)
  (others : ∀ name, name ≠ k → m.lookup name = n.lookup name) (hread : read k w = (read k u).map f)

include left right others hread

/-- Two tables alike but for one member are read alike but for the field of that name. The reading of the member
may fail, and then it fails for both. -/
theorem readMembers_change (keys : List String) :
    readMembers read n keys = (readMembers read m keys).map (change k f) := by
  induction keys with
  | nil => rfl
  | cons a keys ih =>
    by_cases hak : a = k
    · subst hak
      rw [readMembers_cons_of_some right, readMembers_cons_of_some left, ih, hread]
      cases read a u with
      | error e => rfl
      | ok x =>
        cases readMembers read m keys with
        | error e => rfl
        | ok rest =>
          -- the changed member is in front, and the rest is changed already
          refine congrArg Except.ok ?_
          rw [change_cons, if_pos rfl]
    · have hother := others a hak
      cases ha : m.lookup a with
      | none => rw [readMembers_cons_of_none ha, readMembers_cons_of_none (hother ▸ ha), ih]
      | some v =>
        rw [readMembers_cons_of_some ha, readMembers_cons_of_some (hother ▸ ha), ih]
        cases read a v with
        | error e => rfl
        | ok x =>
          cases readMembers read m keys with
          | error e => rfl
          | ok rest =>
            refine congrArg Except.ok ?_
            rw [change_cons, if_neg hak]

end Other

/-- A field that was there is changed before or after the others are put to it. -/
theorem complete_change {f : α → α} (h : k ∈ keys → (values.lookup k).isSome = true) :
    complete whenAbsent (change k f values) keys = (complete whenAbsent values keys).map (change k f) := by
  -- by induction on the keys: the changed one has a value, so the default is never asked for
  induction keys with
  | nil => rfl
  | cons a keys ih =>
    have hrest := ih fun hk => h (List.mem_cons_of_mem _ hk)
    have hvalue : ((change k f values).lookup a).or (whenAbsent a) =
        ((values.lookup a).or (whenAbsent a)).map (fun x => if a = k then f x else x) := by
      rw [lookup_change]
      by_cases hak : a = k
      · obtain ⟨x, hx⟩ := Option.isSome_iff_exists.1 (h (hak ▸ List.mem_cons_self))
        subst hak
        simp [hx]
      · simp [hak]
    cases ha : (values.lookup a).or (whenAbsent a) with
    | none =>
      rw [ha] at hvalue
      rw [complete_cons_of_none ha, complete_cons_of_none hvalue]
      rfl
    | some x =>
      rw [ha] at hvalue
      rw [complete_cons_of_some ha, complete_cons_of_some hvalue, hrest]
      cases complete whenAbsent values keys <;> rfl

/-- **A record with another member.** If what is read of the member comes from what was read before by some change,
then so does the record. -/
theorem recordOfValue_change (name : String) (o : Option String) {u w : Value} {f : α → α}
    (left : m.lookup k = some u) (right : n.lookup k = some w) (others : ∀ name, name ≠ k → m.lookup name = n.lookup name)
    (hread : read k w = (read k u).map f) :
    recordOfValue name keys read whenAbsent (.table o n) =
      (recordOfValue name keys read whenAbsent (.table o m)).map (change k f) := by
  rw [recordOfValue, recordOfValue, readMembers_change left right others hread]
  cases hvalues : readMembers read m keys with
  | error e => rfl
  | ok values =>
    -- the default of a field is not looked for if the member is there, so it is not what is changed
    refine complete_change fun hk => ?_
    obtain ⟨x, -, hx⟩ := lookup_readMembers hvalues hk left
    rw [hx]
    rfl

end Record

end Phrasebook.Settings
