import Phrasebook.Settings.Value
/-!
# Laying values over others

What a source lays over a value at one path leaves the others as they were. Told of a single variable: among all that
is laid over the settings, what it stands for is all that its text has to do with (`SameBut`). A later variable changes
nothing about that as long as it leads elsewhere (`Apart`).
-/

set_option autoImplicit false

namespace Phrasebook.Settings

/-- Some steps lead elsewhere than to a path: they part from it, at two names. -/
def Apart : List Step → List String → Prop
  | .key a :: steps, b :: path => a ≠ b ∨ Apart steps path
  | _, _ => False

instance decidableApart : (steps : List Step) → (path : List String) → Decidable (Apart steps path)
  | .key a :: steps, b :: path =>
    have := decidableApart steps path
    inferInstanceAs (Decidable (a ≠ b ∨ Apart steps path))
  | .index _ :: _, _ => .isFalse id
  | [], _ => .isFalse id
  | .key _ :: _, [] => .isFalse id

/-- Nothing leads elsewhere than to the empty path, which every step lies under. -/
theorem not_apart_nil (steps : List Step) : ¬ Apart steps [] := by
  cases steps with
  | nil => exact id
  | cons s _ => cases s <;> exact id

/-- What leads elsewhere begins with a name: an index parts from no path. -/
theorem Apart.exists_key {steps : List Step} {path : List String} (h : Apart steps path) :
    ∃ a rest, steps = .key a :: rest := by
  unfold Apart at h
  split at h
  · exact ⟨_, _, rfl⟩
  · exact h.elim

/-- Two values that are found to be the same wherever one looks by name, but for a path. There one has the value `x`,
and the other the value `y`. -/
inductive SameBut (x y : Value) : List String → Value → Value → Prop where
  | here : SameBut x y [] x y
  | member {k : String} {path : List String} {o : Option String} {m n : List (String × Value)} {u w : Value}
      (left : m.lookup k = some u) (right : n.lookup k = some w)
      (others : ∀ name, name ≠ k → m.lookup name = n.lookup name) (inside : SameBut x y path u w) :
      SameBut x y (k :: path) (.table o m) (.table o n)

/-- An entry in front is found under its name, and hides any other of that name. -/
theorem lookup_cons_eq {α : Type} (k name : String) (v : α) (m : List (String × α)) :
    ((k, v) :: m).lookup name = if name = k then some v else m.lookup name := by
  rw [List.lookup_cons]
  by_cases h : name = k
  · rw [if_pos h, beq_iff_eq.2 h]
  · rw [if_neg h, beq_false_of_ne h]

section Overlay

variable {x y u w : Value} {path : List String}

/-- Changing a member puts the changed value under its name, `nothing` standing in where there was none, and
leaves what is found under the other names. -/
theorem lookup_changeMember (k name : String) (f : Value → Value) (m : List (String × Value)) :
    (Value.changeMember k f m).lookup name =
      if name = k then some (f ((m.lookup k).getD .nothing)) else m.lookup name := by
  induction m with
  | nil => exact lookup_cons_eq k name _ []
  | cons entry rest ih =>
    obtain ⟨here, v⟩ := entry
    rw [Value.changeMember, lookup_cons_eq here k, lookup_cons_eq here name]
    by_cases hk : k = here
    · -- the first entry of a name is the one that is changed, and the one that is found
      rw [if_pos (beq_iff_eq.2 hk.symm), lookup_cons_eq, if_pos hk, hk]
      by_cases h : name = here
      · rw [if_pos h, if_pos h]
        rfl
      · rw [if_neg h, if_neg h, if_neg h]
    · rw [if_neg (mt beq_iff_eq.1 (Ne.symm hk)), lookup_cons_eq, if_neg hk, ih]
      by_cases h : name = here
      · rw [if_pos h, if_pos h, if_neg (h ▸ Ne.symm hk)]
      · rw [if_neg h, if_neg h]

/-- Two values that are laid over the same one at the same path. -/
theorem sameBut_layAt (hx : ∀ under, Value.lay under x = x) (hy : ∀ under, Value.lay under y = y) (path : List String)
    (under : Value) :
    SameBut x y path (Value.layAt (path.map .key) x under) (Value.layAt (path.map .key) y under) := by
  induction path generalizing under with
  | nil =>
    rw [List.map_nil, Value.layAt, Value.layAt, hx, hy]
    exact .here
  | cons k path ih =>
    rw [List.map_cons, Value.layAt, Value.layAt]
    refine .member ((lookup_changeMember k k _ _).trans (if_pos rfl)) ((lookup_changeMember k k _ _).trans (if_pos rfl))
      ?_ (ih _)
    intro name hne
    rw [lookup_changeMember, lookup_changeMember, if_neg hne, if_neg hne]

/-- What leads elsewhere makes no difference. -/
theorem SameBut.layAt {steps : List Step} (h : SameBut x y path u w) (hapart : Apart steps path) (v : Value) :
    SameBut x y path (Value.layAt steps v u) (Value.layAt steps v w) := by
  induction h generalizing steps with
  | here => exact absurd hapart (not_apart_nil steps)
  | @member k path o m n u w left right others inside ih =>
    obtain ⟨a, steps, rfl⟩ := hapart.exists_key
    rw [Value.layAt, Value.layAt]
    by_cases hak : a = k
    · -- the steps go along the path and part from it further on
      subst hak
      have hinside := ih (hapart.resolve_left (not_not_intro rfl))
      refine .member ((lookup_changeMember a a _ _).trans ?_) ((lookup_changeMember a a _ _).trans ?_) ?_ hinside
      · rw [if_pos rfl, Value.members, left]
        rfl
      · rw [if_pos rfl, Value.members, right]
        rfl
      · intro name hne
        rw [lookup_changeMember, lookup_changeMember, if_neg hne, if_neg hne]
        exact others name hne
    · -- they part from it here, at a member that both have alike
      have hka : k ≠ a := Ne.symm hak
      refine .member ((lookup_changeMember a k _ _).trans ?_) ((lookup_changeMember a k _ _).trans ?_) ?_ inside
      · rw [if_neg hka, Value.members, left]
      · rw [if_neg hka, Value.members, right]
      · intro name hne
        rw [lookup_changeMember, lookup_changeMember, Value.members, Value.members, others name hne, others a hak]

/-- A whole source that leads elsewhere makes no difference either, one entry after the other. -/
theorem SameBut.laySource {source : List (String × Value)} (h : SameBut x y path u w)
    (hapart : ∀ entry ∈ source, Apart (stepsOf entry.1) path) :
    SameBut x y path (u.laySource source) (w.laySource source) := by
  induction source generalizing u w with
  | nil => exact h
  | cons entry rest ih =>
    have hnext := h.layAt (hapart entry List.mem_cons_self) entry.2
    exact ih hnext fun later hlater => hapart later (List.mem_cons_of_mem _ hlater)

end Overlay

end Phrasebook.Settings
