import Mathlib.Logic.Relation
import Phrasebook.Proofs.Json.Decoding
import Phrasebook.Proofs.Json.RoundTrip
import Phrasebook.Proofs.Json.Printed
/-!
# Reading does not depend on presentation

White space and the spelling of strings are no part of a tree, so a reader that agrees with a function on trees cannot
see them. What is left of presentation is a matter of trees: the order of members, and members that nobody asked for
(`Rearranges`). The function for a record looks for each field among all members, so that neither matters, at the
record itself or at a record inside it; and a field that is missing, repeated or of another type is found wherever it
stands (`Spoils`).

A name of a member is read even if nobody asked for it. One that is no text, as half of a surrogate pair is escaped in
it, spoils the record, while in the value of such a member anything may stand.
-/

set_option autoImplicit false

namespace Phrasebook

namespace Json

/-! ## Other presentations, and other values -/

/-- No change at all. -/
def Untouched (_ _ : Tree) : Prop := False

/-- One step to another presentation of a record, whose fields have other presentations by `within`. -/
inductive Rearranges (fields : List String) (within : Tree → Tree → Prop) : Tree → Tree → Prop where
  | permute {members members' : List (List Nat × Tree)} (h : members.Perm members') :
      Rearranges fields within (.obj members) (.obj members')
  | insert (before after : List (List Nat × Tree)) {name : List Nat} {s : String} (v : Tree)
      (hname : textOf? name = some s) (hnew : s ∉ fields) :
      Rearranges fields within (.obj (before ++ after)) (.obj (before ++ (name, v) :: after))
  | inside (before after : List (List Nat × Tree)) {name : List Nat} {s : String} {v w : Tree}
      (hname : textOf? name = some s) (hknown : s ∈ fields) (h : within v w) :
      Rearranges fields within (.obj (before ++ (name, v) :: after)) (.obj (before ++ (name, w) :: after))

/-- One step from a record to none: a field is missing, repeated, of a type that is `wrong`, or spoiled by `within`; or
a name is no text. -/
inductive Spoils (fields : List String) (wrong : Tree → Prop) (within : Tree → Tree → Prop) : Tree → Tree → Prop where
  | drop (before after : List (List Nat × Tree)) {name : List Nat} {s : String} {v : Tree}
      (hname : textOf? name = some s) (hknown : s ∈ fields) :
      Spoils fields wrong within (.obj (before ++ (name, v) :: after)) (.obj (before ++ after))
  | again (before after : List (List Nat × Tree)) {name : List Nat} {s : String} (v : Tree)
      (hname : textOf? name = some s) (hknown : s ∈ fields) :
      Spoils fields wrong within (.obj (before ++ after)) (.obj (before ++ (name, v) :: after))
  | retype (before after : List (List Nat × Tree)) {name : List Nat} {s : String} {v w : Tree}
      (hname : textOf? name = some s) (hknown : s ∈ fields) (h : wrong w) :
      Spoils fields wrong within (.obj (before ++ (name, v) :: after)) (.obj (before ++ (name, w) :: after))
  | inside (before after : List (List Nat × Tree)) {name : List Nat} {s : String} {v w : Tree}
      (hname : textOf? name = some s) (hknown : s ∈ fields) (h : within v w) :
      Spoils fields wrong within (.obj (before ++ (name, v) :: after)) (.obj (before ++ (name, w) :: after))
  | unnamed (before after : List (List Nat × Tree)) {name : List Nat} (v : Tree) (hname : textOf? name = none) :
      Spoils fields wrong within (.obj (before ++ after)) (.obj (before ++ (name, v) :: after))

/-- One item of an array changes. -/
inductive OneItem (within : Tree → Tree → Prop) : Tree → Tree → Prop where
  | item (before after : List Tree) {v w : Tree} (h : within v w) :
      OneItem within (.arr (before ++ v :: after)) (.arr (before ++ w :: after))

/-- No string. -/
def NoString (t : Tree) : Prop := ∀ units, t ≠ .str units

/-- No array. -/
def NoArray (t : Tree) : Prop := ∀ items, t ≠ .arr items

variable {α : Type} {decode : Tree → Option α} {fields : List String} {within : Tree → Tree → Prop} {t t' : Tree}
  {before after members members' : List (List Nat × Tree)} {name : List Nat} {s : String} {v w : Tree}

/-! ## Members -/

/-- A member has a name exactly if its units spell it. -/
theorem isNamed_iff {m : List Nat × Tree} : isNamed s m = true ↔ textOf? m.1 = some s := beq_iff_eq

/-- A field with another name is looked for elsewhere. -/
theorem fieldOf?_of_not_named {m : List Nat × Tree} (h : isNamed s m = false) :
    fieldOf? decode (before ++ m :: after) s = fieldOf? decode (before ++ after) s := by
  rw [fieldOf?, fieldOf?, List.filter_append, List.filter_append, List.filter_cons_of_neg (by rw [h]; simp)]

/-- A field has the value of a member with its name if there is no other. -/
theorem fieldOf?_of_named {m : List Nat × Tree} (h : isNamed s m = true) :
    fieldOf? decode (before ++ m :: after) s =
      if ((before ++ after).filter (isNamed s)).isEmpty then decode m.2 else none := by
  rw [fieldOf?, List.filter_append, List.filter_append, List.filter_cons_of_pos h]
  rcases before.filter (isNamed s) with _ | ⟨m₁, _ | ⟨m₂, more⟩⟩
  · rcases after.filter (isNamed s) with _ | ⟨m', more⟩ <;> rfl
  · rfl
  · rfl

/-- A field that no member names has no value. -/
theorem fieldOf?_of_isEmpty (h : (members.filter (isNamed s)).isEmpty = true) : fieldOf? decode members s = none := by
  rw [fieldOf?, List.isEmpty_iff.1 h]

/-- The order of the members does not matter to a field. -/
theorem fieldOf?_perm (h : members.Perm members') : fieldOf? decode members s = fieldOf? decode members' s := by
  have hfilter := h.filter (isNamed s)
  rw [fieldOf?, fieldOf?]
  generalize members.filter (isNamed s) = l at hfilter
  generalize members'.filter (isNamed s) = l' at hfilter
  rcases l with _ | ⟨m, _ | ⟨m₂, more⟩⟩
  · rw [hfilter.nil_eq]
  · rw [List.perm_singleton.1 hfilter.symm]
  · -- two members or more stay two or more
    rcases l' with _ | ⟨n, _ | ⟨n₂, more'⟩⟩
    · exact absurd hfilter.length_eq (by simp)
    · exact absurd hfilter.length_eq (by simp)
    · rfl

/-- The values of fields are the same if every name is still a text and every field has the value it had. -/
theorem membersOf?_congr
    (hnames : (members.all fun m => (textOf? m.1).isSome) = members'.all fun m => (textOf? m.1).isSome)
    (hfields : ∀ s ∈ fields, fieldOf? decode members s = fieldOf? decode members' s) :
    membersOf? fields decode members = membersOf? fields decode members' := by
  rw [membersOf?, membersOf?, hnames, mapM_congr hfields]

/-- A field without a value spoils the record. -/
theorem membersOf?_eq_none (hs : s ∈ fields) (h : fieldOf? decode members s = none) :
    membersOf? fields decode members = none := by
  rw [membersOf?, mapM_eq_none hs h, ite_self]

/-- A member whose name is not proper spoils the object. -/
theorem membersOf?_unnamed (hname : textOf? name = none) :
    membersOf? fields decode (before ++ (name, v) :: after) = none := by
  rw [membersOf?, List.all_append, List.all_cons, hname, Option.isSome_none, Bool.false_and, Bool.and_false]
  rfl

/-! ## Records -/

/-- **Another presentation of a record** has the same value. -/
theorem Rearranges.fields?_eq (hwithin : ∀ v w, within v w → decode v = decode w)
    (h : Rearranges fields within t t') : t.fields? fields decode = t'.fields? fields decode := by
  -- a new order and an unknown member are not looked at; a change inside a field is not seen by its reader
  cases h with
  | permute h => exact membersOf?_congr h.all_eq fun s _ => fieldOf?_perm h
  | @insert before after name s v hname hnew =>
    refine (membersOf?_congr ?_ fun field hfield => fieldOf?_of_not_named ?_).symm
    · rw [List.all_append, List.all_append, List.all_cons, hname, Option.isSome_some, Bool.true_and]
    · rw [← Bool.not_eq_true, isNamed_iff, hname, Option.some.injEq]
      rintro rfl
      exact hnew hfield
  | @inside before after name s v w hname hknown h =>
    refine membersOf?_congr ?_ fun field hfield => ?_
    · rw [List.all_append, List.all_append, List.all_cons, List.all_cons]
    · cases hnamed : isNamed field (name, v) with
      | false =>
        have hnamed' : isNamed field (name, w) = false := hnamed
        rw [fieldOf?_of_not_named hnamed, fieldOf?_of_not_named hnamed']
      | true =>
        have hnamed' : isNamed field (name, w) = true := hnamed
        rw [fieldOf?_of_named hnamed, fieldOf?_of_named hnamed', hwithin v w h]

/-- **A spoiled record** has no value. -/
theorem Spoils.fields?_eq_none {wrong : Tree → Prop} (hwrong : ∀ w, wrong w → decode w = none)
    (hwithin : ∀ v w, within v w → (decode v).isSome → decode w = none) (h : Spoils fields wrong within t t')
    (ht : (t.fields? fields decode).isSome) : t'.fields? fields decode = none := by
  have hsome : ∀ {members : List (List Nat × Tree)} {s : String}, s ∈ fields →
      (membersOf? fields decode members).isSome → fieldOf? decode members s ≠ none := by
    intro members s hs hmembers hnone
    rw [membersOf?_eq_none hs hnone] at hmembers
    cases hmembers
  cases h with
  | @drop before after name s v hname hknown =>
    refine membersOf?_eq_none hknown (fieldOf?_of_isEmpty ?_)
    -- there was no other member with this name
    have honly := hsome hknown ht
    rw [fieldOf?_of_named (isNamed_iff.2 hname)] at honly
    cases hempty : ((before ++ after).filter (isNamed s)).isEmpty with
    | true => rfl
    | false =>
      rw [hempty] at honly
      exact absurd rfl honly
  | @again before after name s v hname hknown =>
    refine membersOf?_eq_none hknown ?_
    rw [fieldOf?_of_named (isNamed_iff.2 hname), if_neg]
    intro hempty
    exact hsome hknown ht (fieldOf?_of_isEmpty hempty)
  | @retype before after name s v w hname hknown h =>
    refine membersOf?_eq_none hknown ?_
    rw [fieldOf?_of_named (isNamed_iff.2 hname), hwrong w h, ite_self]
  | @inside before after name s v w hname hknown h =>
    have hv : decode v ≠ none := by
      intro hnone
      have honly := hsome hknown ht
      rw [fieldOf?_of_named (isNamed_iff.2 hname), hnone, ite_self] at honly
      exact honly rfl
    refine membersOf?_eq_none hknown ?_
    rw [fieldOf?_of_named (isNamed_iff.2 hname), hwithin v w h (Option.isSome_iff_ne_none.2 hv), ite_self]
  | unnamed before after v hname => exact membersOf?_unnamed hname

/-! ## Lists -/

/-- An item in place of another that decodes alike changes nothing. -/
theorem mapM_replace (h : decode v = decode w) (front back : List Tree) :
    (front ++ v :: back).mapM decode = (front ++ w :: back).mapM decode := by
  induction front with
  | nil => rw [List.nil_append, List.nil_append, List.mapM_cons, List.mapM_cons, h]
  | cons u more ih => rw [List.cons_append, List.cons_append, List.mapM_cons, List.mapM_cons, ih]

/-- Rearranging inside one item leaves the items as they are. -/
theorem OneItem.items?_eq (hwithin : ∀ v w, within v w → decode v = decode w) (h : OneItem within t t') :
    t.items? decode = t'.items? decode := by
  obtain ⟨before, after, h⟩ := h
  exact mapM_replace (hwithin _ _ h) before after

/-- Spoiling one item spoils the items. -/
theorem OneItem.items?_eq_none (hwithin : ∀ v w, within v w → (decode v).isSome → decode w = none)
    (h : OneItem within t t') (ht : (t.items? decode).isSome) : t'.items? decode = none := by
  cases h with
  | @item before after v w h =>
    have hmem : ∀ u : Tree, u ∈ before ++ u :: after := fun u => List.mem_append_right _ List.mem_cons_self
    have hv : decode v ≠ none := by
      intro hnone
      have hlist : (Tree.arr (before ++ v :: after)).items? decode = none := mapM_eq_none (hmem v) hnone
      rw [hlist] at ht
      cases ht
    exact mapM_eq_none (hmem w) (hwithin v w h (Option.isSome_iff_ne_none.2 hv))

/-! ## Whole texts -/

/-- A reader does not see how a text is presented, and refuses what is spoiled in any presentation. -/
structure IgnoresPresentation (read : Bytes → Except Fault α) (rearranges spoils : Tree → Tree → Prop) : Prop where
  same : ∀ {t t' : Tree} {b b' : Bytes} {v : α}, t.Writes b → read b = .ok v →
    Relation.EqvGen rearranges t t' → t'.Writes b' → read b' = .ok v
  spoiled : ∀ {t t' t'' : Tree} {b b' : Bytes} {v : α}, t.Writes b → read b = .ok v →
    Relation.EqvGen rearranges t t' → spoils t' t'' → t''.Writes b' → ∃ f, read b' = .error f

/-- A reader that agrees with a way of decoding ignores presentation if the decoding does. -/
theorem Agrees.ignoresPresentation {item : Reader α} {rearranges spoils : Tree → Tree → Prop}
    (hitem : Agrees item decode) (hsame : ∀ t t', rearranges t t' → decode t = decode t')
    (hspoiled : ∀ t t', spoils t t' → (decode t).isSome → decode t' = none) :
    IgnoresPresentation (Json.readAll item) rearranges spoils := by
  -- each step keeps the value, so that any number of them there and back does
  have hall : ∀ {t t'}, Relation.EqvGen rearranges t t' → decode t = decode t' := by
    intro t t' h
    induction h with
    | rel t t' h => exact hsame t t' h
    | refl t => rfl
    | symm t t' _ ih => exact ih.symm
    | trans t t' t'' _ _ ih ih' => exact ih.trans ih'
  refine ⟨?_, ?_⟩
  · intro t t' b b' v hb hv h hb'
    rw [hitem.readAll_eq_ok_iff hb, hall h] at hv
    exact (hitem.readAll_eq_ok_iff hb').2 hv
  · intro t t' t'' b b' v hb hv h hspoils hb'
    rw [hitem.readAll_eq_ok_iff hb, hall h] at hv
    have hnone := hspoiled t' t'' hspoils (by rw [hv]; rfl)
    have hread := hitem.readAll hb'
    rw [hnone] at hread
    exact hread

end Json

open Json

/-! ## Phrases, queries and histories -/

/-- The query that a tree is. -/
def Query.ofTree? (t : Tree) : Option Query := (t.fields? recordType.fields Tree.text?).map ofFields

/-- One step to another presentation of a query. -/
def Query.Rearranges : Tree → Tree → Prop := Json.Rearranges recordType.fields Untouched

/-- One step from a query to none. -/
def Query.Spoils : Tree → Tree → Prop := Json.Spoils recordType.fields NoString Untouched

/-- The phrase that a tree is. -/
def Phrase.ofTree? (t : Tree) : Option Phrase := (t.fields? recordType.fields Tree.text?).map ofFields

/-- One step to another presentation of a phrase. -/
def Phrase.Rearranges : Tree → Tree → Prop := Json.Rearranges recordType.fields Untouched

/-- One step from a phrase to none. -/
def Phrase.Spoils : Tree → Tree → Prop := Json.Spoils recordType.fields NoString Untouched

/-- The history that a tree is. -/
def History.ofTree? (t : Tree) : Option History :=
  (t.fields? recordType.fields (Tree.items? Phrase.ofTree?)).map fun fields => ⟨fields.headD []⟩

/-- One step to another presentation of a history, or of a phrase in it. -/
def History.Rearranges : Tree → Tree → Prop := Json.Rearranges recordType.fields (OneItem Phrase.Rearranges)

/-- One step from a history to none: it is spoiled itself, or a phrase in it is. -/
def History.Spoils : Tree → Tree → Prop := Json.Spoils recordType.fields NoArray (OneItem Phrase.Spoils)

/-- What is no string has no text. -/
theorem text?_of_noString {w : Tree} (h : NoString w) : w.text? = none := by
  cases w with
  | str units => exact absurd rfl (h units)
  | scalar => rfl
  | arr => rfl
  | obj => rfl

/-- What is no array has no items. -/
theorem items?_of_noArray {α : Type} {decode : Tree → Option α} {w : Tree} (h : NoArray w) :
    w.items? decode = none := by
  cases w with
  | arr items => exact absurd rfl (h items)
  | scalar => rfl
  | str => rfl
  | obj => rfl

/-- What reads a query agrees with what its tree decodes to. -/
theorem agrees_query : Agrees Query.read Query.ofTree? := (agrees_record agrees_text _).map Query.ofFields

/-- What reads a phrase agrees with what its tree decodes to. -/
theorem agrees_phrase : Agrees Phrase.read Phrase.ofTree? := (agrees_record agrees_text _).map Phrase.ofFields

/-- What reads a page agrees with what its tree decodes to. -/
theorem agrees_history : Agrees History.read History.ofTree? :=
  (agrees_record (agrees_list agrees_phrase) _).map fun fields => (⟨fields.headD []⟩ : History)

/-- A record of texts is the same in any presentation. -/
theorem record_of_texts {α : Type} {fields : List String} (f : List String → α) {t t' : Tree}
    (h : Json.Rearranges fields Untouched t t') :
    (t.fields? fields Tree.text?).map f = (t'.fields? fields Tree.text?).map f := by
  rw [h.fields?_eq fun v w hvw => hvw.elim]

/-- A spoiled record of texts is none. -/
theorem spoiled_record_of_texts {α : Type} {fields : List String} (f : List String → α) {t t' : Tree}
    (h : Json.Spoils fields NoString Untouched t t') (ht : ((t.fields? fields Tree.text?).map f).isSome) :
    (t'.fields? fields Tree.text?).map f = none := by
  rw [Option.isSome_map] at ht
  rw [h.fields?_eq_none (fun w => text?_of_noString) (fun v w hvw => hvw.elim) ht]
  rfl

/-- **Reading does not depend on presentation.** -/
theorem reading_ignores_presentation :
    IgnoresPresentation Query.ofBytes? Query.Rearranges Query.Spoils ∧
    IgnoresPresentation Phrase.ofBytes? Phrase.Rearranges Phrase.Spoils ∧
    IgnoresPresentation History.ofBytes? History.Rearranges History.Spoils := by
  refine ⟨?_, ?_, ?_⟩
  · exact agrees_query.ignoresPresentation (fun _ _ => record_of_texts Query.ofFields)
      fun _ _ => spoiled_record_of_texts Query.ofFields
  · exact agrees_phrase.ignoresPresentation (fun _ _ => record_of_texts Phrase.ofFields)
      fun _ _ => spoiled_record_of_texts Phrase.ofFields
  · refine agrees_history.ignoresPresentation ?_ ?_
    · intro t t' h
      have hitems : ∀ v w, OneItem Phrase.Rearranges v w → v.items? Phrase.ofTree? = w.items? Phrase.ofTree? :=
        fun v w hvw => hvw.items?_eq fun _ _ => record_of_texts Phrase.ofFields
      rw [History.ofTree?, History.ofTree?, h.fields?_eq hitems]
    · intro t t' h ht
      have hitems : ∀ v w, OneItem Phrase.Spoils v w → (v.items? Phrase.ofTree?).isSome →
          w.items? Phrase.ofTree? = none :=
        fun v w hvw => hvw.items?_eq_none fun _ _ => spoiled_record_of_texts Phrase.ofFields
      rw [History.ofTree?, Option.isSome_map] at ht
      rw [History.ofTree?, h.fields?_eq_none (fun w => items?_of_noArray) hitems ht]
      rfl

/-! ## Printed forms -/

/-- A member whose value is a text. -/
def textMember (m : String × String) : List Nat × Tree := (unitsOfText m.1, .str (unitsOfText m.2))

/-- An object of texts prints as the object of their units. -/
theorem prints_members (ms : List (String × String)) :
    Prints (.obj (ms.map fun m => (m.1, .str m.2))) (.obj (ms.map textMember)) := by
  have hparts := prints_obj (ms.map fun m => (m.1, .str m.2, .str (unitsOfText m.2))) fun p hp => by
    obtain ⟨m, -, rfl⟩ := List.mem_map.1 hp
    exact prints_str m.2
  rw [List.map_map, List.map_map] at hparts
  exact hparts

/-- The tree of the form of a query. -/
def Query.tree (q : Query) : Tree := .obj (q.members.map textMember)

/-- The tree of the form of a phrase. -/
def Phrase.tree (p : Phrase) : Tree := .obj (p.members.map textMember)

/-- The tree of the form of a history. -/
def History.tree (h : History) : Tree := .obj [(unitsOfText "history", .arr (h.phrases.map Phrase.tree))]

/-- A query prints as its tree. -/
theorem prints_query (q : Query) : Prints q.toJson q.tree := prints_members q.members

/-- A page prints as its tree. -/
theorem prints_history (h : History) : Prints h.toJson h.tree := by
  have hphrases := prints_arr (h.phrases.map fun p => (p.toJson, p.tree)) fun p hp => by
    obtain ⟨q, -, rfl⟩ := List.mem_map.1 hp
    exact prints_members q.members
  rw [List.map_map, List.map_map] at hphrases
  exact prints_obj [("history", _, _)] fun p hp => by
    rw [List.mem_singleton.1 hp]
    exact hphrases

/-- A page with one phrase. -/
def onePage : History := ⟨[⟨"en", "de", "hi\n", "hallo"⟩]⟩

/-- The members of the phrase, turned round. -/
def turnedMembers : List (String × String) := (Phrase.members ⟨"en", "de", "hi\n", "hallo"⟩).reverse

/-- The page with its phrase turned round, behind a member that nobody asked for. -/
def turnedTree : Tree :=
  .obj [(unitsOfText "x", .arr [.scalar (0x6E :: nullTail)]),
    (unitsOfText "history", .arr [.obj (turnedMembers.map textMember)])]

/-- A form of it. -/
def turnedForm : Json :=
  .obj [("x", .arr [.null]), ("history", .arr [.obj (turnedMembers.map fun m => (m.1, .str m.2))])]

/-- The unknown member prints as a list with `null` in it. -/
theorem prints_nulls : Prints (.arr [.null]) (.arr [.scalar (0x6E :: nullTail)]) :=
  prints_arr [(.null, _)] fun p hp => by
    rw [List.mem_singleton.1 hp]
    exact prints_null

/-- The rearranged form prints as the rearranged tree. -/
theorem prints_turnedForm : Prints turnedForm turnedTree := by
  have hphrases : Prints (.arr [.obj (turnedMembers.map fun m => (m.1, .str m.2))])
      (.arr [.obj (turnedMembers.map textMember)]) :=
    prints_arr [(_, _)] fun p hp => by
      rw [List.mem_singleton.1 hp]
      exact prints_members turnedMembers
  exact prints_obj [("x", _, _), ("history", _, _)] fun p hp => by
    rcases List.mem_cons.1 hp with rfl | hp
    · exact prints_nulls
    · rw [List.mem_singleton.1 hp]
      exact hphrases

/-- The page is rearranged in two steps: a member of the phrase is moved, and an unknown one comes first. -/
theorem rearranges_turnedTree : Relation.EqvGen History.Rearranges onePage.tree turnedTree := by
  have hphrase : OneItem Phrase.Rearranges (.arr (onePage.phrases.map Phrase.tree))
      (.arr [.obj (turnedMembers.map textMember)]) :=
    .item [] [] (.permute ((List.reverse_perm _).symm.map textMember))
  have hknown : "history" ∈ History.recordType.fields := List.mem_singleton.2 rfl
  have hnew : "x" ∉ History.recordType.fields := by simp [History.recordType]
  have hturned : History.Rearranges onePage.tree
      (.obj [(unitsOfText "history", .arr [.obj (turnedMembers.map textMember)])]) :=
    .inside [] [] (textOf?_unitsOfText "history") hknown hphrase
  have hbehind : History.Rearranges (.obj [(unitsOfText "history", .arr [.obj (turnedMembers.map textMember)])])
      turnedTree := .insert [] _ _ (textOf?_unitsOfText "x") hnew
  exact .trans _ _ _ (.rel _ _ hturned) (.rel _ _ hbehind)

/-- What nobody asked for in it. -/
def restTree : Tree := .obj [(unitsOfText "x", .arr [.scalar (0x6E :: nullTail)])]

/-- Without its one known member the page is spoilt. -/
theorem spoils_restTree : History.Spoils turnedTree restTree :=
  .drop [_] [] (textOf?_unitsOfText "history") (List.mem_singleton.2 rfl)

/-- What is left then prints as its tree. -/
theorem prints_rest : Prints (.obj [("x", .arr [.null])]) restTree :=
  prints_obj [("x", _, _)] fun p hp => by
    rw [List.mem_singleton.1 hp]
    exact prints_nulls

/-- A blank and another form of the page make no difference; without its only field there is no page. -/
theorem turned_page_is_read :
    onePage.tree.Writes onePage.toBytes ∧ History.ofBytes? onePage.toBytes = .ok onePage ∧
      Relation.EqvGen History.Rearranges onePage.tree turnedTree ∧ turnedTree.Writes ([0x20] ++ turnedForm.toBytes) ∧
      History.Spoils turnedTree restTree ∧ restTree.Writes (Json.obj [("x", .arr [.null])]).toBytes ∧
      History.ofBytes? ([0x20] ++ turnedForm.toBytes) = .ok onePage ∧
      ∃ f, History.ofBytes? (Json.obj [("x", .arr [.null])]).toBytes = .error f := by
  have hwrites := (prints_history onePage).writes
  have hread : History.ofBytes? onePage.toBytes = .ok onePage := readsBack_history.readAll onePage
  have hturned : turnedTree.Writes ([0x20] ++ turnedForm.toBytes) :=
    Spells.blanks (fun c hc => by rw [List.mem_singleton.1 hc]; rfl) prints_turnedForm.writes
  exact ⟨hwrites, hread, rearranges_turnedTree, hturned, spoils_restTree, prints_rest.writes,
    reading_ignores_presentation.2.2.same hwrites hread rearranges_turnedTree hturned,
    reading_ignores_presentation.2.2.spoiled hwrites hread rearranges_turnedTree spoils_restTree prints_rest.writes⟩

/-! ## Names that are no texts -/

/-- The members of a query. -/
def queryMembers : List (String × String) := Query.members ⟨"en", "de", "hi"⟩

/-- The query behind a member whose name is half of a surrogate pair. -/
def halvedText : Bytes :=
  Text.encode "\x7b\"\\ud800\":null,\"source\":\"en\",\"destination\":\"de\",\"original\":\"hi\"\x7d"

/-- The text with half a pair in the name of an unknown member is well written all the same. -/
theorem halvedText_writes :
    (Tree.obj (([0xD800], .scalar (0x6E :: nullTail)) :: queryMembers.map textMember)).Writes halvedText := by
  have hbytes : halvedText = 0x7B :: 0x22 :: 0x5C :: 0x75 :: 0x64 :: 0x38 :: 0x30 :: 0x30 :: 0x22 :: 0x3A ::
      (0x6E :: nullTail ++ (separated false (queryMembers.map fun m => memberBytes (m.1, .str m.2)) ++ [0x7D])) := by
    decide +kernel
  have hempty : Spells [] [] := .nil fun _ hc => nomatch hc
  have hrow := prints_row (fun m (_ : m ∈ queryMembers) => spells_member m.1 (prints_str m.2)) false
    (.mark (c := 0x7D) (by decide) hempty)
  have hvalue := Spells.mark (c := 0x3A) (by decide) (.token (.scalar .null) hrow)
  have hname : ∀ rest, Spelled [0xD800] (0x5C :: 0x75 :: 0x64 :: 0x38 :: 0x30 :: 0x30 :: 0x22 :: rest) rest :=
    fun _ => .hex rfl .quote
  have htext := Spells.mark (c := 0x7B) (by decide) (.token (.str (hname _)) hvalue)
  rw [Tree.Writes, Tree.tokens_obj, List.map_cons, row, List.map_map, hbytes]
  exact htext

/-- A name that nobody asked for is read nevertheless, so that it has to be a text. -/
theorem halved_name_is_refused :
    ¬ ∀ (before after : List (List Nat × Tree)) (name : List Nat) (v : Tree) (b b' : Bytes) (q : Query),
      Tree.Writes (.obj (before ++ after)) b → Query.ofBytes? b = .ok q →
      (∀ s ∈ Query.recordType.fields, textOf? name ≠ some s) →
      Tree.Writes (.obj (before ++ (name, v) :: after)) b' → Query.ofBytes? b' = .ok q := by
  intro h
  have hunnamed : textOf? [0xD800] = none := rfl
  have hread := h [] (queryMembers.map textMember) [0xD800] (.scalar (0x6E :: nullTail)) _ halvedText _
    (prints_query ⟨"en", "de", "hi"⟩).writes (readsBack_query.readAll _) (fun s _ => by rw [hunnamed]; simp)
    halvedText_writes
  rw [Query.ofBytes?, agrees_query.readAll_eq_ok_iff halvedText_writes, Query.ofTree?, Tree.fields?] at hread
  rw [← List.nil_append (_ :: _), membersOf?_unnamed hunnamed] at hread
  cases hread

end Phrasebook
