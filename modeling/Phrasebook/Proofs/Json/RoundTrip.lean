import Phrasebook.Phrase
import Phrasebook.Proofs.Json.ReadBack
import Phrasebook.Storage.Cache
/-!
# Phrases, queries and histories are read back

The JSON forms of a phrase and of a query are records of texts, that of a history is a record with one list of
phrases. Each is read back by the reader of its parts (`readsBack_phrase`, `readsBack_query`, `readsBack_history`),
so no property of a particular field is used beyond its name differing from the other names.

The cache keeps the form of a page under its key. The bytes of a form are text, so a page that was written is
found again unless reading is refused.

Main statement: `json_forms_are_read_back`.
-/

set_option autoImplicit false

namespace Phrasebook

open Json

/-- The members of a query. -/
def Query.members (q : Query) : List (String × String) :=
  [("source", q.source), ("destination", q.target), ("original", q.text)]

/-- The members of a phrase. -/
def Phrase.members (p : Phrase) : List (String × String) :=
  [("source", p.source), ("destination", p.target), ("original", p.text), ("translation", p.rendering)]

/-- A query is read back from its printed form. -/
theorem readsBack_query : ReadsBack Query.read Query.toJson where
  opens q := opens_obj _
  reads q rest := by
    have hmembers : q.toJson = .obj (q.members.map fun m => (m.1, .str m.2)) := rfl
    have hread := readRecord_fields (t := Query.recordType) readsBack_text q.members rfl (by decide) rest
    rw [Query.read, hmembers, hread]
    rfl

/-- A phrase is read back from its printed form. -/
theorem readsBack_phrase : ReadsBack Phrase.read Phrase.toJson where
  opens p := opens_obj _
  reads p rest := by
    have hmembers : p.toJson = .obj (p.members.map fun m => (m.1, .str m.2)) := rfl
    have hread := readRecord_fields (t := Phrase.recordType) readsBack_text p.members rfl (by decide) rest
    rw [Phrase.read, hmembers, hread]
    rfl

/-- A page is read back from its printed form: its phrases are, one after the other. -/
theorem readsBack_history : ReadsBack History.read History.toJson where
  opens h := opens_obj _
  reads h rest := by
    have hread := readRecord_fields (t := History.recordType) (readsBack_list readsBack_phrase)
      [("history", h.phrases)] rfl (by decide) rest
    rw [List.map_singleton] at hread
    rw [History.read, History.toJson, hread]
    rfl

namespace Storage.Cache

/-- The form of a page is the page. -/
theorem page?_toBytes (h : History) : page? (some h.toBytes) = .ok (some h) := by
  have htext : Text.decode? h.toBytes = some h.toJson.render := Text.decode?_encode _
  have hread : History.ofBytes? h.toBytes = .ok h := readsBack_history.readAll h
  rw [page?, htext]
  dsimp only
  rw [hread]

section

variable {α : Type} {c : Cache}

/-- Over closed connections nothing is told. -/
theorem tell_of_closed (h : c.closed = true) (command : CacheCommand) (answer : Except CacheFailure α × Cache) :
    c.tell command answer = ⟨.error .closed, [], c⟩ := by
  have hconnect : c.connect = .error .closed := by rw [connect, if_pos h]
  rw [tell, hconnect]

/-- Over an open connection the command is told, and does what it does unless it is refused. -/
theorem tell_of_open (h : c.closed = false) (command : CacheCommand) (answer : Except CacheFailure α × Cache) :
    ∃ told, c.tell command answer =
      match c.refusing.lookup command.verb with
      | some said => ⟨.error (.refused said), told, c⟩
      | none => ⟨answer.1, told, answer.2⟩ := by
  have hconnect : ∃ before, c.connect = .ok before := by
    rw [connect, h]
    exact ⟨_, rfl⟩
  obtain ⟨before, hconnect⟩ := hconnect
  refine ⟨before ++ [command], ?_⟩
  cases hrefused : c.refusing.lookup command.verb <;> simp only [tell, hconnect, hrefused]

/-- A command that did what it does was told over an open connection. -/
theorem of_tell_eq_ok {command : CacheCommand} {answer : Except CacheFailure α × Cache} {v : α}
    (h : (c.tell command answer).result = .ok v) :
    c.closed = false ∧ (c.tell command answer).cache = answer.2 := by
  cases hclosed : c.closed with
  | true =>
    rw [tell_of_closed hclosed] at h
    cases h
  | false =>
    obtain ⟨told, htell⟩ := tell_of_open hclosed command answer
    rw [htell] at h ⊢
    cases hrefused : c.refusing.lookup command.verb with
    | some said =>
      rw [hrefused] at h
      cases h
    | none => exact ⟨rfl, rfl⟩

end

/-- Reading finds the page that was written, unless reading is refused. -/
theorem get_of_set {c : Cache} {h : History} (hset : (c.set h).result = .ok ()) :
    (c.set h).cache.get.result =
      match c.refusing.lookup CacheCommand.get.verb with
      | some said => .error (.refused said)
      | none => .ok (some h) := by
  obtain ⟨hopen, hcache⟩ := of_tell_eq_ok hset
  have hwritten : (c.set h).cache = { c with stored := some h.toBytes } := hcache
  obtain ⟨told, hget⟩ := tell_of_open (c := { c with stored := some h.toBytes }) hopen .get
    (page? (some h.toBytes), { c with stored := some h.toBytes })
  rw [hwritten, get, hget, page?_toBytes]
  cases c.refusing.lookup CacheCommand.get.verb <;> rfl

end Storage.Cache

open Storage in
/-- **Round trip.** Every history, phrase and query is read back from its JSON form, whatever characters its texts
have; and once a page has been written to the cache, reading the cache finds that page, unless reading is
refused. -/
theorem json_forms_are_read_back :
    (∀ h : History, History.ofBytes? h.toBytes = .ok h) ∧
    (∀ p : Phrase, Phrase.ofBytes? p.toBytes = .ok p) ∧
    (∀ q : Query, Query.ofBytes? q.toBytes = .ok q) ∧
    ∀ (c : Cache) (h : History), (c.set h).result = .ok () →
      (c.set h).cache.get.result =
        match c.refusing.lookup CacheCommand.get.verb with
        | some said => .error (.refused said)
        | none => .ok (some h) := by
  refine ⟨readsBack_history.readAll, readsBack_phrase.readAll, readsBack_query.readAll, ?_⟩
  intro c h hset
  exact Cache.get_of_set hset

/-- Phrases whose texts are all that is rare: quotes and backslashes, controls with and without a letter of their own,
characters beyond the first plane, and nothing. -/
def oddPage : History :=
  ⟨[⟨"en\"", "\\u0041", "a\x00\x08\t\n\x0c\r\x1f\x7f/", "\uFFFD\u2028é"⟩, ⟨"", "", "", ""⟩,
    ⟨"😀", "\\\"", "𝔘\\n", "\x7b\"history\":[]\x7d"⟩]⟩

open Storage in
/-- A page with controls, quotes and letters of four bytes comes back from the cache and from its bytes. -/
theorem odd_page_is_read_back :
    (({} : Cache).set oddPage).result = .ok () ∧
    (({} : Cache).set oddPage).cache.get.result = .ok (some oddPage) ∧
    History.ofBytes? oddPage.toBytes = .ok oddPage :=
  ⟨rfl, json_forms_are_read_back.2.2.2 {} oddPage rfl, json_forms_are_read_back.1 oddPage⟩

end Phrasebook
