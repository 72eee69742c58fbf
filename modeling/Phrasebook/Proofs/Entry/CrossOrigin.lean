import Phrasebook.Proofs.Entry.Accounting
import Phrasebook.Proofs.Entry.Origins
import Phrasebook.Proofs.Text.Pieces
/-!
# Who may read a response

A browser lets a page read the response of another origin only if that response admits the origin of the page. The
layer that admits origins answers a preflight itself, and stands around everything that makes a response: the account
with its limiter, the handlers and the guard for their breakdowns. No other layer says anything about origins. So what
a response admits depends on the request by its `origin` only (`admitted_respond`), whatever else becomes of it.

On the other side is the setting, a list that is written as one text. An origin is listed if it has the bytes of an
entry of that text (`Cors.IsListed`), which is said without cutting the text up. The two come together in
`Session.Room.origin_is_admitted_iff_listed`.
-/

set_option autoImplicit false

namespace Phrasebook

namespace Http

/-- The origins that a response admits, one for each header that names one. -/
def Response.admitted (response : Response) : List Bytes := response.headers.values "access-control-allow-origin"

/-! ## What the setting lists -/

namespace Cors

/-- A setting lists an origin, byte for byte. -/
def IsListed (setting : String) (origin : Bytes) : Prop :=
  ∃ entry, Text.Lists setting entry ∧ Text.encode entry = origin

variable (setting : String)

/-- The entries of a setting are its pieces between commas, without the blanks around them. -/
theorem entries_eq_pieces : entries setting = (Text.pieces Text.isBlank ',' setting.toList).map String.ofList := by
  simp only [entries, Text.pieces, List.map_map, Function.comp_def, Text.trim, String.toList_ofList]

/-- A text is an entry exactly if the setting lists it. -/
theorem mem_entries_iff (entry : String) : entry ∈ entries setting ↔ Text.Lists setting entry := by
  rw [← Text.mem_pieces_iff, entries_eq_pieces, List.mem_map]
  constructor
  · rintro ⟨piece, hpiece, rfl⟩
    rwa [String.toList_ofList]
  · intro hentry
    exact ⟨entry.toList, hentry, String.ofList_toList⟩

/-- The blanks around the setting are around its first and last entry as well, and are taken off there. -/
theorem origins_eq_entries : origins setting = entries setting := by
  rw [origins, entries_eq_pieces, entries_eq_pieces, Text.trim, String.toList_ofList,
    Text.pieces_trimWhile (by decide)]

/-- The origins in force are just those that the setting lists, byte for byte. -/
theorem mem_encode_iff (origin : Bytes) : origin ∈ (origins setting).map Text.encode ↔ IsListed setting origin := by
  rw [origins_eq_entries, List.mem_map, IsListed]
  simp only [mem_entries_iff]

instance (origin : Bytes) : Decidable (IsListed setting origin) := decidable_of_iff _ (mem_encode_iff setting origin)

section Rule

variable {setting} {c : Cors} (h : ofSetting? setting = .ok c)

include h

/-- A rule that was made from an open setting admits everyone. -/
theorem eq_any_of_isOpen (hopen : IsOpen setting) : c = .any := by
  rw [ofSetting?_eq, if_pos hopen] at h
  exact (Except.ok.inj h).symm

/-- One that was made from another setting has its entries, and there is no star among these. -/
theorem eq_listed_of_not_isOpen (hopen : ¬ IsOpen setting) :
    "*" ∉ origins setting ∧ c = .listed ((origins setting).map Text.encode) := by
  rw [ofSetting?_eq, if_neg hopen] at h
  split at h
  · cases h
  · split at h
    · cases h
    · rename_i hstar
      exact ⟨hstar, (Except.ok.inj h).symm⟩

/-- The only setting with a star that makes a rule is the star. -/
theorem lists_star_iff : Text.Lists setting "*" ↔ Text.trim setting = "*" := by
  rw [← mem_entries_iff, ← origins_eq_entries]
  constructor
  · intro hstar
    by_cases hopen : IsOpen setting
    · refine hopen.resolve_left fun hblank => ?_
      rw [origins, hblank] at hstar
      exact absurd hstar (by decide)
    · exact absurd hstar (eq_listed_of_not_isOpen h hopen).1
  · intro htrim
    rw [origins, htrim]
    decide

/-- **Whom such a rule admits**: the origins that the setting lists. -/
theorem admitted?_eq_some_iff (hopen : ¬ IsOpen setting) (origin : Option Bytes) (o : Bytes) :
    c.admitted? origin = some o ↔ origin = some o ∧ IsListed setting o := by
  obtain ⟨-, rfl⟩ := eq_listed_of_not_isOpen h hopen
  rw [admitted?, Option.filter_eq_some_iff, List.contains_iff_mem, mem_encode_iff]

end Rule

end Cors

/-! ## What a response admits -/

section Layers

variable (w : World) (x : Surroundings) (site : Site) (r : Request)

/-- The headers name the origin that is admitted, and no other. -/
theorem values_headers (c : Cors) (preflight : Bool) (origin : Option Bytes) :
    (c.headers preflight origin).values "access-control-allow-origin" = (c.admitted? origin).toList := by
  unfold Cors.headers
  cases c.admitted? origin <;> cases preflight <;> rfl

/-- **Every response admits what the rule says** of the origin of its request, and nothing else, be it the answer to a
preflight, the answer of a handler, what is told of an error or a breakdown, or a refusal. -/
theorem admitted_respond :
    (site.respond w x r).response.admitted = (site.rules.cors.admitted? (r.headers.get? "origin")).toList := by
  rw [Response.admitted, values_outer w x site r (by decide)]
  by_cases hmethod : r.method = "OPTIONS"
  · simp only [corsLayer, hmethod, beq_self_eq_true, if_true]
    exact values_headers _ _ _
  · simp only [corsLayer, beq_iff_eq, hmethod, if_false, identifyLayer]
    rw [Headers.values_append, values_headers, Headers.values_setDefault_of_ne _ _ (by decide),
      values_traceLayer _ _ (by decide), values_account _ _ _ _ (by decide), List.nil_append]

variable {s : Settings} (hrule : Cors.ofSetting? s.allowOrigins = .ok site.rules.cors)

include hrule

/-- Where everybody may read, every response says so. -/
theorem admitted_of_isOpen (hopen : Cors.IsOpen s.allowOrigins) :
    (site.respond w x r).response.admitted = [Text.encode "*"] := by
  rw [admitted_respond, Cors.eq_any_of_isOpen hrule hopen]
  rfl

/-- A response admits the origin of its request alone, and only if the setting lists it. -/
theorem admitted_eq_singleton_iff (hopen : ¬ Cors.IsOpen s.allowOrigins) (origin : Bytes) :
    (site.respond w x r).response.admitted = [origin] ↔
      r.headers.get? "origin" = some origin ∧ Cors.IsListed s.allowOrigins origin := by
  rw [admitted_respond, Option.toList_eq_singleton_iff, Cors.admitted?_eq_some_iff hrule hopen]

/-- Where not everybody may read, a response names nobody exactly if its request is of no listed origin. -/
theorem admitted_eq_nil_iff (hopen : ¬ Cors.IsOpen s.allowOrigins) :
    (site.respond w x r).response.admitted = [] ↔
      ∀ origin, r.headers.get? "origin" = some origin → ¬ Cors.IsListed s.allowOrigins origin := by
  rw [admitted_respond, Option.toList_eq_nil_iff, Option.eq_none_iff_forall_not_mem]
  refine forall_congr' fun origin => ?_
  rw [Option.mem_def, Cors.admitted?_eq_some_iff hrule hopen, not_and]

end Layers

end Http

namespace Session.Room

open Http (Cors Surroundings Request)

/-- **A response admits exactly the listed origins.** Let a site be made from settings, and let a request come to it
after whatever else has happened in a session. If the setting of origins is neither blank nor has a star among its
entries, the response names one origin or none: it names that of the request exactly if the setting lists it. If the
setting is blank or a star, the response names the star. There is no other setting from which a site is made. -/
theorem origin_is_admitted_iff_listed {s : Settings} {desk : Desk} {traced : Bool} {room : Room}
    (hsite : Http.Site.ofSettings? s desk traced = .ok room.site) (before : List Move) (x : Surroundings) (r : Request) :
    ∃ response,
      ((Acts.after step room before).step (.act (.http x r))).1.result = .answered (.responded response) ∧
      (Text.trim s.allowOrigins ≠ "" → ¬ Text.Lists s.allowOrigins "*" →
        (∀ origin, r.headers.get? "origin" = some origin →
          (response.admitted = [origin] ↔ Cors.IsListed s.allowOrigins origin) ∧
          (response.admitted = [] ↔ ¬ Cors.IsListed s.allowOrigins origin)) ∧
        (r.headers.get? "origin" = none → response.admitted = [])) ∧
      (Text.trim s.allowOrigins = "" ∨ Text.trim s.allowOrigins = "*" → response.admitted = [Text.encode "*"]) ∧
      (Text.Lists s.allowOrigins "*" → Text.trim s.allowOrigins = "*") := by
  -- no move changes the rules, so they are those the settings were made into
  have hrule : Cors.ofSetting? s.allowOrigins = .ok (Acts.after step room before).site.rules.cors := by
    obtain ⟨limiter, cors, -, hcors, hmade⟩ := Http.Site.made_of_ofSettings? hsite
    rw [rules_after, hmade, hcors]
  have hstar := Cors.lists_star_iff hrule
  refine ⟨_, rfl, fun hblank hnone => ?_, Http.admitted_of_isOpen _ x _ r hrule, hstar.1⟩
  -- neither blank nor a star: the listed origins are compared one by one
  have hclosed : ¬ Cors.IsOpen s.allowOrigins := not_or.2 ⟨hblank, mt hstar.2 hnone⟩
  have hone := Http.admitted_eq_singleton_iff (Acts.after step room before).world x _ r hrule hclosed
  have hnil := Http.admitted_eq_nil_iff (Acts.after step room before).world x _ r hrule hclosed
  constructor
  · intro origin horigin
    refine ⟨(hone origin).trans (and_iff_right horigin), hnil.trans ⟨fun h => h origin horigin, ?_⟩⟩
    intro hnot other hother
    rwa [← Option.some.inj (horigin.symm.trans hother)]
  · intro hno
    refine hnil.2 fun origin horigin => ?_
    rw [hno] at horigin
    cases horigin

/-! ## Pages of three origins

One request in a minute is allowed, two origins are listed, and all calls break down. -/

/-- The settings. -/
def choosy : Settings :=
  { (default : Settings) with rateLimit := ⟨1, 60⟩, allowOrigins := " https://a.example ,\thttps://b.example" }

/-- A room with a site from these settings. -/
def choosyRoom : Room where
  site := { rules := { cors := .listed [Text.encode "https://a.example", Text.encode "https://b.example"] }
            desk := .fixed (.broke .untold) (.broke .untold), limiter := { rule := ⟨1, 60⟩ } }
  world := { brings := fun q => .ok (q.phrase "") }

/-- What surrounds a request. -/
def noon : Surroundings := ⟨"id", "trace", "12:00", "1ms", 1000⟩

/-- A request for the history by a page of an origin. -/
def byPageOf (origin : String) : Request where
  path := "/v1/translation/history"
  headers := [("origin", Text.encode origin)]
  peer := some "10.0.0.1"

/-- A request that is refused and one that meets a breakdown admit the listed origin as well. -/
theorem refusals_and_breakdowns_admit_listed_origins :
    let refused := (Acts.after step choosyRoom [.act (.http noon (byPageOf "https://a.example"))]).step
      (.act (.http noon (byPageOf "https://b.example")))
    let broken := choosyRoom.step (.act (.http noon (byPageOf "https://c.example")))
    Http.Site.ofSettings? choosy choosyRoom.site.desk false = .ok choosyRoom.site ∧
      Text.trim choosy.allowOrigins ≠ "" ∧ ¬ Text.Lists choosy.allowOrigins "*" ∧
      (∃ response, refused.1.result = .answered (.responded response) ∧ response.status = 429 ∧
        response.admitted = [Text.encode "https://b.example"]) ∧
      (∃ response, broken.1.result = .answered (.responded response) ∧ response.status = 500 ∧
        response.admitted = []) := by
  intro refused broken
  have hsite : Http.Site.ofSettings? choosy choosyRoom.site.desk false = .ok choosyRoom.site := rfl
  have hblank : Text.trim choosy.allowOrigins ≠ "" := by decide +kernel
  have hnone : ¬ Text.Lists choosy.allowOrigins "*" := by decide +kernel
  refine ⟨hsite, hblank, hnone, ?_, ?_⟩
  · obtain ⟨response, hresponse, hlisted, -⟩ := origin_is_admitted_iff_listed hsite
      [.act (.http noon (byPageOf "https://a.example"))] noon (byPageOf "https://b.example")
    have hadmitted := ((hlisted hblank hnone).1 _ rfl).1.2 (by decide +kernel)
    refine ⟨response, hresponse, ?_, hadmitted⟩
    cases hresponse
    rfl
  · obtain ⟨response, hresponse, hlisted, -⟩ := origin_is_admitted_iff_listed hsite
      [] noon (byPageOf "https://c.example")
    have hadmitted := ((hlisted hblank hnone).1 _ rfl).2.2 (by decide +kernel)
    refine ⟨response, hresponse, ?_, hadmitted⟩
    cases hresponse
    rfl

end Session.Room

end Phrasebook
