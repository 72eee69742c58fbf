import Phrasebook.Proofs.Entry.Admission
import Phrasebook.Proofs.Json.ReadBack
/-!
# The identifier of a request

A request is known by an identifier: it brings one in `x-request-id`, or gets a fresh one. The log lines and the
body of an error name it as a text, the response carries it in a header. A header need not be a text. So there
are two ways in which the identifier is read, and they agree exactly if the header, where there is one, is a text
(`identifier_is_one_iff`): otherwise the response carries the bytes that the client sent, and the log and the
body name a fresh identifier that nobody else has heard of.

What is said of the header goes by its values, all of them, through the layers from the inside out
(`values_respond`); what is said of the body goes by the kinds of answers that there are (`Handles`).
-/

set_option autoImplicit false

namespace Phrasebook

/-! ## Header values that are texts -/

namespace Http

/-- A byte of a text in a header is a character by itself. -/
theorem utf8EncodeChar_of_isTextByte {b : UInt8} (h : isTextByte b = true) :
    String.utf8EncodeChar (Char.ofNat b.toNat) = [b] := by
  have hlt : b.toNat < 0x80 := by
    simp only [isTextByte, Bool.or_eq_true, Bool.and_eq_true, decide_eq_true_eq, beq_iff_eq] at h
    rcases h with ⟨-, hlt⟩ | rfl
    · exact Nat.lt_trans (UInt8.lt_iff_toNat_lt.1 hlt) (by decide)
    · decide
  have hascii : ∀ n < 0x80, (Char.ofNat n).toNat = n := by decide
  have hvalid := hascii b.toNat hlt
  rw [Json.utf8EncodeChar_of_ascii (by rw [hvalid]; exact hlt), hvalid, UInt8.ofNat_toNat]

/-- A text that was read from a header value has the bytes of the value. -/
theorem encode_of_headerText {b : Bytes} {s : String} (h : headerText? b = some s) : Text.encode s = b := by
  unfold headerText? at h
  by_cases htext : b.all isTextByte = true
  · rw [if_pos htext, Option.some.injEq] at h
    rw [← h, Text.encode_ofList, List.flatMap_map]
    clear h
    induction b with
    | nil => rfl
    | cons c b ih =>
      rw [List.all_cons, Bool.and_eq_true] at htext
      rw [List.flatMap_cons, utf8EncodeChar_of_isTextByte htext.1, ih htext.2, List.singleton_append]
  · rw [if_neg htext] at h
    cases h

/-- A header has a text exactly if each of its bytes can stand in one. -/
theorem isSome_headerText (b : Bytes) : (headerText? b).isSome = b.all isTextByte := by
  unfold headerText?
  by_cases h : b.all isTextByte = true <;> simp [h]

/-! ## All values of a header -/

namespace Headers

/-- All values of a header, in order. -/
def values (h : Headers) (name : String) : List Bytes := (h.filter fun e => e.1 == name).map (·.2)

variable (h : Headers) {name other : String} (value : Bytes)

/-- The values of a header come in the order of the headers. -/
theorem values_append (h' : Headers) : (h ++ h').values name = h.values name ++ h'.values name := by
  simp [values]

/-- Another header in front makes no difference. -/
theorem values_cons_of_ne (hne : other ≠ name) : values ((other, value) :: h) name = h.values name := by
  simp [values, hne]

/-- To set another header makes no difference. -/
theorem values_set_of_ne (hne : other ≠ name) : (h.set other value).values name = h.values name := by
  rw [set, values_append, values_cons_of_ne [] value hne]
  simp only [values, List.filter_filter, List.filter_nil, List.map_nil, List.append_nil]
  congr 1
  apply List.filter_congr
  intro e _
  by_cases hname : e.1 = name
  · simp [hname, hne.symm]
  · simp [hname]

/-- Nor does setting a default for another. -/
theorem values_setDefault_of_ne (hne : other ≠ name) : (h.setDefault other value).values name = h.values name := by
  unfold setDefault
  split
  · rfl
  · rw [values_append, values_cons_of_ne [] value hne]
    simp [values]

/-- A header that is not there gets the value that is put for it. -/
theorem values_setDefault_of_nil (hnone : h.values name = []) : (h.setDefault name value).values name = [value] := by
  have hnot : h.has name = false := by
    simp only [values, List.map_eq_nil_iff, List.filter_eq_nil_iff, beq_iff_eq] at hnone
    simp only [has, get?, Option.isSome_eq_false_iff, Option.isNone_iff_eq_none, List.lookup_eq_none_iff]
    intro e he
    rw [bne_iff_ne]
    exact fun heq => hnone e he heq.symm
  rw [setDefault, hnot, if_neg Bool.false_ne_true, values_append, hnone]
  simp [values]

/-- A header that was set has that value and no other. -/
theorem values_set_self : (h.set name value).values name = [value] := by
  have hnone : values (h.filter fun e => e.1 != name) name = [] := by
    simp [values, List.filter_filter]
  rw [set, values_append, hnone, List.nil_append]
  simp [values]

/-- Nor does setting several others. -/
theorem values_foldl_set_of_not_mem (entries : Headers) (hnot : name ∉ entries.map (·.1)) :
    (entries.foldl (fun h e => h.set e.1 e.2) h).values name = h.values name := by
  induction entries generalizing h with
  | nil => rfl
  | cons e entries ih =>
    rw [List.map_cons, List.mem_cons, not_or] at hnot
    rw [List.foldl_cons, ih _ hnot.2, values_set_of_ne _ _ (Ne.symm hnot.1)]

/-- Each of the headers that are set one after the other is there once, whatever was there before. -/
theorem values_foldl_set (entries : Headers) (hnodup : (entries.map (·.1)).Nodup) :
    ∀ e ∈ entries, (entries.foldl (fun h e => h.set e.1 e.2) h).values e.1 = [e.2] := by
  induction entries generalizing h with
  | nil => simp
  | cons d entries ih =>
    rw [List.map_cons, List.nodup_cons] at hnodup
    intro e he
    rw [List.foldl_cons]
    rcases List.mem_cons.1 he with rfl | hmem
    · rw [values_foldl_set_of_not_mem _ _ hnodup.1, values_set_self]
    · exact ih _ hnodup.2 e hmem

end Headers

/-! ## The two readings -/

/-- The identifier in the log and in the bodies of errors. -/
def named (x : Surroundings) (r : Request) : String := (r.headers.text? requestIdHeader).getD x.freshId

/-- The identifier on the response. -/
def carried (x : Surroundings) (r : Request) : Bytes :=
  (r.headers.get? requestIdHeader).getD (Text.encode x.freshId)

section Readings

variable (x : Surroundings) (r : Request)

/-- Every request has an identifier, its own or a fresh one. -/
theorem get?_identified : (identified x r).headers.get? requestIdHeader = some (carried x r) := by
  rw [identified, Headers.get?_setDefault, if_pos rfl, carried]
  cases r.headers.get? requestIdHeader <;> rfl

/-- A fresh identifier is what is put on a request, or what is taken in place of it. -/
theorem requestId_eq_named : requestId x r = named x r := by
  rw [requestId, named, Headers.text?, get?_identified, Headers.text?, carried, Option.bind_some]
  by_cases hthere : r.headers.get? requestIdHeader = none
  · rw [hthere, Option.getD_none, Option.bind_none, Option.getD_none]
    by_cases htext : headerText? (Text.encode x.freshId) = none
    · rw [htext, Option.getD_none]
    · obtain ⟨s, hs⟩ := Option.ne_none_iff_exists'.1 htext
      rw [hs, Option.getD_some]
      exact Text.encode_injective (encode_of_headerText hs)
  · obtain ⟨v, hv⟩ := Option.ne_none_iff_exists'.1 hthere
    rw [hv, Option.getD_some, Option.bind_some]

/-- **The two readings agree** exactly if the header, where there is one, is a text. -/
theorem encode_named_iff (hfresh : (Text.encode x.freshId).all isTextByte = true) :
    Text.encode (named x r) = carried x r ↔
      ∀ v, r.headers.get? requestIdHeader = some v → v.all isTextByte = true := by
  rw [named, carried, Headers.text?]
  by_cases hthere : r.headers.get? requestIdHeader = none
  · simp [hthere]
  · obtain ⟨v, hv⟩ := Option.ne_none_iff_exists'.1 hthere
    rw [hv, Option.bind_some, Option.getD_some]
    by_cases htext : headerText? v = none
    · -- the fresh identifier is a text, and the header is none
      have hnot : v.all isTextByte = false := by
        rw [← isSome_headerText, htext, Option.isSome_none]
      rw [htext, Option.getD_none]
      refine iff_of_false ?_ ?_
      · rintro rfl
        rw [hfresh] at hnot
        cases hnot
      · intro hall
        rw [hall v rfl] at hnot
        cases hnot
    · obtain ⟨s, hs⟩ := Option.ne_none_iff_exists'.1 htext
      rw [hs, Option.getD_some]
      refine iff_of_true (encode_of_headerText hs) ?_
      rintro _ ⟨⟩
      rw [← isSome_headerText, hs, Option.isSome_some]

end Readings

/-! ## The body of an error -/

/-- What the body of an error tells. -/
structure ErrorReport where
  /-- The identifier of the request. -/
  requestId : String
  /-- The code of the error. -/
  code : String
  /-- What went wrong. -/
  message : String
  /-- When the report was made. -/
  timestamp : String
deriving DecidableEq, Inhabited

namespace ErrorReport

/-- How the report is read. -/
def recordType : Json.RecordType := ⟨"ErrorBody", ["request_id", "code", "message", "timestamp"]⟩

/-- The report with these field values. -/
def ofFields : List String → ErrorReport
  | [requestId, code, message, timestamp] => ⟨requestId, code, message, timestamp⟩
  | _ => default

/-- Reads a report. -/
def read : Json.Reader ErrorReport := fun b => do
  let (fields, rest) ← Json.readRecord recordType Json.readText b
  return (ofFields fields, rest)

/-- Reads the body of an error. -/
def ofBytes? (b : Bytes) : Except Json.Fault ErrorReport := Json.readAll read b

/-- The members of a report. -/
def members (e : ErrorReport) : List (String × String) :=
  [("request_id", e.requestId), ("code", e.code), ("message", e.message), ("timestamp", e.timestamp)]

/-- The body of an error is read back: it has four texts. -/
theorem readsBack : Json.ReadsBack read fun e => .obj (e.members.map fun m => (m.1, .str m.2)) where
  opens e := Json.opens_obj _
  reads e rest := by
    have hread := Json.readRecord_fields (t := recordType) Json.readsBack_text e.members rfl (by decide) rest
    rw [read, hread]
    rfl

/-- The body of an error tells what it was made from, whatever characters that has. -/
theorem ofBytes?_errorBody (requestId code message timestamp : String) :
    ofBytes? (errorBody requestId code message timestamp) = .ok ⟨requestId, code, message, timestamp⟩ :=
  readsBack.readAll ⟨requestId, code, message, timestamp⟩

end ErrorReport

/-! ## Through the layers -/

section Layers

variable (w : World) (x : Surroundings) (site : Site) (r : Request)

/-- A request gets what its handler answers, or is refused. -/
theorem account_cases : Handles (named x r) x.timestamp (account w x site r).response ∨
    (account w x site r).response = jsonResponse 429
      (errorBody (named x r) "RATE_LIMIT_EXCEEDED" "too many requests" x.timestamp) := by
  by_cases hadmitted : site.admits x r = true
  · left
    rw [(account_of_admitted w x site r hadmitted).1]
    exact handles_handle w x site r _
  · right
    rw [Site.admits, Bool.or_eq_true_iff, not_or, Bool.not_eq_true', Bool.not_eq_false, Bool.not_eq_true] at hadmitted
    rw [(account_of_refused w x site r hadmitted.1 hadmitted.2).1, named]

/-- All that is noted about a request has the identifier that is named in the log, and the answer comes last. -/
theorem notices_account : ∃ events client, (account w x site r).notices =
    (events ++ [Event.answered client r.method r.path (account w x site r).response.status x.elapsed]).map
      (⟨named x r, ·⟩) :=
  ⟨_, _, rfl⟩

/-- The outer layers note nothing of their own. -/
theorem notices_respond (hmethod : r.method ≠ "OPTIONS") :
    (site.respond w x r).notices = (account w x site (identified x r)).notices := by
  simp only [Site.respond, corsLayer, beq_iff_eq, hmethod, if_false, identifyLayer, traceLayer]
  split <;> rfl

section Values

variable {name : String}

/-- No handler puts any header on its response but the type of what it has found. -/
theorem values_account (hname : "content-type" ≠ name) :
    (account w x site r).response.headers.values name = [] := by
  have htype : ∀ type : Bytes, Headers.values [("content-type", type)] name = [] :=
    fun type => Headers.values_cons_of_ne [] type hname
  rcases account_cases w x site r with h | h
  · generalize (account w x site r).response = response at h
    cases h with
    | found type body => exact htype type
    | bare hstatus => rfl
    | failed e => exact htype _
  · rw [h]
    exact htype _

/-- The trace has a header of its own. -/
theorem values_traceLayer (hname : traceIdHeader ≠ name) (rules : SiteRules) (e : Exchange) :
    (traceLayer x rules r e).response.headers.values name = e.response.headers.values name := by
  unfold traceLayer
  split
  · exact Headers.values_set_of_ne _ _ hname
  · rfl

/-- So has each of the security headers. -/
theorem values_harden (hname : name ∉ securityHeaders.map (·.1)) (response : Response) :
    (harden response).headers.values name = response.headers.values name :=
  Headers.values_foldl_set_of_not_mem response.headers securityHeaders hname

/-- The two headers that depend on the route are others again. -/
theorem values_finishRoute (hallow : "allow" ≠ name) (hlength : "content-length" ≠ name)
    (route : Route) (method : String) (response : Response) :
    (finishRoute route method response).headers.values name = response.headers.values name := by
  simp only [finishRoute]
  rw [Headers.values_setDefault_of_ne _ _ hlength]
  split
  · rfl
  · exact Headers.values_setDefault_of_ne _ _ hallow

/-- The headers that the outermost layers put on a response. -/
def outerHeaders : List String := "allow" :: "content-length" :: securityHeaders.map (·.1)

/-- Any other header has the values with which the response left the layer of the origins. -/
theorem values_outer (hname : name ∉ outerHeaders) :
    (site.respond w x r).response.headers.values name = (corsLayer w x site r).response.headers.values name := by
  rw [outerHeaders, List.mem_cons, List.mem_cons, not_or, not_or] at hname
  obtain ⟨hallow, hlength, hsecurity⟩ := hname
  simp only [Site.respond]
  split
  · rw [values_finishRoute (Ne.symm hallow) (Ne.symm hlength), values_harden hsecurity]
  · exact values_harden hsecurity _

end Values

/-- The layer for other origins puts on no identifier. -/
theorem values_cors (c : Cors) (preflight : Bool) (origin : Option Bytes) :
    (c.headers preflight origin).values requestIdHeader = [] := by
  unfold Cors.headers
  cases c.admitted? origin <;> cases preflight <;> rfl

/-- **The response carries one identifier**, the one that the request came with or got. -/
theorem values_respond (hmethod : r.method ≠ "OPTIONS") :
    (site.respond w x r).response.headers.values requestIdHeader = [carried x r] := by
  rw [values_outer w x site r (by decide)]
  simp only [corsLayer, beq_iff_eq, hmethod, if_false, identifyLayer, get?_identified, Option.getD_some]
  rw [Headers.values_append, values_cors, List.append_nil]
  apply Headers.values_setDefault_of_nil
  rw [values_traceLayer _ _ (by decide), values_account _ _ _ _ (by decide)]

/-- What is told of an error is told in its body, or nothing is. -/
theorem body_account (hfailed : 400 ≤ (account w x site r).response.status)
    (hbody : (account w x site r).response.body ≠ []) :
    ∃ code message, (account w x site r).response.body = errorBody (named x r) code message x.timestamp := by
  rcases account_cases w x site r with h | h
  · generalize (account w x site r).response = response at h hfailed hbody
    cases h with
    | found type body => simp at hfailed
    | bare hstatus => exact absurd rfl hbody
    | failed e => exact ⟨e.code, e.publicMessage, by rw [failureResponse, jsonResponse]⟩
  · exact ⟨_, _, by rw [h, jsonResponse]⟩

/-- **The body of an error names the identifier.** -/
theorem report_respond (hmethod : r.method ≠ "OPTIONS") (hfailed : 400 ≤ (site.respond w x r).response.status)
    (hbody : (site.respond w x r).response.body ≠ []) :
    ∃ report, ErrorReport.ofBytes? (site.respond w x r).response.body = .ok report ∧
      report.requestId = named x r := by
  obtain ⟨-, -, hstatus, hsame⟩ := respond_of_account w x site r hmethod
  rw [hstatus] at hfailed
  rw [hsame] at hbody ⊢
  by_cases hhead : r.method = "HEAD" ∧ (Route.ofPath? site.rules.metricsOn r.path).isSome = true
  · rw [if_pos hhead] at hbody
    exact absurd rfl hbody
  · rw [if_neg hhead] at hbody ⊢
    obtain ⟨code, message, htold⟩ := body_account w x site (identified x r) hfailed hbody
    have hid : named x (identified x r) = named x r := requestId_eq_named x r
    rw [htold, hid]
    exact ⟨_, ErrorReport.ofBytes?_errorBody _ _ _ _, rfl⟩

end Layers

/-! ## One identifier -/

/-- A log line names the identifier of a request. -/
def Names (id : String) (l : LogLine) : Prop :=
  ∃ rest, l.text = "request_id=" ++ id ++ ", ip=" ++ rest ∨ l.text = "request_id=" ++ id ++ " - " ++ rest

/-- Every line does, but those of the cache, which name no request. -/
theorem names_line (id : String) {event : Event} (hcache : ∀ c, event ≠ .cache c) :
    Names id (Notice.line ⟨id, event⟩) := by
  cases event with
  | cache c => exact absurd rfl (hcache c)
  | refused client method path =>
    refine ⟨client ++ " - rate limit exceeded on " ++ method ++ " " ++ path, .inl ?_⟩
    simp only [Notice.line, String.append_assoc]
  | failed e => exact ⟨e.describe, .inr rfl⟩
  | answered client method path status elapsed =>
    refine ⟨client ++ " - " ++ method ++ " " ++ path ++ " " ++ toString status ++ " " ++ elapsed, .inl ?_⟩
    simp only [Notice.line, String.append_assoc]

/-- What identifies a request that has been answered. -/
structure Identifies (e : Exchange) (id : String) (header : Bytes) : Prop where
  /-- Every log line of the request names it, but those of the cache, which name no request. -/
  lines : ∀ n ∈ e.notices, (∀ c, n.event ≠ .cache c) → Names id n.line
  /-- There is such a line. -/
  logged : ∃ n ∈ e.notices, Names id n.line
  /-- The body of an error, if it has one, is a report that names it. -/
  report : 400 ≤ e.response.status → e.response.body ≠ [] →
    ∃ report, ErrorReport.ofBytes? e.response.body = .ok report ∧ report.requestId = id
  /-- The response carries it once. -/
  header : e.response.headers.values requestIdHeader = [header]

/-- **One identifier for one request**, exactly if the header that it came with, if any, is a text. Whatever
becomes of a request that is no preflight, its log lines and the body of its error name one identifier, and its
response carries one. They are the same for a request without the header and for one whose header is a text.
For any other, the response carries the header and the rest names a fresh identifier. -/
theorem identifier_is_one_iff (w : World) (site : Site) {x : Surroundings} {r : Request}
    (hmethod : r.method ≠ "OPTIONS") (hfresh : (Text.encode x.freshId).all isTextByte = true) :
    Identifies (site.respond w x r) (named x r) (carried x r) ∧
      (Text.encode (named x r) = carried x r ↔
        ∀ v, r.headers.get? requestIdHeader = some v → v.all isTextByte = true) := by
  refine ⟨?_, encode_named_iff x r hfresh⟩
  obtain ⟨events, client, hnotices⟩ := notices_account w x site (identified x r)
  have hid : named x (identified x r) = named x r := requestId_eq_named x r
  rw [← notices_respond w x site r hmethod, hid] at hnotices
  refine ⟨?_, ?_, report_respond w x site r hmethod, values_respond w x site r hmethod⟩
  · intro n hn hcache
    rw [hnotices, List.mem_map] at hn
    obtain ⟨event, -, rfl⟩ := hn
    exact names_line _ hcache
  · -- the last line tells how the request was answered
    rw [hnotices, List.map_append]
    exact ⟨_, List.mem_append_right _ (List.mem_singleton_self _), names_line _ (by simp)⟩

/-! ## A plain identifier and a foreign one

A query is sent without saying that it is JSON, and the error is reported. -/

/-- The request, with this identifier. -/
def unmarked (id : Bytes) : Request where
  method := "POST"
  path := "/v1/translation/do-translate"
  headers := [(requestIdHeader, id)]

/-- What surrounds it. -/
def morning : Surroundings := ⟨"fresh", "trace", "2026-01-01T08:00:00.000Z", "1ms", 0⟩

/-- A site that nobody has asked anything. -/
def quietSite : Site where
  rules := {}
  desk := .fixed (.broke .untold) (.broke .untold)
  limiter := { rule := ⟨2, 60⟩ }

/-- What comes of the request. -/
def answerTo (id : Bytes) : Exchange := quietSite.respond { brings := fun q => .ok (q.phrase "") } morning (unmarked id)

/-- A plain identifier is the same in the log, in the body and on the response. -/
theorem plain_identifier_is_one :
    (answerTo (Text.encode "req-123")).response.status = 400 ∧
      Identifies (answerTo (Text.encode "req-123")) "req-123" (Text.encode "req-123") := by
  obtain ⟨hone, -⟩ := identifier_is_one_iff { brings := fun q => .ok (q.phrase "") } quietSite (x := morning)
    (r := unmarked (Text.encode "req-123")) (by decide) (by decide)
  exact ⟨rfl, hone⟩

/-- The response carries the letter that the client sent, and the report names the fresh identifier. -/
theorem foreign_identifier_is_two : ¬ ∃ id, Identifies (answerTo (Text.encode "é")) id (Text.encode id) := by
  rintro ⟨id, h⟩
  have hmethod : (unmarked (Text.encode "é")).method ≠ "OPTIONS" := by decide
  have hstatus : (answerTo (Text.encode "é")).response.status = 400 := rfl
  have hbody : (answerTo (Text.encode "é")).response.body ≠ [] := by decide +kernel
  obtain ⟨report, hread, rfl⟩ := h.report (by rw [hstatus]) hbody
  obtain ⟨report', hread', hfresh⟩ := report_respond _ _ _ _ hmethod (by rw [← answerTo, hstatus]) hbody
  have hsame : report = report' := Except.ok.inj (hread.symm.trans hread')
  have hheader := h.header
  rw [answerTo, values_respond _ _ _ _ hmethod, List.singleton_inj, hsame, hfresh] at hheader
  exact absurd hheader (by decide)

end Http

end Phrasebook
