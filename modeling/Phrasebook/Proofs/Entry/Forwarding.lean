import Phrasebook.Acts
import Phrasebook.Session
import Phrasebook.Proofs.Entry.Admission
/-!
# Forwarding headers

A proxy names the client in `x-real-ip` or `x-forwarded-for`. A site that does not trust a proxy must not hear
them at all: whoever sends them could pass for somebody else, and get round the limit.

The statement is about two sessions whose requests differ in these headers only, in whether they are there, how
often and with which bytes. Everything that can be seen is the same in both, and so is everything that is kept
(`Session.Room.forwarding_has_no_influence`). A request is looked at through the first values of the other
headers, so `Http.SeenAlike` is all that the layers need to know of two requests; the lemmas on the layers go
from the inside out.
-/

set_option autoImplicit false

namespace Phrasebook

namespace Http

/-- The headers in which a proxy names the client. -/
def forwardingHeaders : List String := ["x-real-ip", "x-forwarded-for"]

/-- A request without what a proxy says of the client. -/
def Request.withoutForwarding (r : Request) : Request :=
  { r with headers := r.headers.filter fun h => !forwardingHeaders.contains h.1 }

/-- Nothing that is read without trust in a proxy tells two requests apart. -/
structure SeenAlike (r r' : Request) : Prop where
  method : r.method = r'.method
  path : r.path = r'.path
  body : r.body = r'.body
  peer : r.peer = r'.peer
  headers : ∀ name, name ∉ forwardingHeaders → r.headers.get? name = r'.headers.get? name

/-- A header is found among those that are kept, if it is one of them. -/
theorem Headers.get?_filter (h : Headers) (p : String → Bool) {name : String} (hname : p name = true) :
    get? (h.filter fun e => p e.1) name = h.get? name := by
  unfold get?
  induction h with
  | nil => rfl
  | cons e h ih =>
    obtain ⟨other, value⟩ := e
    by_cases hkeep : p other = true
    · rw [List.filter_cons_of_pos (by exact hkeep), List.lookup_cons, List.lookup_cons, ih]
    · have hne : (name == other) = false := by
        rw [beq_eq_false_iff_ne]
        rintro rfl
        exact hkeep hname
      rw [List.filter_cons_of_neg (by exact hkeep), ih, List.lookup_cons, hne]

/-- A request without what a proxy says is seen like the request. -/
theorem seenAlike_withoutForwarding (r : Request) : SeenAlike r.withoutForwarding r where
  method := rfl
  path := rfl
  body := rfl
  peer := rfl
  headers := by
    intro name hname
    exact Headers.get?_filter r.headers (fun other => !forwardingHeaders.contains other) (by simpa using hname)

namespace SeenAlike

variable {r r' : Request} (h : SeenAlike r r')

include h

/-- Any other header has the same text in requests that are seen alike. -/
theorem text? (name : String) (hname : name ∉ forwardingHeaders) :
    r.headers.text? name = r'.headers.text? name := by
  rw [Headers.text?, h.headers name hname, Headers.text?]

/-- The identifier is put on both, or on none. -/
theorem identified (x : Surroundings) : SeenAlike (identified x r) (identified x r') where
  method := h.method
  path := h.path
  body := h.body
  peer := h.peer
  headers := by
    intro name hname
    simp only [Http.identified, Headers.get?_setDefault, h.headers name hname]

/-! ## From the inside out -/

/-- The query in them is the same. -/
theorem readQuery : readQuery r = readQuery r' := by
  simp only [Http.readQuery, h.text? "content-type" (by decide), h.body]

/-- So handlers make the same of them. -/
theorem handle (w : World) (x : Surroundings) (site : Site) (id : String) :
    handle w x site id r = handle w x site id r' := by
  have hroute : handleRoute w x site id r = handleRoute w x site id r' := by
    funext route
    cases route <;> simp only [handleRoute, h.readQuery]
  simp only [Http.handle, h.method, h.path, hroute]

/-- **Without trust in a proxy the client is the peer**, whatever the headers say. -/
theorem clientOf : clientOf false r = clientOf false r' := by
  simp only [Http.clientOf, h.peer]
  rfl

/-- Without trust in a proxy the account of them is the same. -/
theorem account (w : World) (x : Surroundings) {site : Site} (htrust : site.rules.trustProxy = false) :
    account w x site r = account w x site r' := by
  have hguard : ∀ id handled, guardPanic x id r handled = guardPanic x id r' handled := by
    intro id handled
    simp only [guardPanic, h.method, h.path]
  simp only [Http.account, htrust, h.clientOf, h.text? requestIdHeader (by decide), h.handle, hguard,
    h.method, h.path]

/-- So is what the layer for other origins makes of them. -/
theorem corsLayer (w : World) (x : Surroundings) {site : Site} (htrust : site.rules.trustProxy = false) :
    corsLayer w x site r = corsLayer w x site r' := by
  have hinner := (h.identified x).account w x htrust
  have horigin := h.headers "origin" (by decide)
  have hid := (h.identified x).headers requestIdHeader (by decide)
  have htrace := (h.identified x).text? "traceparent" (by decide)
  simp only [Http.corsLayer, traceLayer, identifyLayer, Trace.ofHeaders?, hinner, horigin, hid, htrace, h.method]

/-- **The response and the site** are the same for both. -/
theorem respond (w : World) (x : Surroundings) {site : Site} (htrust : site.rules.trustProxy = false) :
    site.respond w x r = site.respond w x r' := by
  simp only [Site.respond, h.corsLayer w x htrust, h.method, h.path]

end SeenAlike

/-- No request changes the settings of a site. -/
theorem rules_respond (w : World) (x : Surroundings) (site : Site) (r : Request) :
    (site.respond w x r).site.rules = site.rules := by
  by_cases hmethod : r.method = "OPTIONS"
  · rw [(respond_of_preflight w x site r hmethod).1]
  · rw [(respond_of_account w x site r hmethod).1]
    rfl

end Http

namespace Session

/-- A move without what a proxy says of the client. -/
def Move.withoutForwarding : Move → Move
  | .act (.http x r) => .act (.http x r.withoutForwarding)
  | m => m

namespace Room

/-- **One move** comes to the same without the headers of a proxy. -/
theorem step_withoutForwarding {room : Room} (htrust : room.site.rules.trustProxy = false) (m : Move) :
    room.step m.withoutForwarding = room.step m := by
  cases m with
  | act a =>
    cases a with
    | http x r =>
      simp only [Move.withoutForwarding, step, react,
        (Http.seenAlike_withoutForwarding r).respond room.world x htrust]
    | _ => rfl
  | _ => rfl

/-- A call that goes on leaves the rules of the site as they are. -/
theorem rules_proceed (room : Room) (c : Halted) : (room.proceed c).2.site.rules = room.site.rules := by
  unfold proceed
  split <;> rfl

/-- No move changes the settings of the site. -/
theorem rules_step (room : Room) (m : Move) : (room.step m).2.site.rules = room.site.rules := by
  cases m with
  | act a =>
    cases a with
    | http x r => exact Http.rules_respond room.world x room.site r
    | grpcRecall via => cases via <;> rfl
    | grpcRender via q => cases via <;> rfl
    | _ => rfl
  | change failures => rfl
  | start id q stops => exact room.rules_proceed _
  | resume id =>
    simp only [step]
    split
    · exact room.rules_proceed _
    · rfl
  | look => rfl

/-- **A session** comes to the same without the headers of a proxy. -/
theorem session_withoutForwarding {room : Room} (htrust : room.site.rules.trustProxy = false)
    (moves : List Move) :
    (Acts.log step room (moves.map Move.withoutForwarding)).map (·.2) = (Acts.log step room moves).map (·.2) ∧
      Acts.after step room (moves.map Move.withoutForwarding) = Acts.after step room moves := by
  induction moves generalizing room with
  | nil => exact ⟨rfl, rfl⟩
  | cons m moves ih =>
    have hnext : (room.step m).2.site.rules.trustProxy = false := by rw [rules_step, htrust]
    obtain ⟨hlog, hafter⟩ := ih hnext
    rw [List.map_cons, Acts.log, Acts.log, List.map_cons, List.map_cons, Acts.after_cons, Acts.after_cons,
      step_withoutForwarding htrust]
    exact ⟨by rw [hlog], hafter⟩

/-- **Forwarding headers have no influence** where a proxy is not trusted. Let two sessions with the same
settings take the same moves, but for the headers in which a proxy names the client. Then every report of the
one, with its answer, the uses of facilities and the log lines, is that of the other, and after each move
both sites are the same, with their phrases, buckets and counts. The identifiers and times that are made for a
request belong to the move. -/
theorem forwarding_has_no_influence {s : Settings} {desk : Desk} {traced : Bool} {room : Room}
    (hsite : Http.Site.ofSettings? s desk traced = .ok room.site) (htrust : s.http.trustProxy = false)
    {moves moves' : List Move}
    (hmoves : moves.map Move.withoutForwarding = moves'.map Move.withoutForwarding) :
    (Acts.log step room moves).map (·.2) = (Acts.log step room moves').map (·.2) ∧
      ∀ n, Acts.after step room (moves.take n) = Acts.after step room (moves'.take n) := by
  have hoff : room.site.rules.trustProxy = false := by rw [(Http.Site.of_ofSettings? hsite).2, htrust]
  have hsame := session_withoutForwarding hoff
  constructor
  · rw [← (hsame moves).1, hmoves, (hsame moves').1]
  · intro n
    rw [← (hsame (moves.take n)).2, List.map_take, hmoves, ← List.map_take, (hsame (moves'.take n)).2]

/-! ## Spoofed addresses

Two requests in a minute are allowed. A client asks three times, once saying nothing of where it comes from, and
once naming another address each time, with bytes that are no text among them. -/

/-- A request for the history with these headers. -/
def ask (headers : Http.Headers) : Move :=
  .act (.http ⟨"id", "trace", "12:00", "1ms", 1000⟩
    { path := "/v1/translation/history", headers := headers, peer := some "10.0.0.1" })

/-- The settings. -/
def strict : Settings := { (default : Settings) with rateLimit := ⟨2, 60⟩ }

/-- A room with a site from these settings. -/
def strictRoom : Room where
  site := { rules := {}, desk := .fixed (.answer (.ok ⟨[]⟩)) (.broke .untold), limiter := { rule := ⟨2, 60⟩ } }
  world := { brings := fun q => .ok (q.phrase "") }

/-- The client that names other addresses gets what it gets without them, the refusal included. -/
theorem spoofed_addresses_have_no_influence :
    let plain := [ask [], ask [("accept", [42])], ask []]
    let spoofed := [ask [("x-real-ip", Text.encode "1.1.1.1")],
      ask [("x-forwarded-for", [0xFF, 0x00]), ("accept", [42]), ("x-forwarded-for", Text.encode "2.2.2.2")],
      ask [("x-real-ip", []), ("x-forwarded-for", Text.encode "3.3.3.3")]]
    Http.Site.ofSettings? strict strictRoom.site.desk false = .ok strictRoom.site ∧
      (Acts.log step strictRoom spoofed).map (·.2) = (Acts.log step strictRoom plain).map (·.2) ∧
      (Acts.after step strictRoom spoofed).site.limiter.size = 1 := by
  intro plain spoofed
  have hsite : Http.Site.ofSettings? strict strictRoom.site.desk false = .ok strictRoom.site := rfl
  have hsame : spoofed.map Move.withoutForwarding = plain.map Move.withoutForwarding := rfl
  obtain ⟨hlog, hafter⟩ := forwarding_has_no_influence hsite rfl hsame
  refine ⟨hsite, hlog, ?_⟩
  rw [show Acts.after step strictRoom spoofed = Acts.after step strictRoom plain from hafter 3]
  decide

end Room

end Session

end Phrasebook
