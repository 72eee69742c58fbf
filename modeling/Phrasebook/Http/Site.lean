import Phrasebook.Desk
import Phrasebook.RateLimit.Limiter
import Phrasebook.Http.Cors
import Phrasebook.Http.MediaType
import Phrasebook.Http.Trace
import Phrasebook.Http.Metrics
/-!
# The site

The HTTP entry point. A request passes through layers, from the outside in:

* the security headers, which every response gets;
* `Cors`, which answers a preflight itself;
* the request identifier, taken from the request or made, and put on the response;
* the trace identifier, if tracing is on;
* the account: the client's bucket is asked, one line is logged and the request is counted;
* the guard that turns a breakdown of a handler into a failure;
* the handler of the route, or the refusal of the method, or the answer that there is no such path.

The paths that show health and metrics are exempt from the limit.
-/

set_option autoImplicit false

namespace Phrasebook.Http

/-- The paths that are there. -/
inductive Route where
  | healthz
  | metrics
  | history
  | translate
deriving DecidableEq, Inhabited

/-- The path of a route. -/
def Route.path : Route → String
  | .healthz => "/healthz"
  | .metrics => "/metrics"
  | .history => "/v1/translation/history"
  | .translate => "/v1/translation/do-translate"

/-- The methods of a route, as they are told. -/
def Route.methods : Route → List String
  | .translate => ["POST"]
  | _ => ["GET", "HEAD"]

/-- The route of a path. -/
def Route.ofPath? (metricsOn : Bool) (path : String) : Option Route :=
  let routes := if metricsOn then [Route.healthz, .history, .translate, .metrics]
    else [Route.healthz, .history, .translate]
  routes.find? fun r => r.path == path

/-- Whether requests to a path are limited. -/
def isLimited (path : String) : Bool := path != Route.healthz.path && path != Route.metrics.path

/-- What surrounds one request: what is made anew for it, and the time. -/
structure Surroundings where
  /-- An identifier for a request without one. -/
  freshId : String
  /-- An identifier for a trace that begins here. -/
  freshTrace : String
  /-- The time of day, for bodies. -/
  timestamp : String
  /-- How long the request took, for the log. -/
  elapsed : String
  /-- The time, for the limiter. -/
  now : RateLimit.Millis

/-- What is logged about a request. -/
inductive Event where
  /-- The cache failed. -/
  | cache (n : CacheNotice)
  /-- The client had no requests left. -/
  | refused (client method path : String)
  /-- The call failed. -/
  | failed (e : ServiceError)
  /-- The request was answered. -/
  | answered (client method path : String) (status : Nat) (elapsed : String)
deriving DecidableEq

/-- An event with the request to which it belongs. -/
structure Notice where
  /-- The identifier of the request. -/
  requestId : String
  /-- What happened. -/
  event : Event
deriving DecidableEq

/-- The log line of a notice. -/
def Notice.line (n : Notice) : LogLine :=
  match n.event with
  | .cache c => c.line
  | .refused client method path =>
    ⟨.warn, "request_id=" ++ n.requestId ++ ", ip=" ++ client ++ " - rate limit exceeded on " ++ method ++
      " " ++ path⟩
  | .failed e =>
    ⟨if e.httpStatus ≥ 500 then .error else .warn, "request_id=" ++ n.requestId ++ " - " ++ e.describe⟩
  | .answered client method path status elapsed =>
    ⟨.info, "request_id=" ++ n.requestId ++ ", ip=" ++ client ++ " - " ++ method ++ " " ++ path ++ " " ++
      toString status ++ " " ++ elapsed⟩

/-- The settings of a site. -/
structure SiteRules where
  /-- Whether the headers of a proxy name the client. -/
  trustProxy : Bool := false
  /-- Whether requests are counted and the counts shown. -/
  metricsOn : Bool := false
  /-- Whether responses carry the identifier of their trace. -/
  traced : Bool := false
  /-- Which origins may read the responses. -/
  cors : Cors := .any

/-- A site with its state. -/
structure Site where
  /-- The settings. -/
  rules : SiteRules
  /-- What answers the calls. -/
  desk : Desk
  /-- The buckets of the clients. -/
  limiter : RateLimit.Limiter
  /-- The counts. -/
  metrics : Metrics := {}

/-! ## Handlers -/

/-- The body that tells an error. -/
def errorBody (requestId code message timestamp : String) : Bytes :=
  Json.toBytes (.obj [("request_id", .str requestId), ("code", .str code), ("message", .str message),
    ("timestamp", .str timestamp)])

/-- The response for a failed call. -/
def failureResponse (requestId timestamp : String) (e : ServiceError) : Response :=
  jsonResponse e.httpStatus (errorBody requestId e.code e.publicMessage timestamp)

/-- The greatest length of a body. -/
def bodyLimit : Nat := 2097152

/-- Reads the query in a request. -/
def readQuery (r : Request) : Except String Query :=
  if !(((r.headers.text? "content-type").map MediaType.isJson).getD false) then
    .error "Expected request with `Content-Type: application/json`"
  else if r.body.length > bodyLimit then .error "Failed to buffer the request body: length limit exceeded"
  else
    match Query.ofBytes? r.body with
    | .ok q => .ok q
    | .error f =>
      let path := Json.Step.pathText f.path
      let intro := if f.reason.isData then "Failed to deserialize the JSON body into the target type: "
        else "Failed to parse the request body as JSON: "
      .error (intro ++ (if path.isEmpty then "" else path ++ ": ") ++ f.message r.body)

/-- What a handler makes of a request: a response or a breakdown. -/
structure Handled where
  /-- The response, or the breakdown. -/
  response : Except Panic Response
  /-- The desk afterwards. -/
  desk : Desk
  /-- The uses of facilities. -/
  calls : List FacilityUse := []
  /-- What happened. -/
  events : List Event := []

/-- The response for a call that has ended. -/
def callResponse {α : Type} (requestId timestamp : String) (encode : α → Bytes) (s : Served α) : Handled :=
  let calls := facilityUses s.events
  let cache := (cacheNotices s.events).map Event.cache
  match s.outcome with
  | .answer (.ok v) => ⟨.ok (jsonResponse 200 (encode v)), s.desk, calls, cache⟩
  | .answer (.error e) =>
    ⟨.ok (failureResponse requestId timestamp e), s.desk, calls, cache ++ [.failed e]⟩
  | .broke p => ⟨.error p, s.desk, calls, cache⟩

/-- Handles a request to a route with one of its methods. -/
def handleRoute (w : World) (x : Surroundings) (site : Site) (requestId : String) (r : Request) :
    Route → Handled
  | .healthz => ⟨.ok ⟨200, [], []⟩, site.desk, [], []⟩
  | .metrics =>
    ⟨.ok ⟨200, [("content-type", Text.encode "text/plain; charset=utf-8")],
      Text.encode site.metrics.expose⟩, site.desk, [], []⟩
  | .history => callResponse requestId x.timestamp History.toBytes (site.desk.recall w)
  | .translate =>
    match readQuery r with
    | .ok q => callResponse requestId x.timestamp Phrase.toBytes (site.desk.render w q)
    | .error message =>
      let e : ServiceError := .validation message
      ⟨.ok (failureResponse requestId x.timestamp e), site.desk, [], [.failed e]⟩

/-- Handles a request, also one that no route or no method fits. -/
def handle (w : World) (x : Surroundings) (site : Site) (requestId : String) (r : Request) : Handled :=
  match Route.ofPath? site.rules.metricsOn r.path with
  | none => ⟨.ok ⟨404, [], []⟩, site.desk, [], []⟩
  | some route =>
    if route.methods.contains r.method then handleRoute w x site requestId r route
    else ⟨.ok ⟨405, [], []⟩, site.desk, [], []⟩

/-! ## Layers -/

/-- The failure for a handler that broke down. -/
def breakdown (method path : String) (p : Panic) : ServiceError :=
  .internal ⟨"handler panicked on " ++ method ++ " " ++ path ++ ": " ++
    p.message?.getD "unknown panic payload", []⟩

/-- Turns a breakdown into a failure. -/
def guardPanic (x : Surroundings) (requestId : String) (r : Request) (h : Handled) :
    Response × List Event :=
  match h.response with
  | .ok response => (response, h.events)
  | .error p =>
    let e := breakdown r.method r.path p
    (failureResponse requestId x.timestamp e, h.events ++ [.failed e])

/-- The first address in a header of a proxy. -/
def proxyAddress? (h : Headers) (name : String) : Option String := do
  let address := Text.trim (((← h.text? name).splitOn ",").headD "")
  if address.isEmpty then none else some address

/-- The client to which a request is counted: the peer, unless a trusted proxy names another. -/
def clientOf (trustProxy : Bool) (r : Request) : String :=
  let forwarded := if trustProxy then
      (proxyAddress? r.headers "x-real-ip").or (proxyAddress? r.headers "x-forwarded-for")
    else none
  (forwarded.or r.peer).getD "unknown"

/-- The header with the identifier of a request. -/
def requestIdHeader : String := "x-request-id"

/-- The header with the identifier of a trace. -/
def traceIdHeader : String := "x-trace-id"

/-- A request that has been answered. -/
structure Exchange where
  /-- The response. -/
  response : Response
  /-- The site afterwards. -/
  site : Site
  /-- The uses of facilities. -/
  calls : List FacilityUse := []
  /-- What was logged. -/
  notices : List Notice := []

/-- The label under which a request is counted. -/
def pathLabel (path : String) (status : Nat) : String := if status == 404 then Metrics.unmatched else path

/-- Asks the bucket, handles the request if it may pass, logs and counts it. -/
def account (w : World) (x : Surroundings) (site : Site) (r : Request) : Exchange :=
  let client := clientOf site.rules.trustProxy r
  let requestId := (r.headers.text? requestIdHeader).getD x.freshId
  let limited := isLimited r.path
  -- the paths that go unlimited leave the limiter as it is
  let (allowed, limiter) :=
    if limited then site.limiter.allow client x.now else (true, site.limiter)
  let site := { site with limiter := limiter }
  let (response, desk, calls, events) :=
    if allowed then
      let h := handle w x site requestId r
      let (response, events) := guardPanic x requestId r h
      (response, h.desk, h.calls, events)
    else
      (jsonResponse 429 (errorBody requestId "RATE_LIMIT_EXCEEDED" "too many requests" x.timestamp),
        site.desk, [], [Event.refused client r.method r.path])
  let answered := Event.answered client r.method r.path response.status x.elapsed
  let metrics := if site.rules.metricsOn then
      site.metrics.record ⟨r.method, pathLabel r.path response.status, response.status⟩
    else site.metrics
  { response := response
    site := { site with desk := desk, metrics := metrics }
    calls := calls
    notices := (events ++ [answered]).map fun e => ⟨requestId, e⟩ }

/-- Puts the identifier of the trace on the response, if tracing is on. -/
def traceLayer (x : Surroundings) (rules : SiteRules) (r : Request) (e : Exchange) : Exchange :=
  if rules.traced then
    let trace := (Trace.ofHeaders? r.headers).getD x.freshTrace
    let headers := e.response.headers.set traceIdHeader (Text.encode trace)
    { e with response := { e.response with headers := headers } }
  else e

/-- The request with an identifier. -/
def identified (x : Surroundings) (r : Request) : Request :=
  { r with headers := r.headers.setDefault requestIdHeader (Text.encode x.freshId) }

/-- Puts the identifier of the request on the response. -/
def identifyLayer (r : Request) (e : Exchange) : Exchange :=
  let id := (r.headers.get? requestIdHeader).getD []
  { e with response := { e.response with headers := e.response.headers.setDefault requestIdHeader id } }

/-- Answers a preflight; anything else goes on to the inner layers. -/
def corsLayer (w : World) (x : Surroundings) (site : Site) (r : Request) : Exchange :=
  let preflight := r.method == "OPTIONS"
  let headers := site.rules.cors.headers preflight (r.headers.get? "origin")
  if preflight then { response := ⟨200, headers, []⟩, site := site }
  else
    let r := identified x r
    -- from the inside out: the request is accounted for first, and its identifier is put on last
    let e := identifyLayer r (traceLayer x site.rules r (account w x site r))
    { e with response := { e.response with headers := e.response.headers ++ headers } }

/-- The headers that every response carries. -/
def securityHeaders : Headers :=
  [("x-content-type-options", Text.encode "nosniff"), ("x-frame-options", Text.encode "DENY"),
    ("x-xss-protection", Text.encode "0"), ("referrer-policy", Text.encode "no-referrer")]

/-- Puts the security headers on a response. -/
def harden (r : Response) : Response :=
  { r with headers := securityHeaders.foldl (fun h (name, value) => h.set name value) r.headers }

/-- What a route does to its response last: it tells its methods when the request had another one, tells
the length, and drops the body if only the head was asked for. -/
def finishRoute (route : Route) (method : String) (r : Response) : Response :=
  let headers := if route.methods.contains method then r.headers
    else r.headers.setDefault "allow" (Text.encode (",".intercalate route.methods))
  let headers := headers.setDefault "content-length" (Text.encode (toString r.body.length))
  { r with headers := headers, body := if method == "HEAD" then [] else r.body }

/-- Answers a request. -/
def Site.respond (w : World) (x : Surroundings) (site : Site) (r : Request) : Exchange :=
  let e := corsLayer w x site r
  let response := harden e.response
  let response := match Route.ofPath? site.rules.metricsOn r.path with
    | some route => finishRoute route r.method response
    | none => response
  { e with response := response }

end Phrasebook.Http
