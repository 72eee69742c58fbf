import Phrasebook.Http.Setup
import Phrasebook.Proofs.Entry.Site
import Phrasebook.Proofs.RateLimit.Window
/-!
# Who is let in

Every request but a preflight, and but those for health and metrics, is counted to its client before anything
else is known of it: the bucket of the client is asked once, and says whether the request is refused or
handed to its handler. What the handler then does, whether there is one at all, and whether it breaks down,
makes no difference to the buckets; the other requests make none either, and are never refused.

So the buckets are those of a limiter that was only asked for the limited requests (`Site.limiter_afterAll`),
and what is known of such a limiter holds of the site. The lead result is `Site.limit_is_kept`: in each of its
windows a client gets its first requests through, as many as the settings say, and no others.
-/

set_option autoImplicit false

namespace Phrasebook.Http

open RateLimit (Limiter Ask Millis Ordered InRange InWindow countIn timesOf lastMillis)

/-! ## Requests in a row -/

/-- A request with what it meets: the world, what is made anew for it, and what stands behind the desk when it
comes, which may answer, fail or break down. -/
structure Visit where
  /-- The world. -/
  world : World
  /-- What surrounds the request. -/
  around : Surroundings
  /-- What answers the calls. -/
  desk : Desk
  /-- The request. -/
  request : Request

/-- A request that is limited. -/
def Visit.IsLimited (v : Visit) : Prop :=
  v.request.method ≠ "OPTIONS" ∧ v.request.path ≠ "/healthz" ∧ v.request.path ≠ "/metrics"

instance (v : Visit) : Decidable v.IsLimited := inferInstanceAs (Decidable (_ ∧ _))

/-- What the limiter is asked for a request. -/
def Visit.ask? (trustProxy : Bool) (v : Visit) : Option Ask :=
  if v.IsLimited then some ⟨clientOf trustProxy v.request, v.around.now⟩ else none

/-- The site with another desk. -/
def Site.withDesk (site : Site) (desk : Desk) : Site := { site with desk := desk }

/-- The site with other buckets. -/
def Site.withLimiter (site : Site) (l : Limiter) : Site := { site with limiter := l }

/-- The exchange with other buckets on the site. -/
def Exchange.withLimiter (e : Exchange) (l : Limiter) : Exchange := { e with site := e.site.withLimiter l }

/-- Answers a request. -/
def Site.serve (site : Site) (v : Visit) : Exchange := (site.withDesk v.desk).respond v.world v.around v.request

/-- The site after some requests, the first first. -/
def Site.afterAll (site : Site) (visits : List Visit) : Site :=
  visits.foldl (fun site v => (site.serve v).site) site

/-- A request is refused: it is told so, and no call is made. -/
structure Site.Refuses (site : Site) (v : Visit) : Prop where
  status : (site.serve v).response.status = 429
  body : (site.serve v).response.body =
    if v.request.method = "HEAD" ∧ (Route.ofPath? site.rules.metricsOn v.request.path).isSome then []
    else errorBody (requestId v.around v.request) "RATE_LIMIT_EXCEEDED" "too many requests" v.around.timestamp
  calls : (site.serve v).calls = []
  desk : (site.serve v).site.desk = v.desk

/-- What the handler makes of a request. -/
def Site.handled (site : Site) (v : Visit) : Handled :=
  handle v.world v.around (site.withDesk v.desk) (requestId v.around v.request) (identified v.around v.request)

/-- A request is passed on: what comes of it is what its handler makes of it, and it is not told to be
refused. -/
structure Site.PassesOn (site : Site) (v : Visit) : Prop where
  status : (site.serve v).response.status =
    (guardPanic v.around (requestId v.around v.request) (identified v.around v.request) (site.handled v)).1.status
  admitted : (site.serve v).response.status ≠ 429
  calls : (site.serve v).calls = (site.handled v).calls
  desk : (site.serve v).site.desk = (site.handled v).desk

/-! ## Through the layers -/

section Layers

variable (w : World) (x : Surroundings) (site : Site) (r : Request)

/-- Every path is limited but those of the probe and of the metrics. -/
theorem isLimited_iff (path : String) : isLimited path = true ↔ path ≠ "/healthz" ∧ path ≠ "/metrics" := by
  simp [isLimited, Route.path]

/-- The outer layers put headers on what the account makes of a request, and drop the body of a route if only
the head was asked for. -/
theorem respond_of_account (hmethod : r.method ≠ "OPTIONS") :
    let e := site.respond w x r
    let a := account w x site (identified x r)
    e.site = a.site ∧ e.calls = a.calls ∧ e.response.status = a.response.status ∧
      e.response.body =
        if r.method = "HEAD" ∧ (Route.ofPath? site.rules.metricsOn r.path).isSome then []
        else a.response.body := by
  intro e a
  -- for every method but OPTIONS the outer layers only add headers
  have hsite : (corsLayer w x site r).site = a.site := by
    have htrace : (traceLayer x site.rules (identified x r) a).site = a.site := by
      unfold traceLayer
      split <;> rfl
    simp only [corsLayer, beq_iff_eq, hmethod, if_false]
    exact htrace
  have hcors := corsLayer_sameButHeaders w x site r hmethod
  refine ⟨hsite, hcors.calls, ?_, ?_⟩
  · rw [← hcors.status]
    simp only [e, Site.respond]
    split <;> rfl
  · rw [← hcors.body]
    simp only [e, Site.respond]
    cases Route.ofPath? site.rules.metricsOn r.path with
    | none => simp [harden]
    | some route => simp [finishRoute, harden]

/-- A preflight is answered by the layer that knows the origins. -/
theorem respond_of_preflight (hmethod : r.method = "OPTIONS") :
    (site.respond w x r).site = site ∧ (site.respond w x r).response.status = 200 := by
  simp only [Site.respond, corsLayer, hmethod, beq_self_eq_true, if_true, true_and]
  split <;> rfl

/-! ## The account -/

/-- **The limiter is asked once for a limited path, and not at all for another.** -/
theorem limiter_account : (account w x site r).site.limiter =
    if isLimited r.path then (site.limiter.allow (clientOf site.rules.trustProxy r) x.now).2
    else site.limiter := by
  unfold account
  by_cases h : isLimited r.path = true <;> simp only [h, if_true, if_false, Bool.false_eq_true]

/-- A request that the limiter refuses is told so, and gets no further. -/
theorem account_of_refused (hlimited : isLimited r.path = true)
    (hno : (site.limiter.allow (clientOf site.rules.trustProxy r) x.now).1 = false) :
    let e := account w x site r
    e.response = jsonResponse 429 (errorBody ((r.headers.text? requestIdHeader).getD x.freshId)
      "RATE_LIMIT_EXCEEDED" "too many requests" x.timestamp) ∧ e.calls = [] ∧ e.site.desk = site.desk := by
  simp only [account, hlimited, if_true, hno, Bool.false_eq_true, if_false, and_self]

/-! ## Without the limiter -/

/-- For a path that is not limited the buckets do not matter. -/
theorem account_withLimiter (hexempt : isLimited r.path = false) (l : Limiter) :
    account w x (site.withLimiter l) r = (account w x site r).withLimiter l := by
  simp only [account, hexempt, Bool.false_eq_true, if_false]
  rfl

/-- The outer layers do not look at the buckets. -/
theorem traceLayer_withLimiter (rules : SiteRules) (e : Exchange) (l : Limiter) :
    traceLayer x rules r (e.withLimiter l) = (traceLayer x rules r e).withLimiter l := by
  unfold traceLayer
  split <;> rfl

/-- A request that is not limited goes by the buckets, whatever is in them. -/
theorem corsLayer_withLimiter (hexempt : r.method = "OPTIONS" ∨ isLimited r.path = false) (l : Limiter) :
    corsLayer w x (site.withLimiter l) r = (corsLayer w x site r).withLimiter l := by
  by_cases hmethod : r.method = "OPTIONS"
  · simp only [corsLayer, hmethod, beq_self_eq_true, if_true]
    rfl
  · have hpath : isLimited (identified x r).path = false := hexempt.resolve_left hmethod
    simp only [corsLayer, beq_iff_eq, hmethod, if_false, account_withLimiter w x site _ hpath,
      traceLayer_withLimiter]
    rfl

/-- So its response does not depend on them, and they stay as they are. -/
theorem respond_withLimiter (hexempt : r.method = "OPTIONS" ∨ isLimited r.path = false) (l : Limiter) :
    (site.withLimiter l).respond w x r = (site.respond w x r).withLimiter l := by
  simp only [Site.respond, corsLayer_withLimiter w x site r hexempt]
  rfl

/-! ## Handlers are not rate limited -/

/-- No handler tells anybody to be refused. -/
theorem Handles.admitted {id timestamp : String} {response : Response} (h : Handles id timestamp response) :
    response.status ≠ 429 := by
  cases h with
  | found type body => exact (by decide : 200 ≠ 429)
  | bare hstatus =>
    rintro rfl
    exact absurd hstatus (by decide)
  | failed e => cases e <;> simp [failureResponse, jsonResponse, ServiceError.httpStatus]

/-- **No handler answers that the rate limit is exceeded**, also when it breaks down. -/
theorem guardPanic_handle_admitted (id : String) :
    (guardPanic x id r (handle w x site id r)).1.status ≠ 429 :=
  (handles_handle w x site r id).admitted

end Layers

namespace Site

variable (site : Site) (v : Visit)

/-! ## One request -/

/-- The rules of a site stay the same. -/
theorem rules_serve : (site.serve v).site.rules = site.rules := by
  by_cases hmethod : v.request.method = "OPTIONS"
  · rw [serve, (respond_of_preflight _ _ _ _ hmethod).1]
    rfl
  · rw [serve, (respond_of_account _ _ _ _ hmethod).1]
    rfl

/-- **A limited request asks the bucket of its client once, and any other request asks none.** -/
theorem limiter_serve : (site.serve v).site.limiter =
    if v.IsLimited then (site.limiter.allow (clientOf site.rules.trustProxy v.request) v.around.now).2
    else site.limiter := by
  by_cases hmethod : v.request.method = "OPTIONS"
  · rw [serve, (respond_of_preflight _ _ _ _ hmethod).1, if_neg (fun h => h.1 hmethod)]
    rfl
  · rw [serve, (respond_of_account _ _ _ _ hmethod).1, limiter_account, clientOf_identified]
    have hiff : isLimited (identified v.around v.request).path = true ↔ v.IsLimited := by
      rw [isLimited_iff, Visit.IsLimited]
      exact ⟨fun h => ⟨hmethod, h⟩, fun h => h.2⟩
    simp only [hiff]
    rfl

variable {site v}

/-- A limited request is refused if the limiter says no. -/
theorem refuses_of_limiter (h : v.IsLimited)
    (hno : (site.limiter.allow (clientOf site.rules.trustProxy v.request) v.around.now).1 = false) :
    site.Refuses v := by
  obtain ⟨hmethod, hpath⟩ := h
  obtain ⟨hsite, hcalls, hstatus, hbody⟩ := respond_of_account v.world v.around (site.withDesk v.desk) v.request hmethod
  obtain ⟨hresponse, hnone, hdesk⟩ := account_of_refused v.world v.around (site.withDesk v.desk)
    (identified v.around v.request) ((isLimited_iff _).2 hpath) (by rw [clientOf_identified]; exact hno)
  refine ⟨?_, ?_, ?_, ?_⟩
  · rw [serve, hstatus, hresponse]
    rfl
  · have hrules : (site.withDesk v.desk).rules = site.rules := rfl
    rw [serve, hbody, hresponse, jsonResponse, hrules, requestId]
  · rw [serve, hcalls, hnone]
  · rw [serve, hsite, hdesk]
    rfl

/-- A limited request is passed on if the limiter says yes. -/
theorem passesOn_of_limiter (h : v.IsLimited)
    (hyes : (site.limiter.allow (clientOf site.rules.trustProxy v.request) v.around.now).1 = true) :
    site.PassesOn v := by
  obtain ⟨hmethod, hpath⟩ := h
  obtain ⟨hsite, hcalls, hstatus, -⟩ := respond_of_account v.world v.around (site.withDesk v.desk) v.request hmethod
  -- the limiter has a permit left for the client, and the identifier given meanwhile is not part of that
  have hadmits : (site.withDesk v.desk).admits v.around (identified v.around v.request) = true := by
    rw [admits, clientOf_identified]
    exact Bool.or_eq_true_iff.2 (Or.inr hyes)
  obtain ⟨hresponse, hhandled, hdesk⟩ := account_of_admitted v.world v.around (site.withDesk v.desk)
    (identified v.around v.request) hadmits
  have hstatus' : (site.serve v).response.status = (guardPanic v.around (requestId v.around v.request)
      (identified v.around v.request) (site.handled v)).1.status := by
    rw [serve, hstatus, hresponse]
    rfl
  refine ⟨hstatus', ?_, ?_, ?_⟩
  · rw [hstatus']
    exact guardPanic_handle_admitted _ _ _ _ _
  · rw [serve, hcalls, hhandled]
    rfl
  · rw [serve, hsite, hdesk]
    rfl

/-- A request is not both refused and passed on. -/
theorem Refuses.not_passesOn (h : site.Refuses v) : ¬ site.PassesOn v :=
  fun h' => h'.admitted h.status

/-- **The bucket of the client decides** whether a limited request is refused or passed on. -/
theorem refuses_iff (h : v.IsLimited) : site.Refuses v ↔
    (site.limiter.allow (clientOf site.rules.trustProxy v.request) v.around.now).1 = false := by
  refine ⟨fun hr => ?_, refuses_of_limiter h⟩
  rw [← Bool.not_eq_true]
  exact fun hyes => hr.not_passesOn (passesOn_of_limiter h hyes)

/-- A limited request is passed on exactly if the limiter says yes. -/
theorem passesOn_iff (h : v.IsLimited) : site.PassesOn v ↔
    (site.limiter.allow (clientOf site.rules.trustProxy v.request) v.around.now).1 = true := by
  refine ⟨fun hp => ?_, passesOn_of_limiter h⟩
  rw [← Bool.not_eq_false]
  exact fun hno => (refuses_of_limiter h hno).not_passesOn hp

/-- A request that is not limited is answered in the same way whatever the buckets hold, and is not told that the
rate limit is exceeded. -/
theorem serve_of_exempt (h : ¬ v.IsLimited) (l : Limiter) :
    (site.withLimiter l).serve v = (site.serve v).withLimiter l ∧ (site.serve v).response.status ≠ 429 := by
  have hexempt : v.request.method = "OPTIONS" ∨ isLimited v.request.path = false := by
    rw [← Bool.not_eq_true, isLimited_iff, or_iff_not_imp_left]
    exact fun hmethod hpath => h ⟨hmethod, hpath⟩
  refine ⟨respond_withLimiter _ _ (site.withDesk v.desk) _ hexempt l, ?_⟩
  by_cases hmethod : v.request.method = "OPTIONS"
  · rw [serve, (respond_of_preflight _ _ _ _ hmethod).2]
    decide
  · obtain ⟨-, -, hstatus, -⟩ := respond_of_account v.world v.around (site.withDesk v.desk) v.request hmethod
    have hadmits : (site.withDesk v.desk).admits v.around (identified v.around v.request) = true := by
      rw [admits, identified, hexempt.resolve_left hmethod]
      rfl
    obtain ⟨hresponse, -, -⟩ := account_of_admitted v.world v.around (site.withDesk v.desk)
      (identified v.around v.request) hadmits
    rw [serve, hstatus, hresponse]
    exact guardPanic_handle_admitted _ _ _ _ _

/-! ## Any number of requests -/

/-- The last request meets the site that the others have left. -/
theorem afterAll_append_singleton (site : Site) (visits : List Visit) (v : Visit) :
    site.afterAll (visits ++ [v]) = ((site.afterAll visits).serve v).site := by
  rw [afterAll, List.foldl_append]
  rfl

/-- The rules stay the same after any requests. -/
theorem rules_afterAll (site : Site) (visits : List Visit) : (site.afterAll visits).rules = site.rules := by
  induction visits using List.reverseRecOn with
  | nil => rfl
  | append_singleton visits v ih => rw [afterAll_append_singleton, rules_serve, ih]

/-- **The buckets are those of a limiter that was asked for the limited requests and for nothing else.** -/
theorem limiter_afterAll (site : Site) (visits : List Visit) :
    (site.afterAll visits).limiter =
      site.limiter.after (visits.filterMap (Visit.ask? site.rules.trustProxy)) := by
  induction visits using List.reverseRecOn with
  | nil => rfl
  | append_singleton visits v ih =>
    rw [afterAll_append_singleton, limiter_serve, rules_afterAll, ih, List.filterMap_append]
    by_cases h : v.IsLimited
    · rw [if_pos h, List.filterMap_cons_some (by rw [Visit.ask?, if_pos h]), List.filterMap_nil,
        Limiter.after_append_singleton]
    · rw [if_neg h, List.filterMap_cons_none (by rw [Visit.ask?, if_neg h]), List.filterMap_nil,
        List.append_nil]

/-! ## From the settings -/

/-- A site from the settings has a limiter without clients, and does what the settings say. -/
theorem made_of_ofSettings? {s : Settings} {desk : Desk} {taken : Bool} {site : Site}
    (h : Site.ofSettings? s desk taken = .ok site) :
    ∃ limiter cors, Limiter.ofRule? s.rateLimit.max s.rateLimit.intervalSecs = .ok limiter ∧
      Cors.ofSetting? s.allowOrigins = .ok cors ∧
      site = ⟨⟨s.http.trustProxy, s.metrics, s.tracer.enabled && taken, cors⟩, desk, limiter, {}⟩ := by
  rw [ofSettings?] at h
  cases hlimiter : Limiter.ofRule? s.rateLimit.max s.rateLimit.intervalSecs with
  | error e =>
    rw [hlimiter] at h
    cases h
  | ok limiter =>
    rw [hlimiter] at h
    cases hcors : Cors.ofSetting? s.allowOrigins with
    | error e =>
      rw [hcors] at h
      cases h
    | ok cors =>
      rw [hcors] at h
      cases h
      exact ⟨limiter, cors, rfl, rfl, rfl⟩

/-- A site that was made of settings has a fresh limiter for their rule, and trusts a proxy if they do. -/
theorem of_ofSettings? {s : Settings} {desk : Desk} {taken : Bool} {site : Site}
    (h : Site.ofSettings? s desk taken = .ok site) :
    Limiter.ofRule? s.rateLimit.max s.rateLimit.intervalSecs = .ok site.limiter ∧
      site.rules.trustProxy = s.http.trustProxy := by
  obtain ⟨limiter, cors, hlimiter, -, rfl⟩ := made_of_ofSettings? h
  exact ⟨hlimiter, rfl⟩

/-- The requests come one after the other, at times that a clock can tell: it counts from 1970, and ends long
before the last time there is. -/
structure OnTime (interval : Millis) (visits : List Visit) : Prop where
  ordered : visits.Pairwise fun u v => u.around.now ≤ v.around.now
  inRange : ∀ v ∈ visits, 0 ≤ v.around.now ∧ v.around.now ≤ lastMillis - interval

/-- The limiter is asked in order and in range. -/
theorem OnTime.asks {interval : Millis} {visits : List Visit} (h : OnTime interval visits) (trustProxy : Bool) :
    Ordered (visits.filterMap (Visit.ask? trustProxy)) ∧
      InRange interval (visits.filterMap (Visit.ask? trustProxy)) := by
  have htime : ∀ {v : Visit} {a : Ask}, v.ask? trustProxy = some a → a.time = v.around.now := by
    intro v a ha
    rw [Visit.ask?] at ha
    split at ha
    · cases ha
      rfl
    · cases ha
  constructor
  · refine h.ordered.filterMap _ fun u v huv a ha b hb _ => ?_
    rw [htime ha, htime hb]
    exact huv
  · intro a ha
    obtain ⟨v, hv, hva⟩ := List.mem_filterMap.1 ha
    rw [htime hva]
    exact h.inRange v hv

/-- **The limit is kept**, whatever requests come, and whatever they meet.

A limited request asks the bucket of its client once; it is refused if the bucket says no and otherwise passed
on to its handler. Any other request finds and leaves the buckets as they are, is answered in the same way
whatever they hold, and is not refused. So in each of its windows, which begin with the client's first limited
request, a client gets the first of its limited requests through, as many as the settings say. -/
theorem limit_is_kept {s : Settings} {desk : Desk} {taken : Bool} {site : Site}
    (hsite : Site.ofSettings? s desk taken = .ok site) (before : List Visit) (v : Visit) :
    let now := site.afterAll before
    let client := clientOf s.http.trustProxy v.request
    let decision := now.limiter.allow client v.around.now
    (v.IsLimited → (now.serve v).site.limiter = decision.2 ∧
      (now.Refuses v ↔ decision.1 = false) ∧ (now.PassesOn v ↔ decision.1 = true)) ∧
    (¬ v.IsLimited → (now.serve v).site.limiter = now.limiter ∧ (now.serve v).response.status ≠ 429 ∧
      ∀ l, (now.withLimiter l).serve v = (now.serve v).withLimiter l) ∧
    (v.IsLimited → OnTime (s.rateLimit.intervalSecs * 1000) (before ++ [v]) →
      let times := timesOf client (before.filterMap (Visit.ask? s.http.trustProxy))
      let first := times.headD v.around.now
      ∃ n, InWindow first (s.rateLimit.intervalSecs * 1000) n v.around.now ∧
        (now.PassesOn v ↔ countIn first (s.rateLimit.intervalSecs * 1000) n times < s.rateLimit.max)) := by
  intro now client decision
  obtain ⟨hrule, htrust⟩ := of_ofSettings? hsite
  have hproxy : now.rules.trustProxy = s.http.trustProxy := by
    rw [← htrust]
    exact congrArg SiteRules.trustProxy (rules_afterAll site before)
  refine ⟨fun h => ⟨?_, ?_, ?_⟩, fun h => ⟨?_, (serve_of_exempt h now.limiter).2, fun l => (serve_of_exempt h l).1⟩,
    fun h hclock => ?_⟩
  · rw [limiter_serve, if_pos h, hproxy]
  · rw [refuses_iff h, hproxy]
  · rw [passesOn_iff h, hproxy]
  · rw [limiter_serve, if_neg h]
  · intro times first
    obtain ⟨hl, hsecs, -, hinterval⟩ := Limiter.of_ofRule? hrule
    have hnew : site.limiter.buckets = [] := by rw [hl]
    have hlimit : site.limiter.rule.limit = s.rateLimit.max := by rw [hl]
    have hpositive : 0 < site.limiter.rule.interval := by
      rw [hinterval]
      exact Int.mul_pos hsecs (by decide)
    -- the limiter was asked for the limited requests before, and is asked for this one
    have hafter : now.limiter = site.limiter.after (before.filterMap (Visit.ask? s.http.trustProxy)) := by
      rw [← htrust]
      exact limiter_afterAll site before
    have hasks : (before ++ [v]).filterMap (Visit.ask? s.http.trustProxy) =
        before.filterMap (Visit.ask? s.http.trustProxy) ++ [⟨client, v.around.now⟩] := by
      rw [List.filterMap_append, List.filterMap_cons_some (by rw [Visit.ask?, if_pos h]), List.filterMap_nil]
    obtain ⟨hordered, hrange⟩ := hclock.asks s.http.trustProxy
    rw [hasks] at hordered hrange
    obtain ⟨hpos, hlast⟩ := hrange _ (List.mem_append_right _ (List.mem_singleton_self _))
    rw [← hinterval] at hrange hlast ⊢
    have hremembers := Limiter.remembers_after hnew hpositive _ (List.pairwise_append.1 hordered).1
      (fun x hx => hrange x (List.mem_append_left _ hx)) client
    rw [passesOn_iff h, hproxy, ← hlimit]
    rw [← hafter] at hremembers
    have hsame : now.limiter.rule = site.limiter.rule := by
      rw [hafter, Limiter.rule_after]
    rw [← hsame] at hpositive hlast ⊢
    obtain ⟨n, hin, hallowed, -⟩ :=
      hremembers.allow (a := ⟨client, v.around.now⟩) hpositive hpos hlast (Limiter.past_of_ordered hordered)
    exact ⟨n, hin, hallowed⟩

/-! ## A busy client

Two requests in a minute are allowed. One client asks for the history, then for a path that is not there, and
then for the history again; another client and a probe come in between, and the desk breaks down. -/

/-- A request for a path at some time, to a desk that breaks down. -/
def visit (path peer : String) (now : Millis) : Visit where
  world := { brings := fun q => .ok (q.phrase "") }
  around := ⟨"id", "trace", "2026-01-01T00:00:00+00:00", "1ms", now⟩
  desk := .fixed (.broke .untold) (.broke .untold)
  request := { path := path, peer := some peer }

/-- The settings. -/
def busySettings : Settings := { (default : Settings) with rateLimit := ⟨2, 60⟩ }

/-- The requests before the last one. -/
def busyVisits : List Visit :=
  [visit "/v1/translation/history" "10.0.0.1" 1000, visit "/healthz" "10.0.0.1" 1010,
    visit "/no-such-path" "10.0.0.1" 1020, visit "/v1/translation/history" "10.0.0.2" 1030]

/-- On the busy site the third request of the one client is refused, and the probe of the metrics is not. -/
theorem busy_limit_is_kept :
    ∃ site, Site.ofSettings? busySettings (visit "" "" 0).desk false = .ok site ∧
      OnTime 60000 (busyVisits ++ [visit "/v1/translation/history" "10.0.0.1" 1040]) ∧
      (site.afterAll busyVisits).Refuses (visit "/v1/translation/history" "10.0.0.1" 1040) ∧
      ((site.afterAll busyVisits).serve (visit "/metrics" "10.0.0.1" 1040)).response.status ≠ 429 := by
  obtain ⟨site, hsite⟩ : ∃ site, Site.ofSettings? busySettings (visit "" "" 0).desk false = .ok site :=
    ⟨_, rfl⟩
  have htime : OnTime 60000 (busyVisits ++ [visit "/v1/translation/history" "10.0.0.1" 1040]) := by
    refine ⟨by decide, ?_⟩
    rw [RateLimit.lastMillis_eq]
    decide
  obtain ⟨hlimited, -, hwindow⟩ :=
    limit_is_kept hsite busyVisits (visit "/v1/translation/history" "10.0.0.1" 1040)
  obtain ⟨-, hexempt, -⟩ := limit_is_kept hsite busyVisits (visit "/metrics" "10.0.0.1" 1040)
  obtain ⟨-, hrefuses, hpasses⟩ := hlimited (by decide)
  obtain ⟨n, hin, hiff⟩ := hwindow (by decide) htime
  -- two requests of the client were limited before, and they fall into the same window as this one
  have hzero : n = 0 := by
    have hbegun : (1000 : Int) + n * 60000 ≤ 1040 := hin.1
    omega
  have hcount : ¬ countIn 1000 60000 n [1000, 1020] < 2 := by
    rw [hzero]
    decide
  refine ⟨site, hsite, htime, hrefuses.2 ?_, (hexempt (by decide)).2.1⟩
  rw [← Bool.not_eq_true]
  exact fun hyes => hcount (hiff.1 (hpasses.2 hyes))

end Site

end Phrasebook.Http
