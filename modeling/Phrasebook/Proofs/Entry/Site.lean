import Phrasebook.Http.Site
/-!
# Through the layers of the site

What the handler of a route makes of a request comes through the layers around it: they put headers on the
response, but its status, its body, the calls that were made and the desk are the handler's. This is so for
every request that is admitted, is no preflight and asks for more than the head (`respond_of_handled`).
-/

set_option autoImplicit false

namespace Phrasebook.Http

/-! ## Headers that are put on a request -/

namespace Headers

/-- A default is found where no other value was. -/
theorem get?_setDefault (h : Headers) (name other : String) (value : Bytes) :
    (h.setDefault other value).get? name = (h.get? name).or (if name = other then some value else none) := by
  unfold setDefault has
  by_cases hthere : (h.get? other).isSome = true
  · rw [if_pos hthere]
    by_cases hname : name = other
    · rw [hname, Option.or_of_isSome hthere]
    · rw [if_neg hname, Option.or_none]
  · rw [if_neg hthere, get?, List.lookup_append, List.lookup_cons, List.lookup_nil, get?]
    by_cases hname : name = other
    · simp [hname]
    · simp [hname, beq_false_of_ne hname]

/-- A default for one header makes no difference to another. -/
theorem get?_setDefault_of_ne (h : Headers) {name other : String} (value : Bytes) (hne : name ≠ other) :
    (h.setDefault other value).get? name = h.get? name := by
  rw [get?_setDefault, if_neg hne, Option.or_none]

/-- Nor does it to another's text. -/
theorem text?_setDefault_of_ne (h : Headers) {name other : String} (value : Bytes) (hne : name ≠ other) :
    (h.setDefault other value).text? name = h.text? name := by
  rw [text?, get?_setDefault_of_ne h value hne, text?]

end Headers

variable (w : World) (x : Surroundings) (site : Site) (r : Request)

/-- The identifier that a request gets does not change to whom it is counted. -/
theorem clientOf_identified (trustProxy : Bool) : clientOf trustProxy (identified x r) = clientOf trustProxy r := by
  have haddress : ∀ name, name ≠ requestIdHeader →
      proxyAddress? (identified x r).headers name = proxyAddress? r.headers name := by
    intro name hne
    rw [proxyAddress?, identified, Headers.text?_setDefault_of_ne _ _ hne, proxyAddress?]
  rw [clientOf, clientOf, haddress "x-real-ip" (by decide), haddress "x-forwarded-for" (by decide)]
  rfl

/-- An identifier leaves the type of a body as it is. -/
theorem contentType_identified :
    (identified x r).headers.text? "content-type" = r.headers.text? "content-type" :=
  Headers.text?_setDefault_of_ne _ _ (by decide)

/-! ## What a handler answers -/

/-- What a handler answers to the request with this identifier, also when it breaks down: something that was asked
for, or nothing but a status, or a failure. -/
inductive Handles (id timestamp : String) : Response → Prop where
  | found (type body : Bytes) : Handles id timestamp ⟨200, [("content-type", type)], body⟩
  | bare {status : Nat} (h : status ∈ [200, 404, 405]) : Handles id timestamp ⟨status, [], []⟩
  | failed (e : ServiceError) : Handles id timestamp (failureResponse id timestamp e)

/-- What comes of a call is handled: it tells nobody to be refused, and names the identifier it was given. -/
theorem handles_callResponse {α : Type} (id : String) (encode : α → Bytes) (s : Served α) :
    Handles id x.timestamp (guardPanic x id r (callResponse id x.timestamp encode s)).1 := by
  unfold callResponse
  rcases s.outcome with (e | v) | p
  · exact .failed e
  · exact .found _ _
  · exact .failed _

/-- **Every answer of a handler** is of one of these kinds. -/
theorem handles_handle (id : String) :
    Handles id x.timestamp (guardPanic x id r (handle w x site id r)).1 := by
  unfold handle
  split
  · exact .bare (by decide)
  · rename_i route _
    split
    · cases route with
      | healthz => exact .bare (by decide)
      | metrics => exact .found _ _
      | history => exact handles_callResponse x r id _ _
      | translate =>
        simp only [handleRoute]
        split
        · exact handles_callResponse x r id _ _
        · exact .failed _
    · exact .bare (by decide)

/-! ## Admission -/

/-- Whether the limiter lets a request pass. -/
def Site.admits : Bool :=
  !isLimited r.path || (site.limiter.allow (clientOf site.rules.trustProxy r) x.now).1

/-- The identifier of a request in what is said about it. -/
def requestId : String := ((identified x r).headers.text? requestIdHeader).getD x.freshId

/-- An admitted request is handled, and what comes of it is kept. -/
theorem account_of_admitted (hadmitted : site.admits x r = true) :
    let h := handle w x site ((r.headers.text? requestIdHeader).getD x.freshId) r
    let e := account w x site r
    e.response = (guardPanic x ((r.headers.text? requestIdHeader).getD x.freshId) r h).1 ∧
      e.calls = h.calls ∧ e.site.desk = h.desk := by
  unfold Site.admits at hadmitted
  by_cases hlimited : isLimited r.path = true
  · -- the bucket of the client is asked, and it says yes
    rw [hlimited, Bool.not_true, Bool.false_or] at hadmitted
    simp only [account, hlimited, if_true, hadmitted]
    exact ⟨rfl, rfl, rfl⟩
  · simp only [account, hlimited, Bool.false_eq_true, if_false, if_true, and_self]

/-! ## Layers -/

/-- Nothing but the headers of the response is changed. -/
structure SameButHeaders (e e' : Exchange) : Prop where
  status : e.response.status = e'.response.status
  body : e.response.body = e'.response.body
  calls : e.calls = e'.calls
  desk : e.site.desk = e'.site.desk

/-- Exchanges that differ only in headers from one differ only in headers. -/
theorem SameButHeaders.trans {e₁ e₂ e₃ : Exchange} (h₁ : SameButHeaders e₁ e₂) (h₂ : SameButHeaders e₂ e₃) :
    SameButHeaders e₁ e₃ :=
  ⟨h₁.status.trans h₂.status, h₁.body.trans h₂.body, h₁.calls.trans h₂.calls, h₁.desk.trans h₂.desk⟩

/-- The trace changes nothing but headers. -/
theorem traceLayer_sameButHeaders (rules : SiteRules) (e : Exchange) :
    SameButHeaders (traceLayer x rules r e) e := by
  unfold traceLayer
  split <;> exact ⟨rfl, rfl, rfl, rfl⟩

/-- The layer for other origins changes nothing but headers, unless it answers by itself. -/
theorem corsLayer_sameButHeaders (hmethod : r.method ≠ "OPTIONS") :
    SameButHeaders (corsLayer w x site r) (account w x site (identified x r)) := by
  have htrace := traceLayer_sameButHeaders x (identified x r) site.rules (account w x site (identified x r))
  simp only [corsLayer, beq_iff_eq, hmethod, if_false]
  exact ⟨htrace.status, htrace.body, htrace.calls, htrace.desk⟩

/-- The outermost layers change nothing but headers, unless the body is left out. -/
theorem respond_sameButHeaders (hhead : r.method ≠ "HEAD") :
    SameButHeaders (site.respond w x r) (corsLayer w x site r) := by
  unfold Site.respond
  split
  · refine ⟨rfl, ?_, rfl, rfl⟩
    simp only [finishRoute, beq_iff_eq, hhead, if_false]
    rfl
  · exact ⟨rfl, rfl, rfl, rfl⟩

/-- **From the handler to the client.** -/
theorem respond_of_handled (hmethod : r.method ≠ "OPTIONS") (hhead : r.method ≠ "HEAD")
    (hadmitted : site.admits x r = true) {response : Response}
    (hresponse : (handle w x site (requestId x r) (identified x r)).response = .ok response) :
    let h := handle w x site (requestId x r) (identified x r)
    let e := site.respond w x r
    e.response.status = response.status ∧ e.response.body = response.body ∧
      e.calls = h.calls ∧ e.site.desk = h.desk := by
  intro h e
  have hadmitted' : site.admits x (identified x r) = true := by
    rw [Site.admits, clientOf_identified]
    exact hadmitted
  obtain ⟨haccount, hcalls, hdesk⟩ := account_of_admitted w x site (identified x r) hadmitted'
  have hguard : (account w x site (identified x r)).response = response := by
    rw [haccount, guardPanic, ← requestId, hresponse]
  have hsame := (respond_sameButHeaders w x site r hhead).trans (corsLayer_sameButHeaders w x site r hmethod)
  exact ⟨by rw [hsame.status, hguard], by rw [hsame.body, hguard], hsame.calls.trans hcalls,
    hsame.desk.trans hdesk⟩

end Phrasebook.Http
