import Phrasebook.Session
import Phrasebook.Proofs.Entry.Causes
/-!
# Causes stay inside

Whatever goes wrong inside, a client hears that it went wrong and not why. The statement is about two
sessions of any acts: if they differ only in the causes of failures and in what breakdowns say, then every
response over HTTP, every reply through a broker and every answer over gRPC is the same in both
(`causes_stay_inside`). It covers answers that a failure has an effect on only later, through the book, the limiter or
the counts.

Each entry point has its lemma, `_bare` where its own wording of an ended call is looked at and `_alike` for
two of its answers that differ in causes only.
-/

set_option autoImplicit false

namespace Phrasebook

namespace ServiceError

/-- The code of a failure does not depend on its causes. -/
@[simp]
theorem code_bare (e : ServiceError) : e.bare.code = e.code := by
  cases e <;> rfl

/-- Nor does the message that is told. -/
@[simp]
theorem publicMessage_bare (e : ServiceError) : e.bare.publicMessage = e.publicMessage := by
  cases e <;> rfl

/-- Nor does the status over HTTP. -/
@[simp]
theorem httpStatus_bare (e : ServiceError) : e.bare.httpStatus = e.httpStatus := by
  cases e <;> rfl

end ServiceError

/-- A result without what a breakdown said. -/
def hush {α : Type} (r : Except Panic α) : Except Panic α := r.mapError fun _ => .untold

@[simp]
theorem hush_ok {α : Type} (v : α) : hush (.ok v) = .ok v := rfl

@[simp]
theorem hush_error {α : Type} (p : Panic) : hush (.error p : Except Panic α) = .error .untold := rfl

/-! ## Over HTTP -/

namespace Http

/-- What a handler makes of a request, without causes. What was seen and logged is left out. -/
def Handled.bare (h : Handled) : Handled := ⟨hush h.response, h.desk.bare, [], []⟩

/-- A site without causes. -/
def Site.bare (s : Site) : Site := { s with desk := s.desk.bare }

/-- An exchange without causes. -/
def Exchange.bare (e : Exchange) : Exchange := ⟨e.response, e.site.bare, [], []⟩

/-- A call's response over HTTP does not depend on causes. -/
theorem callResponse_bare {α : Type} (requestId timestamp : String) (encode : α → Bytes) (s : Served α) :
    (callResponse requestId timestamp encode s.bare).bare = (callResponse requestId timestamp encode s).bare := by
  rcases h : s.outcome with (e | v) | p <;>
    simp only [callResponse, Served.bare, Outcome.bare_ok, Outcome.bare_error, Outcome.bare_broke, h,
      Handled.bare, hush_ok, hush_error, failureResponse, ServiceError.code_bare,
      ServiceError.publicMessage_bare, ServiceError.httpStatus_bare, Desk.bare_bare]

/-- The guard tells every breakdown in the same words. -/
theorem guardPanic_bare (x : Surroundings) (requestId : String) (r : Request) (h : Handled) :
    (guardPanic x requestId r h.bare).1 = (guardPanic x requestId r h).1 := by
  cases hresponse : h.response <;>
    simp only [guardPanic, Handled.bare, hush_ok, hush_error, hresponse, failureResponse, breakdown,
      ServiceError.code, ServiceError.publicMessage, ServiceError.httpStatus]

variable {w w' : World} {site site' : Site}

/-- What a handler makes of a request does not depend on causes. -/
theorem handle_alike (hw : w.bare = w'.bare) (hsite : site.bare = site'.bare) (x : Surroundings)
    (requestId : String) (r : Request) :
    (handle w x site requestId r).bare = (handle w' x site' requestId r).bare := by
  obtain ⟨hrules, hdesk, -, hmetrics⟩ := Site.mk.inj hsite
  have hcall : ∀ {α : Type} (encode : α → Bytes) {s s' : Served α}, s.bare = s'.bare →
      (callResponse requestId x.timestamp encode s).bare =
        (callResponse requestId x.timestamp encode s').bare := by
    intro α encode s s' hs
    rw [← callResponse_bare, hs, callResponse_bare]
  -- what is answered without a call leaves the desk as it is
  have hstill : ∀ (response : Response) (events : List Event),
      Handled.bare ⟨.ok response, site.desk, [], events⟩ = Handled.bare ⟨.ok response, site'.desk, [], events⟩ := by
    intro response events
    rw [Handled.bare, Handled.bare, hdesk]
  unfold handle
  rw [hrules]
  split
  · exact hstill _ _
  · rename_i route _
    split
    · cases route with
      | healthz => exact hstill _ _
      | metrics =>
        simp only [handleRoute, hmetrics]
        exact hstill _ _
      | history => exact hcall _ (Desk.recall_alike hw hdesk)
      | translate =>
        simp only [handleRoute]
        split
        · exact hcall _ (Desk.render_alike hw hdesk _)
        · exact hstill _ _
    · exact hstill _ _

/-- Nor does the account of the request: the limiter, the counts and the status do not. -/
theorem account_alike (hw : w.bare = w'.bare) (hsite : site.bare = site'.bare) (x : Surroundings)
    (r : Request) : (account w x site r).bare = (account w' x site' r).bare := by
  obtain ⟨rules, desk, limiter, metrics⟩ := site
  obtain ⟨rules', desk', limiter', metrics'⟩ := site'
  obtain ⟨rfl, hdesk, rfl, rfl⟩ := Site.mk.inj hsite
  -- the limiter is asked before the handler, which therefore sees another one
  have hhandle : ∀ (l : RateLimit.Limiter) (id : String),
      (handle w x ⟨rules, desk, l, metrics⟩ id r).bare = (handle w' x ⟨rules, desk', l, metrics⟩ id r).bare := by
    intro l id
    refine handle_alike hw ?_ x id r
    rw [Site.bare, Site.bare, hdesk]
  have hresponse : ∀ (l : RateLimit.Limiter) (id : String),
      (guardPanic x id r (handle w x ⟨rules, desk, l, metrics⟩ id r)).1 =
        (guardPanic x id r (handle w' x ⟨rules, desk', l, metrics⟩ id r)).1 := by
    intro l id
    rw [← guardPanic_bare, hhandle, guardPanic_bare]
  have hafter : ∀ (l : RateLimit.Limiter) (id : String),
      (handle w x ⟨rules, desk, l, metrics⟩ id r).desk.bare =
        (handle w' x ⟨rules, desk', l, metrics⟩ id r).desk.bare :=
    fun l id => congrArg Handled.desk (hhandle l id)
  simp only [account]
  generalize (if isLimited r.path = true then limiter.allow (clientOf rules.trustProxy r) x.now
    else (true, limiter)) = asked
  obtain ⟨allowed, l⟩ := asked
  cases allowed with
  | true => simp only [if_true, Exchange.bare, Site.bare, hresponse, hafter]
  | false =>
    have hbare : desk.bare = desk'.bare := hdesk
    simp only [Bool.false_eq_true, if_false, Exchange.bare, Site.bare, hbare]

/-- Nor does what the layer for other origins makes of it. -/
theorem corsLayer_alike (hw : w.bare = w'.bare) (hsite : site.bare = site'.bare) (x : Surroundings)
    (r : Request) : (corsLayer w x site r).bare = (corsLayer w' x site' r).bare := by
  have hrules : site.rules = site'.rules := (Site.mk.inj hsite).1
  obtain ⟨hresponse, hafter, -, -⟩ := Exchange.mk.inj (account_alike hw hsite x (identified x r))
  simp only [corsLayer, traceLayer, identifyLayer, hrules]
  split
  · rw [Exchange.bare, Exchange.bare, hsite]
  · split <;> simp only [Exchange.bare, hresponse, hafter]

/-- **Two responses whose sites and worlds differ in causes only.** -/
theorem respond_alike (hw : w.bare = w'.bare) (hsite : site.bare = site'.bare) (x : Surroundings)
    (r : Request) : (site.respond w x r).bare = (site'.respond w' x r).bare := by
  have hrules : site.rules = site'.rules := (Site.mk.inj hsite).1
  obtain ⟨hresponse, hafter, -, -⟩ := Exchange.mk.inj (corsLayer_alike hw hsite x r)
  simp only [Site.respond, Exchange.bare, hrules, hresponse, hafter]

end Http

/-! ## Through a broker -/

namespace Rpc

/-- A handled message without causes. -/
def Handled.bare (h : Handled) : Handled := ⟨hush h.reply, h.desk.bare, [], []⟩

/-- The reply to a failure does not depend on its causes. -/
theorem failureReply_bare (e : ServiceError) : failureReply e.bare = failureReply e := by
  cases e <;> rfl

/-- Nor does what a message comes to. -/
theorem handled_bare {α : Type} (handler : String) (encode : α → Bytes) (s : Served α) :
    (handled handler encode s.bare).bare = (handled handler encode s).bare := by
  rcases h : s.outcome with (e | v) | p <;>
    simp only [handled, Served.bare, Outcome.bare_ok, Outcome.bare_error, Outcome.bare_broke, h, Handled.bare,
      hush_ok, hush_error, failureReply_bare, Desk.bare_bare]

/-- **Two replies whose desks and worlds differ in causes only.** -/
theorem dispatch_alike {w w' : World} {d d' : Desk} (hw : w.bare = w'.bare) (hd : d.bare = d'.bare)
    (handler : String) (payload : Bytes) :
    (dispatch w d handler payload).bare = (dispatch w' d' handler payload).bare := by
  have hcall : ∀ {α : Type} (encode : α → Bytes) {s s' : Served α}, s.bare = s'.bare →
      (handled handler encode s).bare = (handled handler encode s').bare := by
    intro α encode s s' hs
    rw [← handled_bare, hs, handled_bare]
  unfold dispatch
  split
  · exact hcall _ (Desk.recall_alike hw hd)
  · split
    · split
      · exact hcall _ (Desk.render_alike hw hd _)
      · simp only [Handled.bare, hd]
    · simp only [Handled.bare, hd]

end Rpc

/-! ## Over gRPC -/

namespace Grpc

/-- An answer without causes. -/
def Answered.bare {α : Type} (a : Answered α) : Answered α := ⟨hush a.result, a.desk.bare, [], []⟩

/-- The status over gRPC does not depend on causes. -/
theorem Status.ofServiceError_bare (e : ServiceError) : ofServiceError e.bare = ofServiceError e := by
  cases e <;> rfl

/-- Nor does what a call over gRPC comes to. -/
theorem answered_bare {α : Type} (s : Served α) : (answered s.bare).bare = (answered s).bare := by
  rcases h : s.outcome with (e | v) | p <;>
    simp only [answered, Served.bare, Outcome.bare_ok, Outcome.bare_error, Outcome.bare_broke, h,
      Answered.bare, hush_ok, hush_error, Status.ofServiceError_bare, Desk.bare_bare]

/-- What is done with a result afterwards does not bring causes back. -/
theorem bare_of_result {α β : Type} (f : Except Status α → Except Status β) {a a' : Answered α}
    (h : a.bare = a'.bare) :
    Answered.bare ⟨a.result.map f, a.desk, a.calls, a.notices⟩ =
      Answered.bare ⟨a'.result.map f, a'.desk, a'.calls, a'.notices⟩ := by
  obtain ⟨hresult, hdesk, -, -⟩ := Answered.mk.inj h
  have hmap : ∀ r : Except Panic (Except Status α), hush (r.map f) = (hush r).map f := by
    intro r
    cases r <;> rfl
  simp only [Answered.bare, hmap, hresult, hdesk]

variable {w w' : World} {d d' : Desk}

/-- The newest phrases over gRPC do not depend on causes. -/
theorem getHistory_alike (hw : w.bare = w'.bare) (hd : d.bare = d'.bare) :
    (getHistory w d).bare = (getHistory w' d').bare := by
  refine bare_of_result _ ?_
  rw [← answered_bare, Desk.recall_alike hw hd, answered_bare]

/-- Nor does a rendering. -/
theorem translate_alike (hw : w.bare = w'.bare) (hd : d.bare = d'.bare) (q : Query) :
    (translate w d q).bare = (translate w' d' q).bare := by
  rw [translate, ← answered_bare, Desk.render_alike hw hd, answered_bare, translate]

/-- Nor does the response with its headers and frames. -/
theorem respond_alike (hw : w.bare = w'.bare) (hd : d.bare = d'.bare) (limits : Limits) (r : Request) :
    (respond w limits d r).bare = (respond w' limits d' r).bare := by
  -- what is refused before the desk is asked
  have hdirect : ∀ x : Response, Answered.bare ⟨.ok (.ok x), d, [], []⟩ = Answered.bare ⟨.ok (.ok x), d', [], []⟩ := by
    intro x
    rw [Answered.bare, Answered.bare, hd]
  unfold respond
  split
  · exact hdirect _
  · split
    · exact hdirect _
    · split
      · split
        · exact hdirect _
        · exact bare_of_result _ (getHistory_alike hw hd)
      · split
        · exact hdirect _
        · exact bare_of_result _ (translate_alike hw hd _)

/-- Nor does the response behind a guard. -/
theorem guarded_alike (hw : w.bare = w'.bare) (hd : d.bare = d'.bare) (refusal : Option String)
    (limits : Limits) (r : Request) :
    (guarded refusal w limits d r).bare = (guarded refusal w' limits d' r).bare := by
  unfold guarded
  split
  · rw [Answered.bare, Answered.bare, hd]
  · exact respond_alike hw hd limits r

/-- **Two calls of a client whose desks and worlds differ in causes only.** -/
theorem Channel.call_alike {α : Type} (c : Channel) (hw : w.bare = w'.bare) (hd : d.bare = d'.bare)
    (m : Method) (message : Bytes) (read : Bytes → Except Wire.Fault α) :
    (c.call w d m message read).bare = (c.call w' d' m message read).bare := by
  unfold call
  split
  · simp only [Answered.refused, Answered.bare, hd]
  · split
    · simp only [Answered.bare, hd]
    · exact bare_of_result _ (guarded_alike hw hd _ _ _)

end Grpc

/-! ## Sessions -/

namespace Session

/-- An answer without causes. What goes to a client stays as it is; only what a breakdown said, which goes to
no client, and the end of a call at the desk lose something. -/
def Answer.bare : Answer → Answer
  | .recalled o => .recalled o.bare
  | .rendered o => .rendered o.bare
  | .replied r => .replied (hush r)
  | .grpcRecalled r => .grpcRecalled (hush r)
  | .grpcRendered r => .grpcRendered (hush r)
  | .grpcResponded r => .grpcResponded (hush r)
  | .responded r => .responded r

variable {w w' : World} {site site' : Http.Site}

/-- **One act**: its answer and the site after it. -/
theorem react_alike (hw : w.bare = w'.bare) (hsite : site.bare = site'.bare) (act : Act) :
    (react w site act).answer.bare = (react w' site' act).answer.bare ∧
      (react w site act).site.bare = (react w' site' act).site.bare := by
  obtain ⟨hrules, hdesk, hlimiter, hmetrics⟩ := Http.Site.mk.inj hsite
  -- what the desk does is alike, and the rest of the site is not touched by these acts
  have hafter : ∀ {d d' : Desk}, d.bare = d'.bare →
      Http.Site.bare { site with desk := d } = Http.Site.bare { site' with desk := d' } := by
    intro d d' hd
    simp only [Http.Site.bare, hrules, hd, hlimiter, hmetrics]
  cases act with
  | «recall» =>
    have h := Served.mk.inj (Desk.recall_alike hw hdesk)
    exact ⟨congrArg Answer.recalled h.1, hafter h.2.1⟩
  | render q =>
    have h := Served.mk.inj (Desk.render_alike hw hdesk q)
    exact ⟨congrArg Answer.rendered h.1, hafter h.2.1⟩
  | rpc handler payload =>
    have h := Rpc.Handled.mk.inj (Rpc.dispatch_alike hw hdesk handler payload)
    exact ⟨congrArg Answer.replied h.1, hafter h.2.1⟩
  | grpcRecall via =>
    cases via with
    | none =>
      have h := Grpc.Answered.mk.inj (Grpc.getHistory_alike hw hdesk)
      exact ⟨congrArg Answer.grpcRecalled h.1, hafter h.2.1⟩
    | some c =>
      have h := Grpc.Answered.mk.inj (c.call_alike hw hdesk .getHistory Grpc.historyRequest Grpc.readHistory)
      exact ⟨congrArg Answer.grpcRecalled h.1, hafter h.2.1⟩
  | grpcRender via q =>
    cases via with
    | none =>
      have h := Grpc.Answered.mk.inj (Grpc.translate_alike hw hdesk q)
      exact ⟨congrArg Answer.grpcRendered h.1, hafter h.2.1⟩
    | some c =>
      have h := Grpc.Answered.mk.inj (c.call_alike hw hdesk .translate (Grpc.queryMessage q) Grpc.readRendered)
      exact ⟨congrArg Answer.grpcRendered h.1, hafter h.2.1⟩
  | grpcRequest refusal limits r =>
    have h := Grpc.Answered.mk.inj (Grpc.guarded_alike hw hdesk refusal limits r)
    exact ⟨congrArg Answer.grpcResponded h.1, hafter h.2.1⟩
  | http x r =>
    have h := Http.Exchange.mk.inj (Http.respond_alike hw hsite x r)
    exact ⟨congrArg Answer.responded h.1, h.2.1⟩

/-- **Causes stay inside.** Let two sessions take the same acts, at sites and in worlds that differ in causes
and in what breakdowns say, and in nothing else: in particular the same facilities fail at the same acts.
Then every response over HTTP, every reply through a broker and every answer over gRPC is the same in both.
The identifiers and times that are made for a request belong to the act. -/
theorem causes_stay_inside (hsite : site.bare = site'.bare) (steps steps' : List (World × Act))
    (hsteps : steps.map (fun p => (p.1.bare, p.2)) = steps'.map (fun p => (p.1.bare, p.2))) :
    (run site steps).map (·.answer.bare) = (run site' steps').map (·.answer.bare) := by
  induction steps generalizing site site' steps' with
  | nil =>
    have hnil : steps' = [] := List.map_eq_nil_iff.1 hsteps.symm
    rw [hnil]
    rfl
  | cons p rest ih =>
    obtain ⟨p', rest', rfl, hp, hrest⟩ := List.map_eq_cons_iff.1 hsteps.symm
    obtain ⟨w, act⟩ := p
    obtain ⟨w', act'⟩ := p'
    obtain ⟨hw, hact⟩ := Prod.mk.inj hp
    cases hact
    -- the next act finds sites that still differ in causes only
    obtain ⟨hanswer, hafter⟩ := react_alike hw.symm hsite act
    have hlater := ih hafter rest' hrest.symm
    simp only [run, List.map_cons, hanswer, hlater]

/-- A world in which everything fails for the same reason. -/
def gloom (why : String) : World where
  fails := fun _ => some ⟨why, []⟩
  brings := fun _ => .error ⟨why, []⟩

/-- A site whose desk breaks down or fails, for the same reason. -/
def brittle (why : String) : Http.Site where
  rules := { metricsOn := true }
  desk := .fixed (.broke (.text why)) (.answer (.error (.external ⟨why, []⟩)))
  limiter := { rule := ⟨2, 60⟩ }

/-- Acts that meet the breakdown, the failure and the counts of both. -/
def visits : List Act :=
  [.http ⟨"r1", "t1", "12:00", "1ms", 1000⟩ { path := Http.Route.history.path },
    .rpc Rpc.translateHandler (Query.toBytes ⟨"en", "de", "hi"⟩),
    .grpcRender (some {}) ⟨"en", "de", "hi"⟩,
    .http ⟨"r2", "t2", "12:01", "1ms", 1001⟩ { path := Http.Route.metrics.path }]

/-- Two brittle sites in gloomy worlds, alike but for the reasons, answer the same visits alike. -/
theorem brittle_causes_stay_inside :
    ((brittle "out of memory").bare = (brittle "no route to host").bare ∧
        (gloom "out of memory").bare = (gloom "no route to host").bare) ∧
      (run (brittle "out of memory") (visits.map (gloom "out of memory", ·))).map (·.answer.bare) =
        (run (brittle "no route to host") (visits.map (gloom "no route to host", ·))).map (·.answer.bare) := by
  have hsite : (brittle "out of memory").bare = (brittle "no route to host").bare := rfl
  have hworld : (gloom "out of memory").bare = (gloom "no route to host").bare := rfl
  refine ⟨⟨hsite, hworld⟩, causes_stay_inside hsite _ _ ?_⟩
  rw [List.map_map, List.map_map]
  refine List.map_congr_left ?_
  intro act _
  exact congrArg (·, act) hworld

end Session

end Phrasebook
