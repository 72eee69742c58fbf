import Phrasebook.Rpc
import Phrasebook.Grpc.Service
import Phrasebook.Proofs.Entry.Site
/-!
# The entry points agree

A client may ask over HTTP, through a broker or over gRPC. The three read requests, class failures and write
answers each in their own way, and still it makes no difference which of them is asked: behind all three
lies the same call at the desk, with the same uses of facilities and the same desk after it, and they tell
its end in the same words. `FailureClass` is the dictionary between their classes of failures; the lead
result is `entry_points_agree`.

A breakdown of the desk is left out here. Only over HTTP does a client hear of one.
-/

set_option autoImplicit false

namespace Phrasebook

/-! ## Desks that do not break down -/

/-- In this world the desk gives an answer or a failure to every call. -/
def Desk.Steady (w : World) : Desk → Prop
  | .book _ => ∀ f, w.panics f = none
  | .fixed h p => (∃ a, h = .answer a) ∧ ∃ a, p = .answer a

/-- Where no facility breaks down no call does. -/
theorem Book.Stage.outcome_of_steady {α : Type} {w : World} (h : ∀ f, w.panics f = none)
    (answer? : Book.Stage → Option (Except ServiceError α)) (s : Book.Stage) :
    ∃ a, s.outcome w answer? = .answer a := by
  have hnone : s.breakdown? w = none := by
    unfold breakdown?
    cases s.justUsed with
    | none => rfl
    | some f => exact h f
  refine ⟨(answer? s).getD (.error .notFound), ?_⟩
  rw [outcome, hnone]

namespace Desk.Steady

variable {w : World} {d : Desk}

/-- A recall at a steady desk is answered. -/
theorem recall_answers (h : d.Steady w) : ∃ a, (d.recall w).outcome = .answer a := by
  cases d with
  | book b => exact Book.Stage.outcome_of_steady h Book.Stage.recalled? _
  | fixed o p => exact h.1

/-- So is a render. -/
theorem render_answers (h : d.Steady w) (q : Query) : ∃ a, (d.render w q).outcome = .answer a := by
  cases d with
  | book b => exact Book.Stage.outcome_of_steady h Book.Stage.rendered? _
  | fixed o p => exact h.2

end Desk.Steady

/-! ## The dictionary -/

/-- A class of failures as the three entry points have it. -/
structure FailureClass where
  /-- The status of a response over HTTP. -/
  http : Nat
  /-- The code in a response or a reply. -/
  code : String
  /-- The status of a reply through a broker. -/
  reply : Rpc.Status
  /-- The code of a call over gRPC. -/
  grpc : Grpc.Code

/-- The classes. -/
def failureClasses : List FailureClass :=
  [⟨400, "VALIDATION_ERROR", .badRequest, .invalidArgument⟩,
    ⟨404, "NOT_FOUND", .error, .notFound⟩,
    ⟨502, "EXTERNAL_SERVICE_ERROR", .error, .unavailable⟩,
    ⟨500, "INTERNAL_ERROR", .error, .internal⟩]

/-- **The dictionary is exact**: the status over HTTP tells the classes apart, and so does the code over gRPC;
the status of a reply tells the fault of the client from all others. -/
theorem failureClasses_exact : ∀ c ∈ failureClasses,
    (c.http = 400 ↔ c.reply = .badRequest) ∧ (c.http ∈ [404, 500, 502] ↔ c.reply = .error) ∧
      ∀ c' ∈ failureClasses, (c.http = c'.http ↔ c.grpc = c'.grpc) := by
  decide

/-- **The dictionary is complete**: it has the class of every failure. -/
theorem exists_failureClass (e : ServiceError) :
    ∃ c ∈ failureClasses, e.httpStatus = c.http ∧ e.code = c.code ∧
      Rpc.failureReply e = Rpc.errorReply c.reply c.code e.publicMessage ∧
      Grpc.Status.ofServiceError e = ⟨c.grpc, e.publicMessage⟩ := by
  cases e with
  | validation message => exact ⟨_, List.mem_cons_self, rfl, rfl, rfl, rfl⟩
  | notFound => exact ⟨_, List.mem_cons_of_mem _ List.mem_cons_self, rfl, rfl, rfl, rfl⟩
  | external cause =>
    exact ⟨_, List.mem_cons_of_mem _ (List.mem_cons_of_mem _ List.mem_cons_self), rfl, rfl, rfl, rfl⟩
  | internal cause =>
    refine ⟨⟨500, "INTERNAL_ERROR", .error, .internal⟩, ?_, rfl, rfl, rfl, rfl⟩
    simp only [failureClasses, List.mem_cons, true_or, or_true]

/-! ## One call, three answers -/

section Answers

variable {α β : Type} (encode : α → Bytes) (fields : α → β)

/-- A response over HTTP, a reply through a broker and a result over gRPC tell the same: they have the same
value, the first two in the same bytes; or they have a failure of the same class, and give the same code and
message. -/
inductive TellSame : Http.Response → Except Panic Rpc.Reply → Except Panic (Except Grpc.Status β) → Prop where
  | success {response : Http.Response} (v : α) (hstatus : response.status = 200)
      (hbody : response.body = encode v) :
      TellSame response (.ok ⟨.success, encode v⟩) (.ok (.ok (fields v)))
  | failure {response : Http.Response} {c : FailureClass} (hclass : c ∈ failureClasses)
      (requestId timestamp message : String) (hstatus : response.status = c.http)
      (hbody : response.body = Http.errorBody requestId c.code message timestamp) :
      TellSame response (.ok (Rpc.errorReply c.reply c.code message)) (.ok (.error ⟨c.grpc, message⟩))

/-- A response, a reply and a result fail in the same class or not at all. Which class it is can be read off
the status over HTTP and off the code over gRPC; a reply only tells whose fault it was. -/
structure SameClass (response : Http.Response) (reply : Except Panic Rpc.Reply)
    (result : Except Panic (Except Grpc.Status β)) : Prop where
  badRequest : response.status = 400 ↔ ∃ body, reply = .ok ⟨.badRequest, body⟩
  error : response.status ∈ [404, 500, 502] ↔ ∃ body, reply = .ok ⟨.error, body⟩
  code : ∀ c ∈ failureClasses,
    (response.status = c.http ↔ ∃ message, result = .ok (.error ⟨c.grpc, message⟩))

/-- What tells the same fails in the same class. -/
theorem TellSame.sameClass {response : Http.Response} {reply : Except Panic Rpc.Reply}
    {result : Except Panic (Except Grpc.Status β)} (h : TellSame encode fields response reply result) :
    SameClass response reply result := by
  cases h with
  | success v hstatus hbody =>
    -- neither side of any equivalence holds
    have hother : ∀ c ∈ failureClasses, (200 : Nat) ≠ c.http := by decide
    refine ⟨⟨?_, ?_⟩, ⟨?_, ?_⟩, fun c hc => ⟨?_, ?_⟩⟩
    · rw [hstatus]
      exact fun h => absurd h (by decide)
    · rintro ⟨body, ⟨⟩⟩
    · rw [hstatus]
      exact fun h => absurd h (by decide)
    · rintro ⟨body, ⟨⟩⟩
    · rw [hstatus]
      exact fun h => absurd h (hother c hc)
    · rintro ⟨message, ⟨⟩⟩
  | @failure c hclass requestId timestamp message hstatus hbody =>
    obtain ⟨hbad, herror, hcode⟩ := failureClasses_exact c hclass
    have hstatuses : ∀ status, (∃ body, (Except.ok (Rpc.errorReply c.reply c.code message) :
        Except Panic Rpc.Reply) = .ok ⟨status, body⟩) ↔ c.reply = status := by
      intro status
      constructor
      · rintro ⟨body, h⟩
        exact congrArg Rpc.Reply.status (Except.ok.inj h)
      · rintro rfl
        exact ⟨_, rfl⟩
    refine ⟨?_, ?_, fun c' hc' => ?_⟩
    · rw [hstatus, hstatuses, hbad]
    · rw [hstatus, hstatuses, herror]
    · rw [hstatus, hcode c' hc']
      constructor
      · intro h
        exact ⟨message, by rw [h]⟩
      · rintro ⟨m, h⟩
        exact congrArg Grpc.Status.code (Except.error.inj (Except.ok.inj h))

/-- Three entry points pass on the same call at the desk. -/
structure PassOn (s : Served α) (http : Http.Exchange) (rpc : Rpc.Handled) (grpc : Grpc.Answered β) :
    Prop where
  told : TellSame encode fields http.response rpc.reply grpc.result
  classes : SameClass http.response rpc.reply grpc.result
  calls : http.calls = facilityUses s.events ∧ rpc.calls = facilityUses s.events ∧
    grpc.calls = facilityUses s.events
  desk : http.site.desk = s.desk ∧ rpc.desk = s.desk ∧ grpc.desk = s.desk

variable {s : Served α}

/-- Over HTTP, the uses of facilities and the desk afterwards are those of the call. -/
theorem callResponse_calls_desk (requestId timestamp : String) :
    (Http.callResponse requestId timestamp encode s).calls = facilityUses s.events ∧
      (Http.callResponse requestId timestamp encode s).desk = s.desk := by
  unfold Http.callResponse
  split <;> exact ⟨rfl, rfl⟩

/-- So they are for a message. -/
theorem handled_calls_desk (handler : String) :
    (Rpc.handled handler encode s).calls = facilityUses s.events ∧
      (Rpc.handled handler encode s).desk = s.desk := by
  unfold Rpc.handled
  split <;> exact ⟨rfl, rfl⟩

/-- So they are over gRPC. -/
theorem answered_calls_desk : (Grpc.answered s).calls = facilityUses s.events ∧ (Grpc.answered s).desk = s.desk := by
  unfold Grpc.answered
  split <;> exact ⟨rfl, rfl⟩

/-- **The end of a call is told in the same words.** Only the status and the body of the response matter, so
that layers which add headers may lie before the client. -/
theorem tellSame_of_answer {a : Except ServiceError α} (ha : s.outcome = .answer a)
    (requestId timestamp handler : String) :
    ∃ response, (Http.callResponse requestId timestamp encode s).response = .ok response ∧
      ∀ seen : Http.Response, seen.status = response.status → seen.body = response.body →
        TellSame encode fields seen (Rpc.handled handler encode s).reply
          ((Grpc.answered s).map fields).result := by
  cases a with
  | ok v =>
    refine ⟨Http.jsonResponse 200 (encode v), ?_, ?_⟩
    · simp only [Http.callResponse, ha]
    · intro seen hstatus hbody
      simp only [Rpc.handled, Grpc.Answered.map, Grpc.answered, ha]
      exact .success v hstatus hbody
  | error e =>
    obtain ⟨c, hclass, hhttp, hcode, hreply, hgrpc⟩ := exists_failureClass e
    refine ⟨Http.failureResponse requestId timestamp e, ?_, ?_⟩
    · simp only [Http.callResponse, ha]
    · intro seen hstatus hbody
      simp only [Rpc.handled, Grpc.Answered.map, Grpc.answered, ha, hreply, hgrpc]
      refine .failure hclass requestId timestamp e.publicMessage ?_ ?_
      · rw [hstatus, Http.failureResponse, Http.jsonResponse, hhttp]
      · rw [hbody, Http.failureResponse, Http.jsonResponse, hcode]

/-- What a site answers when its handler answers a call. -/
theorem passOn_of_handled (w : World) (x : Http.Surroundings) (site : Http.Site) (r : Http.Request)
    (hmethod : r.method ≠ "OPTIONS") (hhead : r.method ≠ "HEAD") (hadmitted : site.admits x r = true)
    (hhandle : Http.handle w x site (Http.requestId x r) (Http.identified x r) =
      Http.callResponse (Http.requestId x r) x.timestamp encode s)
    {a : Except ServiceError α} (ha : s.outcome = .answer a) (handler : String) :
    PassOn encode fields s (site.respond w x r) (Rpc.handled handler encode s)
      ((Grpc.answered s).map fields) := by
  -- the words of the handler, and how they come through the layers
  obtain ⟨response, hresponse, htold⟩ :=
    tellSame_of_answer encode fields ha (Http.requestId x r) x.timestamp handler
  obtain ⟨hstatus, hbody, hcalls, hdesk⟩ :=
    Http.respond_of_handled w x site r hmethod hhead hadmitted (by rw [hhandle, hresponse])
  have hhttp := callResponse_calls_desk encode (Http.requestId x r) x.timestamp (s := s)
  have hrpc := handled_calls_desk encode handler (s := s)
  have hgrpc := answered_calls_desk (s := s)
  rw [hhandle] at hcalls hdesk
  have hsame := htold _ hstatus hbody
  exact ⟨hsame, hsame.sameClass, ⟨hcalls.trans hhttp.1, hrpc.1, hgrpc.1⟩,
    ⟨hdesk.trans hhttp.2, hrpc.2, hgrpc.2⟩⟩

end Answers

/-! ## Requests that say the same -/

namespace Http.Request

/-- A request for a rendering: its body counts as JSON and is not too long. -/
structure AsksTranslate (r : Request) : Prop where
  method : r.method = "POST"
  path : r.path = Route.translate.path
  json : (r.headers.text? "content-type").map MediaType.isJson = some true
  fits : r.body.length ≤ bodyLimit

/-- A request for the newest phrases. -/
structure AsksHistory (r : Request) : Prop where
  method : r.method = "GET"
  path : r.path = Route.history.path

end Http.Request

namespace Http

variable (w : World) (x : Surroundings) (site : Site) {r : Request}

/-- A request for a route, with one of its methods, is handled by the route. -/
theorem handle_of_route {route : Route} (hpath : Route.ofPath? site.rules.metricsOn r.path = some route)
    (hmethod : route.methods.contains r.method = true) (id : String) :
    handle w x site id r = handleRoute w x site id r route := by
  simp only [handle, hpath, hmethod, if_true]

/-- A request for a rendering is handled by its route, whatever identifier it has got. -/
theorem handle_of_asksTranslate (hasks : r.AsksTranslate) (id : String) :
    handle w x site id (identified x r) = handleRoute w x site id (identified x r) .translate := by
  refine handle_of_route w x site ?_ ?_ id
  · rw [show (identified x r).path = Route.translate.path from hasks.path]
    cases site.rules.metricsOn <;> decide
  · rw [show (identified x r).method = "POST" from hasks.method]
    decide

/-- So is a request for the newest phrases. -/
theorem handle_of_asksHistory (hasks : r.AsksHistory) (id : String) :
    handle w x site id (identified x r) = handleRoute w x site id (identified x r) .history := by
  refine handle_of_route w x site ?_ ?_ id
  · rw [show (identified x r).path = Route.history.path from hasks.path]
    cases site.rules.metricsOn <;> decide
  · rw [show (identified x r).method = "GET" from hasks.method]
    decide

/-- The site reads the query that the bytes of the body are, or none. -/
theorem readQuery_of_asksTranslate (hasks : r.AsksTranslate) :
    (∀ q, Query.ofBytes? r.body = .ok q → readQuery (identified x r) = .ok q) ∧
      ∀ f, Query.ofBytes? r.body = .error f → ∃ m, readQuery (identified x r) = .error m := by
  have hjson : (((identified x r).headers.text? "content-type").map MediaType.isJson).getD false = true := by
    rw [contentType_identified, hasks.json]
    rfl
  have hbody : (identified x r).body = r.body := rfl
  have hfits : ¬ r.body.length > bodyLimit := Nat.not_lt.2 hasks.fits
  constructor
  · intro q hq
    simp only [readQuery, hjson, Bool.not_true, Bool.false_eq_true, if_false, hbody, hfits, hq]
  · intro f hf
    simp only [readQuery, hjson, Bool.not_true, Bool.false_eq_true, if_false, hbody, hfits, hf]
    exact ⟨_, rfl⟩

end Http

/-! ## The entry points side by side -/

/-- Both entry points that take bytes refuse them. They may word it differently, but the class and the code
are the same, and the desk is not asked. -/
structure RefuseBytes (d : Desk) (http : Http.Exchange) (rpc : Rpc.Handled) : Prop where
  response : http.response.status = 400 ∧ ∃ requestId timestamp message,
    http.response.body = Http.errorBody requestId "VALIDATION_ERROR" message timestamp
  reply : ∃ message, rpc.reply = .ok (Rpc.errorReply .badRequest "VALIDATION_ERROR" message)
  calls : http.calls = [] ∧ rpc.calls = []
  desk : http.site.desk = d ∧ rpc.desk = d

/-- A message for a rendering is handled with the query in it, and refused if there is none. -/
theorem dispatch_translate (w : World) (d : Desk) (payload : Bytes) :
    Rpc.dispatch w d Rpc.translateHandler payload =
      match Query.ofBytes? payload with
      | .ok q => Rpc.handled Rpc.translateHandler Phrase.toBytes (d.render w q)
      | .error f => ⟨.ok (Rpc.errorReply .badRequest "VALIDATION_ERROR"
          ("invalid request body: " ++ f.message payload)), d, [], []⟩ := by
  have hhistory : (Rpc.translateHandler == Rpc.historyHandler) = false := by decide
  cases hq : Query.ofBytes? payload <;>
    simp only [Rpc.dispatch, hhistory, Bool.false_eq_true, if_false, beq_self_eq_true, if_true, hq]

/-- A message for the newest phrases is handled whatever is in it. -/
theorem dispatch_history (w : World) (d : Desk) (payload : Bytes) :
    Rpc.dispatch w d Rpc.historyHandler payload =
      Rpc.handled Rpc.historyHandler History.toBytes (d.recall w) := by
  simp only [Rpc.dispatch, beq_self_eq_true, if_true]

/-- An answer that is passed on as it is stays as it is. -/
theorem Grpc.Answered.map_self {α : Type} (a : Grpc.Answered α) : a.map (fun v => v) = a := by
  rw [map, show (fun v : α => v) = id from rfl, Except.map_id, Except.map_id]
  rfl

/-- **The entry points agree.** Let the desk not break down, and let a request over HTTP be admitted.
* If it asks for a rendering and its body is a query, then the response, the reply through a broker to the
  same bytes and the result over gRPC for the same query pass on the same call. If its body is no query,
  both entry points that take bytes refuse it in the same class.
* If it asks for the newest phrases, then all three pass on the same call, whatever the payload through the
  broker. -/
theorem entry_points_agree (w : World) (x : Http.Surroundings) (site : Http.Site) (r : Http.Request)
    (hsteady : site.desk.Steady w) (hadmitted : site.admits x r = true) :
    (r.AsksTranslate →
      match Query.ofBytes? r.body with
      | .ok q => PassOn Phrase.toBytes (fun p => p) (site.desk.render w q) (site.respond w x r)
          (Rpc.dispatch w site.desk Rpc.translateHandler r.body) (Grpc.translate w site.desk q)
      | .error _ => RefuseBytes site.desk (site.respond w x r)
          (Rpc.dispatch w site.desk Rpc.translateHandler r.body)) ∧
    (r.AsksHistory → ∀ payload,
      PassOn History.toBytes History.phrases (site.desk.recall w) (site.respond w x r)
        (Rpc.dispatch w site.desk Rpc.historyHandler payload) (Grpc.getHistory w site.desk)) := by
  constructor
  · intro hasks
    have hmethod : r.method ≠ "OPTIONS" := hasks.method ▸ by decide
    have hhead : r.method ≠ "HEAD" := hasks.method ▸ by decide
    have hhandle := Http.handle_of_asksTranslate w x site hasks (Http.requestId x r)
    obtain ⟨hok, herror⟩ := Http.readQuery_of_asksTranslate x hasks
    cases hq : Query.ofBytes? r.body with
    | ok q =>
      -- the bytes are a query to both readers, and the same one
      obtain ⟨a, ha⟩ := hsteady.render_answers q
      simp only [Http.handleRoute, hok q hq] at hhandle
      have hpass := passOn_of_handled Phrase.toBytes (fun p => p) w x site r hmethod hhead hadmitted hhandle ha
        Rpc.translateHandler
      rw [Grpc.Answered.map_self] at hpass
      rw [dispatch_translate, hq]
      exact hpass
    | error f =>
      -- to neither; what the site says of it (`m`) is its own wording
      obtain ⟨m, hm⟩ := herror f hq
      simp only [Http.handleRoute, hm] at hhandle
      obtain ⟨hstatus, hbody, hcalls, hdesk⟩ :=
        Http.respond_of_handled w x site r hmethod hhead hadmitted (by rw [hhandle])
      rw [hhandle] at hcalls hdesk
      simp only [Http.failureResponse, Http.jsonResponse, ServiceError.httpStatus, ServiceError.code,
        ServiceError.publicMessage] at hstatus hbody
      rw [dispatch_translate, hq]
      exact ⟨⟨hstatus, _, _, m, hbody⟩, ⟨_, rfl⟩, ⟨hcalls, rfl⟩, ⟨hdesk, rfl⟩⟩
  · intro hasks payload
    have hmethod : r.method ≠ "OPTIONS" := hasks.method ▸ by decide
    have hhead : r.method ≠ "HEAD" := hasks.method ▸ by decide
    have hhandle := Http.handle_of_asksHistory w x site hasks (Http.requestId x r)
    obtain ⟨a, ha⟩ := hsteady.recall_answers
    rw [dispatch_history]
    exact passOn_of_handled History.toBytes History.phrases w x site r hmethod hhead hadmitted hhandle ha
      Rpc.historyHandler

/-- A world in which the outside service refuses every query. -/
def unhelpful : World where
  fails := fun f => if f = .web then some ⟨"refused", []⟩ else none
  brings := fun q => .ok (q.phrase q.text)

/-- What surrounds a request at noon. -/
def noon : Http.Surroundings := ⟨"r1", "t1", "12:00", "1ms", 1000⟩

/-- A site with one phrase and a limit of one request. -/
def counter : Http.Site where
  rules := {}
  desk := .book { records := [⟨"en", "de", "good day", "guten Tag"⟩], hasCache := true }
  limiter := { rule := ⟨1, 60⟩ }

/-- A request whose body is a query, written as an array. -/
def question : Http.Request where
  method := "POST"
  path := "/v1/translation/do-translate"
  headers := [("content-type", Text.encode "application/json")]
  body := Text.encode "[\"en\",\"de\",\"hi\"]"

/-- At the counter, three entry points pass on the same failure of the outside service. -/
theorem counter_entry_points_agree :
    (counter.desk.Steady unhelpful ∧ counter.admits noon question = true ∧ question.AsksTranslate ∧
        Query.ofBytes? question.body = .ok ⟨"en", "de", "hi"⟩) ∧
      PassOn Phrase.toBytes (fun p => p) (counter.desk.render unhelpful ⟨"en", "de", "hi"⟩)
        (counter.respond unhelpful noon question)
        (Rpc.dispatch unhelpful counter.desk Rpc.translateHandler question.body)
        (Grpc.translate unhelpful counter.desk ⟨"en", "de", "hi"⟩) := by
  have hasks : question.AsksTranslate := ⟨rfl, rfl, rfl, by decide⟩
  have hquery : Query.ofBytes? question.body = .ok ⟨"en", "de", "hi"⟩ := rfl
  have hsteady : counter.desk.Steady unhelpful := fun _ => rfl
  have hadmitted : counter.admits noon question = true := rfl
  have hpass := (entry_points_agree unhelpful noon counter question hsteady hadmitted).1 hasks
  rw [hquery] at hpass
  exact ⟨⟨hsteady, hadmitted, hasks, hquery⟩, hpass⟩

end Phrasebook
