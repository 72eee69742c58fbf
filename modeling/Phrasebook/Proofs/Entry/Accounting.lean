import Phrasebook.Acts
import Phrasebook.Session
import Phrasebook.Proofs.Entry.Counts
import Phrasebook.Proofs.Entry.Forwarding
import Phrasebook.Proofs.Entry.Identity
/-!
# Every request is accounted for

The account stands inside the layers that put headers on a response, and outside the guard that turns a breakdown
into a failure. So whatever becomes of a request, the account sees the status that the client sees, and sees it
once: it logs one line and counts one sample (`notices_account`, `metrics_account`). A preflight never comes that
far. The security headers stand outside everything, and every response passes them (`values_secured`).

A session does more than answer requests, but nothing else in it logs such a line or counts anything
(`Session.Room.accounts_step`). So the lines and the samples of a session are those of its requests, one by one
(`Session.Room.accounts_log`).
-/

set_option autoImplicit false

namespace Phrasebook

/-- The lines that tell how a request was answered have a level of their own: whatever else is logged in a session
is a warning or an error. -/
def LogLine.isAccess (l : LogLine) : Bool := l.level == .info

namespace Http

open Metrics (numberOn)

/-! ## The account -/

/-- An event tells that a request has been answered. -/
def Event.isAnswer : Event → Bool
  | .answered .. => true
  | _ => false

/-- A line tells of an answer exactly if the event behind it does: it is the level that tells. -/
theorem isAccess_line (n : Notice) : n.line.isAccess = n.event.isAnswer := by
  obtain ⟨id, event⟩ := n
  cases event with
  | cache c => cases c <;> rfl
  | refused client method path => rfl
  | failed e =>
    simp only [Notice.line, LogLine.isAccess, Event.isAnswer]
    split <;> rfl
  | answered client method path status elapsed => rfl

section Account

variable (w : World) (x : Surroundings) (site : Site) (r : Request)

/-- What is logged about an answer to a request. -/
def answerOf (trustProxy : Bool) (status : Nat) : Event :=
  .answered (clientOf trustProxy r) r.method r.path status x.elapsed

/-- The line that is logged about it, spelled out: what `Notice.line` makes of `answerOf`. -/
def accessLine (trustProxy : Bool) (status : Nat) : LogLine :=
  ⟨.info, "request_id=" ++ named x r ++ ", ip=" ++ clientOf trustProxy r ++ " - " ++ r.method ++ " " ++ r.path ++
    " " ++ toString status ++ " " ++ x.elapsed⟩

/-- What is counted for it. -/
def sampleOf (status : Nat) : Sample := ⟨r.method, pathLabel r.path status, status⟩

/-- The labels of a request that both lines about it have, as they stand on the page. -/
def sharedLabels (status : Nat) : String :=
  "method=\"" ++ Metrics.labelValue r.method ++ "\",path=\"" ++
    Metrics.labelValue (if status = 404 then "unmatched" else r.path) ++ "\""

/-- The two lines of the page to which a request belongs are these. -/
theorem lines_sampleOf (status : Nat) : Metrics.lines (sampleOf r status) =
    ["http_request_duration_seconds_count\x7b" ++ sharedLabels r status ++ "\x7d",
      "http_requests_total\x7b" ++ sharedLabels r status ++ ",status=\"" ++ Metrics.labelValue (toString status) ++
        "\"\x7d"] := by
  have hpath : pathLabel r.path status = if status = 404 then "unmatched" else r.path := by
    simp only [pathLabel, beq_iff_eq]
    rfl
  have htwo : ∀ a b, ",".intercalate [a, b] = a ++ "," ++ b := fun _ _ => rfl
  have hthree : ∀ a b c, ",".intercalate [a, b, c] = a ++ "," ++ b ++ "," ++ c := fun _ _ _ => rfl
  -- the seams between the labels
  have hfirst : ∀ rest, "\"," ++ ("path=\"" ++ rest) = "\",path=\"" ++ rest := by
    intro rest
    rw [← String.append_assoc]
    rfl
  have hlast : ∀ rest, "\"," ++ ("status=\"" ++ rest) = "\",status=\"" ++ rest := by
    intro rest
    rw [← String.append_assoc]
    rfl
  simp [Metrics.lines, sampleOf, hpath, Metrics.line, Metrics.label, sharedLabels, htwo, hthree,
    String.append_assoc, hfirst, hlast]

/-- No handler says that a request has been answered, whether its call answers, fails or breaks down. -/
theorem isAnswer_callResponse {α : Type} (id : String) (encode : α → Bytes) (s : Served α) :
    ∀ event ∈ (guardPanic x id r (callResponse id x.timestamp encode s)).2, event.isAnswer = false := by
  have hcache : ∀ event ∈ (cacheNotices s.events).map Event.cache, event.isAnswer = false := by
    intro event hevent
    obtain ⟨c, -, rfl⟩ := List.mem_map.1 hevent
    rfl
  have hfailed : ∀ e, ∀ event ∈ (cacheNotices s.events).map Event.cache ++ [.failed e], event.isAnswer = false := by
    intro e event hevent
    rcases List.mem_append.1 hevent with h | h
    · exact hcache event h
    · rw [List.mem_singleton.1 h]
      rfl
  unfold callResponse
  rcases s.outcome with (e | v) | p
  · exact hfailed e
  · exact hcache
  · exact hfailed _

/-- No handler says that a request has been answered, and neither does the guard around it. -/
theorem isAnswer_handle (id : String) :
    ∀ event ∈ (guardPanic x id r (handle w x site id r)).2, event.isAnswer = false := by
  have hnone : ∀ event ∈ ([] : List Event), event.isAnswer = false := by simp
  unfold handle
  split
  · exact hnone
  · rename_i route _
    split
    · cases route with
      | healthz => exact hnone
      | metrics => exact hnone
      | history => exact isAnswer_callResponse x r id _ _
      | translate =>
        simp only [handleRoute]
        split
        · exact isAnswer_callResponse x r id _ _
        · simp [guardPanic, Event.isAnswer]
    · exact hnone

/-- What the account sees of a request: what its handler makes of it behind the guard, or a refusal. -/
theorem account_sees : ∃ events,
    (account w x site r).notices =
      (events ++ [answerOf x r site.rules.trustProxy (account w x site r).response.status]).map
        (⟨named x r, ·⟩) ∧
    ((∃ asked : Site, asked.rules = site.rules ∧
        guardPanic x (named x r) r (handle w x asked (named x r) r) = ((account w x site r).response, events)) ∨
      (account w x site r).response.status = 429 ∧
        events = [.refused (clientOf site.rules.trustProxy r) r.method r.path]) := by
  by_cases hlimited : isLimited r.path = true
  · -- the limiter is asked first, and the handler sees the site with what it has taken down
    let asked := site.withLimiter (site.limiter.allow (clientOf site.rules.trustProxy r) x.now).2
    by_cases hyes : (site.limiter.allow (clientOf site.rules.trustProxy r) x.now).1 = true
    · refine ⟨(guardPanic x (named x r) r (handle w x asked (named x r) r)).2, ?_, .inl ⟨asked, rfl, ?_⟩⟩ <;>
        simp only [account, hlimited, if_true, hyes] <;> rfl
    · refine ⟨_, ?_, .inr ⟨?_, rfl⟩⟩ <;>
        simp only [account, hlimited, if_true, hyes, Bool.false_eq_true, if_false] <;> rfl
  · refine ⟨(guardPanic x (named x r) r (handle w x site (named x r) r)).2, ?_, .inl ⟨site, rfl, ?_⟩⟩ <;>
      simp only [account, hlimited, Bool.false_eq_true, if_false, if_true] <;> rfl

/-- **The account says once how a request was answered.** -/
theorem log_account : ((account w x site r).notices.map Notice.line).filter LogLine.isAccess =
    [accessLine x r site.rules.trustProxy (account w x site r).response.status] := by
  obtain ⟨events, hnotices, hseen⟩ := account_sees w x site r
  have hsilent : ∀ event ∈ events, event.isAnswer = false := by
    rcases hseen with ⟨asked, -, hguard⟩ | ⟨-, rfl⟩
    · have hquiet := isAnswer_handle w x asked r (named x r)
      rwa [hguard] at hquiet
    · simp [Event.isAnswer]
  have hnone : (events.map fun event => (⟨named x r, event⟩ : Notice).line).filter LogLine.isAccess = [] := by
    rw [List.filter_eq_nil_iff]
    intro line hline
    obtain ⟨event, hevent, rfl⟩ := List.mem_map.1 hline
    rw [isAccess_line, hsilent event hevent]
    exact Bool.false_ne_true
  rw [hnotices, List.map_map, List.map_append, List.filter_append]
  simp only [Function.comp_def, hnone]
  rfl

/-- **What is counted is the answer**, if anything is. -/
theorem metrics_account : (account w x site r).site.metrics =
    if site.rules.metricsOn then site.metrics.record (sampleOf r (account w x site r).response.status)
    else site.metrics := by
  rfl

end Account

/-! ## Through the outer layers -/

section Layers

variable (w : World) (x : Surroundings) (site : Site) (r : Request)

/-- The identifier that a request gets does not show in the line, which names the request by it anyway. -/
theorem accessLine_identified (trustProxy : Bool) (status : Nat) :
    accessLine x (identified x r) trustProxy status = accessLine x r trustProxy status := by
  have hid : named x (identified x r) = named x r := requestId_eq_named x r
  rw [accessLine, hid, clientOf_identified]
  rfl

/-- The line that is logged tells the status of the response that is sent. -/
theorem log_respond (hmethod : r.method ≠ "OPTIONS") :
    ((site.respond w x r).notices.map Notice.line).filter LogLine.isAccess =
      [accessLine x r site.rules.trustProxy (site.respond w x r).response.status] := by
  obtain ⟨-, -, hstatus, -⟩ := respond_of_account w x site r hmethod
  rw [notices_respond w x site r hmethod, log_account, hstatus, accessLine_identified]

/-- So does the sample that is counted. -/
theorem metrics_respond (hmethod : r.method ≠ "OPTIONS") :
    (site.respond w x r).site.metrics =
      if site.rules.metricsOn then site.metrics.record (sampleOf r (site.respond w x r).response.status)
      else site.metrics := by
  obtain ⟨hsite, -, hstatus, -⟩ := respond_of_account w x site r hmethod
  rw [hsite, metrics_account, hstatus]
  rfl

/-- Nothing is said about a preflight. -/
theorem notices_preflight (hmethod : r.method = "OPTIONS") : (site.respond w x r).notices = [] := by
  simp only [Site.respond, corsLayer, hmethod, beq_self_eq_true, if_true]

/-- A preflight gets no identifier. -/
theorem values_preflight (hmethod : r.method = "OPTIONS") :
    (site.respond w x r).response.headers.values requestIdHeader = [] := by
  rw [values_outer w x site r (by decide)]
  simp only [corsLayer, hmethod, beq_self_eq_true, if_true]
  exact values_cors _ _ _

/-- **Every response carries the security headers**, each once and with its value, also one to a preflight. -/
theorem values_secured : ∀ e ∈ securityHeaders, (site.respond w x r).response.headers.values e.1 = [e.2] := by
  intro e he
  have hharden : ∀ response, (harden response).headers.values e.1 = [e.2] :=
    fun response => Headers.values_foldl_set response.headers securityHeaders (by decide) e he
  have hnames : ∀ e ∈ securityHeaders, "allow" ≠ e.1 ∧ "content-length" ≠ e.1 := by decide
  simp only [Site.respond]
  split
  · rw [values_finishRoute (hnames e he).1 (hnames e he).2, hharden]
  · exact hharden _

end Layers

end Http

/-! ## Sessions -/

namespace Session

open Http (Surroundings Request Response Site accessLine sampleOf sharedLabels named carried clientOf)
open Http.Metrics (numberOn)

/-- A move that was a request, and no preflight, with the status of the response. -/
def answered? : Move × Report → Option (Surroundings × Request × Nat)
  | (.act (.http x r), ⟨.answered (.responded response), _, _⟩) =>
    if r.method = "OPTIONS" then none else some (x, r, response.status)
  | _ => none

/-- The lines about such moves. -/
def accessLines (trustProxy : Bool) (log : List (Move × Report)) : List LogLine :=
  (log.filterMap answered?).map fun (x, r, status) => accessLine x r trustProxy status

/-- The samples for them. -/
def samples (log : List (Move × Report)) : List Http.Sample :=
  (log.filterMap answered?).map fun (_, r, status) => sampleOf r status

namespace Room

variable (room : Room)

/-- Notices whose lines are no such lines. -/
theorem filter_isAccess {α : Type} {line : α → LogLine} (h : ∀ n, (line n).isAccess = false) (notices : List α) :
    (notices.map line).filter LogLine.isAccess = [] := by
  rw [List.filter_eq_nil_iff]
  intro l hl
  obtain ⟨n, -, rfl⟩ := List.mem_map.1 hl
  rw [h n]
  exact Bool.false_ne_true

/-- What is logged of the cache tells of no answer to a request. -/
theorem isAccess_cacheLine (c : CacheNotice) : c.line.isAccess = false := by
  cases c <;> rfl

/-- Nor does what is logged of calls over gRPC. -/
theorem isAccess_grpcLine (n : Grpc.Notice) : n.line.isAccess = false := by
  cases n with
  | cache c => exact isAccess_cacheLine c
  | failed e => rfl

/-- Nor does what is logged of messages. -/
theorem isAccess_rpcLine (n : Rpc.Notice) : n.line.isAccess = false := by
  cases n with
  | cache c => exact isAccess_cacheLine c
  | failed handler e => rfl
  | unknownHandler handler => rfl

/-- What is logged and counted in one move. -/
structure AccountsOne (m : Move) : Prop where
  logged : (room.step m).1.log.filter LogLine.isAccess =
    accessLines room.site.rules.trustProxy [(m, (room.step m).1)]
  counted : (room.step m).2.site.metrics.samples =
    room.site.metrics.samples ++ if room.site.rules.metricsOn then samples [(m, (room.step m).1)] else []

variable {room}

/-- A move that is no request logs no such line and counts nothing. -/
theorem accountsOne_of_quiet {m : Move} (hnone : answered? (m, (room.step m).1) = none)
    (hlog : (room.step m).1.log.filter LogLine.isAccess = [])
    (hmetrics : (room.step m).2.site.metrics = room.site.metrics) : room.AccountsOne m where
  logged := by
    rw [hlog, accessLines, List.filterMap_cons_none hnone]
    rfl
  counted := by
    rw [hmetrics, samples, List.filterMap_cons_none hnone, List.filterMap_nil, List.map_nil, ite_self,
      List.append_nil]

variable (room)

/-- A call at the desk that stops on its way is no request. -/
theorem proceed_quiet (c : Halted) : (∀ m, answered? (m, (room.proceed c).1) = none) ∧
    (room.proceed c).1.log.filter LogLine.isAccess = [] ∧
      (room.proceed c).2.site.metrics = room.site.metrics := by
  have hstands : ∀ (m : Move) (report : Report), (∀ a, report.result ≠ .answered a) →
      answered? (m, report) = none := by
    intro m report hne
    obtain ⟨result, calls, log⟩ := report
    unfold answered?
    split
    · rename_i heq
      cases heq
      exact absurd rfl (hne _)
    · rfl
  unfold proceed
  split
  · refine ⟨fun m => hstands m _ fun a => ?_, filter_isAccess isAccess_cacheLine _, rfl⟩
    -- the call stands where it does, or has broken down
    dsimp only
    generalize Book.Stage.breakdown? room.world _ = breakdown?
    cases breakdown? <;> simp
  · exact ⟨fun m => hstands m _ (by simp), rfl, rfl⟩

/-- **One move**: a request logs its line and counts its sample, and nothing else does. -/
theorem accounts_step (m : Move) : room.AccountsOne m := by
  cases m with
  | act a =>
    -- one act may be told in the access log: an HTTP request that is not a preflight
    cases a with
    | «recall» => exact accountsOne_of_quiet rfl (filter_isAccess isAccess_cacheLine _) rfl
    | render q => exact accountsOne_of_quiet rfl (filter_isAccess isAccess_cacheLine _) rfl
    | rpc handler payload => exact accountsOne_of_quiet rfl (filter_isAccess isAccess_rpcLine _) rfl
    | grpcRecall via =>
      cases via <;> exact accountsOne_of_quiet rfl (filter_isAccess isAccess_grpcLine _) rfl
    | grpcRender via q =>
      cases via <;> exact accountsOne_of_quiet rfl (filter_isAccess isAccess_grpcLine _) rfl
    | grpcRequest refusal limits r => exact accountsOne_of_quiet rfl (filter_isAccess isAccess_grpcLine _) rfl
    | http x r =>
      by_cases hmethod : r.method = "OPTIONS"
      · refine accountsOne_of_quiet (if_pos hmethod) ?_ ?_
        · simp only [step, react, Http.notices_preflight _ _ _ _ hmethod]
          rfl
        · simp only [step, react, (Http.respond_of_preflight _ _ _ _ hmethod).1]
      · -- the answer in the report is the response that is sent, so its status is the one that was logged
        have hanswered : answered? (.act (.http x r), (room.step (.act (.http x r))).1) =
            some (x, r, (room.site.respond room.world x r).response.status) := if_neg hmethod
        refine ⟨?_, ?_⟩
        · rw [accessLines, List.filterMap_cons_some hanswered]
          exact Http.log_respond _ _ _ _ hmethod
        · rw [samples, List.filterMap_cons_some hanswered]
          simp only [step, react, Http.metrics_respond _ _ _ _ hmethod]
          split
          · rfl
          · exact (List.append_nil _).symm
  | change failures => exact accountsOne_of_quiet rfl rfl rfl
  | start id q stops =>
    obtain ⟨hnone, hlog, hmetrics⟩ := room.proceed_quiet ⟨id, (q.map Book.Stage.render).getD .«recall», stops⟩
    exact accountsOne_of_quiet (hnone _) hlog hmetrics
  | resume id =>
    by_cases hcall : room.halted.find? (·.id == id) = none
    · refine accountsOne_of_quiet ?_ ?_ ?_ <;> simp only [step, hcall] <;> rfl
    · obtain ⟨c, hc⟩ := Option.ne_none_iff_exists'.1 hcall
      obtain ⟨hnone, hlog, hmetrics⟩ := room.proceed_quiet c
      refine accountsOne_of_quiet ?_ ?_ ?_ <;> simp only [step, hc]
      · exact hnone _
      · exact hlog
      · exact hmetrics
  | look => exact accountsOne_of_quiet (by unfold step kept; split <;> rfl) rfl rfl

/-- The rules of the site stay the same in a session. -/
theorem rules_after (moves : List Move) : (Acts.after step room moves).site.rules = room.site.rules := by
  induction moves using List.reverseRecOn with
  | nil => rfl
  | append_singleton moves m ih => rw [Acts.after_concat, rules_step, ih]

/-- **A session**: the lines are those of its requests, one for each, in order, and so are the samples. -/
theorem accounts_log (moves : List Move) :
    ((Acts.log step room moves).flatMap (·.2.log)).filter LogLine.isAccess =
        accessLines room.site.rules.trustProxy (Acts.log step room moves) ∧
      (Acts.after step room moves).site.metrics.samples = room.site.metrics.samples ++
        if room.site.rules.metricsOn then samples (Acts.log step room moves) else [] := by
  induction moves using List.reverseRecOn with
  | nil => exact ⟨rfl, by simp [samples]⟩
  | append_singleton moves m ih =>
    obtain ⟨hlogged, hcounted⟩ := ih
    obtain ⟨hline, hsample⟩ := (Acts.after step room moves).accounts_step m
    rw [rules_after] at hline hsample
    constructor
    · rw [Acts.log_concat, List.flatMap_append, List.filter_append, hlogged, List.flatMap_singleton, hline,
        accessLines, accessLines, accessLines, List.filterMap_append, List.map_append]
    · rw [Acts.after_concat, hsample, hcounted, List.append_assoc, Acts.log_concat]
      congr 1
      by_cases hon : room.site.rules.metricsOn = true
      · rw [if_pos hon, if_pos hon, if_pos hon, samples, samples, samples, List.filterMap_append, List.map_append]
      · rw [if_neg hon, if_neg hon, if_neg hon, List.append_nil]

end Room

/-- A request is accounted for: one line tells its method and the status of the response, the two counts to which
these belong go up by one and all others stay, and the response has one identifier. -/
structure Accounts (before after : Site) (x : Surroundings) (r : Request) (response : Response)
    (log : List LogLine) : Prop where
  logged : log.filter LogLine.isAccess =
    [⟨.info, "request_id=" ++ named x r ++ ", ip=" ++ clientOf before.rules.trustProxy r ++ " - " ++ r.method ++ " " ++
      r.path ++ " " ++ toString response.status ++ " " ++ x.elapsed⟩]
  counted : before.rules.metricsOn = true → ∀ line,
    numberOn after.metrics.counts line = numberOn before.metrics.counts line +
      if line = "http_request_duration_seconds_count\x7b" ++ sharedLabels r response.status ++ "\x7d" ∨
          line = "http_requests_total\x7b" ++ sharedLabels r response.status ++ ",status=\"" ++
            Http.Metrics.labelValue (toString response.status) ++ "\"\x7d"
        then 1 else 0
  identified : response.headers.values "x-request-id" = [carried x r]

/-- A request passes the account by: nothing is logged or counted, and the response has no identifier. -/
structure PassesBy (before after : Site) (response : Response) (log : List LogLine) : Prop where
  logged : log = []
  counted : after.metrics = before.metrics
  identified : response.headers.values "x-request-id" = []

/-- A response is hardened: it carries each of the four security headers once, with its value. -/
structure Hardened (response : Response) : Prop where
  contentType : response.headers.values "x-content-type-options" = [Text.encode "nosniff"]
  frames : response.headers.values "x-frame-options" = [Text.encode "DENY"]
  filter : response.headers.values "x-xss-protection" = [Text.encode "0"]
  referrer : response.headers.values "referrer-policy" = [Text.encode "no-referrer"]

namespace Room

/-- **Every request is accounted for once, and every response is hardened.** Whatever has happened before in a
session, and whatever becomes of a request, it is accounted for with the status of the response that is sent, unless
it is a preflight, which passes the account by; and the response carries each of the security headers once, with its
value. Nothing but a request is accounted for: the lines and the samples of a session are those of its requests. -/
theorem every_request_is_accounted_for (room : Room) (before : List Move) (x : Surroundings) (r : Request) :
    let now := Acts.after step room before
    let next := now.step (.act (.http x r))
    (∃ response, next.1.result = .answered (.responded response) ∧
      (r.method ≠ "OPTIONS" → Accounts now.site next.2.site x r response next.1.log) ∧
      (r.method = "OPTIONS" → PassesBy now.site next.2.site response next.1.log) ∧
      Hardened response) ∧
    ((Acts.log step room before).flatMap (·.2.log)).filter LogLine.isAccess =
      accessLines room.site.rules.trustProxy (Acts.log step room before) ∧
    now.site.metrics.samples = room.site.metrics.samples ++
      if room.site.rules.metricsOn then samples (Acts.log step room before) else [] := by
  intro now next
  have hsecured := Http.values_secured now.world x now.site r
  refine ⟨⟨(now.site.respond now.world x r).response, rfl, fun hmethod => ?_, fun hmethod => ?_, ?_⟩,
    room.accounts_log before⟩
  · refine ⟨Http.log_respond _ _ _ _ hmethod, fun hon line => ?_, Http.values_respond _ _ _ _ hmethod⟩
    -- the sample is of the response sent, so its labels can be spelled out from the request
    have hmetrics : next.2.site.metrics =
        now.site.metrics.record (sampleOf r (now.site.respond now.world x r).response.status) :=
      (Http.metrics_respond _ _ _ _ hmethod).trans (if_pos hon)
    rw [hmetrics, Http.Metrics.numberOn_record]
    simp only [Http.lines_sampleOf, List.mem_cons, List.not_mem_nil, or_false]
  · have hsilent := Http.notices_preflight now.world x now.site r hmethod
    refine ⟨?_, ?_, Http.values_preflight _ _ _ _ hmethod⟩
    · simp only [next, step, react, hsilent]
      rfl
    · simp only [next, step, react, (Http.respond_of_preflight _ _ _ _ hmethod).1]
  · exact
      { contentType := hsecured ("x-content-type-options", Text.encode "nosniff") (by decide)
        frames := hsecured ("x-frame-options", Text.encode "DENY") (by decide)
        filter := hsecured ("x-xss-protection", Text.encode "0") (by decide)
        referrer := hsecured ("referrer-policy", Text.encode "no-referrer") (by decide) }

end Room

end Session

end Phrasebook
