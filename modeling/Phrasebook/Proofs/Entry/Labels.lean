import Phrasebook.Acts
import Phrasebook.Proofs.Entry.Accounting
/-!
# The paths under which requests are counted

A count has the path of its requests as a label, so that the labels must not be left to the clients: a path that no
route has is to be counted as unmatched. The label is not taken from the routes, though, but from the status of the
response, and there are two ways in which the two come apart. The limiter comes before the routes, so it refuses a
request to a path that is not there with a status of its own, and the path becomes a label. And a handler may say
that what was asked for is not there; then a route is counted as unmatched.

These are the only ways (`Site.labels_are_known_iff`). Without a refusal the labels are the paths of the routes and
one more; with refusals, there is one for each path that a client can think of.
-/

set_option autoImplicit false

namespace Phrasebook.Http

open Metrics (unmatched)

/-- The path of a route. Where requests are counted, the route that shows the counts is there. -/
def isRegistered (path : String) : Bool := (Route.ofPath? true path).isSome

/-- A label that may be there: the path of a route, or that there was none. -/
def IsKnown (label : String) : Prop := isRegistered label = true ∨ label = unmatched

instance (label : String) : Decidable (IsKnown label) := inferInstanceAs (Decidable (_ ∨ _))

/-- The label for strangers is no path that is registered. -/
theorem isRegistered_unmatched : isRegistered unmatched = false := by decide

/-! ## Labels and statuses -/

section Label

variable (path : String) (status : Nat)

/-- A path that was not found has the label for strangers. -/
theorem pathLabel_notFound : pathLabel path 404 = unmatched := rfl

/-- With any other status a path is its own label. -/
theorem pathLabel_of_ne {status : Nat} (h : status ≠ 404) : pathLabel path status = path := by
  rw [pathLabel, beq_false_of_ne h]
  rfl

/-- A label is known exactly if its path is registered, or was not found, or is the label for strangers itself. -/
theorem isKnown_pathLabel_iff :
    IsKnown (pathLabel path status) ↔ (isRegistered path = false → status ≠ 404 → path = unmatched) := by
  rcases eq_or_ne status 404 with rfl | h
  · rw [pathLabel_notFound]
    exact iff_of_true (.inr rfl) fun _ hne => absurd rfl hne
  · rw [pathLabel_of_ne path h, IsKnown]
    by_cases hthere : isRegistered path = true
    · exact iff_of_true (.inl hthere) fun hnot => absurd hthere (by rw [hnot]; exact Bool.false_ne_true)
    · rw [Bool.not_eq_true] at hthere
      rw [hthere]
      simp [h]

/-- A path that no route has is counted as unmatched, and no other. -/
theorem pathLabel_fits_iff :
    (pathLabel path status = unmatched ↔ isRegistered path = false) ↔
      (isRegistered path = false → status ≠ 404 → path = unmatched) ∧
        (isRegistered path = true → status ≠ 404) := by
  by_cases hthere : isRegistered path = true
  · -- a route has the path, which the label shows unless the status says that nothing was found
    have hne : path ≠ unmatched := by
      rintro rfl
      rw [isRegistered_unmatched] at hthere
      cases hthere
    rw [hthere]
    rcases eq_or_ne status 404 with rfl | h
    · simp [pathLabel_notFound]
    · simp [pathLabel_of_ne path h, h, hne]
  · -- no route has it, which the label shows only if the status says so
    rw [Bool.not_eq_true] at hthere
    rw [hthere]
    rcases eq_or_ne status 404 with rfl | h
    · simp [pathLabel_notFound]
    · simp [pathLabel_of_ne path h, h]

end Label

/-! ## Statuses and what becomes of a request -/

section Status

variable (w : World) (x : Surroundings) (site : Site) (r : Request)

/-- Of the failures only that of finding nothing has the status 404. -/
theorem httpStatus_eq_iff (e : ServiceError) : e.httpStatus = 404 ↔ e = .notFound := by
  cases e <;> simp [ServiceError.httpStatus]

/-- A call comes to that status exactly if it is noted that nothing was found. -/
theorem status_callResponse_iff {α : Type} (id : String) (encode : α → Bytes) (s : Served α) :
    let g := guardPanic x id r (callResponse id x.timestamp encode s)
    g.1.status = 404 ↔ .failed .notFound ∈ g.2 := by
  intro g
  have hcache : Event.failed .notFound ∉ (cacheNotices s.events).map Event.cache := by simp
  have hfailed : ∀ e : ServiceError, e.httpStatus = 404 ↔
      Event.failed .notFound ∈ (cacheNotices s.events).map Event.cache ++ [.failed e] := by
    intro e
    rw [httpStatus_eq_iff, List.mem_append, List.mem_singleton, Event.failed.injEq]
    exact ⟨fun h => .inr h.symm, fun h => (h.resolve_left hcache).symm⟩
  unfold g callResponse
  rcases s.outcome with (e | v) | p
  · exact hfailed e
  · exact iff_of_false (by simp [guardPanic, jsonResponse]) hcache
  · exact hfailed (breakdown r.method r.path p)

/-- A handler of a route answers that something is not there exactly if it says so. -/
theorem status_handle_iff (id : String) (hroute : (Route.ofPath? site.rules.metricsOn r.path).isSome = true) :
    let g := guardPanic x id r (handle w x site id r)
    g.1.status = 404 ↔ .failed .notFound ∈ g.2 := by
  obtain ⟨route, hroute⟩ := Option.isSome_iff_exists.1 hroute
  have hsilent : ∀ status, status ≠ 404 →
      (status = 404 ↔ Event.failed .notFound ∈ ([] : List Event)) := by
    intro status hne
    simp [hne]
  intro g
  unfold g handle
  rw [hroute]
  simp only
  split
  · cases route with
    | healthz => exact hsilent 200 (by decide)
    | metrics => exact hsilent 200 (by decide)
    | history => exact status_callResponse_iff x r id _ _
    | translate =>
      simp only [handleRoute]
      split
      · exact status_callResponse_iff x r id _ _
      · simp [guardPanic, failureResponse, jsonResponse, ServiceError.httpStatus]
  · exact hsilent 405 (by decide)

/-- The same is so outside of the account, where a request may have been refused. -/
theorem status_account_iff (hroute : (Route.ofPath? site.rules.metricsOn r.path).isSome = true) :
    (account w x site r).response.status = 404 ↔
      ∃ n ∈ (account w x site r).notices, n.event = .failed .notFound := by
  obtain ⟨events, hnotices, hseen⟩ := account_sees w x site r
  have hsaid : (∃ n ∈ (account w x site r).notices, n.event = .failed .notFound) ↔
      Event.failed .notFound ∈ events := by
    rw [hnotices]
    simp [answerOf]
  rw [hsaid]
  rcases hseen with ⟨asked, hrules, hguard⟩ | ⟨hstatus, rfl⟩
  · have hiff := status_handle_iff w x asked r (named x r) (by rw [hrules]; exact hroute)
    rwa [hguard] at hiff
  · rw [hstatus]
    simp

end Status

/-! ## Requests in a row -/

namespace Site

/-- What is counted for a request. -/
def sample (site : Site) (v : Visit) : Sample := sampleOf v.request (site.serve v).response.status

/-- Answers a request, and goes on with what has become of the site. -/
def attend (site : Site) (v : Visit) : Exchange × Site := (site.serve v, (site.serve v).site)

/-- The requests that are no preflights, each with the site as it meets it. -/
def met (site : Site) (visits : List Visit) : List (Site × Visit) :=
  Acts.gather attend (fun now v => if v.request.method = "OPTIONS" then none else some (now, v)) site visits

/-- A request strays: no route has its path, and it is refused. -/
structure Strays (site : Site) (v : Visit) : Prop where
  unregistered : isRegistered v.request.path = false
  refused : site.Refuses v
  /-- The path does not happen to be the label itself. -/
  other : v.request.path ≠ unmatched

/-- A request finds nothing: a route has its path, and the handler says that what was asked for is not there. -/
structure FindsNothing (site : Site) (v : Visit) : Prop where
  registered : isRegistered v.request.path = true
  said : ∃ n ∈ (site.serve v).notices, n.event = .failed .notFound

variable {site : Site} {v : Visit}

/-- A request that is counted adds its sample. -/
theorem metrics_serve (hon : site.rules.metricsOn = true) (hmethod : v.request.method ≠ "OPTIONS") :
    (site.serve v).site.metrics = site.metrics.record (site.sample v) :=
  (metrics_respond v.world v.around (site.withDesk v.desk) v.request hmethod).trans (if_pos hon)

/-- A request to a path that no route has is told so, unless it is refused. -/
theorem status_of_unregistered (hon : site.rules.metricsOn = true) (hmethod : v.request.method ≠ "OPTIONS")
    (hnot : isRegistered v.request.path = false) : (site.serve v).response.status ≠ 404 ↔ site.Refuses v := by
  -- an unregistered path is none of the two that go unlimited
  have hlimited : v.IsLimited := by
    refine ⟨hmethod, ?_, ?_⟩
    · intro hpath
      rw [hpath] at hnot
      exact absurd hnot (by decide)
    · intro hpath
      rw [hpath] at hnot
      exact absurd hnot (by decide)
  by_cases hyes : (site.limiter.allow (clientOf site.rules.trustProxy v.request) v.around.now).1 = true
  · -- then the routes see it, and none of them has it
    have hpasses : site.PassesOn v := (passesOn_iff hlimited).2 hyes
    refine iff_of_false (not_not.2 ?_) fun hrefused => hrefused.not_passesOn hpasses
    have hnone : Route.ofPath? (site.withDesk v.desk).rules.metricsOn (identified v.around v.request).path = none := by
      rw [show (site.withDesk v.desk).rules.metricsOn = true from hon, identified]
      exact Option.isNone_iff_eq_none.1 (Option.isSome_eq_false_iff.1 hnot)
    rw [hpasses.status, handled, handle, hnone]
    rfl
  · have hrefused : site.Refuses v := (refuses_iff hlimited).2 (Bool.not_eq_true _ ▸ hyes)
    refine iff_of_true ?_ hrefused
    rw [hrefused.status]
    decide

/-- **When the label may be there.** -/
theorem isKnown_sample_iff (hon : site.rules.metricsOn = true) (hmethod : v.request.method ≠ "OPTIONS") :
    IsKnown (site.sample v).path ↔ ¬ site.Strays v := by
  refine (isKnown_pathLabel_iff _ _).trans ⟨?_, ?_⟩
  · rintro hlabel ⟨hnot, hrefused, hother⟩
    exact hother (hlabel hnot ((status_of_unregistered hon hmethod hnot).2 hrefused))
  · intro hstrays hnot hstatus
    by_contra hother
    exact hstrays ⟨hnot, (status_of_unregistered hon hmethod hnot).1 hstatus, hother⟩

/-- **When the label says whether there is a route.** -/
theorem sample_fits_iff (hon : site.rules.metricsOn = true) (hmethod : v.request.method ≠ "OPTIONS") :
    ((site.sample v).path = unmatched ↔ isRegistered v.request.path = false) ↔
      ¬ site.Strays v ∧ ¬ site.FindsNothing v := by
  refine (pathLabel_fits_iff _ _).trans (and_congr ?_ ?_)
  · rw [← isKnown_sample_iff hon hmethod]
    exact (isKnown_pathLabel_iff _ _).symm
  · -- the status tells what the handler said
    have hsaid : isRegistered v.request.path = true → ((site.serve v).response.status = 404 ↔
        ∃ n ∈ (site.serve v).notices, n.event = .failed .notFound) := by
      intro hthere
      obtain ⟨-, -, hstatus, -⟩ := respond_of_account v.world v.around (site.withDesk v.desk) v.request hmethod
      rw [serve, hstatus, notices_respond _ _ _ _ hmethod]
      apply status_account_iff
      rw [show (site.withDesk v.desk).rules.metricsOn = true from hon]
      exact hthere
    constructor
    · rintro hstatus ⟨hthere, hnotice⟩
      exact hstatus hthere ((hsaid hthere).2 hnotice)
    · intro hfinds hthere hstatus
      exact hfinds ⟨hthere, (hsaid hthere).1 hstatus⟩

/-- Every request is met by a site with the same settings, and is no preflight. -/
theorem of_mem_met {visits : List Visit} {e : Site × Visit} (he : e ∈ site.met visits) :
    e.1.rules = site.rules ∧ e.2.request.method ≠ "OPTIONS" := by
  induction visits using List.reverseRecOn with
  | nil => cases he
  | append_singleton visits v ih =>
    rw [met, Acts.gather_concat, List.mem_append] at he
    rcases he with hbefore | hlast
    · exact ih hbefore
    · by_cases hmethod : v.request.method = "OPTIONS"
      · rw [if_pos hmethod] at hlast
        cases hlast
      · rw [if_neg hmethod, Option.toList_some, List.mem_singleton] at hlast
        rw [hlast]
        exact ⟨rules_afterAll site visits, hmethod⟩

/-- Each of them is counted, and nothing else is. -/
theorem samples_afterAll (hon : site.rules.metricsOn = true) (visits : List Visit) :
    (site.afterAll visits).metrics.samples =
      site.metrics.samples ++ (site.met visits).map fun e => e.1.sample e.2 := by
  induction visits using List.reverseRecOn with
  | nil => simp [afterAll, met]
  | append_singleton visits v ih =>
    rw [afterAll_append_singleton, met, Acts.gather_concat, List.map_append, ← List.append_assoc]
    by_cases hmethod : v.request.method = "OPTIONS"
    · rw [if_pos hmethod, serve, (respond_of_preflight _ _ _ _ hmethod).1, Option.toList_none, List.map_nil,
        List.append_nil]
      exact ih
    · have hon' : (site.afterAll visits).rules.metricsOn = true := by rw [rules_afterAll, hon]
      rw [if_neg hmethod, metrics_serve hon' hmethod, Metrics.record, ih]
      rfl

/-- **Which labels there are.** The requests that are no preflights are counted one by one, each with a label for its
path, on both of its lines. The label may be there exactly if the request does not stray; and it says whether there is a
route exactly if the request, besides, does not find nothing. -/
theorem labels_are_known_iff {site : Site} (hon : site.rules.metricsOn = true) (visits : List Visit) :
    (site.afterAll visits).metrics.samples =
        site.metrics.samples ++ ((site.met visits).map fun e => e.1.sample e.2) ∧
      ∀ e ∈ site.met visits,
        (IsKnown (e.1.sample e.2).path ↔ ¬ e.1.Strays e.2) ∧
        (((e.1.sample e.2).path = unmatched ↔ isRegistered e.2.request.path = false) ↔
          ¬ e.1.Strays e.2 ∧ ¬ e.1.FindsNothing e.2) := by
  refine ⟨samples_afterAll hon visits, fun e he => ?_⟩
  obtain ⟨hrules, hmethod⟩ := of_mem_met he
  rw [← hrules] at hon
  exact ⟨isKnown_sample_iff hon hmethod, sample_fits_iff hon hmethod⟩

/-! ## Two paths that are not there

One request in a minute is allowed. A client asks for a path that is not there, and then for another. -/

/-- A site that counts requests. -/
def countingSite : Site where
  rules := { metricsOn := true }
  desk := .fixed (.broke .untold) (.broke .untold)
  limiter := { rule := ⟨1, 60⟩ }

/-- The requests. -/
def straying : List Visit := [visit "/a" "10.0.0.1" 1000, visit "/b" "10.0.0.1" 1010]

/-- A request for a path that is not there has a known label, and the next one, which is refused, strays. -/
theorem straying_labels_are_known :
    let next := countingSite.afterAll [visit "/a" "10.0.0.1" 1000]
    countingSite.rules.metricsOn = true ∧ ¬ countingSite.Strays (visit "/a" "10.0.0.1" 1000) ∧
      ¬ countingSite.FindsNothing (visit "/a" "10.0.0.1" 1000) ∧ next.Strays (visit "/b" "10.0.0.1" 1010) := by
  intro next
  have hon : countingSite.rules.metricsOn = true := rfl
  obtain ⟨-, hlabels⟩ := labels_are_known_iff hon straying
  have hmet : countingSite.met straying =
      [(countingSite, visit "/a" "10.0.0.1" 1000), (next, visit "/b" "10.0.0.1" 1010)] := rfl
  rw [hmet] at hlabels
  obtain ⟨-, hfits⟩ := hlabels _ List.mem_cons_self
  obtain ⟨hknown, -⟩ := hlabels _ (List.mem_cons_of_mem _ List.mem_cons_self)
  -- the first is counted as unmatched, and the second under its path
  have hunmatched : (countingSite.sample (visit "/a" "10.0.0.1" 1000)).path = unmatched := by decide
  have hpath : ¬ IsKnown (next.sample (visit "/b" "10.0.0.1" 1010)).path := by decide
  obtain ⟨hstrays, hfinds⟩ := hfits.1 (iff_of_true hunmatched (by decide))
  exact ⟨hon, hstrays, hfinds, not_not.1 fun hnot => hpath (hknown.2 hnot)⟩

/-- So a path that is not there is counted as a label of its own. -/
theorem straying_leaves_its_path :
    ¬ ∀ s ∈ (countingSite.afterAll straying).metrics.samples, IsKnown s.path := by
  intro h
  have hlast := h ⟨"GET", "/b", 429⟩ (by decide)
  exact absurd hlast (by decide)

end Site

end Phrasebook.Http
