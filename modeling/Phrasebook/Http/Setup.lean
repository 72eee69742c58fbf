import Phrasebook.Http.Site
import Phrasebook.Settings.App
/-!
# Setting up a site

A site is made from the settings. This fails when the limit makes no sense or an entry in the list of
origins cannot be a header value, and breaks down when a star stands in that list.
-/

set_option autoImplicit false

namespace Phrasebook.Http

/-- Why there is no site. -/
inductive SetupError where
  | refused (message : String)
  | breakdown (p : Panic)

/-- What is said about a star in a list of origins. -/
def starPanic : Panic :=
  .text "Wildcard origin (`*`) cannot be passed to `AllowOrigin::list`. Use `AllowOrigin::any()` instead"

/-- The error for a setting of origins. -/
def SetupError.ofCors : CorsError → SetupError
  | .badEntry => .refused "failed to parse header value"
  | .starInList => .breakdown starPanic

/-- The site for these settings. Traces are followed only if something takes them in. -/
def Site.ofSettings? (s : Settings) (desk : Desk) (tracesTaken : Bool) : Except SetupError Site := do
  let limiter ← (RateLimit.Limiter.ofRule? s.rateLimit.max s.rateLimit.intervalSecs).mapError fun e =>
    SetupError.refused e.message
  let cors ← (Cors.ofSetting? s.allowOrigins).mapError SetupError.ofCors
  return { rules := { trustProxy := s.http.trustProxy, metricsOn := s.metrics,
                      traced := s.tracer.enabled && tracesTaken, cors := cors }
           desk := desk
           limiter := limiter }

end Phrasebook.Http
