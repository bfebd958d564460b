import Mailroom.Calendar.Instant
import Mailroom.Metrics.Text
import Mailroom.Service.Basic

/-!
# The state of the service

What the service tells about itself to whoever asks.
-/

namespace Mailroom

/-- The numbers of a library of templates. -/
def Template.Library.toJson (lib : Template.Library) : Json :=
  .ofMembers [("cached", Json.ofNat lib.cached), ("partials", Json.ofNat lib.parts),
    ("compilations", Json.ofNat lib.compilations)]

/-- The numbers of a limiter of requests. -/
def Rate.Limiter.toJson (l : Rate.Limiter) : Json :=
  .ofMembers [("enabled", .bool l.settings.enabled), ("buckets", Json.ofNat l.buckets.length),
    ("limit", Json.ofNat l.settings.requests), ("window_seconds", Json.ofNat l.settings.window)]

namespace Service

/-- The version of the service. -/
def version : String := "1.0.0"

/-- An instant in universal time. Milliseconds are written if there are any. -/
def stampOf (millis : Int) : String :=
  let rest := (Calendar.splitMillis millis).2 % 1000
  Calendar.stamp millis (if rest = 0 then [] else '.' :: Number.zeroPadded 3 rest) "Z"

/-- The health of the service at an instant. -/
def health (s : Service) (now : Int) : Json :=
  .ofMembers [("status", .str "healthy"), ("version", .str version),
    ("timestamp", .str (stampOf now)), ("templates", s.renderer.library.toJson),
    ("mail", .ofMembers [("transport", .str s.transport.name)]), ("ratelimit", s.limiter.toJson)]

/-- The response to a question about the metrics. -/
def metricsResponse (m : Metrics) : Http.Response where
  status := 200
  headers := [("content-type", "text/plain; version=0.0.4; charset=utf-8")]
  body := m.text

/-- Show the metrics. -/
def metrics (s : Service) : Journaled Http.Response := do
  Journal.count fun m => { m with cached := s.renderer.library.cached }
  return metricsResponse (← get).metrics

end Service

end Mailroom
