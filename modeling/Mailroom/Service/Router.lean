import Mailroom.Http.Bearer
import Mailroom.Http.Segment
import Mailroom.Service.Sending
import Mailroom.Service.Status

/-!
# Requests to the service

The way of a request through the service. It is given an identification and checked for the length
that it declares. What stands behind the rate limit and the key is reached only past both of them,
the rate limit first. The answer carries the identification and says which origins may read it.
-/

namespace Mailroom.Service

open Http (Request Response)

/-! ## Routes -/

/-- What a path leads to. -/
inductive Route where
  | email (segment : String)
  | templates
  | health
  | metrics
  | nowhere
deriving DecidableEq, Repr

namespace Route

/-- What a path leads to. -/
def ofPath (path : String) : Route :=
  match Http.segments path with
  | ["", "health"] => .health
  | ["", "metrics"] => .metrics
  | ["", "api", "templates", "cache", "clear"] => .templates
  | ["", "api", "email", segment] => if segment = "" then .nowhere else .email segment
  | _ => .nowhere

/-- The methods in which something can be asked for. -/
def methods : Route → List String
  | .email _ | .templates => ["POST"]
  | .health | .metrics => ["GET", "HEAD"]
  | .nowhere => []

/-- Whether something stands behind the rate limit and the key. -/
def isProtected : Route → Bool
  | .email _ | .templates => true
  | .health | .metrics | .nowhere => false

/-- The header that says in which methods something can be asked for, on the answer to a request
in another one. -/
def allow (route : Route) (method : String) : Http.Headers :=
  if route.methods.isEmpty || route.methods.contains method then []
  else [("allow", ",".intercalate route.methods)]

end Route

/-! ## The key -/

/-- Why a request may not pass for the key that it shows. -/
inductive Refusal where
  | noKey | noToken | wrongKey
deriving DecidableEq, Repr

/-- What the log says about a refusal. -/
def Refusal.logged : Refusal → String
  | .noKey => "Missing authorization header"
  | .noToken => "Malformed authorization header"
  | .wrongKey => "Invalid API key provided"

/-- What the caller is told about a refusal. -/
def Refusal.told : Refusal → String
  | .noKey => "Authorization header is missing"
  | .noToken => "Invalid authorization format. Use: Bearer <token>"
  | .wrongKey => "Invalid API key"

/-- Why a request may not pass, if it may not. An empty key lets nobody pass. -/
def refusal? (key : Option String) (r : Request) : Option Refusal :=
  match r.header? "authorization" with
  | none => some .noKey
  | some _ =>
    match (r.visible? "authorization").bind Http.bearerToken? with
    | none => some .noToken
    | some token =>
      if key.any fun k => k != "" && k == token then none else some .wrongKey

/-- Say something about who may pass. -/
def guardLog (message : String) (fields : Log.Fields := []) : Journaled Unit :=
  Journal.log { level := .warn, target := "ara_email_service::server::middleware", message, fields }

/-! ## Answers -/

/-- Names that have not been used before: for a request, and for the message that it asks for. -/
structure Fresh where
  request : String
  message : Mail.Fresh

/-- The response that a step leads to. -/
def answered (s : Service) (step : Serving Response) : Journaled (Service × Response) := do
  let (outcome, s) ← step.run s
  match outcome with
  | .ok response => return (s, response)
  | .error failure => return (s, ← failure.answer s.production)

/-- Answer a request for a message. -/
def answerEmail (fresh : Fresh) (segment : String) (r : Request) (s : Service) :
    Journaled (Service × Response) := do
  match Http.segmentText? segment with
  | none => return (s, .ofText 400 "Invalid URL: Invalid UTF-8 in `template_key`")
  | some key =>
    let span : Log.Span := {
      level := .info
      target := "ara_email_service::api::email"
      name := "send_email"
      fields := [("template", .plain key)] }
    let (outcome, s) ← Journal.within span ((sendFor fresh.message key r).run s)
    match outcome with
    | .ok id => return (s, sentResponse id)
    | .error failure => return (s, ← failure.answer s.production)

/-- Answer a request that may pass. -/
def answerRoute (fresh : Fresh) (route : Route) (r : Request) (s : Service) :
    Journaled (Service × Response) := do
  if !route.methods.contains r.method then
    return (s, { status := if route.methods.isEmpty then 404 else 405 })
  match route with
  | .email segment => s.answerEmail fresh segment r
  | .templates => s.answered (clearedResponse <$> clearTemplates)
  | .health => return (s, .ofJson 200 (s.health (← Journal.clock)))
  | .metrics => return (s, ← s.metrics)
  | .nowhere => return (s, { status := 404 })

/-- Answer a request that is within the rate limit. -/
def answerKeyed (fresh : Fresh) (route : Route) (r : Request) (s : Service) :
    Journaled (Service × Response) := do
  match refusal? s.settings.api.key r with
  | none => s.answerRoute fresh route r
  | some refusal =>
    guardLog refusal.logged
    let failure : Failure := .unauthorized refusal.told
    return (s, ← failure.answer s.production)

/-- The headers that tell a caller about the rate limit. -/
def rateHeaders (limit remaining : Nat) (resetAt : Int) : Http.Headers := [
  ("x-ratelimit-limit", toString limit), ("x-ratelimit-remaining", toString remaining),
  ("x-ratelimit-reset", toString resetAt)]

/-- The name under which the requests of a client are counted. -/
def clientOf (r : Request) : String :=
  ((r.peer.bind Net.Ip.ofPeer?).map Net.Ip.text).getD "unknown"

/-- Answer a request, if the client has not made too many. -/
def answerLimited (fresh : Fresh) (route : Route) (r : Request) (s : Service) :
    Journaled (Service × Response) := do
  if !s.limiter.settings.enabled then s.answerKeyed fresh route r
  else
    let client := clientOf r
    let (limiter, verdict) ← s.limiter.check client
    let s := { s with limiter }
    match verdict with
    | .allowed remaining limit resetAt =>
      Journal.count .requestAllowed
      let (s, response) ← s.answerKeyed fresh route r
      return (s, response.withHeaders (rateHeaders limit remaining resetAt))
    | .denied retryAfter limit resetAt =>
      Journal.count .requestDenied
      guardLog "Rate limit exceeded" [("client", .plain client), ("retry_after", .int retryAfter)]
      let failure : Failure := .rateLimited "Too Many Requests. Please try again later."
      let response ← failure.answer s.production
      return (s, response.withHeaders
        (rateHeaders limit 0 resetAt ++ [("retry-after", toString retryAfter)]))

/-- Whether a request declares a body that is longer than the limit. -/
def isTooLong (limit : Nat) (r : Request) : Bool := (declaredLength? r).any (limit < ·)

/-- Answer a request of any length. -/
def answerBounded (fresh : Fresh) (route : Route) (r : Request) (s : Service) :
    Journaled (Service × Response) := do
  if isTooLong s.settings.server.bodyLimit r then
    return (s, .ofText 413 "length limit exceeded")
  if route.isProtected then s.answerLimited fresh route r else s.answerRoute fresh route r

/-! ## The whole way -/

/-- The identification of a request: its own, if that is short and can be shown. -/
def identify (fresh : Fresh) (r : Request) : String :=
  ((r.visible? "x-request-id").filter fun v => v != "" && v.utf8ByteSize ≤ 128).getD fresh.request

/-- Report a response. -/
def report (status : Nat) : Journaled Unit := do
  let latency : String × Log.Value := ("latency", .plain "0 ms")
  Journal.log {
    level := .info
    target := "tower_http::trace::on_response"
    message := "finished processing request"
    fields := [latency, ("status", .int status)] }
  if 500 ≤ status then
    Journal.log {
      level := .error
      target := "tower_http::trace::on_failure"
      message := "response failed"
      fields := [("classification", .plain s!"Status code: {status} {Http.phraseOf status}"),
        latency] }

/-- Answer a request, and report the response. -/
def answerTraced (fresh : Fresh) (id : String) (route : Route) (r : Request) (s : Service) :
    Journaled (Service × Response) :=
  let span : Log.Span := {
    level := .info
    target := "ara_email_service::server::app"
    name := "http_request"
    fields := [("method", .plain r.method), ("path", .plain r.path), ("request_id", .plain id)] }
  Journal.within span do
    Journal.log {
      level := .debug
      target := "tower_http::trace::on_request"
      message := "started processing request" }
    let (s, response) ← s.answerBounded fresh route r
    report response.status
    return (s, response)

/-- A response as it is sent: the answer to a question for headers only has no body. -/
def sentTo (r : Request) (response : Response) : Response :=
  if r.method = "HEAD" then { response with body := "" } else response

/-- Serve a request. -/
def serve (fresh : Fresh) (r : Request) (s : Service) : Journaled (Service × Response) := do
  let id := identify fresh r
  let route := Route.ofPath r.path
  let (s, response) ←
    if r.method = "OPTIONS" then pure (s, s.origins.preflight r)
    else do
      let (s, response) ← s.answerTraced fresh id route r
      pure (s, response.withHeaders (s.origins.headers r))
  let response := (response.withHeaders (route.allow r.method)).withHeader "x-request-id" id
  return (s, sentTo r response)

end Mailroom.Service
