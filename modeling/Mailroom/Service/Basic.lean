import Mailroom.Http.Origin
import Mailroom.Mail.Transport
import Mailroom.Rate.Limiter
import Mailroom.Service.Failure
import Mailroom.Template.Renderer

/-!
# The service

What the service holds while it runs, and the steps in which it fulfils a request.
-/

namespace Mailroom

/-- The service: its settings, whether it runs in production, the origins whose pages may read its
answers, the files of its templates, its renderer, the transport of its messages, and the limiter of
requests. -/
structure Service where
  settings : Settings
  production : Bool := false
  origins : Http.Origins
  files : Files.Tree
  renderer : Template.Renderer
  transport : Mail.Transport
  limiter : Rate.Limiter

/-- A step in the fulfilment of a request. What the service holds may change even if the step
fails. -/
abbrev Serving (α : Type) := ExceptT Failure (StateT Service (StateM Journal)) α

namespace Service

/-- The service for some settings, unless they list the wildcard among the origins. The limiter has
seen nobody yet. -/
def new? (settings : Settings) (production : Bool) (files : Files.Tree)
    (renderer : Template.Renderer) (transport : Mail.Transport) : Option Service :=
  (Http.Origins.ofSettings? settings.server.corsOrigins).map fun origins =>
    { settings, production, origins, files, renderer, transport
      limiter := { settings := settings.rate } }

/-- The page for a payload. -/
def page (key locale : String) (payload : Json.Members) : Serving String := do
  let s ← get
  let (renderer, outcome) ← s.renderer.render s.files key locale payload
  set { s with renderer }
  match outcome with
  | .ok page => return page
  | .error e => throw (.template e)

/-- Hand a message over, and count the outcome. -/
def dispatch (fresh : Mail.Fresh) (key locale : String) (m : Mail.Outgoing) : Serving String := do
  let s ← get
  let (transport, outcome) ← s.transport.send fresh m
  set { s with transport }
  match outcome with
  | .ok id =>
    Journal.count (.delivered key)
    return id
  | .error fault =>
    Journal.count (.deliveryFailed key)
    Journal.log {
      level := .error
      target := "ara_email_service::api::email"
      message := "Failed to send email"
      fields := [("locale", .plain locale), ("error", .plain fault.message)] }
    throw (.mail fault)

/-- Forget the compiled templates and read their parts again. -/
def clearTemplates : Serving Nat := do
  let s ← get
  let (library, outcome) ← s.renderer.library.clear s.files
  set { s with renderer := { s.renderer with library } }
  match outcome with
  | .ok n => return n
  | .error e => throw (.template e)

end Service

end Mailroom
