import Mailroom.Http.Message
import Mailroom.Mail.Fault
import Mailroom.Template.Library

/-!
# Failures of requests

Why a request was not fulfilled, what the log says about it, and what the caller is told. In
production the caller is not told what went wrong within the service.
-/

namespace Mailroom

/-- Why a request was not fulfilled. -/
inductive Failure where
  | config (reason : String)
  | unauthorized (reason : String)
  | invalid (reason : String) (details : Option Json)
  | notImplemented (reason : String)
  | rateLimited (reason : String)
  | template (error : Template.LibraryError)
  | mail (fault : Mail.Fault)
  | internal (reason : String)

namespace Failure

/-- The kinds of failures that a caller can tell apart. -/
inductive Kind where
  | config | unauthorized | invalid | notImplemented | rateLimited | template | mail | internal
deriving DecidableEq, Repr

/-- The status of a response of a kind. -/
def Kind.status : Kind → Nat
  | .invalid => 400
  | .unauthorized => 401
  | .rateLimited => 429
  | .notImplemented => 501
  | .config | .template | .mail | .internal => 500

/-- The name of a kind in a response. -/
def Kind.code : Kind → String
  | .config => "CONFIG_ERROR"
  | .unauthorized => "UNAUTHORIZED"
  | .invalid => "VALIDATION_ERROR"
  | .notImplemented => "NOT_IMPLEMENTED"
  | .rateLimited => "RATE_LIMITED"
  | .template => "TEMPLATE_ERROR"
  | .mail => "MAIL_ERROR"
  | .internal => "INTERNAL_ERROR"

/-- The kind of a failure. A template that is not there, a key that is none, and an address that is
none are no faults of the service. -/
def kind : Failure → Kind
  | .config _ => .config
  | .unauthorized _ => .unauthorized
  | .invalid _ _ => .invalid
  | .notImplemented _ => .notImplemented
  | .rateLimited _ => .rateLimited
  | .template (.notFound _) => .notImplemented
  | .template (.invalidKey _) => .invalid
  | .template _ => .template
  | .mail (.address _) => .invalid
  | .mail _ => .mail
  | .internal _ => .internal

/-- The wording of a failure. -/
def message : Failure → String
  | .config reason => s!"Configuration error: {reason}"
  | .unauthorized reason => s!"Authentication error: {reason}"
  | .invalid reason _ => s!"Validation error: {reason}"
  | .notImplemented reason => s!"Not implemented: {reason}"
  | .rateLimited reason => s!"Rate limited: {reason}"
  | .template error => error.message
  | .mail fault => fault.message
  | .internal reason => s!"Internal error: {reason}"

/-- What the caller is told in the place of what went wrong within the service, for the kinds that
are about the service. -/
def Kind.cover? : Kind → Option String
  | .config => some "Configuration error"
  | .template => some "Failed to render email"
  | .mail => some "Failed to send email"
  | .internal => some "Internal server error"
  | _ => none

/-- What the caller is told outside production. -/
def told : Failure → String
  | .unauthorized reason | .invalid reason _ => reason
  | .notImplemented reason | .rateLimited reason => reason
  | .template (.notFound key) => s!"Template not configured: {key}"
  | f => f.message

/-- What the caller is told. -/
def toldIn (production : Bool) (f : Failure) : String :=
  if production then f.kind.cover?.getD f.told else f.told

/-- What the caller is told in detail. -/
def details? : Failure → Option Json
  | .invalid _ details => details
  | _ => none

/-- The response to a request that failed. -/
def response (production : Bool) (f : Failure) : Http.Response :=
  .ofJson f.kind.status <| .ofMembers [("success", .bool false),
    ("error", .ofMembers <|
      [("code", .str f.kind.code), ("message", .str (f.toldIn production))]
        ++ (f.details?.map fun v => ("details", v)).toList)]

/-- Report a failure, in full, and answer the request. -/
def answer (production : Bool) (f : Failure) : Journaled Http.Response := do
  Journal.log {
    level := if 500 ≤ f.kind.status then .error else .warn
    target := "ara_email_service::error"
    message := "API error"
    fields := [("code", .plain f.kind.code), ("status", .plain (toString f.kind.status)),
      ("message", .plain f.message)] }
  return f.response production

/-- A failure with a list of details. -/
def ofDetails (details : Json) : Failure := .invalid "Validation failed" (some details)

end Failure

end Mailroom
