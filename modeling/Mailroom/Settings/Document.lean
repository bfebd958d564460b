import Mailroom.Json.Shape
import Mailroom.Settings.Basic

/-!
# Settings in a document

A document of settings has a section for each group of settings, and a section has an entry for
each setting. What is left out has its usual value, and what is not known is passed over. Documents
of several kinds hold settings; a dialect says how values are taken from one kind of document.
-/

namespace Mailroom

/-- How settings are taken from documents of one kind, whose values are of type `α`, and which fail
to be taken for a reason of type `ε`. -/
structure Dialect (α ε : Type) where
  /-- The entries of a section, given its name, the names of its settings, and how many of these an
  array cannot do without. -/
  entries : String → List String → Nat → α → Except ε (List (String × α))
  /-- A reason, with the name of the entry that it was found in. -/
  under : String → ε → ε
  /-- Whether a value stands for the absence of one. -/
  isAbsent : α → Bool
  text : α → Except ε String
  path : α → Except ε String
  flag : α → Except ε Bool
  /-- A natural number below a power of two, given the exponent and the name of such numbers. -/
  natural : Nat → String → α → Except ε Nat
  fraction : α → Except ε Float
  texts : α → Except ε (List String)

namespace Dialect

variable (d : Dialect α ε)

/-- The value of an entry, or the value that holds without it. -/
def entry (es : List (String × α)) (name : String) (read : α → Except ε β) (usual : β) :
    Except ε β :=
  match es.lookup name with
  | none => .ok usual
  | some v => (read v).mapError (d.under name)

/-- A value that may be absent. -/
def optional (read : α → Except ε β) (v : α) : Except ε (Option β) :=
  if d.isAbsent v then .ok none else (read v).map some

/-- The section on the server. -/
def server (v : α) : Except ε ServerSettings := do
  let es ← d.entries "ServerConfig" ["host", "port", "cors_origins", "body_limit_bytes"] 0 v
  let usual : ServerSettings := {}
  return {
    host := ← d.entry es "host" d.text usual.host
    port := ← d.entry es "port" (d.natural 16 "u16") usual.port
    corsOrigins := ← d.entry es "cors_origins" d.texts usual.corsOrigins
    bodyLimit := ← d.entry es "body_limit_bytes" (d.natural 64 "usize") usual.bodyLimit }

/-- The section on the callers. -/
def api (v : α) : Except ε ApiSettings := do
  let es ← d.entries "ApiConfig" ["key"] 1 v
  return { key := ← d.entry es "key" (d.optional d.text) none }

/-- The section on the delivery of messages. -/
def smtp (v : α) : Except ε SmtpSettings := do
  let es ← d.entries "SmtpConfig"
    ["transport", "host", "port", "username", "password", "secure", "from", "from_name"] 0 v
  let usual : SmtpSettings := {}
  return {
    transport := ← d.entry es "transport" d.text usual.transport
    host := ← d.entry es "host" d.text usual.host
    port := ← d.entry es "port" (d.natural 16 "u16") usual.port
    username := ← d.entry es "username" (d.optional d.text) usual.username
    password := ← d.entry es "password" (d.optional d.text) usual.password
    secure := ← d.entry es "secure" d.flag usual.secure
    sender := ← d.entry es "from" d.text usual.sender
    senderName := ← d.entry es "from_name" (d.optional d.text) usual.senderName }

/-- The section on templates. -/
def templates (v : α) : Except ε TemplateSettings := do
  let es ← d.entries "TemplatesConfig" ["dir", "partials", "locales", "logo", "cid"] 0 v
  let usual : TemplateSettings := {}
  return {
    dir := ← d.entry es "dir" d.path usual.dir
    parts := ← d.entry es "partials" (d.optional d.path) usual.parts
    locales := ← d.entry es "locales" d.path usual.locales
    logo := ← d.entry es "logo" d.path usual.logo
    contentId := ← d.entry es "cid" d.text usual.contentId }

/-- The section on the rate of requests. -/
def rate (v : α) : Except ε RateSettings := do
  let es ← d.entries "RateLimitConfig"
    ["enabled", "requests", "window", "cleanup_interval_seconds", "bucket_ttl_seconds"] 0 v
  let usual : RateSettings := {}
  return {
    enabled := ← d.entry es "enabled" d.flag usual.enabled
    requests := ← d.entry es "requests" (d.natural 32 "u32") usual.requests
    window := ← d.entry es "window" (d.natural 64 "u64") usual.window
    cleanupInterval :=
      ← d.entry es "cleanup_interval_seconds" (d.natural 64 "u64") usual.cleanupInterval
    recordLifetime :=
      ← d.entry es "bucket_ttl_seconds" (d.natural 64 "u64") usual.recordLifetime }

/-- The section on the log. -/
def log (v : α) : Except ε LogSettings := do
  let es ← d.entries "LogConfig" ["format"] 0 v
  let usual : LogSettings := {}
  return { format := ← d.entry es "format" d.text usual.format }

/-- The section on traces. -/
def trace (v : α) : Except ε TraceSettings := do
  let es ← d.entries "OtelConfig" ["enabled", "endpoint", "service_name", "sampling_ratio"] 0 v
  let usual : TraceSettings := {}
  return {
    enabled := ← d.entry es "enabled" d.flag usual.enabled
    endpoint := ← d.entry es "endpoint" d.text usual.endpoint
    serviceName := ← d.entry es "service_name" d.text usual.serviceName
    samplingRatio := ← d.entry es "sampling_ratio" d.fraction usual.samplingRatio }

/-- All settings of a document. -/
def settings (v : α) : Except ε Settings := do
  let es ← d.entries "Settings" ["server", "api", "smtp", "templates", "ratelimit", "log", "otel"] 0 v
  return {
    server := ← d.entry es "server" d.server {}
    api := ← d.entry es "api" d.api {}
    smtp := ← d.entry es "smtp" d.smtp {}
    templates := ← d.entry es "templates" d.templates {}
    rate := ← d.entry es "ratelimit" d.rate {}
    log := ← d.entry es "log" d.log {}
    trace := ← d.entry es "otel" d.trace {} }

end Dialect

namespace Json

/-- How a record is named where an array has too few items for it. -/
def Shape.ofElements (name : String) (n : Nat) : String :=
  let elements := if n = 1 then "element" else "elements"
  s!"struct {name} with {n} {elements}"

/-- The entries of a section that is written as an object, or as an array of the values of its
settings, of which the first ones have to be there. -/
def entries (name : String) (settings : List String) (required : Nat) : Json → Shaped Members
  | .obj ms => .ok ms
  | .arr items =>
    if items.length < required then
      .error (.invalidLength items.length (Shape.ofElements name settings.length))
    else if settings.length < items.length then
      .error (.invalidLength items.length "fewer elements in array")
    else .ok (settings.zip items)
  | v => .error (.invalidType v s!"struct {name}")

/-- A path, which is written as a string. -/
def Shape.path : Json → Shaped String
  | .str s => .ok s
  | v => .error (.invalidType v "path string")

/-- Settings in a JSON document. Every value has to be of the kind that is asked for. -/
def dialect : Dialect Json ShapeError where
  entries := entries
  under _ e := e
  isAbsent := isNull
  text := Shape.text
  path := Shape.path
  flag := Shape.bool
  natural := Shape.unsigned
  fraction := Shape.float
  texts := Shape.list Shape.text

end Json

end Mailroom
