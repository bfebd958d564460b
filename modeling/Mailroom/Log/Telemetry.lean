import Mailroom.Journal
import Mailroom.Log.Filter
import Mailroom.Log.Line
import Mailroom.Net.Uri
import Mailroom.Settings.Basic

/-!
# The beginning and the end of the log

The log of a program is begun once, with the form and the destination that the settings ask for.
-/

namespace Mailroom.Log

/-- Why the log could not be begun. -/
inductive TelemetryFault where
  | badEndpoint (reason : Net.UriFault)
  | alreadyBegun
deriving DecidableEq, Repr

/-- The wording of a fault. -/
def TelemetryFault.message : TelemetryFault → String
  | .badEndpoint reason =>
    "Failed to build OTLP exporter: Exporter otlp encountered the following error(s): invalid URI "
      ++ reason.message
  | .alreadyBegun =>
    "Failed to install tracing subscriber: a global default trace dispatcher has already been set"

/-- Say something about the log. -/
def note (message : String) (fields : Fields := []) : Journaled Unit :=
  Journal.log { level := .info, target := "ara_email_service::telemetry", message, fields }

/-- Begin the log, unless it has begun. -/
def begin (trace : TraceSettings) (log : LogSettings) (begun : Bool) :
    Attempt TelemetryFault Unit := do
  if trace.enabled then
    match Net.Uri.check trace.endpoint with
    | .error reason => throw (.badEndpoint reason)
    | .ok () => pure ()
  if begun then throw .alreadyBegun
  if trace.enabled then
    note "OpenTelemetry tracing initialized"
      [("endpoint", .plain trace.endpoint), ("service_name", .plain trace.serviceName),
        ("sampling_ratio", .float trace.samplingRatio)]
  else note "Tracing initialized (OpenTelemetry disabled)" [("format", .plain log.format)]

/-- End the log. -/
def finish (trace : TraceSettings) : Journaled Unit := do
  if trace.enabled then note "Shutting down OpenTelemetry tracer provider"

/-- Whether the log is written as JSON objects. -/
def isJson (log : LogSettings) : Bool := Text.asciiLower log.format = "json"

/-- An entry as it is written. -/
def line (log : LogSettings) (e : Entry) : String :=
  if isJson log then e.toJson.compact else e.text

end Mailroom.Log
