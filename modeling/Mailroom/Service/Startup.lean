import Mailroom.Locale.Library
import Mailroom.Log.Telemetry
import Mailroom.Rate.Sweeper
import Mailroom.Service.Basic
import Mailroom.Settings.Load

/-!
# Start and stop

The service starts with its settings and all that they name, and stops at a signal. A start that
fails says why, and what was behind it.
-/

namespace Mailroom

/-- What a service finds when it starts: the environment, the files, the relay for its messages, and
what keeps it from listening on an address, if there is something. -/
structure Surroundings where
  environment : Settings.Variables
  files : Files.Tree
  relay : Mail.Relay
  hindrance : String → Option String

/-- Why a service could not start. -/
inductive StartFault where
  | settings (fault : Settings.Fault)
  | telemetry (fault : Log.TelemetryFault)
  | locale (fault : Locale.StoreError)
  | template (fault : Template.LibraryError)
  | mail (fault : Mail.Fault)
  | origins
  | address (reason : String)

namespace StartFault

/-- The wording of a fault. -/
def message : StartFault → String
  | .settings fault => fault.message
  | .telemetry fault => fault.message
  | .locale fault => fault.message
  | .template fault => fault.message
  | .mail fault => fault.message
  | .origins => "The wildcard cannot be listed among the origins"
  | .address reason => reason

/-- What was behind a fault. -/
def cause? : StartFault → Option String
  | .locale (.unreadable _ reason) => some reason
  | .locale (.notJson _ reason) => some reason.message
  | .locale (.wrongShape _ reason) => some reason.message
  | .template (.unreadable _ reason) => some reason
  | .template (.notCompiled _ reason) => some reason.message
  | .template (.partNotCompiled _ reason) => some reason.message
  | _ => none

/-- The lines in which a fault is reported. -/
def lines (f : StartFault) : List String :=
  let behind := match f.cause? with
    | some cause => "" :: "Caused by:" :: (cause.splitOn "\n").map fun l => "    " ++ l
    | none => []
  ("Error: " ++ f.message).splitOn "\n" ++ behind

/-- The status with which the program ends. -/
def status : StartFault → Nat
  | .origins => 101
  | _ => 1

end StartFault

/-- A service that has started, and the task that looks after its limiter. -/
structure Running where
  service : Service
  sweeper : Rate.Sweeper

/-- What tells a service to stop. -/
inductive Signal where
  | interrupt | terminate
deriving DecidableEq, Repr

/-- What is said about a signal. -/
def Signal.message : Signal → String
  | .interrupt => "Received Ctrl+C, initiating graceful shutdown"
  | .terminate => "Received terminate signal, initiating graceful shutdown"

namespace Service

/-- Say something about the start and the stop. -/
def say (message : String) (fields : Log.Fields := []) (level : Log.Level := .info) :
    Journaled Unit :=
  Journal.log { level, target := "ara_email_service", message, fields }

/-- Fail for a reason of one's own. -/
def failing (fault : ε → StartFault) (act : Attempt ε α) : Attempt StartFault α :=
  ExceptT.adapt fault act

/-- Prepare the service for some settings. -/
def prepare (w : Surroundings) (environment : Settings.Variables) (s : Settings) :
    Attempt StartFault Service := do
  let store ← failing .locale (Locale.Store.load w.files s.templates.locales)
  let image ← Mail.InlineImage.load w.files s.templates.logo s.templates.contentId
  let logoUrl := image.map fun _ => s.templates.logoUrl
  let renderer ← failing .template
    (Template.Renderer.opened w.files s.templates.dir s.templates.partsDir store logoUrl)
  say "Template engine initialized" [("dir", .plain s.templates.dir)]
  let transport ← failing .mail (Mail.Transport.ofSettings s.smtp image w.relay)
  unless ← transport.verify do
    say "Mail relay is not reachable, sends will fail until it is"
      [("host", .plain s.smtp.host), ("port", .int s.smtp.port)] .warn
  say "Application state initialized"
  match new? s (Settings.isProduction environment) w.files renderer transport with
  | some service => return service
  | none => throw .origins

/-- Start the service with some settings. -/
def startWith (w : Surroundings) (environment : Settings.Variables) (s : Settings) :
    Attempt StartFault Running := do
  ExceptT.mk (pure ((Settings.validate s).mapError .settings))
  say "Configuration loaded"
  let service ← prepare w environment s
  let sweeper ← Rate.Sweeper.start s.rate
  match w.hindrance s.server.address with
  | some reason => throw (.address reason)
  | none =>
    say s!"Server listening on {s.server.address}"
    return { service, sweeper }

/-- Start the service. The answer holds the settings once the log has begun. -/
def start (w : Surroundings) : Journaled (Option Settings × Except StartFault Running) := do
  let environment := Settings.completed w.files w.environment
  match Settings.load w.files environment with
  | .error fault => return (none, .error (.settings fault))
  | .ok s =>
    match ← Log.begin s.trace s.log false with
    | .error fault => return (none, .error (.telemetry fault))
    | .ok () =>
      match ← startWith w environment s with
      | .ok running => return (some s, .ok running)
      | .error fault =>
        Log.finish s.trace
        return (some s, .error fault)

/-- Stop a service. -/
def stop (signal : Signal) (r : Running) : Journaled Unit := do
  say signal.message
  say "Waiting for background tasks to finish..."
  discard r.sweeper.stop
  say "Server shutdown complete"
  Log.finish r.service.settings.trace

end Service

end Mailroom
