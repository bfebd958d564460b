import Mailroom.Service.Startup

/-!
# The program

The service is started from the working directory and the environment, and stopped when the standard
input ends. The time of its start may be given in milliseconds since the epoch.
-/

namespace Mailroom.Main

/-- The variables that the service looks at. -/
def variableNames : List String := [
  "RUN_MODE", "RUST_LOG", "SERVER_HOST", "SERVER_PORT", "API_KEY", "SMTP_TRANSPORT", "SMTP_HOST",
  "SMTP_PORT", "SMTP_USERNAME", "SMTP_PASSWORD", "SMTP_SECURE", "SMTP_FROM", "TEMPLATES_DIR",
  "TEMPLATES_PARTIALS", "TEMPLATES_LOCALES", "TEMPLATES_LOGO", "TEMPLATES_CID",
  "RATELIMIT_ENABLED", "RATELIMIT_REQUESTS", "RATELIMIT_WINDOW", "LOG_FORMAT", "OTEL_ENABLED",
  "OTEL_ENDPOINT"]

/-- The variables of the environment. -/
def variablesHere : IO Settings.Variables :=
  variableNames.filterMapM fun name => do
    return (← IO.getEnv name).map fun value => (name, value)

/-- The files below the working directory. Hidden folders are passed over. -/
def filesHere : IO Files.Tree := do
  let here ← IO.currentDir
  let paths ← here.walkDir fun p => pure (p == here || !(p.fileName.any (·.startsWith ".")))
  let mut tree : Files.Tree := {}
  for p in paths do
    let name := String.ofList (p.toString.toList.drop (here.toString.length + 1))
    if ← p.isDir then tree := tree.makeFolder (Files.Path.ofText name)
    else tree := tree.write name (← IO.FS.readBinFile p)
  return tree

/-- Write what was logged. -/
def write (w : Surroundings) (log : LogSettings) (j : Journal) : IO Unit := do
  let setting := (Settings.completed w.files w.environment).lookup "RUST_LOG"
  for e in (Log.Filter.ofSetting setting).view j.history do
    IO.println (Log.line log e)

/-- Read to the end of the standard input. -/
partial def wait (input : IO.FS.Stream) : IO Unit := do
  unless (← input.getLine).isEmpty do wait input

end Mailroom.Main

open Mailroom in
/-- Start the service, wait, and stop it. -/
def main (args : List String) : IO UInt32 := do
  let now : Int := ((args.head?.bind String.toNat?).getD 0 : Nat)
  let w : Surroundings := {
    environment := ← Main.variablesHere
    files := ← Main.filesHere
    relay := .unreachable "Connection refused (os error 111)"
    hindrance := fun _ => none }
  let ((settings, outcome), journal) := (Service.start w).run { now }
  let log := (settings.map (·.log)).getD {}
  Main.write w log journal
  match outcome with
  | .error fault =>
    for line in fault.lines do IO.eprintln line
    return UInt32.ofNat fault.status
  | .ok running =>
    Main.wait (← IO.getStdin)
    Main.write w log ((Service.stop .terminate running).run { now }).2
    return 0
