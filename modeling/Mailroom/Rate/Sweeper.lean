import Mailroom.Rate.Limiter

/-!
# Sweeping at intervals

A task that drops outlived buckets whenever an interval has passed, until it is told to stop. It
goes by the time that passes and not by the clock, which may be set.
-/

namespace Mailroom.Rate

/-- The interval in seconds, the milliseconds that have passed, those at which the next sweep is
due, and whether the task has stopped. -/
structure Sweeper where
  interval : Nat
  elapsed : Nat := 0
  due : Nat
  stopped : Bool := false

namespace Sweeper

/-- Say something about the task. -/
def say (message : String) (fields : Log.Fields := []) : Journaled Unit :=
  Journal.log { level := .info, target := "ara_email_service::tasks::cleanup", message, fields }

/-- Start the task. An interval of no length is taken for one second. -/
def start (settings : RateSettings) : Journaled Sweeper := do
  let interval := max settings.cleanupInterval 1
  say "Rate limit cleanup task started"
    [("cleanup_interval_secs", .int interval), ("bucket_ttl_secs", .int settings.recordLifetime)]
  return { interval, due := interval * 1000 }

/-- Let time pass, at most an interval, and sweep if a sweep is due. -/
def pass (millis : Nat) (l : Limiter) (s : Sweeper) : Journaled (Limiter × Sweeper) := do
  let s := { s with elapsed := s.elapsed + millis }
  if s.stopped || s.elapsed < s.due then return (l, s)
  let (l, _) ← l.sweep
  return (l, { s with due := s.due + s.interval * 1000 })

/-- Stop the task. -/
def stop (s : Sweeper) : Journaled Sweeper := do
  unless s.stopped do
    say "Rate limit cleanup task received shutdown signal"
    say "Rate limit cleanup task stopped"
  return { s with stopped := true }

end Sweeper

end Mailroom.Rate
