import Mailroom.Log.Event
import Mailroom.Metrics

/-!
# The journal

What the service leaves behind while it works, apart from its answers: log entries and counters.
Every operation that can say or count something is a step on the journal, which also holds the
time at which the operation takes place.
-/

namespace Mailroom

/-- The time, in milliseconds since the epoch, the pieces of work going on, and what has been
logged and counted. -/
structure Journal where
  now : Int := 0
  spans : List Log.Span := []
  entries : List Log.Entry := []
  metrics : Metrics := {}

/-- An operation that may log and count. -/
abbrev Journaled (α : Type) := StateM Journal α

/-- An operation that may log and count, and may fail; what was logged before a failure stays. -/
abbrev Attempt (ε α : Type) := ExceptT ε (StateM Journal) α

namespace Journal

/-- Log an event. The entries stand in the journal the last one first. -/
def log (event : Log.Event) : Journaled Unit :=
  modify fun j => { j with entries := ⟨j.now, j.spans, event⟩ :: j.entries }

/-- Change the counters. -/
def count (f : Metrics → Metrics) : Journaled Unit :=
  modify fun j => { j with metrics := f j.metrics }

/-- The present time. -/
def clock : Journaled Int := return (← get).now

/-- Do something within a piece of work. -/
def within (span : Log.Span) (act : Journaled α) : Journaled α := do
  let spans := (← get).spans
  modify fun j => { j with spans := spans ++ [span] }
  let a ← act
  modify fun j => { j with spans }
  return a

/-- The log entries, the first one first. -/
def history (j : Journal) : List Log.Entry := j.entries.reverse

end Journal

end Mailroom
