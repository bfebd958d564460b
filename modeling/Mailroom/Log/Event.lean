/-!
# Log events

What the service says about its own work: a message at a level, from a named part of the program,
with named values. An event is data; how it is written, and whether it is written at all, is
decided when the log is shown.
-/

namespace Mailroom.Log

/-- How serious an event is, the least serious first. -/
inductive Level where
  | trace | debug | info | warn | error
deriving DecidableEq, Repr

namespace Level

/-- The place of a level in the order of seriousness. -/
def rank : Level → Nat
  | .trace => 0
  | .debug => 1
  | .info => 2
  | .warn => 3
  | .error => 4

/-- The name of a level in a log. -/
def name : Level → String
  | .trace => "TRACE"
  | .debug => "DEBUG"
  | .info => "INFO"
  | .warn => "WARN"
  | .error => "ERROR"

end Level

/-- A value named in an event. A plain text is shown as it is, and a quoted one between quotes. -/
inductive Value where
  | plain (text : String)
  | quoted (text : String)
  | bool (value : Bool)
  | int (value : Int)
  | float (value : Float)

/-- Named values, in the order in which they are shown. -/
abbrev Fields := List (String × Value)

/-- One thing said by one part of the program. -/
structure Event where
  level : Level
  target : String
  message : String
  fields : Fields := []

/-- A piece of work in which events occur. Its fields are shown with each of them. -/
structure Span where
  level : Level
  target : String
  name : String
  fields : Fields := []

/-- An event with the time of its occurrence, in milliseconds since the epoch, and the pieces of
work that were going on, the outermost first. -/
structure Entry where
  time : Int
  spans : List Span
  event : Event

end Mailroom.Log
