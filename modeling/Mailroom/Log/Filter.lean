import Mailroom.Log.Event
import Mailroom.Text.Case
import Mailroom.Text.Find

/-!
# Which events are shown

A filter is a list of directives. A directive names the beginning of a target, or the name of a
span, or both, and the least serious level that is shown there. Of the directives whose targets an
event begins with, the one with the longest target decides; a directive for a span holds for the
events within it. A span is shown with its events if it would be shown itself.
-/

namespace Mailroom.Log

/-- A directive: the beginning of a target, the name of a span, and the least serious level that is
shown; without a level nothing is shown. -/
structure Directive where
  target : String := ""
  span : Option String := none
  least : Option Level
deriving DecidableEq, Repr

/-- A list of directives, where a later one of the same target goes before. -/
abbrev Filter := List Directive

namespace Directive

/-- The level that a word stands for. The inner `none` stands for silence. -/
def levelOf? (word : String) : Option (Option Level) :=
  match Text.asciiLower word with
  | "off" | "0" => some none
  | "error" | "1" => some (some .error)
  | "warn" | "2" => some (some .warn)
  | "info" | "3" => some (some .info)
  | "debug" | "4" => some (some .debug)
  | "trace" | "5" => some (some .trace)
  | _ => none

/-- A character of a target. -/
def isTargetChar (c : Char) : Bool := c.isAlphanum || c = '_' || c = ':' || c = '-'

/-- The name of a span in brackets, and what is behind it. -/
def readSpan (cs : List Char) : Option (String × List Char) :=
  match cs with
  | '[' :: rest =>
    (Text.splitOnce [']'] rest).map fun (name, rest) => (String.ofList name, rest)
  | _ => none

/-- The directive that a text stands for: a level alone, or a target, a span or both, with an equals
sign and a level behind them. All levels are meant where none is given. -/
def ofText? (text : String) : Option Directive :=
  match levelOf? text with
  | some least => some { least }
  | none =>
    let target := String.ofList (text.toList.takeWhile isTargetChar)
    let rest := text.toList.dropWhile isTargetChar
    let (span, rest) := match readSpan rest with
      | some (name, rest) => (some name, rest)
      | none => (none, rest)
    if target = "" ∧ span = none then none
    else match rest with
      | [] | ['='] => some { target, span, least := some .trace }
      | '=' :: word => (levelOf? (String.ofList word)).map fun least => { target, span, least }
      | _ => none

/-- Whether something at a level is shown. -/
def shows (d : Directive) (level : Level) : Bool := d.least.any fun least => least.rank ≤ level.rank

end Directive

namespace Filter

/-- What is shown in the absence of directives. -/
def silent : Filter := [{ least := some .error }]

/-- What is shown if nothing is asked for. -/
def usual : Filter := [{ least := some .info }]

/-- The filter that a text stands for: directives between commas. -/
def ofText? (text : String) : Option Filter := do
  let parts := ((Text.splitAt ',' text.toList).map String.ofList).filter (· != "")
  let directives ← parts.mapM Directive.ofText?
  some (if directives.isEmpty then silent else directives)

/-- The filter for a setting. What is no filter counts for nothing. -/
def ofSetting (setting : Option String) : Filter := (setting.bind ofText?).getD usual

/-- The directive that decides about a target. -/
def forTarget? (f : Filter) (target : String) : Option Directive :=
  f.foldl (fun best d =>
    if d.span.isSome ∨ !target.startsWith d.target then best
    else match best with
      | some b => if b.target.length ≤ d.target.length then some d else best
      | none => some d) none

/-- Whether something at a level with a target is shown. -/
def shows (f : Filter) (level : Level) (target : String) : Bool :=
  (f.forTarget? target).any (·.shows level)

/-- The directives for a span. -/
def forSpan (f : Filter) (s : Span) : List Directive :=
  f.filter fun d => d.span = some s.name && s.target.startsWith d.target

/-- Whether a span is shown. -/
def showsSpan (f : Filter) (s : Span) : Bool :=
  f.shows s.level s.target || !(f.forSpan s).isEmpty

/-- Whether an entry is shown. -/
def showsEntry (f : Filter) (e : Entry) : Bool :=
  f.shows e.event.level e.event.target
    || e.spans.any fun s => (f.forSpan s).any (·.shows e.event.level)

/-- The entries that are shown, each with the spans that are shown. -/
def view (f : Filter) (es : List Entry) : List Entry :=
  (es.filter f.showsEntry).map fun e => { e with spans := e.spans.filter f.showsSpan }

end Filter

end Mailroom.Log
