import Mailroom.Metrics

/-!
# Metrics as text

The text in which metrics are handed to a program that collects them: for each family a line on its
meaning, a line on its type, and a line for each count. Families stand in the order of their names,
labels in that of theirs, and counts in that of the values of their labels. A family with labels is
left out as long as it has no count.
-/

namespace Mailroom.Metrics

/-- Counts of one meaning. The counts of a histogram are shown under its name with `_count`. -/
structure Family where
  name : String
  help : String
  type : String
  labels : List String := []
  counts : Tally

namespace Family

/-- The value of a label with a backslash in front of backslashes, quotes and line feeds. -/
def escaped (value : String) : String :=
  String.ofList <| value.toList.flatMap fun
    | '\\' => ['\\', '\\']
    | '"' => ['\\', '"']
    | '\n' => ['\\', 'n']
    | c => [c]

/-- The labels of a count. -/
def labelText (labels values : List String) : String :=
  if labels.isEmpty then ""
  else
    let pairs := (labels.zip values).map fun (l, v) => l ++ "=\"" ++ escaped v ++ "\""
    "\x7b" ++ ",".intercalate pairs ++ "\x7d"

/-- The lines of a family. -/
def lines (f : Family) : List String :=
  if f.counts.isEmpty then []
  else
    let shown := if f.type = "histogram" then f.name ++ "_count" else f.name
    [s!"# HELP {f.name} {f.help}", s!"# TYPE {f.name} {f.type}"]
      ++ (f.counts.mergeSort fun a b => !decide (b.1 < a.1)).map fun (values, n) =>
        s!"{shown}{labelText f.labels values} {n}"

end Family

/-- Counts by template and outcome, with the outcome in front. -/
def byOutcome (t : Tally) : Tally := t.map fun (values, n) => (values.reverse, n)

/-- The families of the service. -/
def families (m : Metrics) : List Family := [
  { name := "email_helper_empty_values_total"
    help := "Total helper invocations that received an empty value"
    type := "counter", labels := ["helper"], counts := m.emptyValues },
  { name := "email_ratelimit_allowed_total"
    help := "Total requests allowed by rate limiter"
    type := "counter", counts := [([], m.allowed)] },
  { name := "email_ratelimit_denied_total"
    help := "Total requests denied by rate limiter"
    type := "counter", counts := [([], m.denied)] },
  { name := "email_render_duration_seconds"
    help := "Template render duration in seconds"
    type := "histogram", labels := ["template"], counts := m.timedRenders },
  { name := "email_renders_total"
    help := "Total template renders"
    type := "counter", labels := ["outcome", "template"], counts := byOutcome m.renders },
  { name := "email_sent_total"
    help := "Total emails sent"
    type := "counter", labels := ["outcome", "template"], counts := byOutcome m.sent },
  { name := "email_template_compilations_total"
    help := "Total template compilations"
    type := "counter", counts := [([], m.compilations)] },
  { name := "email_templates_cached"
    help := "Number of compiled templates currently cached"
    type := "gauge", counts := [([], m.cached)] },
  { name := "email_translation_fallbacks_total"
    help := "Total translations resolved from a fallback locale"
    type := "counter", labels := ["requested", "resolved"], counts := m.fallbacks },
  { name := "email_translations_missing_total"
    help := "Total translation keys not found in any locale"
    type := "counter", counts := [([], m.missing)] }]

/-- The text of the metrics. -/
def text (m : Metrics) : String :=
  String.join ((m.families.flatMap Family.lines).map (· ++ "\n"))

end Mailroom.Metrics
