/-!
# Metrics

The counters of the service. A counter with labels has one value for each list of label values
that has been seen; a counter without labels is there from the start.
-/

namespace Mailroom

/-- Counts by label values, in the order in which the labels were first seen. -/
abbrev Tally := List (List String × Nat)

namespace Tally

/-- The count under a list of label values. -/
def count (t : Tally) (labels : List String) : Nat := (t.lookup labels).getD 0

/-- Count one more. -/
def increment (labels : List String) : Tally → Tally
  | [] => [(labels, 1)]
  | (l, n) :: rest =>
    if l = labels then (l, n + 1) :: rest else (l, n) :: increment labels rest

/-- The sum of all counts. -/
def total (t : Tally) : Nat := t.foldr (fun e n => e.2 + n) 0

@[simp] theorem total_nil : total [] = 0 := rfl

@[simp] theorem total_increment (labels : List String) (t : Tally) :
    (t.increment labels).total = t.total + 1 := by
  induction t with
  | nil => rfl
  | cons e t ih =>
    obtain ⟨l, n⟩ := e
    simp only [increment]
    split
    · simp only [total, List.foldr_cons]; omega
    · simp only [total, List.foldr_cons] at ih ⊢; omega

end Tally

/-- The counters of the service.

* `renders`: renders by template and outcome;
* `timedRenders`: renders whose duration was taken, by template;
* `compilations`, `cached`: template sources compiled, and compiled templates held at present;
* `fallbacks`, `missing`: texts taken from another locale, by requested and used locale, and texts
  found nowhere;
* `emptyValues`: helper calls that were given nothing to work with, by helper;
* `sent`: messages handed to the transport, by template and outcome;
* `allowed`, `denied`: requests let through and turned away by the rate limiter. -/
structure Metrics where
  renders : Tally := []
  timedRenders : Tally := []
  compilations : Nat := 0
  cached : Nat := 0
  fallbacks : Tally := []
  missing : Nat := 0
  emptyValues : Tally := []
  sent : Tally := []
  allowed : Nat := 0
  denied : Nat := 0

namespace Metrics

/-- A template was rendered. -/
def renderSucceeded (template : String) (m : Metrics) : Metrics :=
  { m with
    renders := m.renders.increment [template, "success"]
    timedRenders := m.timedRenders.increment [template] }

/-- A template could not be rendered. -/
def renderFailed (template : String) (m : Metrics) : Metrics :=
  { m with renders := m.renders.increment [template, "failure"] }

/-- A template source was compiled, and `cached` templates are held now. -/
def compiled (cached : Nat) (m : Metrics) : Metrics :=
  { m with compilations := m.compilations + 1, cached }

/-- All templates that were held have been dropped. -/
def cacheCleared (m : Metrics) : Metrics := { m with cached := 0 }

/-- A text was taken from the locale `resolved` in place of `requested`. -/
def fellBack (requested resolved : String) (m : Metrics) : Metrics :=
  { m with fallbacks := m.fallbacks.increment [requested, resolved] }

/-- A text was found in no locale. -/
def textMissing (m : Metrics) : Metrics := { m with missing := m.missing + 1 }

/-- A helper was given nothing to work with. -/
def emptyValue (helper : String) (m : Metrics) : Metrics :=
  { m with emptyValues := m.emptyValues.increment [helper] }

/-- A message was handed over. -/
def delivered (template : String) (m : Metrics) : Metrics :=
  { m with sent := m.sent.increment [template, "sent"] }

/-- A message was not taken. -/
def deliveryFailed (template : String) (m : Metrics) : Metrics :=
  { m with sent := m.sent.increment [template, "failed"] }

/-- The rate limiter let a request through. -/
def requestAllowed (m : Metrics) : Metrics := { m with allowed := m.allowed + 1 }

/-- The rate limiter turned a request away. -/
def requestDenied (m : Metrics) : Metrics := { m with denied := m.denied + 1 }

end Metrics

end Mailroom
