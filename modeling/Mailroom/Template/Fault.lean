import Mailroom.Template.Basic

/-!
# Failures of rendering

Why a template cannot be shown with some data, and where. The place is that of the innermost tag
with a place of its own, and the template that is named is the innermost one that has a name.
-/

namespace Mailroom.Template

/-- What went wrong. -/
inductive Fault where
  | helperNotFound (name : String)
  | decoratorNotFound (name : String)
  | partNotFound (name : String)
  | partInItself
  | argumentMissing (helper : String) (index : Nat)
  | parameterMissing (helper parameter : String)
  | parameterMismatch (helper parameter kind : String)
  | wrongType (expected : String)
  | indexNotNumber (key : String)
  | bodyRequired
  | unknownLevel (level : String)
  | nestedTooDeep
deriving DecidableEq, Repr

/-- The wording of a fault. -/
def Fault.message : Fault → String
  | .helperNotFound name => s!"Helper not found {name}"
  | .decoratorNotFound name => s!"Decorator not found {name}"
  | .partNotFound name => s!"Partial not found {name}"
  | .partInItself => "Can not include current template in partial"
  | .argumentMissing helper index =>
    s!"Helper/Decorator {helper} param at index {index} required but not found"
  | .parameterMissing helper parameter =>
    s!"Helper/Decorator {helper} param with name {parameter} required but not found"
  | .parameterMismatch helper parameter kind =>
    s!"Helper/Decorator {helper} param with name {parameter} type mismatch for {kind}"
  | .wrongType expected => s!"Invalid param type, {expected} expected"
  | .indexNotNumber key => s!"Cannot access array/vector with string index, {key}"
  | .bodyRequired => "Block content required"
  | .unknownLevel level => s!"Invalid logging level: {level}"
  | .nestedTooDeep => "Templates are nested too deeply"

/-- A fault with its place. -/
structure RenderError where
  fault : Fault
  position : Option Position := none
  template : Option String := none

namespace RenderError

/-- The wording of a failure. -/
def message (e : RenderError) : String :=
  match e.position with
  | some p =>
    let template := e.template.getD "Unnamed template"
    s!"Error rendering \"{template}\" line {p.line}, col {p.column}: {e.fault.message}"
  | none => e.fault.message

/-- Note a place, unless one is known. -/
def locate (position : Option Position) (e : RenderError) : RenderError :=
  { e with position := e.position <|> position }

/-- Note a template, unless one is known. -/
def inTemplate (name : Option String) (e : RenderError) : RenderError :=
  { e with template := e.template <|> name }

end RenderError

end Mailroom.Template
