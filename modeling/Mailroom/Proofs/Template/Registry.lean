import Mailroom.Proofs.Template.Inclusion

/-!
# Renderings with other helpers

The helpers that a rendering calls are found by name in one table. A registry is a repertoire with
a table of its own, and renders as a repertoire does, with the helpers of this table. With the table
of all helpers it is the repertoire again; with another table it shows what a template owes to a
helper.
-/

namespace Mailroom.Template

open Rendering (fail ofExcept ofAttempt)

/-- What a rendering has at hand, and the helpers that it calls. -/
structure Registry extends Repertoire where
  helpers : String → Option Helper

/-- A repertoire with the helpers that there are. -/
def Repertoire.withHelpers (r : Repertoire) : Registry := { r with helpers := helper? }

namespace Registry

/-! ## Arguments -/

mutual

@[inherit_doc Repertoire.evaluate]
def evaluate (g : Registry) : Argument Json → Rendering Found
  | .word name => return { Found.nothing with source := some name }
  | .path p => do
    let found ← ofExcept (find g.root (← get).scopes p)
    return { found with source := some p.source }
  | .literal value => return .derived value
  | .call callee given => do
    let args ← g.evaluateSome Option.isNone given
    let named ← g.evaluateSome Option.isSome given
    let name := callee.title
    match g.helpers name with
    | none => fail (.helperNotFound name)
    | some h =>
      return .derived (← h.result (← g.setting)
        { name, args := args.map (·.2), named := namedArguments named })

@[inherit_doc Repertoire.evaluateSome]
def evaluateSome (g : Registry) (wanted : Option String → Bool) :
    List (Option String × Argument Json) → Rendering (List (Option String × Found))
  | [] => return []
  | (key, argument) :: rest => do
    if wanted key then
      let found ← g.evaluate argument
      return (key, found) :: (← g.evaluateSome wanted rest)
    else g.evaluateSome wanted rest

end

@[inherit_doc Repertoire.calleeName]
def calleeName (g : Registry) : Argument Json → Rendering String
  | .call callee given => return shown (← g.evaluate (.call callee given)).value
  | a => return a.title

@[inherit_doc Repertoire.call]
def call (g : Registry) (line : Line Json) : Rendering Call := do
  let name ← g.calleeName line.callee
  let args ← line.positional.mapM g.evaluate
  let named ← (namedArguments line.given).mapM fun (key, a) => return (key, ← g.evaluate a)
  return { name, args, named }

/-! ## Tags -/

@[inherit_doc Repertoire.showCall]
def showCall (g : Registry) (sub : Show) (line : Line Json) (body otherwise : Option Body) :
    Rendering String := do
  let c ← g.call line
  match g.helpers c.name with
  | none => fail (.helperNotFound c.name)
  | some h =>
    let s ← g.setting
    match h, body with
    | .value f, _ => writeValue (← ofAttempt (f s c))
    | .equality test, none =>
      return if test (c.arg 0) (c.arg 1) then "true" else "false"
    | .equality test, some body =>
      if test (c.arg 0) (c.arg 1) then sub none body else sub.optional otherwise
    | .choice test, some body =>
      if ← ofExcept (test s c) then sub none body else sub.optional otherwise
    | .each, some body => showEach sub line c body otherwise
    | .inside, some body => showInside sub line c body otherwise
    | .verbatim, some body => sub none body
    | h, _ => do
      h.bodiless s c
      return ""

@[inherit_doc Repertoire.showValue]
def showValue (g : Registry) (sub : Show) (line : Line Json) : Rendering String := do
  if line.isBare then
    let name ← g.calleeName line.callee
    if (g.helpers name).isSome then g.showCall sub line none none
    else
      let found ← g.evaluate line.callee
      if found.missing then return "" else writeValue found.value
  else g.showCall sub line none none

@[inherit_doc Repertoire.decorate]
def decorate (g : Registry) (line : Line Json) (body : Option Body) : Rendering Unit := do
  let c ← g.call line
  if c.name != "inline" then fail (.decoratorNotFound c.name)
  definePart c body

@[inherit_doc Repertoire.decorateAll]
def decorateAll (g : Registry) : Body → Rendering Unit
  | [] => pure ()
  | (position, .decorator line body) :: rest => do
    Rendering.located position (g.decorate line body)
    g.decorateAll rest
  | _ :: rest => g.decorateAll rest

@[inherit_doc Repertoire.showPart]
def showPart (g : Registry) (sub : Show) (line : Line Json) (indent : Option String)
    (body : Option Body) : Rendering String := do
  let c ← g.call line
  g.decorateAll (body.getD [])
  let stage ← get
  if stage.current = some c.name then fail .partInItself
  g.showIn sub indent body c stage (g.part? stage c.name body)

/-! ## Templates -/

@[inherit_doc Repertoire.showElement]
def showElement (g : Registry) (sub : Show) : Element → Rendering String
  | .text s => write s
  | .comment => return ""
  | .value line true => g.showValue sub line
  | .value line false => do
    modify fun s ↦ { s with plain := true }
    let text ← g.showValue sub line
    modify fun s ↦ { s with plain := false }
    return text
  | .block line body otherwise => g.showCall sub line (some body) otherwise
  | .decorator line body => do
    g.decorate line body
    return ""
  | .part line indent body => g.showPart sub line indent body

@[inherit_doc Repertoire.showBody]
def showBody (g : Registry) : Nat → Show
  | 0, _, _ => fail .nestedTooDeep
  | n + 1, name, body => do
    modify fun s ↦ { s with current := name }
    let texts ← body.mapM fun (position, e) ↦
      Rendering.within name (Rendering.located position (g.showElement (g.showBody n) e))
    return String.join texts

@[inherit_doc Repertoire.render]
def render (g : Registry) (t : Compiled) : Attempt RenderError String := do
  let (text, _) ← (g.showBody nestingLimit t.name t.body).run {}
  return text

end Registry

/-! ## The helpers that there are -/

namespace Repertoire

variable (r : Repertoire)

theorem withHelpers_evaluate (a : Argument Json) : r.withHelpers.evaluate a = r.evaluate a := by
  induction a using Repertoire.evaluate.induct
    (motive_2 := fun wanted given ↦
      r.withHelpers.evaluateSome wanted given = r.evaluateSome wanted given) with
  | case1 name => rw [Registry.evaluate, evaluate]
  | case2 p =>
    rw [Registry.evaluate, evaluate]
    rfl
  | case3 value => rw [Registry.evaluate, evaluate]
  | case4 callee given positional named =>
    rw [Registry.evaluate, evaluate, positional, named]
    rfl
  | case5 wanted => rw [Registry.evaluateSome, evaluateSome]
  | case6 wanted key argument rest hw ha hrest =>
    rw [Registry.evaluateSome, evaluateSome, ha, hrest]
  | case7 wanted key argument rest hw hrest =>
    rw [Registry.evaluateSome, evaluateSome, if_neg hw, if_neg hw, hrest]

theorem withHelpers_calleeName (a : Argument Json) :
    r.withHelpers.calleeName a = r.calleeName a := by
  cases a with
  | call callee given => rw [Registry.calleeName, calleeName, withHelpers_evaluate]
  | word name => rfl
  | path p => rfl
  | literal value => rfl

theorem withHelpers_call (line : Line Json) : r.withHelpers.call line = r.call line := by
  have hevaluate : r.withHelpers.evaluate = r.evaluate := funext r.withHelpers_evaluate
  rw [Registry.call, call, withHelpers_calleeName, hevaluate]

theorem withHelpers_showCall (sub : Show) (line : Line Json) (body otherwise : Option Body) :
    r.withHelpers.showCall sub line body otherwise = r.showCall sub line body otherwise := by
  rw [Registry.showCall, showCall, withHelpers_call]
  rfl

theorem withHelpers_showValue (sub : Show) (line : Line Json) :
    r.withHelpers.showValue sub line = r.showValue sub line := by
  rw [Registry.showValue, showValue, withHelpers_calleeName, withHelpers_evaluate,
    withHelpers_showCall]
  rfl

theorem withHelpers_decorate (line : Line Json) (body : Option Body) :
    r.withHelpers.decorate line body = r.decorate line body := by
  rw [Registry.decorate, decorate_eq, withHelpers_call]

theorem withHelpers_decorateAll (body : Body) :
    r.withHelpers.decorateAll body = r.decorateAll body := by
  induction body using Repertoire.decorateAll.induct with
  | case1 => rw [Registry.decorateAll, decorateAll]
  | case2 position line body rest ih =>
    rw [Registry.decorateAll, decorateAll, withHelpers_decorate, ih]
  | case3 head rest hne ih =>
    rw [Registry.decorateAll, decorateAll, ih]
    · exact hne
    · exact hne

theorem withHelpers_showPart (sub : Show) (line : Line Json) (indent : Option String)
    (body : Option Body) :
    r.withHelpers.showPart sub line indent body = r.showPart sub line indent body := by
  rw [Registry.showPart, showPart, withHelpers_call, withHelpers_decorateAll]
  rfl

theorem withHelpers_showElement (sub : Show) (e : Element) :
    r.withHelpers.showElement sub e = r.showElement sub e := by
  cases e with
  | text s => rfl
  | comment => rfl
  | value line escaped =>
    cases escaped with
    | true => exact r.withHelpers_showValue sub line
    | false => rw [Registry.showElement, showElement, withHelpers_showValue]
  | block line body otherwise => exact r.withHelpers_showCall sub line (some body) otherwise
  | decorator line body => rw [Registry.showElement, showElement, withHelpers_decorate]
  | part line indent body => exact r.withHelpers_showPart sub line indent body

theorem withHelpers_showBody (n : Nat) (name : Option String) (body : Body) :
    r.withHelpers.showBody n name body = r.showBody n name body := by
  induction n generalizing name body with
  | zero => rfl
  | succ n ih =>
    have hsub : r.withHelpers.showBody n = r.showBody n :=
      funext fun name ↦ funext fun body ↦ ih name body
    have helement : r.withHelpers.showElement (r.showBody n) = r.showElement (r.showBody n) :=
      funext (r.withHelpers_showElement (r.showBody n))
    rw [Registry.showBody, showBody, hsub, helement]

/-- With the helpers that there are, a registry shows every template as its repertoire does. -/
theorem withHelpers_render (t : Compiled) : r.withHelpers.render t = r.render t := by
  rw [Registry.render, render, withHelpers_showBody]

end Repertoire

end Mailroom.Template
