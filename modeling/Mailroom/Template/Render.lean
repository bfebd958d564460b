import Mailroom.Template.Helper
import Mailroom.Text.Case

/-!
# Rendering

Showing a template with some data. A body is shown element by element, and what a tag shows is the
text of a value, of a body of its block, or of a part. Tags inside of a body change the state of the
rendering, the stage, for what comes behind them; what happens inside of a part stays there.
-/

namespace Mailroom.Template

/-- What a rendering has at hand: the data, the texts of the locales, and the templates that can be
put in by name. -/
structure Repertoire where
  root : Json
  store : Locale.Store
  templates : List (String × Compiled)

/-- The state of a rendering. -/
structure Stage where
  scopes : List Scope := [{}]
  /-- The parts that have been defined on the way. -/
  defined : List (String × Body) := []
  /-- The bodies that parts have been given, the innermost first. -/
  given : List Body := []
  /-- How many given bodies are being shown one inside of the other. -/
  depth : Nat := 0
  /-- The blanks in front of every line of the present part. -/
  indent : Option String := none
  /-- Whether values are shown as they are. -/
  plain : Bool := false
  /-- The name of the template that was begun last. -/
  current : Option String := none

/-- A step of a rendering. -/
abbrev Rendering (α : Type) := StateT Stage (Attempt RenderError) α

namespace Rendering

/-- Fail. -/
def fail (fault : Fault) : Rendering α := throw { fault }

/-- Take an answer for a step. -/
def ofExcept : Except Fault α → Rendering α
  | .ok a => pure a
  | .error fault => fail fault

/-- Take an operation that may log and count for a step. -/
def ofAttempt (act : Attempt Fault α) : Rendering α :=
  StateT.lift (ExceptT.adapt (fun fault => { fault }) act)

/-- Note in a failure where it occurred. -/
def located (position : Option Position) (act : Rendering α) : Rendering α := fun stage =>
  ExceptT.adapt (RenderError.locate position) (act stage)

/-- Note in a failure the template in which it occurred. -/
def within (name : Option String) (act : Rendering α) : Rendering α := fun stage =>
  ExceptT.adapt (RenderError.inTemplate name) (act stage)

end Rendering

open Rendering (fail ofExcept ofAttempt)

/-! ## Output -/

/-- Text as it stands in the present part. -/
def write (text : String) : Rendering String := do
  match (← get).indent with
  | some blanks => return String.ofList (indented blanks.toList text.toList)
  | none => return text

/-- A value as it stands in the present part. -/
def writeValue (v : Json) : Rendering String := do
  if (← get).plain then write (shown v) else write (escaped (shown v))

/-! ## Arguments -/

/-- The setting of a helper that is called now. -/
def Repertoire.setting (r : Repertoire) : Rendering Setting := do
  return { root := r.root, scopes := (← get).scopes, store := r.store }

/-- Levels of the log, by their names. -/
def logLevels : List (String × Log.Level) :=
  [("error", .error), ("warn", .warn), ("info", .info), ("debug", .debug), ("trace", .trace)]

/-- Write the arguments of a call to the log. -/
def logArguments (c : Call) : Rendering Unit := do
  let level := ((c.option? "level").bind Json.text?).getD "info"
  match logLevels.lookup (Text.asciiLower level) with
  | none => fail (.unknownLevel level)
  | some level =>
    let line (f : Found) : String :=
      match f.source with
      | some source => source ++ ": " ++ shown f.value
      | none => shown f.value
    ofAttempt (Journal.log {
      level
      target := "handlebars::helpers::helper_log"
      message := ", ".intercalate (c.args.map line) })

/-- What a helper does when there is no body to show. -/
def Helper.bodiless (h : Helper) (s : Setting) (c : Call) : Rendering Unit :=
  match h with
  | .choice test => do let _ ← ofExcept (test s c)
  | .each => do let _ ← ofExcept (c.require "each" 0)
  | .inside => do let _ ← ofExcept (c.require "with" 0)
  | .log => logArguments c
  | .value _ | .equality _ | .verbatim => pure ()

/-- The value of a call among the arguments of a tag. A helper that shows no value gives the empty
text. -/
def Helper.result (h : Helper) (s : Setting) (c : Call) : Rendering Json :=
  match h with
  | .value f => ofAttempt (f s c)
  | .equality test => return .bool (test (c.arg 0) (c.arg 1))
  | _ => do
    h.bodiless s c
    return .str ""

/-- Arguments given by name, in the order of the names; of a repeated name the last one counts. -/
def namedArguments (given : List (Option String × α)) : List (String × α) :=
  let named := given.filterMap fun (key, a) => key.map fun k => (k, a)
  let last := named.reverse.foldl (fun kept a =>
    if kept.any (·.1 == a.1) then kept else a :: kept) []
  last.mergeSort fun a b => decide (a.1 ≤ b.1)

mutual

/-- Evaluate an argument. Among the arguments of a call those without a name come first. -/
def Repertoire.evaluate (r : Repertoire) : Argument Json → Rendering Found
  | .word name => return { Found.nothing with source := some name }
  | .path p => do
    let found ← ofExcept (find r.root (← get).scopes p)
    return { found with source := some p.source }
  | .literal value => return .derived value
  | .call callee given => do
    let args ← r.evaluateSome Option.isNone given
    let named ← r.evaluateSome Option.isSome given
    let name := callee.title
    match helper? name with
    | none => fail (.helperNotFound name)
    | some h =>
      return .derived (← h.result (← r.setting)
        { name, args := args.map (·.2), named := namedArguments named })

/-- Evaluate the arguments of one sort. -/
def Repertoire.evaluateSome (r : Repertoire) (wanted : Option String → Bool) :
    List (Option String × Argument Json) → Rendering (List (Option String × Found))
  | [] => return []
  | (key, argument) :: rest => do
    if wanted key then
      let found ← r.evaluate argument
      return (key, found) :: (← r.evaluateSome wanted rest)
    else r.evaluateSome wanted rest

end

/-- The name that stands in a tag. A call in the place of a name is evaluated. -/
def Repertoire.calleeName (r : Repertoire) : Argument Json → Rendering String
  | .call callee given => return shown (← r.evaluate (.call callee given)).value
  | a => return a.title

/-- The call that a tag makes: first the arguments without a name, then those given by name, are
evaluated. -/
def Repertoire.call (r : Repertoire) (line : Line Json) : Rendering Call := do
  let name ← r.calleeName line.callee
  let args ← line.positional.mapM r.evaluate
  let named ← (namedArguments line.given).mapM fun (key, a) => return (key, ← r.evaluate a)
  return { name, args, named }

/-! ## Blocks -/

/-- Shows a body, which may belong to a template with a name. -/
abbrev Show := Option String → Body → Rendering String

/-- Show a body if there is one. -/
def Show.optional (sub : Show) : Option Body → Rendering String
  | some body => sub none body
  | none => return ""

/-- Do something in a further scope. -/
def inScope (scope : Scope) (act : Rendering α) : Rendering α := do
  let outer := (← get).scopes
  modify fun s => { s with scopes := scope :: outer }
  let a ← act
  modify fun s => { s with scopes := outer }
  return a

/-- The scope of an item of a collection, or of the value itself: at its place, if it has one. -/
def scopeOf (place : Option (List String)) (value : Json) : Scope :=
  match place with
  | some path => { base := path }
  | none => { own := some value }

/-- What the first of the names of a block stands for. -/
def bindingOf (place : Option (List String)) (value : Json) : Binding :=
  if place.isSome then .place [] else .value value

/-- Show a body for the items of a collection, given with their keys, the name of the variable that
holds the key, and the key as a value. -/
def eachItem (sub : Show) (line : Line Json) (place : Option (List String)) (body : Body)
    (counter : String) (items : List (String × Json × Json)) : Rendering String := do
  let count := items.length
  let texts ← items.mapIdxM fun i (key, keyValue, value) =>
    let place := place.map fun path => path ++ [key]
    let locals := [("first", Json.bool (i == 0)), ("last", .bool (i + 1 == count)),
      (counter, keyValue)]
    let names := match line.names with
      | [v] => [(v, bindingOf place value)]
      | [v, k] => [(k, .value keyValue), (v, bindingOf place value)]
      | _ => []
    inScope { scopeOf place value with locals, names } (sub none body)
  return String.join texts

/-- Show a body for every item of an array or member of an object. -/
def showEach (sub : Show) (line : Line Json) (c : Call) (body : Body) (otherwise : Option Body) :
    Rendering String := do
  let collection ← ofExcept (c.require "each" 0)
  let fallback := sub.optional otherwise
  match collection.value with
  | .arr [] | .obj [] => fallback
  | .arr items =>
    eachItem sub line collection.place body "index" (items.mapIdx fun i v =>
      (String.ofList (Number.natText i), Json.ofNat i, v))
  | .obj members =>
    eachItem sub line collection.place body "key" (members.map fun (k, v) => (k, .str k, v))
  | _ => fallback

/-- Show a body in the scope of a value that counts as true. -/
def showInside (sub : Show) (line : Line Json) (c : Call) (body : Body) (otherwise : Option Body) :
    Rendering String := do
  let found ← ofExcept (c.require "with" 0)
  if truthy false found.value then
    let names := match line.names with
      | [v] => [(v, bindingOf found.place found.value)]
      | _ => []
    inScope { scopeOf found.place found.value with names } (sub none body)
  else sub.optional otherwise

/-- Show a tag that calls a helper. Only the tag of a block has a body. -/
def Repertoire.showCall (r : Repertoire) (sub : Show) (line : Line Json)
    (body otherwise : Option Body) : Rendering String := do
  let c ← r.call line
  match helper? c.name with
  | none => fail (.helperNotFound c.name)
  | some h =>
    let s ← r.setting
    match h, body with
    | .value f, _ => writeValue (← ofAttempt (f s c))
    | .equality test, none =>
      return if test (c.arg 0) (c.arg 1) then "true" else "false"
    | .equality test, some body =>
      if test (c.arg 0) (c.arg 1) then sub none body else sub.optional otherwise
    | .choice test, some body =>
      if ← ofExcept (test s c) then sub none body else sub.optional otherwise
    | .each, some body => showEach sub line c body otherwise
    | .inside, some body => showInside sub line c body otherwise
    | .verbatim, some body => sub none body
    | h, _ => do
      h.bodiless s c
      return ""

/-- Show a tag that stands for a value: the answer of a helper, if there is one of the name, or the
value that is found. -/
def Repertoire.showValue (r : Repertoire) (sub : Show) (line : Line Json) : Rendering String := do
  if line.isBare then
    let name ← r.calleeName line.callee
    if (helper? name).isSome then r.showCall sub line none none
    else
      let found ← r.evaluate line.callee
      if found.missing then return "" else writeValue found.value
  else r.showCall sub line none none

/-! ## Parts -/

/-- Carry out a decorator. The only one there is defines a part. -/
def Repertoire.decorate (r : Repertoire) (line : Line Json) (body : Option Body) :
    Rendering Unit := do
  let c ← r.call line
  if c.name != "inline" then fail (.decoratorNotFound c.name)
  match ← ofExcept (c.require "inline" 0) with
  | { value := .str name, .. } =>
    match body with
    | some body => modify fun s => { s with defined := (name, body) :: s.defined }
    | none => fail .bodyRequired
  | _ => fail (.wrongType "String")

/-- Carry out the decorators in a body. -/
def Repertoire.decorateAll (r : Repertoire) : Body → Rendering Unit
  | [] => pure ()
  | (position, .decorator line body) :: rest => do
    Rendering.located position (r.decorate line body)
    r.decorateAll rest
  | _ :: rest => r.decorateAll rest

/-- The name of the body that the present part was given. -/
def givenBody : String := "@partial-block"

/-- The part of a name: one that was defined on the way, one of the repertoire, or the body that
comes with the tag. -/
def Repertoire.part? (r : Repertoire) (s : Stage) (name : String) (body : Option Body) :
    Option Compiled :=
  let defined := if name = givenBody then s.given[s.depth]? else s.defined.lookup name
  defined.map (fun body => { body := body }) <|> r.templates.lookup name
    <|> body.map fun body => { body := body }

/-- The scopes in which a part is shown. An argument with a place in the data makes a new scope; and
arguments given by name are put among the members of the present value. -/
def Repertoire.partScopes (r : Repertoire) (c : Call) (scopes : List Scope) :
    Except Fault (List Scope) := do
  let fresh : Option Scope := (c.args.head?.bind Found.place).map fun path => { base := path }
  let scopes := match fresh with
    | some s => [s]
    | none => scopes
  if c.named.isEmpty then return scopes
  let scope := scopes.headD {}
  let present ← follow r.root [scope] []
  let members := (present.value.members?).getD []
  let merged := c.named.foldl (fun ms (k, f) => Json.Members.insert k f.value ms) members
  return [{ scope with own := some (.obj merged) }]

/-- Show a part. Its changes to the stage end with it. -/
def Repertoire.showPart (r : Repertoire) (sub : Show) (line : Line Json) (indent : Option String)
    (body : Option Body) : Rendering String := do
  let c ← r.call line
  r.decorateAll (body.getD [])
  let stage ← get
  if stage.current = some c.name then fail .partInItself
  match r.part? stage c.name body with
  | none => fail (.partNotFound c.name)
  | some part =>
    let scopes ← ofExcept (r.partScopes c stage.scopes)
    set { stage with
      scopes, indent
      depth := if c.name = givenBody then stage.depth + 1 else stage.depth - 1
      given := body.toList ++ stage.given }
    let text ← sub part.name part.body
    set stage
    return text

/-! ## Templates -/

/-- Show an element. -/
def Repertoire.showElement (r : Repertoire) (sub : Show) : Element → Rendering String
  | .text s => write s
  | .comment => return ""
  | .value line true => r.showValue sub line
  | .value line false => do
    modify fun s => { s with plain := true }
    let text ← r.showValue sub line
    modify fun s => { s with plain := false }
    return text
  | .block line body otherwise => r.showCall sub line (some body) otherwise
  | .decorator line body => do
    r.decorate line body
    return ""
  | .part line indent body => r.showPart sub line indent body

/-- Show a body, with at most `n` bodies one inside of the other. -/
def Repertoire.showBody (r : Repertoire) : Nat → Show
  | 0, _, _ => fail .nestedTooDeep
  | n + 1, name, body => do
    modify fun s => { s with current := name }
    let texts ← body.mapM fun (position, e) =>
      Rendering.within name (Rendering.located position (r.showElement (r.showBody n) e))
    return String.join texts

/-- The greatest number of bodies one inside of the other. -/
def nestingLimit : Nat := 600

/-- Show a template. -/
def Repertoire.render (r : Repertoire) (t : Compiled) : Attempt RenderError String := do
  let (text, _) ← (r.showBody nestingLimit t.name t.body).run {}
  return text

end Mailroom.Template
