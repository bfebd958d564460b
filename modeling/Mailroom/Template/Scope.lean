import Mailroom.Number.Reading
import Mailroom.Template.Fault

/-!
# Scopes

Where the paths of a template lead. The data that a template is shown with is the root. A block may
open a scope, whose base is a place in the root or a value of its own, and which may hold variables
and names for its value. Paths begin at the base of the innermost scope, unless they say otherwise.
-/

namespace Mailroom.Template

/-- What a name in a scope stands for: a place below the base of the scope, or a value. -/
inductive Binding where
  | place (path : List String)
  | value (v : Json)

/-- A scope. -/
structure Scope where
  base : List String := []
  /-- The value that paths begin at, in place of the one at the base. -/
  own : Option Json := none
  locals : List (String × Json) := []
  names : List (String × Binding) := []

/-- The outcome of a search: a value, `null` if nothing was found, and its place in the root, if it
lies there. -/
structure Found where
  value : Json := .null
  place : Option (List String) := none
  missing : Bool := false
  /-- The path by which the value was searched. -/
  source : Option String := none

namespace Found

/-- A value that lies nowhere. -/
def derived (value : Json) : Found := { value }

/-- Nothing. -/
def nothing : Found := { missing := true }

end Found

/-- The value under a name. The items of an array have their numbers for names; nothing else can be
asked of an array. -/
def child (name : String) : Json → Except Fault (Option Json)
  | .arr items =>
    match Number.readUnsigned? 64 name.toList with
    | some i => .ok items[i]?
    | none => .error (.indexNotNumber name)
  | .obj members => .ok (Json.Members.get? members name)
  | _ => .ok none

/-- The value at the end of a list of names. -/
def descend : List String → Json → Except Fault (Option Json)
  | [], v => .ok (some v)
  | name :: names, v =>
    match child name v with
    | .ok (some inner) => descend names inner
    | .ok none => .ok none
    | .error e => .error e

/-- The names of the steps into members. -/
def memberNames (steps : List Step) : List String :=
  steps.filterMap fun
    | .into name => some name
    | _ => none

/-- What a name stands for, in the innermost scope that has it, and the base of that scope. -/
def binding? (name : String) (scopes : List Scope) : Option (Binding × List String) :=
  scopes.findSome? fun s => (s.names.lookup name).map fun b => (b, s.base)

/-- The value at a place in the root. -/
def atPlace (root : Json) (path : List String) : Except Fault Found := do
  match ← descend path root with
  | some value => .ok { value, place := some path }
  | none => .ok .nothing

/-- The value at the end of a list of names that begins at a value of its own. -/
def below (value : Json) (path : List String) : Except Fault Found := do
  match ← descend path value with
  | some v => .ok (.derived v)
  | none => .ok .nothing

/-- Follow names from the base of a scope. -/
def fromScope (root : Json) (scope : Option Scope) (names : List String) : Except Fault Found :=
  match scope with
  | none => atPlace root names
  | some s =>
    match s.own with
    | some v => below v names
    | none => atPlace root (s.base ++ names)

/-- Follow the steps of a path. -/
def follow (root : Json) (scopes : List Scope) (steps : List Step) : Except Fault Found :=
  let (depth, inner) := countOutward steps
  let bound := match inner with
    | .into name :: further => (binding? name scopes).map fun b => (b, memberNames further)
    | _ => none
  match bound with
  | some ((.value v, _), names) => below v names
  | some ((.place path, base), names) => atPlace root (base ++ path ++ names)
  | none =>
    let names := memberNames steps
    if depth > 0 then fromScope root (scopes[depth]? <|> scopes.head?) names
    else if inner.head? = some .root then atPlace root names
    else fromScope root scopes.head? names

/-- Find what a path stands for. -/
def find (root : Json) (scopes : List Scope) (path : Path) : Except Fault Found :=
  match path.variable? with
  | some (depth, name) =>
    match (scopes[depth]?).bind fun s => s.locals.lookup name with
    | some v => .ok (.derived v)
    | none => .ok .nothing
  | none => follow root scopes path.steps

end Mailroom.Template
