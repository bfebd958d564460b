import Mailroom.Json.Basic

/-!
# Templates

A template is a text with tags. Some tags stand for a value, some open a block whose body is shown
under a condition or several times over, and some put another template, a part, into the text. This
module holds the tree that a template source is read into.
-/

namespace Mailroom.Template

/-- A place in a source: line and column, both counted from one. -/
structure Position where
  line : Nat := 1
  column : Nat := 1
deriving DecidableEq, Repr

/-- A step of a path. -/
inductive Step where
  /-- To a member of an object or an item of an array. -/
  | into (name : String)
  /-- To the data that the whole template is shown with. -/
  | root
  /-- To the scope around the present one. -/
  | outward
  /-- To the variables of the present scope. -/
  | locals
deriving DecidableEq, Repr

/-- A path to a value, with the text it was read from. -/
structure Path where
  source : String
  steps : List Step
deriving DecidableEq, Repr

/-- Count the steps outward at the front. -/
def countOutward : List Step → Nat × List Step
  | .outward :: steps => let (n, rest) := countOutward steps; (n + 1, rest)
  | steps => (0, steps)

/-- The variable that a path stands for: how many scopes outward, and its name. -/
def Path.variable? (p : Path) : Option (Nat × String) :=
  match p.steps with
  | .locals :: steps =>
    match countOutward steps with
    | (n, .into name :: _) => some (n, name)
    | _ => none
  | _ => none

/-- An argument of a tag. Literals are of type `α`: the text of a JSON value at first, and the value
itself later. Arguments are given in order, some of them by name. -/
inductive Argument (α : Type) where
  | word (name : String)
  | path (path : Path)
  | literal (value : α)
  | call (callee : Argument α) (given : List (Option String × Argument α))

/-- How what is called is named in messages and by a closing tag. -/
def Argument.title : Argument α → String
  | .word name => name
  | .path p => p.source
  | .literal _ => ""
  | .call callee _ => callee.title

/-- What stands in a tag: what is called or shown, the arguments, and the names by which the body
of the tag refers to the value it is shown for. -/
structure Line (α : Type) where
  callee : Argument α
  given : List (Option String × Argument α) := []
  names : List String := []

namespace Line

/-- Whether a line consists of a name alone. -/
def isBare (l : Line α) : Bool := l.given.isEmpty

/-- The arguments without a name. -/
def positional (l : Line α) : List (Argument α) :=
  l.given.filterMap fun g => if g.1.isNone then some g.2 else none

end Line

/-- A piece of a template. The elements of a body carry the place of their tag, if it counts for
the report of a failure. -/
inductive Element where
  | text (value : String)
  | value (line : Line Json) (escaped : Bool)
  | block (line : Line Json) (body : List (Option Position × Element))
      (otherwise : Option (List (Option Position × Element)))
  | decorator (line : Line Json) (body : Option (List (Option Position × Element)))
  | part (line : Line Json) (indent : Option String)
      (body : Option (List (Option Position × Element)))
  | comment

/-- The elements of a template, or of what a tag encloses. -/
abbrev Body := List (Option Position × Element)

/-- A compiled template. Parts have a name, which is shown in the report of a failure. -/
structure Compiled where
  name : Option String := none
  body : Body := []

end Mailroom.Template
