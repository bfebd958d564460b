import Mailroom.Json.Text
import Mailroom.Text.Quoted

/-!
# The shape of a document

Taking a JSON value for a value of a given kind. A refusal names what was found and what was
expected. A record is read from an object, whose members are looked at in the order of their keys
and whose unknown members are passed over, or from an array, whose items stand for the fields in
their order.
-/

namespace Mailroom.Json

/-- Why a value does not have the expected shape. -/
inductive ShapeError where
  | invalidType (found : Json) (expected : String)
  | invalidValue (found : Json) (expected : String)
  | invalidLength (length : Nat) (expected : String)
  | unknownVariant (name : String) (known : List String)
  | missingField (name : String)

/-- How a value is named in a refusal. -/
def describe : Json → String
  | .null => "null"
  | .bool b => s!"boolean `{b}`"
  | .num (.int i) => s!"integer `{String.ofList (Number.intText i)}`"
  | .num (.float x) => s!"floating point `{String.ofList (Number.floatText x)}`"
  | .str s => s!"string {Text.quoted s}"
  | .arr _ => "sequence"
  | .obj _ => "map"

/-- The names that may stand in a place. -/
def oneOf : List String → String
  | [] => "there are no variants"
  | [a] => s!"expected `{a}`"
  | [a, b] => s!"expected `{a}` or `{b}`"
  | names => "expected one of " ++ ", ".intercalate (names.map fun n => s!"`{n}`")

/-- The wording of a refusal. -/
def ShapeError.message : ShapeError → String
  | .invalidType found expected => s!"invalid type: {describe found}, expected {expected}"
  | .invalidValue found expected => s!"invalid value: {describe found}, expected {expected}"
  | .invalidLength n expected => s!"invalid length {n}, expected {expected}"
  | .unknownVariant name known => s!"unknown variant `{name}`, {oneOf known}"
  | .missingField name => s!"missing field `{name}`"

/-- The answer of a shape. -/
abbrev Shaped (α : Type) := Except ShapeError α

namespace Shape

/-- A string. -/
def text : Json → Shaped String
  | .str s => .ok s
  | v => .error (.invalidType v "a string")

/-- A truth value. -/
def bool : Json → Shaped Bool
  | .bool b => .ok b
  | v => .error (.invalidType v "a boolean")

/-- An unsigned integer below `2 ^ width`. -/
def unsigned (width : Nat) (name : String) : Json → Shaped Nat
  | .num (.int i) =>
    if 0 ≤ i ∧ i < Nat.pow 2 width then .ok i.toNat
    else .error (.invalidValue (.num (.int i)) name)
  | v => .error (.invalidType v name)

/-- A binary64 number. -/
def float : Json → Shaped Float
  | .num n => .ok n.toFloat
  | v => .error (.invalidType v "f64")

/-- A value that may be `null`. -/
def optional (shape : Json → Shaped α) : Json → Shaped (Option α)
  | .null => .ok none
  | v => (shape v).map some

/-- A list. -/
def list (shape : Json → Shaped α) : Json → Shaped (List α)
  | .arr items => items.mapM shape
  | v => .error (.invalidType v "a sequence")

/-- An object of any members. -/
def members : Json → Shaped Members
  | .obj ms => .ok ms
  | v => .error (.invalidType v "a map")

/-- An object all of whose values have one shape. -/
def table (shape : Json → Shaped α) (v : Json) : Shaped (List (String × α)) := do
  (← members v).mapM fun (k, v) => return (k, ← shape v)

/-- One of several names, written as a string, or as an object of one member that holds `null`. -/
def variant (known : List (String × α)) : Json → Shaped α
  | .str s => choose s
  | .obj [(s, inner)] => do
    let a ← choose s
    if inner.isNull then pure a else throw (.invalidType inner "unit")
  | .obj ms => .error (.invalidValue (.obj ms) "map with a single key")
  | v => .error (.invalidType v "string or map")
where
  choose (s : String) : Shaped α :=
    match known.lookup s with
    | some a => .ok a
    | none => .error (.unknownVariant s (known.map (·.1)))

/-- A field of a record: what its value must look like, and whether it may be left out. -/
structure Field where
  name : String
  required : Bool
  check : Json → Shaped Unit

/-- A field that must be there. -/
def Field.must (name : String) (shape : Json → Shaped α) : Field :=
  ⟨name, true, fun v => (shape v).map fun _ => ()⟩

/-- A field that may be left out. -/
def Field.may (name : String) (shape : Json → Shaped α) : Field :=
  ⟨name, false, fun v => (shape v).map fun _ => ()⟩

/-- Check the members of an object that are fields of a record. -/
def checkMembers (fields : List Field) : Members → Shaped Unit
  | [] => .ok ()
  | (k, v) :: rest => do
    match fields.find? (·.name == k) with
    | some f => f.check v
    | none => pure ()
    checkMembers fields rest

/-- Check the items of an array against the fields from number `n` on. -/
def checkItems (expected : String) : Nat → List Field → List Json → Shaped Unit
  | _, [], _ => .ok ()
  | n, f :: fs, [] =>
    if f.required then .error (.invalidLength n expected) else checkItems expected (n + 1) fs []
  | n, f :: fs, v :: vs => do
    f.check v
    checkItems expected (n + 1) fs vs

/-- The checked values of the fields of a record, by name. -/
def record (name : String) (fields : List Field) : Json → Shaped Members
  | .obj ms => do
    checkMembers fields ms
    match fields.find? fun f => f.required && (Members.get? ms f.name).isNone with
    | some f => throw (.missingField f.name)
    | none => pure ms
  | .arr items => do
    let noun := if fields.length = 1 then "element" else "elements"
    checkItems s!"struct {name} with {fields.length} {noun}" 0 fields items
    if fields.length < items.length then
      throw (.invalidLength items.length "fewer elements in array")
    else pure (Members.ofList ((fields.map (·.name)).zip items))
  | v => .error (.invalidType v s!"struct {name}")

/-- A field of a checked record. -/
def get (ms : Members) (name : String) (shape : Json → Shaped α) : Shaped α :=
  match ms.get? name with
  | some v => shape v
  | none => .error (.missingField name)

/-- A field of a checked record, with the value it has when it was left out. -/
def getD (ms : Members) (name : String) (shape : Json → Shaped α) (default : α) : Shaped α :=
  match ms.get? name with
  | some v => shape v
  | none => .ok default

end Shape

end Mailroom.Json
