import Mailroom.Calendar.Instant
import Mailroom.Calendar.Reading
import Mailroom.Locale.Presentation
import Mailroom.Locale.Wording
import Mailroom.Money.Amount
import Mailroom.Payload.Salutation
import Mailroom.Payload.Value
import Mailroom.Template.Scope
import Mailroom.Template.Value

/-!
# Helpers

The functions that a template can call. Most of them give a value. Some choose between the two
bodies of a block, and a few show a body in scopes of their own, which is the work of the renderer;
for these only the name is given here.
-/

namespace Mailroom.Template

/-- What a helper sees of the rendering: the data, the scopes around the call, and the texts of the
locales. -/
structure Setting where
  root : Json
  scopes : List Scope
  store : Locale.Store

/-- A call of a helper with its evaluated arguments, those given by name in the order of the
names. -/
structure Call where
  name : String
  args : List Found
  named : List (String × Found)

namespace Call

/-- The value of an argument, `null` if it is absent. -/
def arg (c : Call) (index : Nat) : Json := (c.args[index]?.map Found.value).getD .null

/-- An argument that must be there. -/
def require (c : Call) (helper : String) (index : Nat) : Except Fault Found :=
  match c.args[index]? with
  | some a => .ok a
  | none => .error (.argumentMissing helper index)

/-- The value of an argument given by name. -/
def option? (c : Call) (name : String) : Option Json := (c.named.lookup name).map Found.value

/-- The values of all arguments without a name. -/
def values (c : Call) : List Json := c.args.map Found.value

end Call

/-! ## The presentation in force -/

/-- The name under which a scope or the data states its presentation. -/
def presentationKey : String := "__meta"

/-- The presentation in force: that of the present scope, or else that of the data. -/
def Setting.presentation (s : Setting) : Json :=
  let inScope := match find s.root s.scopes ⟨presentationKey, [.into presentationKey]⟩ with
    | .ok found => if found.value.isObject then some found.value else none
    | .error _ => none
  (inScope <|> (s.root.get? presentationKey).filter Json.isObject).getD .null

/-- A text in the presentation that is not empty. -/
def Setting.presented (s : Setting) (field : String) : Option String :=
  ((s.presentation.get? field).bind Json.text?).filter (· != "")

/-- Whether text runs from the right to the left. -/
def Setting.rightToLeft (s : Setting) : Bool := s.presented "direction" == some Direction.rtl.tag

/-! ## Helpers that give a value -/

/-- The part of the service to which the helpers belong. -/
def helperTarget : String := "ara_email_service::template::helpers"

/-- Note that a helper was given nothing to work with. -/
def noteEmpty (helper : String) : Journaled Unit := do
  Journal.log {
    level := .warn
    target := helperTarget
    message := "Template helper received an empty value"
    fields := [("helper", .quoted helper)] }
  Journal.count (.emptyValue helper)

/-- What a helper gives that was given nothing to work with. -/
def emptyFor (helper : String) : Attempt Fault Json := do
  noteEmpty helper
  return .str ""

/-- The text under a key in the locale of the presentation. Arguments given by name are its
parameters. -/
def localized (s : Setting) (c : Call) : Attempt Fault Json := do
  let key ← match ← ExceptT.mk (pure (c.require "t" 0)) with
    | { value := .str key, .. } => pure key
    | _ => throw (.wrongType "string")
  match s.presented "locale" with
  | none =>
    Journal.log {
      level := .warn
      target := helperTarget ++ "::translate"
      message := "t helper missing locale"
      fields := [("key", .plain key)] }
    return .str ""
  | some locale =>
    return .str (← s.store.textFor locale key (c.named.map fun (k, f) => (k, f.value)))

/-- A date in the form in which dates are shown. -/
def dated (helper : String) (form : Json → String) (c : Call) : Attempt Fault Json :=
  if Payload.isEmpty (c.arg 0) then emptyFor helper else return .str (form (c.arg 0))

/-- The present time. -/
def presentTime : Attempt Fault Json := return .str (Calendar.offsetStamp (← Journal.clock))

/-- The currency of an amount that comes without one. -/
def defaultCurrency : String := "TRY"

/-- The currency that is given, unless it is blank. -/
def currencyOf (v : Json) : String :=
  (v.text?.filter fun s => !Text.isBlankText s).getD defaultCurrency

/-- An amount of money in the style of the presentation. -/
def priced (s : Setting) (c : Call) : Attempt Fault Json :=
  if Payload.isEmpty (c.arg 0) then emptyFor "formatCurrency"
  else match Money.amount? (c.arg 0) with
    | none => throw (.wrongType "number")
    | some amount =>
      let tag := (s.presented "intlLocale").getD Locale.defaultNumberTag
      return .str (Money.format amount (currencyOf (c.arg 1)) tag)

/-- A sum. -/
def summed (c : Call) : Attempt Fault Json :=
  match Payload.add (c.arg 0) (c.arg 1) with
  | some sum => return sum
  | none => throw (.wrongType "number")

/-- A value that may be missing; then a warning names the field. -/
def safe (c : Call) : Attempt Fault Json :=
  if Payload.isEmpty (c.arg 0) then do
    Journal.log {
      level := .warn
      target := helperTarget ++ "::values"
      message := "Template field is missing or empty"
      fields := [("field", .plain ((c.arg 1).text?.getD "unknown"))] }
    emptyFor "safe"
  else return c.arg 0

/-- The item of an array or the member of an object under a key. -/
def lookedUp (c : Call) : Except Fault Json := do
  let collection ← c.require "lookup" 0
  let key ← c.require "lookup" 1
  return (match collection.value, key.value with
    | .arr items, .num (.int i) => if 0 ≤ i then items[i.toNat]? else none
    | .obj members, .str k => Json.Members.get? members k
    | _, _ => none).getD .null

/-- The size of an array, an object or a string. A string is measured in bytes. -/
def measure : Json → Nat
  | .arr items => items.length
  | .obj members => members.length
  | .str s => s.utf8ByteSize
  | _ => 0

/-- A parameter, by its place and its name. -/
def parameter (c : Call) (index : Nat) (name : String) : Except Fault Json :=
  match c.args[index]? with
  | some a => .ok a.value
  | none => .error (.parameterMissing c.name name)

/-- A parameter that is an integer of 64 bits. -/
def integerParameter (c : Call) (index : Nat) (name : String) : Except Fault Int := do
  match ← parameter c index name with
  | .num n =>
    match n.int64? with
    | some i => .ok i
    | none => .error (.parameterMismatch c.name name "i64")
  | _ => .error (.parameterMismatch c.name name "i64")

/-- A test of two values. -/
def test (c : Call) (holds : Json → Json → Bool) : Except Fault Json := do
  let x ← parameter c 0 "x"
  let y ← parameter c 1 "y"
  return .bool (holds x y)

/-- A comparison of two integers. -/
def comparison (c : Call) (holds : Int → Int → Bool) : Except Fault Json := do
  let x ← integerParameter c 0 "x"
  let y ← integerParameter c 1 "y"
  return .bool (holds x y)

/-- A function of one parameter. -/
def applied (c : Call) (f : Json → Json) : Except Fault Json := do
  return f (← parameter c 0 "x")

/-! ## The set of helpers -/

/-- What a helper does.

* `value`: gives a value;
* `choice`: shows the body of a block or what stands in for it;
* `equality`: tells whether its two arguments are equal; in a block it chooses;
* `each`: shows the body for every item;
* `inside`: shows the body in the scope of a value;
* `verbatim`: shows the body;
* `log`: writes its arguments to the log. -/
inductive Helper where
  | value (f : Setting → Call → Attempt Fault Json)
  | choice (test : Setting → Call → Except Fault Bool)
  | equality (test : Json → Json → Bool)
  | each
  | inside
  | verbatim
  | log

/-- Whether the first argument counts as true. -/
def condition (c : Call) : Except Fault Bool := do
  let a ← c.require "if" 0
  let includeZero := match c.option? "includeZero" with
    | some (.bool b) => b
    | _ => false
  return truthy includeZero a.value

/-- A helper whose value hangs on its call alone. -/
def Helper.ofCall (f : Call → Except Fault Json) : Helper :=
  .value fun _ c => ExceptT.mk (pure (f c))

/-- The helper of a name. -/
def helper? : String → Option Helper
  | "t" => some (.value localized)
  | "ifRTL" => some (.choice fun s _ => .ok s.rightToLeft)
  | "ifEquals" => some (.equality Payload.same)
  | "ifEqualsIgnoreCase" => some (.equality Payload.alike)
  | "formatDate" => some (.value fun _ => dated "formatDate" Calendar.showDate)
  | "formatDateRange" => some (.value fun _ => dated "formatDateRange" Calendar.showRange)
  | "now" => some (.value fun _ _ => presentTime)
  | "formatCurrency" => some (.value priced)
  | "add" => some (.value fun _ => summed)
  | "or" => some (.ofCall fun c => .ok ((Payload.firstPresent c.values).getD (.str "")))
  | "firstValid" => some (.ofCall fun c => .ok ((Payload.firstMeaningful c.values).getD (.str "")))
  | "concat" => some (.ofCall fun c => .ok (.str (String.join (c.values.map Json.display))))
  | "safe" => some (.value fun _ => safe)
  | "salutation" =>
    some (.ofCall fun c => .ok (.str (Payload.Salutation.ofGuest (c.arg 0)).token))
  | "if" => some (.choice fun _ c => condition c)
  | "unless" => some (.choice fun _ c => (condition c).map not)
  | "each" => some .each
  | "with" => some .inside
  | "raw" => some .verbatim
  | "log" => some .log
  | "lookup" => some (.ofCall lookedUp)
  | "eq" => some (.ofCall fun c => test c (· == ·))
  | "ne" => some (.ofCall fun c => test c (· != ·))
  | "gt" => some (.ofCall fun c => comparison c fun x y => decide (x > y))
  | "gte" => some (.ofCall fun c => comparison c fun x y => decide (x ≥ y))
  | "lt" => some (.ofCall fun c => comparison c fun x y => decide (x < y))
  | "lte" => some (.ofCall fun c => comparison c fun x y => decide (x ≤ y))
  | "and" => some (.ofCall fun c => test c fun x y => truthy false x && truthy false y)
  | "not" => some (.ofCall fun c => applied c fun x => .bool (!truthy false x))
  | "len" => some (.ofCall fun c => applied c fun x => Json.ofNat (measure x))
  | _ => none

end Mailroom.Template
