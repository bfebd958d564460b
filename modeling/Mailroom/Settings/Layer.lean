import Mailroom.Number.Plain
import Mailroom.Settings.Document
import Mailroom.Text.Case

/-!
# Layers of settings

Settings come from several sources, one upon the other. A value replaces what stands in its place,
but a table is laid into the table that is there. Values are taken as what is asked for wherever
there is a way to do so: a number stands for its text, a word for a truth value, a truth value for a
number.
-/

namespace Mailroom.Settings

/-- A value of one piece. -/
inductive Scalar where
  | absent
  | flag (value : Bool)
  | int (value : Int)
  | fraction (value : Float)
  | text (value : String)

/-- A value with the source that it comes from. A table that grew out of several sources has
none. -/
inductive Node where
  | scalar (source : Option String) (value : Scalar)
  | list (source : Option String) (items : List Node)
  | table (source : Option String) (entries : List (String × Node))

namespace Node

/-- A table without entries. -/
def empty : Node := .table none []

/-- The entries of a table. Other values have none. -/
def entries : Node → List (String × Node)
  | .table _ es => es
  | _ => []

/-- The items of a list. Other values have none. -/
def items : Node → List Node
  | .list _ vs => vs
  | _ => []

/-- Set the entry of a name. -/
def setEntry (name : String) (v : Node) : List (String × Node) → List (String × Node)
  | [] => [(name, v)]
  | (n, w) :: es => if n = name then (n, v) :: es else (n, w) :: setEntry name v es

/-- Change the entry of a name, whose capital letters do not count. What is no table gives way to
one. -/
def change (name : String) (f : Option Node → Node) (v : Node) : Node :=
  let name := Text.lower name
  let es := setEntry name (f (v.entries.lookup name)) v.entries
  match v with
  | .table source _ => .table source es
  | _ => .table none es

/-- Change an item. What is no list gives way to one, and a list grows as far as it has to. -/
def changeItem (n : Nat) (f : Option Node → Node) (v : Node) : Node :=
  let vs := v.items ++ List.replicate (n + 1 - v.items.length) (.scalar none .absent)
  let vs := vs.set n (f vs[n]?)
  match v with
  | .list source _ => .list source vs
  | _ => .list none vs

mutual

/-- A value that is laid upon what stands in its place. -/
def upon (existing : Option Node) : Node → Node
  | .table _ es => allUpon (existing.getD empty) es
  | v => v

/-- Entries that are laid into a value. -/
def allUpon (existing : Node) : List (String × Node) → Node
  | [] => existing
  | (name, v) :: es => allUpon (existing.change name fun old => upon old v) es

end

/-- A step on the way to a value. -/
inductive Step where
  | entry (name : String)
  | item (index : Nat)
deriving DecidableEq, Repr

/-- A character of a name in a path. -/
def isNameChar (c : Char) : Bool := c.isAlphanum || c = ' ' || c = '-' || c = '_'

/-- The steps behind the first one: names behind dots, and numbers in brackets. The number bounds
them. -/
def stepsOf? : Nat → List Char → Option (List Step)
  | _, [] => some []
  | 0, _ :: _ => none
  | n + 1, '.' :: cs =>
    let name := cs.takeWhile isNameChar
    if name.isEmpty then none
    else (stepsOf? n (cs.dropWhile isNameChar)).map (.entry (String.ofList name) :: ·)
  | n + 1, '[' :: cs =>
    match Text.splitOnce [']'] cs with
    | none => none
    | some (digits, rest) => do
      let index ← Number.readUnsigned? 32 digits
      some (.item index :: (← stepsOf? n rest))
  | _ + 1, _ :: _ => none

/-- The way that a name leads. A name that is no path is a single step. -/
def pathOf (name : String) : List Step :=
  let cs := name.toList
  let first := cs.takeWhile isNameChar
  if first.isEmpty then [.entry name]
  else match stepsOf? cs.length (cs.dropWhile isNameChar) with
    | some steps => .entry (String.ofList first) :: steps
    | none => [.entry name]

/-- Lay a value upon what stands at the end of a way. -/
def place (v : Node) : List Step → Option Node → Node
  | [], existing => upon existing v
  | .entry name :: steps, existing => (existing.getD empty).change name (place v steps)
  | .item n :: steps, existing => (existing.getD empty).changeItem n (place v steps)

/-- Lay the entries of a source upon what is there already. -/
def lay (source : List (String × Node)) (below : Node) : Node :=
  source.foldl (fun node (name, v) => place v (pathOf name) (some node)) below

end Node

/-- Why there are no settings: a value is not what is asked for, a document does not have the right
form, a file cannot be read as a document, or the service cannot run with the settings. -/
inductive Fault where
  | wrongKind (found expected : String) (key source : Option String)
  | wrongForm (reason : String)
  | noDocument (file : String)
  | unfit (reason : String)
deriving DecidableEq, Repr

namespace Fault

/-- The wording of a fault. -/
def message : Fault → String
  | .wrongKind found expected key source =>
    s!"invalid type: {found}, expected {expected}"
      ++ (key.map fun k => s!" for key `{k}`").getD ""
      ++ (source.map fun s => s!" in {s}").getD ""
  | .wrongForm reason => reason
  | .noDocument file => file
  | .unfit reason => reason

/-- A fault with the name of the entry that it was found in. -/
def under (name : String) : Fault → Fault
  | .wrongKind found expected key source =>
    let key := match key with
      | none => name
      | some k => if k.startsWith "[" then name ++ k else name ++ "." ++ k
    .wrongKind found expected (some key) source
  | f => f

end Fault

namespace Node

/-- How a value is named in a fault. -/
def describe : Node → String
  | .scalar _ .absent => "unit value"
  | .scalar _ (.flag b) => s!"boolean `{b}`"
  | .scalar _ (.int i) => s!"64-bit integer `{i}`"
  | .scalar _ (.fraction x) => s!"floating point `{String.ofList (Number.plainText x)}`"
  | .scalar _ (.text s) => s!"string {Text.quoted s}"
  | .list _ _ => "sequence"
  | .table _ _ => "map"

/-- The source of a value. -/
def source : Node → Option String
  | .scalar s _ | .list s _ | .table s _ => s

/-- The fault of a value that is not what is asked for. -/
def mismatch (expected : String) (v : Node) : Fault :=
  .wrongKind v.describe expected none v.source

/-- How a value is named where a document does not have the right form. -/
def outline : Node → String
  | .scalar _ (.int i) => s!"integer `{i}`"
  | .scalar _ (.fraction x) =>
    let cs := Number.plainText x
    let cs := if cs.contains '.' || !x.isFinite then cs else cs ++ ".0".toList
    s!"floating point `{String.ofList cs}`"
  | v => v.describe

/-- The words that stand for a truth value. -/
def truth? : String → Option Bool
  | "true" | "on" | "yes" => some true
  | "false" | "off" | "no" => some false
  | _ => none

/-- A text. -/
def text : Node → Except Fault String
  | .scalar _ (.text s) => .ok s
  | .scalar _ (.flag b) => .ok (toString b)
  | .scalar _ (.int i) => .ok (toString i)
  | .scalar _ (.fraction x) => .ok (String.ofList (Number.plainText x))
  | v => .error (v.mismatch "a string")

/-- A truth value. Of numbers, zero alone is false. -/
def flag : Node → Except Fault Bool
  | .scalar _ (.flag b) => .ok b
  | .scalar _ (.int i) => .ok (i != 0)
  | .scalar _ (.fraction x) => .ok (x != 0)
  | .scalar s (.text t) =>
    let word := Text.lower t
    if word = "1" then .ok true
    else if word = "0" then .ok false
    else match truth? word with
      | some b => .ok b
      | none => .error (mismatch "a boolean" (.scalar s (.text word)))
  | v => .error (v.mismatch "a boolean")

/-- A natural number below `2 ^ 64`. A fraction is rounded, half-way ones away from zero. -/
def word : Node → Except Fault Nat
  | .scalar s (.int i) =>
    if 0 ≤ i then .ok i.toNat
    else .error (mismatch "an unsigned 64 bit or less integer" (.scalar s (.int i)))
  | .scalar _ (.flag b) => .ok (if b then 1 else 0)
  | .scalar _ (.fraction x) => .ok x.round.toUInt64.toNat
  | .scalar s (.text t) =>
    match truth? (Text.lower t), Number.readUnsigned? 64 t.toList with
    | some b, _ => .ok (if b then 1 else 0)
    | none, some n => .ok n
    | none, none => .error (mismatch "an integer" (.scalar s (.text t)))
  | v => .error (v.mismatch "an integer")

/-- A natural number below `2 ^ width`. -/
def natural (width : Nat) (v : Node) : Except Fault Nat := do
  let n ← v.word
  if n < Nat.pow 2 width then return n
  else throw (.wrongKind s!"64-bit unsigned integer `{n}`" s!"an unsigned {width} bit integer"
    none none)

/-- A fraction. -/
def fraction : Node → Except Fault Float
  | .scalar _ (.fraction x) => .ok x
  | .scalar _ (.int i) => .ok (Float.ofInt i)
  | .scalar _ (.flag b) => .ok (if b then 1 else 0)
  | .scalar s (.text t) =>
    match truth? (Text.lower t), Number.readFloat? t.toList with
    | some b, _ => .ok (if b then 1 else 0)
    | none, some x => .ok x
    | none, none => .error (mismatch "a floating point" (.scalar s (.text t)))
  | v => .error (v.mismatch "a floating point")

/-- A list of texts. -/
def texts : Node → Except Fault (List String)
  | .list _ vs => vs.zipIdx.mapM fun (v, n) => v.text.mapError (.under s!"[{n}]")
  | v => .error (.wrongForm s!"invalid type: {v.outline}, expected a sequence")

/-- The entries of a section. A list has to have as many items as are required. -/
def sectionEntries (name : String) (settings : List String) (required : Nat) :
    Node → Except Fault (List (String × Node))
  | .table _ es => .ok es
  | .list _ vs =>
    if vs.length < required then
      let expected := Json.Shape.ofElements name settings.length
      .error (.wrongForm s!"invalid length {vs.length}, expected {expected}")
    else .ok (settings.zip vs)
  | v => .error (.wrongForm s!"invalid type: {v.outline}, expected struct {name}")

/-- Whether a value stands for the absence of one. -/
def isAbsent : Node → Bool
  | .scalar _ .absent => true
  | _ => false

/-- Settings in layers. -/
def dialect : Dialect Node Fault where
  entries := sectionEntries
  under := Fault.under
  isAbsent := isAbsent
  text := text
  path := text
  flag := flag
  natural width _ := natural width
  fraction := fraction
  texts := texts

end Node

end Mailroom.Settings
