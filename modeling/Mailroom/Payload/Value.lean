import Mailroom.Json.Text
import Mailroom.Number.Reading
import Mailroom.Text.Blank
import Mailroom.Text.Case

/-!
# Values in a payload

How the values that a caller sends are judged: whether a value is there at all, whether it only
holds a place, whether two of them are equal, and what their sum is.
-/

namespace Mailroom.Payload

/-- Whether a value says nothing: it is `null` or the empty string. Zero and `false` say
something. -/
def isEmpty : Json → Bool
  | .null => true
  | .str s => s = ""
  | _ => false

/-- Whether a value is absent or says nothing. -/
def isAbsent : Option Json → Bool
  | none => true
  | some v => isEmpty v

/-- The texts that are written where there is nothing to write. -/
def placeholders : List String := ["-", "--", "—", "n/a", "na"]

/-- Whether a value is a text that only holds a place. -/
def isPlaceholder : Json → Bool
  | .str s => placeholders.contains (Text.lower (Text.trim s))
  | _ => false

/-- The first value that says something. -/
def firstPresent (values : List Json) : Option Json := values.find? fun v => !isEmpty v

/-- The first value that says something and does not only hold a place. -/
def firstMeaningful (values : List Json) : Option Json :=
  values.find? fun v => !isEmpty v && !isPlaceholder v

/-! ## Equality -/

/-- Two values are the same. Two numbers are compared by the binary64 numbers nearest to them;
numbers inside of arrays and objects are compared as they are. -/
def same : Json → Json → Bool
  | .num a, .num b => a.toFloat == b.toFloat
  | a, b => a == b

/-- The text of a value without regard to case and to blanks around it. -/
def foldedText (v : Json) : String := Text.lower (Text.trim v.display)

/-- Two values read alike. A value that is `null` reads like no other. -/
def alike (a b : Json) : Bool :=
  if a.isNull || b.isNull then false else foldedText a == foldedText b

/-! ## Sums -/

/-- The number that a value stands for: it is a number, or a string that reads as one. Whole
numbers of 64 bits are kept whole. -/
def operand? : Json → Option Json.Number
  | .num n => some (match n.int64? with
    | some i => .int i
    | none => .float n.toFloat)
  | .str s =>
    let cs := (Text.trim s).toList
    match Number.readInt64? cs with
    | some i => some (.int i)
    | none => (Number.readFloat? cs).bind Json.Number.ofFloat?
  | _ => none

/-- The sum of two values. It is whole if both are whole and their sum has at most 64 bits, and
there is none beyond the range of binary64 numbers. -/
def add (a b : Json) : Option Json := do
  let x ← operand? a
  let y ← operand? b
  let inexact := (Json.Number.ofFloat? (x.toFloat + y.toFloat)).map Json.num
  match x, y with
  | .int i, .int j =>
    if Number.fitsInt64 (i + j) then some (.num (.int (i + j))) else inexact
  | _, _ => inexact

end Mailroom.Payload
