import Mailroom.Number.Decimal

/-!
# Reading numbers

Integers and binary64 numbers as they are written in settings, in template arguments and in
request data. A decimal that lies between two binary64 numbers goes to the nearer one, and one that
is too large becomes infinite.
-/

namespace Mailroom.Number

/-- The value of a list of ASCII digits, read after `n`. -/
def digitsValue (n : Nat) (ds : List Char) : Nat :=
  ds.foldl (fun n d => n * 10 + (d.toNat - '0'.toNat)) n

/-- The sign in front of a number, and what follows it. -/
def splitSign : List Char → Bool × List Char
  | '-' :: cs => (true, cs)
  | '+' :: cs => (false, cs)
  | cs => (false, cs)

/-- A non-empty list of ASCII digits. -/
def readNat? (cs : List Char) : Option Nat :=
  if cs.isEmpty || !cs.all Char.isDigit then none else some (digitsValue 0 cs)

/-- An integer with an optional sign. -/
def readInt? (cs : List Char) : Option Int :=
  match splitSign cs with
  | (negative, ds) => (readNat? ds).map fun n => if negative then -(n : Int) else n

/-- An unsigned integer below `2 ^ width`; a plus sign may stand in front. -/
def readUnsigned? (width : Nat) (cs : List Char) : Option Nat := do
  let n ← readNat? (match cs with | '+' :: ds => ds | ds => ds)
  if n < Nat.pow 2 width then some n else none

/-- The least and the greatest signed integer of 64 bits. -/
def int64Min : Int := -Int.pow 2 63

@[inherit_doc int64Min]
def int64Max : Int := Int.pow 2 63 - 1

/-- Whether an integer fits into 64 bits with a sign. -/
def fitsInt64 (i : Int) : Bool := decide (int64Min ≤ i) && decide (i ≤ int64Max)

/-- A signed integer of 64 bits. -/
def readInt64? (cs : List Char) : Option Int := do
  let i ← readInt? cs
  if fitsInt64 i then some i else none

/-- Positive infinity. -/
def infinity : Float := 1.0 / 0.0

/-- The number that is none. -/
def notANumber : Float := 0.0 / 0.0

/-- The binary64 number nearest to `digits * 10 ^ exponent`. Beyond the range of the format, where
the exact power of ten need not be computed, the answer is zero or infinity. -/
def nearest (negative : Bool) (digits : Nat) (exponent : Int) : Float :=
  let magnitude :=
    if digits = 0 then 0.0
    else
      let top := decimalLength digits + exponent
      if 310 < top then infinity
      else if top < -330 then 0.0
      else Float.ofScientific digits (decide (exponent < 0)) exponent.natAbs
  if negative then -magnitude else magnitude

/-- The power of ten behind the letter `e`, or zero when the text ends here. -/
def readExponent? : List Char → Option Int
  | [] => some 0
  | c :: cs =>
    if c = 'e' ∨ c = 'E' then
      match splitSign cs with
      | (negative, ds) => (readNat? ds).map fun n => if negative then -(n : Int) else n
    else none

/-- A binary64 number: an optional sign, then digits with an optional point and an optional power
of ten, or one of the words for infinity and for no number. -/
def readFloat? (cs : List Char) : Option Float :=
  let (negative, body) := splitSign cs
  let word := String.ofList (body.map Char.toLower)
  if word = "inf" ∨ word = "infinity" then some (if negative then -infinity else infinity)
  else if word = "nan" then some notANumber
  else
    let whole := body.takeWhile Char.isDigit
    let (places, rest) := match body.dropWhile Char.isDigit with
      | '.' :: cs => (cs.takeWhile Char.isDigit, cs.dropWhile Char.isDigit)
      | cs => ([], cs)
    if whole.isEmpty && places.isEmpty then none
    else (readExponent? rest).map fun e =>
      nearest negative (digitsValue 0 (whole ++ places)) (e - places.length)

end Mailroom.Number
