/-!
# Decimal numbers

A non-negative number in decimal notation: an integer of digits and a power of ten. The shortest
decimal form of a binary fraction, and the rounding to a number of places, both give a value of
this type; the ways to write one down start from it.
-/

namespace Mailroom.Number

/-- The number `digits * 10 ^ exponent`. -/
structure Decimal where
  digits : Nat
  exponent : Int
deriving DecidableEq, Repr

/-- The least `j` with `n < 10 ^ j`, which is the length of a positive `n` in decimal digits. -/
def decimalLength (n : Nat) : Nat :=
  if n = 0 then 0 else decimalLength (n / 10) + 1

/-- The characters of an integer, without superfluous zeros. -/
def natText (n : Nat) : List Char := Nat.toDigits 10 n

/-- The characters of an integer that may be negative. -/
def intText (i : Int) : List Char :=
  if i < 0 then '-' :: natText i.natAbs else natText i.natAbs

/-- Digits filled up with zeros on the left to a least width. -/
def zeroPadded (width : Nat) (n : Nat) : List Char :=
  let ds := natText n
  List.replicate (width - ds.length) '0' ++ ds

namespace Decimal

/-- Move trailing zeros from the digits into the exponent, at most `fuel` of them. -/
def stripZeros : Nat → Decimal → Decimal
  | 0, d => d
  | fuel + 1, d =>
    if d.digits ≠ 0 ∧ d.digits % 10 = 0 then stripZeros fuel ⟨d.digits / 10, d.exponent + 1⟩
    else d

/-- The same number with as few digits as possible. -/
def normalize (d : Decimal) : Decimal := stripZeros (decimalLength d.digits) d

/-- The power of ten of the first digit. -/
def leadingPower (d : Decimal) : Int := (natText d.digits).length + d.exponent - 1

/-- The digits before the point and those behind it, when no power of ten is written. -/
def split (d : Decimal) : List Char × List Char :=
  let ds := natText d.digits
  let point : Int := ds.length + d.exponent
  if point ≤ 0 then (['0'], List.replicate (-point).toNat '0' ++ ds)
  else if ds.length ≤ point then (ds ++ List.replicate (point - ds.length).toNat '0', [])
  else (ds.take point.toNat, ds.drop point.toNat)

/-- The number without a power of ten and without a superfluous point. -/
def positional (d : Decimal) : List Char :=
  match d.split with
  | (whole, []) => whole
  | (whole, places) => whole ++ '.' :: places

/-- The integer nearest to `d * 10 ^ places`; a number half-way between two goes to the even one.
It is `d` rounded to `places` digits behind the point, with the point left out. -/
def roundHalfEven (d : Decimal) (places : Nat) : Nat :=
  let shift := d.exponent + places
  if 0 ≤ shift then d.digits * Nat.pow 10 shift.toNat
  else
    let unit := Nat.pow 10 (-shift).toNat
    let whole := d.digits / unit
    let rest := d.digits % unit
    if 2 * rest < unit then whole
    else if unit < 2 * rest then whole + 1
    else whole + whole % 2

end Decimal

end Mailroom.Number
