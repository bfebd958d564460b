import Mailroom.Number.Decimal

/-!
# The shortest decimal form of a binary fraction

A finite binary64 number stands for every real number that rounds to it. Its shortest decimal form
is the number of that interval with the fewest digits, and the nearest one among those. It is found
by trying one digit, two digits, … on the grid of that length: if any point of a grid lies in the
interval, then so does one of the two neighbours of the number itself. All arithmetic is exact.
-/

namespace Mailroom.Number

/-- The magnitude of a finite number as an integer times a power of two. -/
def binaryParts (x : Float) : Nat × Int :=
  let bits := x.toBits.toNat
  let fraction : Nat := bits % Nat.pow 2 52
  let exponent : Nat := bits / Nat.pow 2 52 % Nat.pow 2 11
  if exponent = 0 then (fraction, -1074) else (Nat.pow 2 52 + fraction, (exponent : Int) - 1075)

/-- The sign bit, which zero has too. -/
def isNegative (x : Float) : Bool := x.toBits.toNat / Nat.pow 2 63 % 2 == 1

/-- The reals that round to a number, as fractions over one denominator: `lower` and `upper` are
the ends of the interval, and they belong to it iff `closed`. -/
structure Rounding where
  value : Nat
  lower : Nat
  upper : Nat
  denominator : Nat
  closed : Bool

namespace Rounding

/-- The interval of the magnitude `m * 2 ^ q`. The numbers below a power of two lie twice as dense
as those above it, so there the interval ends at a quarter of a unit. -/
def ofParts (m : Nat) (q : Int) : Rounding :=
  let below := if m = Nat.pow 2 52 ∧ q ≠ -1074 then 1 else 2
  let up := Nat.pow 2 (q - 2).toNat
  let down := Nat.pow 2 (2 - q).toNat
  { value := 4 * m * up
    lower := (4 * m - below) * up
    upper := (4 * m + 2) * up
    denominator := down
    closed := m % 2 == 0 }

/-- Whether the fraction `n / d` lies in the interval. -/
def contains (r : Rounding) (n d : Nat) : Bool :=
  if r.closed then
    decide (r.lower * d ≤ n * r.denominator) && decide (n * r.denominator ≤ r.upper * d)
  else
    decide (r.lower * d < n * r.denominator) && decide (n * r.denominator < r.upper * d)

/-- The least power of ten above the value. -/
def magnitude (r : Rounding) : Int :=
  if r.denominator ≤ r.value then decimalLength (r.value / r.denominator)
  else 1 - decimalLength ((r.denominator - 1) / r.value)

/-- The better neighbour of the value on the grid of `10 ^ exponent` that lies in the interval. -/
def neighbour (r : Rounding) (exponent : Int) : Option Decimal :=
  let up := Nat.pow 10 exponent.toNat
  let down := Nat.pow 10 (-exponent).toNat
  let n := r.value * down
  let d := r.denominator * up
  let floor := n / d
  let twiceRest := 2 * (n % d)
  let low := r.contains (floor * up) down
  let high := r.contains ((floor + 1) * up) down
  if low && high then
    let nearer :=
      if twiceRest < d then floor
      else if d < twiceRest then floor + 1
      else floor + floor % 2
    some ⟨nearer, exponent⟩
  else if low then some ⟨floor, exponent⟩
  else if high then some ⟨floor + 1, exponent⟩
  else none

/-- The first grid with a hit, from `length` digits on, for at most `fuel` grids. -/
def search (r : Rounding) : Nat → Nat → Option Decimal
  | 0, _ => none
  | fuel + 1, length =>
    match r.neighbour (r.magnitude - length) with
    | some d => some d
    | none => search r fuel (length + 1)

end Rounding

/-- The shortest decimal form of the magnitude of a finite number. Seventeen digits always suffice,
so the search does not fail. -/
def shortest (x : Float) : Decimal :=
  match binaryParts x with
  | (0, _) => ⟨0, 0⟩
  | (m, q) =>
    match (Rounding.ofParts m q).search 17 1 with
    | some d => d.normalize
    | none => ⟨m * Nat.pow 2 q.toNat, 0⟩

end Mailroom.Number
