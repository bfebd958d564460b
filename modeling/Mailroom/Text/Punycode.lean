/-!
# Names of ASCII letters for labels of any letters

The form of a label in which its ASCII characters stand first, and behind them the places and code
points of all others, written as numbers of variable length in letters and digits. The characters
outside ASCII are put in from the smallest code point to the largest, each as the distance from the
one before it; the weights of the digits of a distance follow the size of the distances so far.
-/

namespace Mailroom.Text.Punycode

/-- A digit below 36: the letters count first. -/
def digit (n : Nat) : Char := if n < 26 then Char.ofNat (97 + n) else Char.ofNat (22 + n)

/-- Shrink a distance until its digits can be weighed, and count the steps. -/
def settle (steps distance : Nat) : Nat :=
  if distance ≤ 455 then 36 * steps + 36 * distance / (distance + 38)
  else settle (steps + 1) (distance / 35)
termination_by distance

/-- The bias for the next distance, after a distance that put in character number `count`. -/
def adapted (isFirst : Bool) (distance count : Nat) : Nat :=
  let d := if isFirst then distance / 700 else distance / 2
  settle 0 (d + d / count)

/-- The threshold of the digit of the given weight. -/
def threshold (bias weight : Nat) : Nat := max 1 (min 26 (weight - bias))

theorem one_le_threshold (bias weight : Nat) : 1 ≤ threshold bias weight := Nat.le_max_left _ _

theorem threshold_le (bias weight : Nat) : threshold bias weight ≤ 26 :=
  Nat.max_le.2 ⟨by omega, Nat.min_le_left _ _⟩

/-- The digits of a distance, beginning with the given weight. -/
def digits (bias weight distance : Nat) : List Char :=
  if _h : distance < threshold bias weight then [digit distance]
  else
    let t := threshold bias weight
    digit (t + (distance - t) % (36 - t))
      :: digits bias (weight + 36) ((distance - t) / (36 - t))
termination_by distance
decreasing_by
  have h1 := one_le_threshold bias weight
  have h2 := threshold_le bias weight
  exact Nat.lt_of_le_of_lt (Nat.div_le_self _ _) (by omega)

/-- How far the putting-in has come: the distance gathered, the bias, how many characters are in
place, and the digits written so far. -/
structure Progress where
  distance : Nat
  bias : Nat := 72
  placed : Nat
  written : List Char := []

/-- Go through the label once for one code point. -/
def pass (basic point : Nat) (p : Progress) : List Char → Progress
  | [] => { p with distance := p.distance + 1 }
  | c :: cs =>
    if c.toNat < point then pass basic point { p with distance := p.distance + 1 } cs
    else if c.toNat = point then
      pass basic point
        { distance := 0
          bias := adapted (p.placed == basic) p.distance (p.placed + 1)
          placed := p.placed + 1
          written := p.written ++ digits p.bias 36 p.distance } cs
    else pass basic point p cs

/-- Put in the code points, each larger than the one before it; those below `next` are in place. -/
def passes (label : List Char) (basic : Nat) : Nat → Progress → List Nat → Progress
  | _, p, [] => p
  | next, p, point :: points =>
    let p := { p with distance := p.distance + (point - next) * (p.placed + 1) }
    passes label basic (point + 1) (pass basic point p label) points

/-- The code points outside ASCII in a label, in their order and each once. -/
def points (label : List Char) : List Nat :=
  ((label.map Char.toNat).filter (0x80 ≤ ·)).mergeSort.eraseDups

/-- The ASCII form of a label, without the mark that tells it from a label of ASCII letters. -/
def encode (label : List Char) : List Char :=
  let basic := label.filter (·.toNat < 0x80)
  let start := if basic.isEmpty then [] else basic ++ ['-']
  start ++ (passes label basic.length 0x80 { distance := 0, placed := basic.length }
    (points label)).written

end Mailroom.Text.Punycode
