import Mailroom.Text.CaseData

/-!
# Lower case

The lower-case form of a text under the full mapping of Unicode, which depends on the neighbours
of a character in one place: a capital sigma that ends a word becomes the final form `ς`. The
ASCII mapping, which leaves every other character alone, stands beside it.
-/

namespace Mailroom.Text

/-- Whether a code point lies in one of the ranges. -/
def inRanges (ranges : List (Nat × Nat)) (n : Nat) : Bool :=
  ranges.any fun r => r.1 ≤ n && n ≤ r.2

namespace CaseRun

/-- Whether the run holds a code point. -/
def holds (r : CaseRun) (n : Nat) : Bool :=
  r.first ≤ n && n ≤ r.last && (n - r.first) % r.step == 0

/-- The lower-case form of a code point of the run. -/
def lower (r : CaseRun) (n : Nat) : Char := Char.ofNat (Int.toNat (n + r.shift))

end CaseRun

/-- The lower-case form of one character, without regard to its neighbours. The dotted capital `İ`
is the one character with two in its lower-case form: a small `i` and a combining dot. -/
def lowerChar (c : Char) : List Char :=
  let n := c.toNat
  if n < 0x80 then [c.toLower]
  else if n = 0x130 then ['i', '\u0307']
  else match caseRuns.find? (·.holds n) with
    | some r => [r.lower n]
    | none => [c]

/-- Whether a character has a case. -/
def isCased (c : Char) : Bool := inRanges casedRanges c.toNat

/-- Whether a character is passed over in the search for the neighbours of a capital sigma. -/
def isCaseIgnorable (c : Char) : Bool := inRanges caseIgnorableRanges c.toNat

/-- Whether the first character that counts, going away from a sigma, has a case. -/
def meetsCased (cs : List Char) : Bool :=
  match cs.dropWhile isCaseIgnorable with
  | [] => false
  | c :: _ => isCased c

/-- Lower-case `cs`, where `before` holds the characters already passed, the last one first. -/
def lowerAfter (before : List Char) : List Char → List Char
  | [] => []
  | c :: cs =>
    let form :=
      if c = 'Σ' then (if meetsCased before && !meetsCased cs then ['ς'] else ['σ'])
      else lowerChar c
    form ++ lowerAfter (c :: before) cs

/-- The lower-case form of a text. -/
def lower (s : String) : String := String.ofList (lowerAfter [] s.toList)

/-- The lower-case form of the ASCII letters of a text; all else is kept. -/
def asciiLower (s : String) : String := String.ofList (s.toList.map Char.toLower)

end Mailroom.Text
