import Mailroom.Text.Case
import Mailroom.Text.MarkData

/-!
# Letters without their marks

A word as it is looked up in a table of names: combining marks are gone, precomposed letters are
down to their base letter, and the letters are in lower case. The dotless `ı` counts as an `i`.
-/

namespace Mailroom.Text

/-- Whether a character is a combining mark. -/
def isMark (c : Char) : Bool := inRanges markRanges c.toNat

/-- The letter that is left of a precomposed letter without its marks. -/
def baseLetter (c : Char) : Char :=
  if c.toNat < 0x80 then c
  else match baseLetters.lookup c.toNat with
    | some n => Char.ofNat n
    | none => c

/-- A word in lower case and without marks. Each character is lowered on its own. -/
def unmarked (cs : List Char) : List Char :=
  (cs.filter fun c => !isMark c).flatMap fun c =>
    let b := baseLetter c
    lowerChar (if b = 'ı' then 'i' else b)

end Mailroom.Text
