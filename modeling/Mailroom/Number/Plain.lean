import Mailroom.Number.Reading
import Mailroom.Number.Shortest

/-!
# Numbers without powers of ten

The shortest digits of a binary64 number, with as many zeros as it takes to do without a power of
ten, and with a point only if places follow it.
-/

namespace Mailroom.Number

/-- The text of a number. -/
def plainText (x : Float) : List Char :=
  if x.isNaN then "NaN".toList
  else
    let magnitude := if x.isInf then "inf".toList else (shortest x).positional
    if isNegative x then '-' :: magnitude else magnitude

end Mailroom.Number
