import Mailroom.Text.Case
import Mailroom.Text.HiddenData

/-!
# Quoted text

A text between double quotes, as it is shown in messages and logs. Quotes and backslashes are
escaped, and a character that would not be seen, or that would attach itself to its neighbour, is
shown by its code point.
-/

namespace Mailroom.Text

/-- The digits of a number in lower-case hexadecimal notation. -/
def hexText (n : Nat) : List Char := Nat.toDigits 16 n

/-- A character between double quotes. -/
def quotedChar (c : Char) : List Char :=
  if c.toNat = 0 then ['\\', '0']
  else if c = '\t' then ['\\', 't']
  else if c = '\r' then ['\\', 'r']
  else if c = '\n' then ['\\', 'n']
  else if c = '"' then ['\\', '"']
  else if c = '\\' then ['\\', '\\']
  else if inRanges hiddenRanges c.toNat then
    ['\\', 'u', '\x7b'] ++ hexText c.toNat ++ ['\x7d']
  else [c]

/-- A text between double quotes. -/
def quoted (s : String) : String :=
  String.ofList ('"' :: (s.toList.flatMap quotedChar ++ ['"']))

end Mailroom.Text
