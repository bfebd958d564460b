import Mailroom.Json.Basic
import Mailroom.Number.Shortest

/-!
# The text of a JSON value

A value is written without blanks, the members of an object in the order of their keys. Binary
fractions have the fewest digits that read back, always with a point or a power of ten, and the
power of ten is written outside the range from `10^-5` to `10^16`.
-/

namespace Mailroom.Json

/-- The hexadecimal digits of a number below 256, in lower case. -/
def hexByte (n : Nat) : List Char := [Nat.digitChar (n / 16), Nat.digitChar (n % 16)]

/-- A character inside a string literal. Quotes, backslashes and control characters are escaped,
and nothing else is. -/
def escapeChar (c : Char) : List Char :=
  if c = '"' then ['\\', '"']
  else if c = '\\' then ['\\', '\\']
  else if c = '\n' then ['\\', 'n']
  else if c = '\r' then ['\\', 'r']
  else if c = '\t' then ['\\', 't']
  else if c.toNat = 8 then ['\\', 'b']
  else if c.toNat = 12 then ['\\', 'f']
  else if c.toNat < 0x20 then ['\\', 'u', '0', '0'] ++ hexByte c.toNat
  else [c]

/-- A string literal. -/
def quoted (s : String) : List Char := '"' :: (s.toList.flatMap escapeChar ++ ['"'])

namespace Number

open Mailroom.Number

/-- A finite binary64 number: positional from `10^-5` up to `10^16`, and with a signed power of ten
elsewhere. -/
def floatText (x : Float) : List Char :=
  let d := shortest x
  let power := if d.digits = 0 then 0 else d.leadingPower
  let body :=
    if -5 ≤ power ∧ power < 16 then
      match d.split with
      | (whole, []) => whole ++ ['.', '0']
      | (whole, places) => whole ++ '.' :: places
    else
      let mantissa := match natText d.digits with
        | [] => []
        | [first] => [first]
        | first :: rest => first :: '.' :: rest
      mantissa ++ ['e'] ++ (if power < 0 then ['-'] else ['+']) ++ natText power.natAbs
  if isNegative x then '-' :: body else body

/-- The text of a number. -/
def text : Number → List Char
  | .int i => intText i
  | .float x => floatText x

end Number

mutual

/-- The characters of a value. -/
def chars : Json → List Char
  | .null => ['n', 'u', 'l', 'l']
  | .bool true => ['t', 'r', 'u', 'e']
  | .bool false => ['f', 'a', 'l', 's', 'e']
  | .num n => n.text
  | .str s => quoted s
  | .arr items => '[' :: itemChars items
  | .obj members => '\x7b' :: memberChars members

/-- The items of an array, through the closing bracket. -/
def itemChars : List Json → List Char
  | [] => [']']
  | [v] => chars v ++ [']']
  | v :: rest => chars v ++ ',' :: itemChars rest

/-- The members of an object, through the closing brace. -/
def memberChars : List (String × Json) → List Char
  | [] => ['\x7d']
  | [(k, v)] => quoted k ++ ':' :: (chars v ++ ['\x7d'])
  | (k, v) :: rest => quoted k ++ ':' :: (chars v ++ ',' :: memberChars rest)

end

/-- A value as one line of text. -/
def compact (v : Json) : String := String.ofList v.chars

/-- A value as it stands in running text: a string is itself, `null` is nothing, and all else is
written in JSON. -/
def display : Json → String
  | .str s => s
  | .null => ""
  | v => v.compact

end Mailroom.Json
