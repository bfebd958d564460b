import Mailroom.Number.Decimal

/-!
# Values of TOML documents

The values that a TOML document holds, and its dates and times, which are kept as the text in which
they are shown.
-/

namespace Mailroom.Toml

/-- A value. -/
inductive Value where
  | text (value : String)
  | int (value : Int)
  | float (value : Float)
  | bool (value : Bool)
  | moment (shown : String)
  | list (items : List Value)
  | table (entries : List (String × Value))

/-- The blanks within a line. -/
def isBlank (c : Char) : Bool := c = ' ' || c = '\t'

/-- A character that stands for itself in comments and strings. -/
def isPlain (c : Char) : Bool := c = '\t' || (0x20 ≤ c.toNat && c.toNat != 0x7F)

/-- Pass over blanks. -/
def skipBlanks (cs : List Char) : List Char := cs.dropWhile isBlank

/-- What is behind the end of a line. -/
def pastLine? : List Char → Option (List Char)
  | '\n' :: cs => some cs
  | '\r' :: '\n' :: cs => some cs
  | _ => none

/-- Pass over a comment. -/
def skipComment : List Char → List Char
  | '#' :: cs => cs.dropWhile isPlain
  | cs => cs

/-- Pass over blanks, comments and ends of lines. The number bounds the lines. -/
def skipLines : Nat → List Char → List Char
  | 0, cs => cs
  | n + 1, cs =>
    let cs := skipComment (skipBlanks cs)
    match pastLine? cs with
    | some rest => skipLines n rest
    | none => cs

/-- What is behind some characters, if a text begins with them. -/
def past? (word : String) (cs : List Char) : Option (List Char) :=
  if word.toList.isPrefixOf cs then some (cs.drop word.toList.length) else none

end Mailroom.Toml
