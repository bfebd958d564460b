import Mailroom.Calendar.Date
import Mailroom.Number.Reading
import Mailroom.Text.Blank

/-!
# Date patterns

A pattern is a list of pieces that a date is made of. Reading a text against a pattern takes the
pieces from left to right, each from the front of what is left, and the text must be used up. A
number may have blanks in front of it and fewer digits than are usual.
-/

namespace Mailroom.Calendar

/-- What has been read of a date and of a time. -/
structure Fields where
  year : Option Int := none
  month : Option Nat := none
  day : Option Nat := none
  weekday : Option Nat := none

namespace Fields

/-- The date that was read. A day of the week that was read must be that of the date. -/
def date? (f : Fields) : Option Date := do
  let d ← Date.ofParts? (← f.year) (← f.month) (← f.day)
  match f.weekday with
  | some w => if d.weekday = w then some d else none
  | none => some d

end Fields

/-! ## Pieces of a text -/

/-- A number of at least `least` and at most `most` digits, and what follows. -/
def takeNumber (least most : Nat) (cs : List Char) : Option (Nat × List Char) :=
  let ds := (cs.take most).takeWhile Char.isDigit
  if ds.length < least then none else some (Number.digitsValue 0 ds, cs.drop ds.length)

/-- A number of at least one digit, however long. -/
def takeLongNumber (cs : List Char) : Option (Nat × List Char) := takeNumber 1 cs.length cs

/-- A number of two digits that is at most `bound`. -/
def takeTwo (bound : Nat) (cs : List Char) : Option (Nat × List Char) := do
  let (n, cs) ← takeNumber 2 2 cs
  if n ≤ bound then some (n, cs) else none

/-- One given character. -/
def takeChar (c : Char) : List Char → Option (List Char)
  | d :: cs => if c = d then some cs else none
  | [] => none

/-- One blank at least. -/
def takeBlanks (cs : List Char) : Option (List Char) :=
  match cs with
  | c :: _ => if Text.isBlank c then some (Text.trimLeft cs) else none
  | [] => none

/-- What follows a word that a text begins with, without regard to the case of its letters. -/
def takeWord : List Char → List Char → Option (List Char)
  | [], cs => some cs
  | w :: ws, c :: cs => if w.toLower = c.toLower then takeWord ws cs else none
  | _ :: _, [] => none

/-- The place of the first of several names that a text begins with. -/
def takeName (cs : List Char) : Nat → List String → Option (Nat × List Char)
  | _, [] => none
  | n, name :: names =>
    match takeWord name.toList cs with
    | some rest => some (n, rest)
    | none => takeName cs (n + 1) names

/-- The letters of the English names of the months after the first three. -/
def monthEndings : List String :=
  ["uary", "ruary", "ch", "il", "", "e", "y", "ust", "tember", "ober", "ember", "ember"]

/-- A month by the first three letters of its English name. -/
def takeShortMonth (cs : List Char) : Option (Nat × List Char) := takeName cs 1 Date.monthNames

/-- A month by its English name, which may be cut to three letters. -/
def takeMonth (cs : List Char) : Option (Nat × List Char) := do
  let (month, cs) ← takeShortMonth cs
  match takeWord (monthEndings.getD (month - 1) "").toList cs with
  | some rest => some (month, rest)
  | none => some (month, cs)

/-- The digits behind the point of a second. -/
def takeFraction (cs : List Char) : Option (List Char) :=
  match cs.dropWhile Char.isDigit with
  | rest => if rest.length < cs.length then some rest else none

/-! ## Patterns -/

/-- A piece of a date as it is written. -/
inductive Piece where
  | year | month | day | hour | minute | second
  | fraction
  | monthName | shortMonthName
  | blanks
  | char (c : Char)
deriving DecidableEq, Repr

/-- A date as it is written. -/
abbrev Pattern := List Piece

/-- A year: four digits at most, or any number of digits behind a sign. -/
def takeYear (cs : List Char) : Option (Int × List Char) :=
  match Text.trimLeft cs with
  | '-' :: cs => (takeLongNumber cs).map fun (n, rest) => (-(n : Int), rest)
  | '+' :: cs => (takeLongNumber cs).map fun (n, rest) => ((n : Int), rest)
  | cs => (takeNumber 1 4 cs).map fun (n, rest) => ((n : Int), rest)

/-- A number of one or two digits between two bounds. -/
def takeWithin (least most : Nat) (cs : List Char) : Option (Nat × List Char) := do
  let (n, cs) ← takeNumber 1 2 (Text.trimLeft cs)
  if least ≤ n ∧ n ≤ most then some (n, cs) else none

namespace Piece

/-- Read one piece from the front of a text. -/
def read (p : Piece) (f : Fields) (cs : List Char) : Option (Fields × List Char) :=
  match p with
  | .year => (takeYear cs).map fun (n, cs) => ({ f with year := some n }, cs)
  | .month => (takeWithin 1 12 cs).map fun (n, cs) => ({ f with month := some n }, cs)
  | .day => (takeWithin 1 31 cs).map fun (n, cs) => ({ f with day := some n }, cs)
  | .hour => (takeWithin 0 23 cs).map fun (_, cs) => (f, cs)
  | .minute => (takeWithin 0 59 cs).map fun (_, cs) => (f, cs)
  | .second => (takeWithin 0 60 cs).map fun (_, cs) => (f, cs)
  | .fraction =>
    match cs with
    | '.' :: cs => (takeFraction cs).map fun cs => (f, cs)
    | cs => some (f, cs)
  | .monthName => (takeMonth cs).map fun (n, cs) => ({ f with month := some n }, cs)
  | .shortMonthName => (takeShortMonth cs).map fun (n, cs) => ({ f with month := some n }, cs)
  | .blanks => some (f, Text.trimLeft cs)
  | .char c => (takeChar c cs).map fun cs => (f, cs)

end Piece

namespace Pattern

/-- Read the pieces of a pattern one after the other. -/
def readFrom : Pattern → Fields → List Char → Option (Fields × List Char)
  | [], f, cs => some (f, cs)
  | p :: ps, f, cs => do
    let (f, cs) ← p.read f cs
    readFrom ps f cs

/-- The date that a text shows in the form of a pattern. -/
def read (p : Pattern) (cs : List Char) : Option Date :=
  match p.readFrom {} cs with
  | some (f, []) => f.date?
  | _ => none

end Pattern

end Mailroom.Calendar
