import Mailroom.Calendar.Date
import Mailroom.Net.Ip
import Mailroom.Number.Reading
import Mailroom.Toml.Basic

/-!
# Numbers, dates and times of TOML documents

Digits may be divided by single underscores. An integer has to fit into 64 bits with its sign. A
date or a time is shown with a `T` between the two and without needless zeros at its end.
-/

namespace Mailroom.Toml

open Mailroom.Number (fitsInt64 digitsValue infinity notANumber)

/-- Digits of a kind, without the underscores between them. -/
def digitRun (isDigit : Char → Bool) : List Char → List Char × List Char
  | '_' :: d :: cs =>
    if isDigit d then
      let (ds, rest) := digitRun isDigit cs
      (d :: ds, rest)
    else ([], '_' :: d :: cs)
  | c :: cs =>
    if isDigit c then
      let (ds, rest) := digitRun isDigit cs
      (c :: ds, rest)
    else ([], c :: cs)
  | [] => ([], [])

/-- One digit or more of a kind. -/
def readDigits (isDigit : Char → Bool) (cs : List Char) : Option (List Char × List Char) :=
  match cs with
  | c :: _ => if isDigit c then some (digitRun isDigit cs) else none
  | [] => none

/-- A sign, if there is one: whether it is a minus, and what is behind it. -/
def splitSign : List Char → Bool × List Char
  | '-' :: cs => (true, cs)
  | '+' :: cs => (false, cs)
  | cs => (false, cs)

/-- The digits of a decimal integer. A zero at the front stands alone. -/
def readWhole (cs : List Char) : Option (List Char × List Char) :=
  match cs with
  | '0' :: rest => some (['0'], rest)
  | _ => readDigits Char.isDigit cs

/-- An integer in a base other than ten. -/
def readBased (cs : List Char) : Option (Int × List Char) := do
  let (base, rest) ← match cs with
    | '0' :: 'x' :: rest => some (16, rest)
    | '0' :: 'o' :: rest => some (8, rest)
    | '0' :: 'b' :: rest => some (2, rest)
    | _ => none
  let (digits, rest) ← readDigits (fun c => (Net.Ip.hexadecimal? c).any (· < base)) rest
  let values ← digits.mapM Net.Ip.hexadecimal?
  let n : Int := (values.foldl (fun n d => n * base + d) 0 : Nat)
  if fitsInt64 n then some (n, rest) else none

/-- A decimal integer. -/
def readInt (cs : List Char) : Option (Int × List Char) := do
  let (negative, cs) := splitSign cs
  let (digits, rest) ← readWhole cs
  let n : Int := digitsValue 0 digits
  let n := if negative then -n else n
  if fitsInt64 n then some (n, rest) else none

/-- A power of ten behind the letter `e`. -/
def readPower : List Char → Option (List Char × List Char)
  | e :: cs =>
    if e = 'e' ∨ e = 'E' then do
      let (negative, cs) := splitSign cs
      let (digits, rest) ← readDigits Char.isDigit cs
      some ('e' :: (if negative then ['-'] else []) ++ digits, rest)
    else none
  | [] => none

/-- Places behind a point. -/
def readPlaces : List Char → Option (List Char × List Char)
  | '.' :: cs => (readDigits Char.isDigit cs).map fun (ds, rest) => ('.' :: ds, rest)
  | _ => none

/-- A fraction, which has places or a power of ten, or is not finite. -/
def readFloat (cs : List Char) : Option (Float × List Char) := do
  let (negative, cs) := splitSign cs
  let sign (x : Float) : Float := if negative then -x else x
  match past? "inf" cs, past? "nan" cs with
  | some rest, _ => some (sign infinity, rest)
  | none, some rest => some (sign notANumber, rest)
  | none, none =>
    let (whole, rest) ← readWhole cs
    let (places, rest) ← match readPlaces rest with
      | some (places, rest) =>
        match readPower rest with
        | some (power, rest) => some (places ++ power, rest)
        | none => some (places, rest)
      | none => readPower rest
    let x ← Number.readFloat? (whole ++ places)
    if !negative && x.isInf then none else some (sign x, rest)

/-! ## Dates and times -/

/-- A number of as many digits as `length` says, between two bounds. -/
def readFixed (length least most : Nat) (cs : List Char) : Option (Nat × List Char) :=
  let digits := cs.take length
  if digits.length = length ∧ digits.all Char.isDigit then
    let n := digitsValue 0 digits
    if least ≤ n ∧ n ≤ most then some (n, cs.drop length) else none
  else none

/-- What is behind a character. -/
def pastChar? (c : Char) : List Char → Option (List Char)
  | d :: cs => if c = d then some cs else none
  | [] => none

/-- A date. -/
def readDate (cs : List Char) : Option (List Char × List Char) := do
  let (year, cs) ← readFixed 4 0 9999 cs
  let (month, cs) ← readFixed 2 1 12 (← pastChar? '-' cs)
  let (day, cs) ← readFixed 2 1 31 (← pastChar? '-' cs)
  let _ ← Calendar.Date.ofParts? year month day
  some (Number.zeroPadded 4 year ++ '-' :: Number.zeroPadded 2 month ++ '-' ::
    Number.zeroPadded 2 day, cs)

/-- A part of a second, without needless zeros and to nine places at most. -/
def readPartOfSecond (cs : List Char) : List Char × List Char :=
  match cs with
  | '.' :: rest =>
    let digits := rest.takeWhile Char.isDigit
    if digits.isEmpty then ([], cs)
    else
      let kept := ((digits.take 9).reverse.dropWhile (· = '0')).reverse
      (if kept.isEmpty then [] else '.' :: kept, rest.dropWhile Char.isDigit)
  | _ => ([], cs)

/-- A time of day. -/
def readTime (cs : List Char) : Option (List Char × List Char) := do
  let (hour, cs) ← readFixed 2 0 23 cs
  let (minute, cs) ← readFixed 2 0 59 (← pastChar? ':' cs)
  let (second, cs) ← readFixed 2 0 60 (← pastChar? ':' cs)
  let (part, cs) := readPartOfSecond cs
  some (Number.zeroPadded 2 hour ++ ':' :: Number.zeroPadded 2 minute ++ ':' ::
    Number.zeroPadded 2 second ++ part, cs)

/-- An offset to universal time. -/
def readOffset : List Char → Option (List Char × List Char)
  | c :: cs =>
    if c = 'Z' ∨ c = 'z' then some (['Z'], cs)
    else if c = '+' ∨ c = '-' then do
      let (hour, cs) ← readFixed 2 0 23 cs
      let (minute, cs) ← readFixed 2 0 59 (← pastChar? ':' cs)
      some (c :: Number.zeroPadded 2 hour ++ ':' :: Number.zeroPadded 2 minute, cs)
    else none
  | [] => none

/-- A date, a time, or both. -/
def readMoment (cs : List Char) : Option (String × List Char) :=
  match readDate cs with
  | none => (readTime cs).map fun (time, rest) => (String.ofList time, rest)
  | some (date, rest) =>
    let time? := match rest with
      | c :: rest => if c = 'T' ∨ c = 't' ∨ c = ' ' then readTime rest else none
      | [] => none
    match time? with
    | none => some (String.ofList date, rest)
    | some (time, rest) =>
      let (offset, rest) := (readOffset rest).getD ([], rest)
      some (String.ofList (date ++ 'T' :: time ++ offset), rest)

/-- A number, a date or a time. -/
def readNumber (cs : List Char) : Option (Value × List Char) :=
  ((readMoment cs).map fun (m, rest) => (.moment m, rest))
    <|> ((readFloat cs).map fun (x, rest) => (.float x, rest))
    <|> ((readBased cs).map fun (i, rest) => (.int i, rest))
    <|> ((readInt cs).map fun (i, rest) => (.int i, rest))

end Mailroom.Toml
