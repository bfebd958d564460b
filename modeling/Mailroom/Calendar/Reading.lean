import Mailroom.Calendar.Pattern
import Mailroom.Json.Text
import Mailroom.Calendar.Instant
import Mailroom.Text.Find
import Mailroom.Text.Unmarked

/-!
# Dates as people write them

Dates reach the service in many forms: as time stamps, with numbers in the order of day, month and
year, with the name of the month in one of four languages, or in one of a few further forms. The
forms are tried in this order, and the first one that fits decides. A text that fits none is left
as it is.
-/

namespace Mailroom.Calendar

/-! ## Time stamps -/

/-- The offset of a zone in seconds: a sign, two digits of hours, what `colon` takes, and two digits
of minutes. The long minus sign counts as one where `longMinus` says so. -/
def takeOffset (longMinus : Bool) (colon : List Char → Option (List Char)) (cs : List Char) :
    Option (Int × List Char) := do
  let (negative, cs) ← match cs with
    | '+' :: cs => some (false, cs)
    | '-' :: cs => some (true, cs)
    | '−' :: cs => if longMinus then some (true, cs) else none
    | _ => none
  let (hours, cs) ← takeNumber 2 2 cs
  let (minutes, cs) ← takeTwo 59 (← colon cs)
  let seconds : Int := hours * 3600 + minutes * 60
  return (if negative then -seconds else seconds, cs)

/-- The zone of a time stamp, which is less than a day away. -/
def takeStampZone (cs : List Char) : Option (List Char) :=
  match cs with
  | 'Z' :: cs | 'z' :: cs => some cs
  | cs => do
    let (offset, cs) ← takeOffset true (takeChar ':') cs
    if offset.natAbs < 86400 then some cs else none

/-- The date of a time stamp: date, time and zone, all in full. -/
def readStamp (cs : List Char) : Option Date := do
  let (year, cs) ← takeNumber 4 4 cs
  let (month, cs) ← takeNumber 2 2 (← takeChar '-' cs)
  let (day, cs) ← takeNumber 2 2 (← takeChar '-' cs)
  let cs ← match cs with
    | 'T' :: cs | 't' :: cs | ' ' :: cs => some cs
    | _ => none
  let (_, cs) ← takeTwo 23 cs
  let (_, cs) ← takeTwo 59 (← takeChar ':' cs)
  let (_, cs) ← takeTwo 60 (← takeChar ':' cs)
  let cs ← match cs with
    | '.' :: cs => takeFraction cs
    | cs => some cs
  match ← takeStampZone cs with
  | [] => Date.ofParts? year month day
  | _ => none

/-- Dates with the year first, with and without a time. -/
def yearFirst : List Pattern :=
  let date : Pattern := [.year, .char '-', .month, .char '-', .day]
  let minutes : Pattern := [.hour, .char ':', .minute]
  let seconds : Pattern := minutes ++ [.char ':', .second]
  [date ++ .char 'T' :: seconds ++ [.fraction], date ++ .char 'T' :: minutes,
    date ++ .blanks :: seconds, date ++ .blanks :: minutes, date]

/-! ## Day, month and year -/

/-- Split off the one or two digits in front. -/
def takeDay (cs : List Char) : Option (Nat × List Char) :=
  let ds := cs.takeWhile Char.isDigit
  if 1 ≤ ds.length ∧ ds.length ≤ 2 then some (Number.digitsValue 0 ds, cs.drop ds.length) else none

/-- A year of four digits and nothing else. -/
def readYear (cs : List Char) : Option Nat :=
  if cs.length = 4 then Number.readNat? cs else none

/-- One of the characters between the numbers of a date. -/
def takeSeparator : List Char → Option (List Char)
  | '.' :: cs | '/' :: cs | '-' :: cs => some cs
  | _ => none

/-- A date of three numbers, the day first. -/
def readNumeric (cs : List Char) : Option Date := do
  let (day, cs) ← takeDay cs
  let (month, cs) ← takeDay (← takeSeparator cs)
  let year ← readYear (← takeSeparator cs)
  Date.ofParts? year month day

/-! ## Names of months -/

/-- The names of the months in English, Turkish, Arabic and Hebrew, in lower case and without
marks. -/
def monthWords : List (String × Nat) := [
  ("january", 1), ("jan", 1), ("february", 2), ("feb", 2), ("march", 3), ("mar", 3), ("april", 4),
  ("apr", 4), ("may", 5), ("june", 6), ("jun", 6), ("july", 7), ("jul", 7), ("august", 8),
  ("aug", 8), ("september", 9), ("sep", 9), ("sept", 9), ("october", 10), ("oct", 10),
  ("november", 11), ("nov", 11), ("december", 12), ("dec", 12),
  ("ocak", 1), ("oca", 1), ("subat", 2), ("sub", 2), ("sbt", 2), ("mart", 3), ("nisan", 4),
  ("nis", 4), ("mayis", 5), ("haziran", 6), ("haz", 6), ("temmuz", 7), ("tem", 7), ("agustos", 8),
  ("agu", 8), ("ags", 8), ("eylul", 9), ("eyl", 9), ("ekim", 10), ("eki", 10), ("kasim", 11),
  ("kas", 11), ("aralik", 12), ("ara", 12),
  ("يناير", 1), ("فبراير", 2), ("مارس", 3), ("ابريل", 4), ("مايو", 5), ("يونيو", 6), ("يونيه", 6),
  ("يوليو", 7), ("يوليه", 7), ("اغسطس", 8), ("سبتمبر", 9), ("اكتوبر", 10), ("نوفمبر", 11),
  ("ديسمبر", 12),
  ("شباط", 2), ("اذار", 3), ("نيسان", 4), ("ايار", 5), ("حزيران", 6), ("تموز", 7), ("اب", 8),
  ("ايلول", 9),
  ("ינואר", 1), ("פברואר", 2), ("מרץ", 3), ("מרס", 3), ("אפריל", 4), ("מאי", 5), ("יוני", 6),
  ("יולי", 7), ("אוגוסט", 8), ("ספטמבר", 9), ("אוקטובר", 10), ("נובמבר", 11), ("דצמבר", 12)]

/-- The month of a name. A Hebrew name may have the letter for "in" in front of it. -/
def monthOfWord (word : List Char) : Option Nat :=
  let cs := Text.unmarked word
  match monthWords.lookup (String.ofList cs) with
  | some month => some month
  | none => match cs with
    | 'ב' :: rest => monthWords.lookup (String.ofList rest)
    | _ => none

/-- Remove a character from the end of a word. -/
def dropLast (c : Char) (word : List Char) : List Char :=
  if word.getLast? = some c then word.dropLast else word

/-- A date with the name of the month between the day and the year. A dot may follow the day, and a
dot and a comma the name. -/
def readTextual (cs : List Char) : Option Date := do
  let (day, cs) ← takeDay cs
  let cs ← takeBlanks (match cs with | '.' :: rest => rest | cs => cs)
  let word := cs.takeWhile fun c => !Text.isBlank c
  let year ← readYear (← takeBlanks (cs.dropWhile fun c => !Text.isBlank c))
  let month ← monthOfWord (dropLast '.' (dropLast ',' word))
  Date.ofParts? year month day

/-! ## Dates of message headers -/

/-- The zones that may be named in a message header, with their offsets in hours. -/
def namedZones : List (String × Int) :=
  [("gmt", 0), ("ut", 0), ("edt", -4), ("est", -5), ("cdt", -5), ("cst", -6), ("mdt", -6),
    ("mst", -7), ("pdt", -7), ("pst", -8)]

/-- The zone of a date in a message header: a name, a single letter other than `j`, or an offset
without a colon that is less than a day. -/
def takeHeaderZone (cs : List Char) : Option (List Char) :=
  let name := cs.takeWhile Char.isAlpha
  let rest := cs.dropWhile Char.isAlpha
  if name.isEmpty then do
    let (offset, cs) ← takeOffset false some cs
    if offset.natAbs < 86400 then some cs else none
  else if (namedZones.lookup (String.ofList (name.map Char.toLower))).isSome then some rest
  else match name with
    | [c] => if c.toLower = 'j' then none else some rest
    | _ => none

/-- The rest behind a comment, of which `depth` parentheses are open. -/
def skipComment : Nat → List Char → Option (List Char)
  | _, [] => none
  | depth, '\\' :: _ :: cs => skipComment depth cs
  | depth, '(' :: cs => skipComment (depth + 1) cs
  | depth, ')' :: cs => if depth ≤ 1 then some cs else skipComment (depth - 1) cs
  | depth, _ :: cs => skipComment depth cs

/-- Whether nothing but comments is left; each of them takes at least two characters. -/
def onlyComments : Nat → List Char → Bool
  | 0, cs => cs.isEmpty
  | fuel + 1, cs =>
    cs.isEmpty || match Text.trimLeft cs with
      | '(' :: rest => match skipComment 1 rest with
        | some rest => onlyComments fuel rest
        | none => false
      | _ => false

/-- A year of a message header. Years of two and three digits are abbreviated. -/
def takeHeaderYear (cs : List Char) : Option (Int × List Char) := do
  let (n, rest) ← takeNumber 2 cs.length cs
  let length := cs.length - rest.length
  let year :=
    if length = 2 then (if n < 50 then n + 2000 else n + 1900)
    else if length = 3 then n + 1900
    else n
  return (year, rest)

/-- The date in a message header. -/
def readHeader (cs : List Char) : Option Date := do
  let cs := Text.trimLeft cs
  let (weekday, cs) ← match takeName cs 0 Date.weekdayNames with
    | some (w, cs) => (takeChar ',' cs).map fun cs => (some w, cs)
    | none => some (none, cs)
  let (day, cs) ← takeNumber 1 2 (Text.trimLeft cs)
  let (month, cs) ← takeShortMonth (← takeBlanks cs)
  let (year, cs) ← takeHeaderYear (← takeBlanks cs)
  let (_, cs) ← takeTwo 23 (← takeBlanks cs)
  let (_, cs) ← takeTwo 59 (← takeChar ':' (Text.trimLeft cs))
  let cs ← match takeChar ':' (Text.trimLeft cs) with
    | some cs => (takeTwo 60 cs).map (·.2)
    | none => some cs
  let cs ← takeHeaderZone (← takeBlanks cs)
  if onlyComments cs.length cs then
    Fields.date? { year := some year, month := some month, day := some day, weekday }
  else none

/-! ## All forms -/

/-- Further forms, tried when nothing else fits. -/
def furtherForms : List Pattern := [
  [.year, .char '/', .month, .char '/', .day],
  [.year, .char '.', .month, .char '.', .day],
  [.month, .char '/', .day, .char '/', .year],
  [.monthName, .blanks, .day, .char ',', .blanks, .year],
  [.monthName, .blanks, .day, .blanks, .year],
  [.day, .char '-', .shortMonthName, .char '-', .year],
  [.year, .month, .day]]

/-- The date that a text shows. -/
def readDate (s : String) : Option Date :=
  let cs := (Text.trim s).toList
  readStamp cs
    <|> yearFirst.findSome? (·.read cs)
    <|> readNumeric cs
    <|> readTextual cs
    <|> readHeader cs
    <|> furtherForms.findSome? (·.read cs)

/-- The date of a value: a string shows one, and a whole number counts milliseconds. -/
def dateOf : Json → Option Date
  | .num n => n.int64?.bind dateOfMillis?
  | .str s => readDate s
  | _ => none

/-- The form in which messages show the date of a value. A value without a date stays as it is. -/
def showDate (v : Json) : String :=
  match dateOf v with
  | some d => d.shown
  | none => v.display

/-- What stands between the two dates of a range. -/
def rangeSeparator : String := " - "

/-- The form in which messages show a range of dates. A range that lacks one end stays as it is. -/
def showRange (v : Json) : String :=
  match v with
  | .str s =>
    match Text.splitOnce rangeSeparator.toList s.toList with
    | some (first, last) =>
      let first := Text.trim (String.ofList first)
      let last := Text.trim (String.ofList last)
      if first = "" ∨ last = "" then s
      else showDate (.str first) ++ rangeSeparator ++ showDate (.str last)
    | none => showDate v
  | v => showDate v

end Mailroom.Calendar
