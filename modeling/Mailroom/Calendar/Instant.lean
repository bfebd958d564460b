import Mailroom.Calendar.Date

/-!
# Instants

Points in time, counted in milliseconds from the beginning of 1970 in universal time, and the forms
in which they are written.
-/

namespace Mailroom.Calendar

/-- The day and the millisecond of the day of an instant. -/
def splitMillis (millis : Int) : Int × Nat := (millis / 86400000, (millis % 86400000).toNat)

/-- The date of an instant in universal time, if it lies within the years that dates are given
for. -/
def dateOfMillis? (millis : Int) : Option Date :=
  let d := Date.ofDays (splitMillis millis).1
  Date.ofParts? d.year d.month d.day

/-- Hours, minutes and seconds of a day, separated by colons. -/
def clockText (millisOfDay : Nat) : List Char :=
  let seconds := millisOfDay / 1000
  Number.zeroPadded 2 (seconds / 3600) ++ ':' :: (Number.zeroPadded 2 (seconds / 60 % 60)
    ++ ':' :: Number.zeroPadded 2 (seconds % 60))

/-- An instant with its date, its time, as many digits of a second as `places` says, and what
follows. -/
def stamp (millis : Int) (places : List Char) (zone : String) : String :=
  let (day, rest) := splitMillis millis
  (Date.ofDays day).iso ++ "T" ++ String.ofList (clockText rest ++ places) ++ zone

/-- An instant with an offset to universal time. Milliseconds are written if there are any. -/
def offsetStamp (millis : Int) : String :=
  let rest := (splitMillis millis).2 % 1000
  stamp millis (if rest = 0 then [] else '.' :: Number.zeroPadded 3 rest) "+00:00"

/-- An instant in universal time with milliseconds. -/
def milliStamp (millis : Int) : String :=
  stamp millis ('.' :: Number.zeroPadded 3 ((splitMillis millis).2 % 1000)) "Z"

/-- An instant in universal time with microseconds. -/
def microStamp (millis : Int) : String :=
  stamp millis ('.' :: (Number.zeroPadded 3 ((splitMillis millis).2 % 1000) ++ ['0', '0', '0'])) "Z"

/-- The form of an instant in the header of a message. -/
def headerStamp (millis : Int) : String :=
  let (day, rest) := splitMillis millis
  let d := Date.ofDays day
  Date.weekdayNames.getD d.weekday "" ++ ", " ++ String.ofList (Number.zeroPadded 2 d.day) ++ " "
    ++ Date.monthName d.month ++ " " ++ String.ofList (Number.zeroPadded 4 d.year.natAbs) ++ " "
    ++ String.ofList (clockText rest) ++ " +0000"

end Mailroom.Calendar
