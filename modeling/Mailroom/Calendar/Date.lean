import Mailroom.Number.Decimal

/-!
# Dates

Days of the Gregorian calendar, extended to all years, and their number counted from the first day
of 1970. A year of the count begins in March, so that the leap day is its last day.
-/

namespace Mailroom.Calendar

/-- A day of the Gregorian calendar. -/
structure Date where
  year : Int
  month : Nat
  day : Nat
deriving DecidableEq, Repr

/-- Whether a year has a leap day. -/
def isLeap (year : Int) : Bool := year % 4 == 0 && (year % 100 != 0 || year % 400 == 0)

/-- The number of days of a month. -/
def daysInMonth (year : Int) (month : Nat) : Nat :=
  if month = 2 then (if isLeap year then 29 else 28)
  else if month = 4 ∨ month = 6 ∨ month = 9 ∨ month = 11 then 30
  else 31

/-- The first and the last year that dates are given for. -/
def firstYear : Int := -262143

@[inherit_doc firstYear]
def lastYear : Int := 262142

/-- The date of a year, a month and a day, if there is one. -/
def Date.ofParts? (year : Int) (month day : Nat) : Option Date :=
  if firstYear ≤ year ∧ year ≤ lastYear ∧ 1 ≤ month ∧ month ≤ 12
      ∧ 1 ≤ day ∧ day ≤ daysInMonth year month then
    some ⟨year, month, day⟩
  else none

namespace Date

/-- The number of the day, where the first day of 1970 has number zero. -/
def toDays (d : Date) : Int :=
  let y := if d.month ≤ 2 then d.year - 1 else d.year
  let era := y / 400
  let yearOfEra := y % 400
  let monthFromMarch : Int := (d.month + 9) % 12
  let dayOfYear := (153 * monthFromMarch + 2) / 5 + d.day - 1
  let dayOfEra := yearOfEra * 365 + yearOfEra / 4 - yearOfEra / 100 + dayOfYear
  era * 146097 + dayOfEra - 719468

/-- The day of a number. -/
def ofDays (n : Int) : Date :=
  let z := n + 719468
  let era := z / 146097
  let dayOfEra := z % 146097
  let yearOfEra :=
    (dayOfEra - dayOfEra / 1460 + dayOfEra / 36524 - dayOfEra / 146096) / 365
  let dayOfYear := dayOfEra - (365 * yearOfEra + yearOfEra / 4 - yearOfEra / 100)
  let monthFromMarch := (5 * dayOfYear + 2) / 153
  let day := dayOfYear - (153 * monthFromMarch + 2) / 5 + 1
  let month := if monthFromMarch < 10 then monthFromMarch + 3 else monthFromMarch - 9
  let year := yearOfEra + era * 400 + if month ≤ 2 then 1 else 0
  ⟨year, month.toNat, day.toNat⟩

/-- The day of the week, from Monday as zero to Sunday as six. -/
def weekday (d : Date) : Nat := ((d.toDays + 3) % 7).toNat

/-- The English names of the months, cut to three letters. -/
def monthNames : List String :=
  ["Jan", "Feb", "Mar", "Apr", "May", "Jun", "Jul", "Aug", "Sep", "Oct", "Nov", "Dec"]

/-- The English names of the days of the week, cut to three letters. -/
def weekdayNames : List String := ["Mon", "Tue", "Wed", "Thu", "Fri", "Sat", "Sun"]

/-- The name of a month. -/
def monthName (month : Nat) : String := monthNames.getD (month - 1) ""

/-- The form in which messages show a date, such as `05 Jul 2025`. The year is not filled up. -/
def shown (d : Date) : String :=
  String.ofList (Number.zeroPadded 2 d.day) ++ " " ++ monthName d.month ++ " "
    ++ String.ofList (Number.intText d.year)

/-- A year of at least four digits, with a sign if it has more or is negative. -/
def isoYear (year : Int) : List Char :=
  let digits := Number.zeroPadded 4 year.natAbs
  if year < 0 then '-' :: digits
  else if 9999 < year then '+' :: digits
  else digits

/-- The form of a date with year, month and day from the left to the right. -/
def iso (d : Date) : String :=
  String.ofList (isoYear d.year ++ '-' :: (Number.zeroPadded 2 d.month
    ++ '-' :: Number.zeroPadded 2 d.day))

end Date

end Mailroom.Calendar
