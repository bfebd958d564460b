import Mailroom.Proofs.Calendar.Days
import Mailroom.Proofs.Calendar.Month

/-!
# Notations of a day

The ways in which people and programs write a day of the years up to 9999 (`Notation`), with digits
(`IsShort`, `Date.InFourDigits`) and with names of months, and what it is for a text to show a day
(`Shows`).
-/

namespace Mailroom.Calendar

open Number Text

variable {ds cs rest word : List Char} {c : Char} {d : Date} {n month : Nat}

/-! ## Numbers in one digit or two -/

/-- A number written with one digit or two. -/
structure IsShort (n : Nat) (ds : List Char) : Prop where
  digits : IsDigits ds
  ne_nil : ds ≠ []
  length_le : ds.length ≤ 2
  value : digitsValue 0 ds = n

theorem isShort_zeroPadded (h : n < 100) : IsShort n (zeroPadded 2 n) where
  digits := isDigits_zeroPadded _ _
  ne_nil := List.ne_nil_of_length_pos (by rw [length_zeroPadded Nat.two_pos h]; decide)
  length_le := (length_zeroPadded Nat.two_pos h).le
  value := digitsValue_zeroPadded _ _

namespace IsShort

theorem length_lt (h : IsShort n ds) : ds.length < 4 := h.length_le.trans_lt (by decide)

theorem takeDay (h : IsShort n ds) (hrest : Ends rest) :
    takeDay (ds ++ rest) = some (n, rest) := by
  have hlength : 1 ≤ ds.length := List.length_pos_iff.mpr h.ne_nil
  rw [takeDay_append h.digits hrest, if_pos ⟨hlength, h.length_le⟩, h.value]

theorem takeWithin (h : IsShort n ds) {least most : Nat} (hleast : least ≤ n) (hmost : n ≤ most)
    (hrest : Ends rest) : takeWithin least most (ds ++ rest) = some (n, rest) := by
  rw [takeWithin_append h.digits h.ne_nil hrest, List.take_of_length_le h.length_le,
    List.drop_eq_nil_of_le h.length_le, h.value, if_pos ⟨hleast, hmost⟩, List.nil_append]

theorem read_month (h : IsShort d.month ds) (hd : d.IsValid) (hrest : Ends rest) (f : Fields) :
    Piece.month.read f (ds ++ rest) = some ({ f with month := some d.month }, rest) := by
  rw [Piece.read, h.takeWithin hd.one_le_month hd.month_le hrest]
  rfl

theorem read_day (h : IsShort d.day ds) (hd : d.IsValid) (hrest : Ends rest) (f : Fields) :
    Piece.day.read f (ds ++ rest) = some ({ f with day := some d.day }, rest) := by
  rw [Piece.read, h.takeWithin hd.one_le_day hd.day_le_31 hrest]
  rfl

theorem read_day_last (h : IsShort d.day ds) (hd : d.IsValid) (f : Fields) :
    Piece.day.read f ds = some ({ f with day := some d.day }, []) := by
  have hread := h.read_day hd ends_nil f
  rwa [List.append_nil] at hread

end IsShort

/-! ## Years in four digits -/

/-- A day of a year that can be written with four digits. -/
structure Date.InFourDigits (d : Date) : Prop extends d.IsValid where
  year_nonneg : 0 ≤ d.year
  year_le : d.year ≤ 9999

/-- The year of a date in four digits. -/
def yearText (d : Date) : List Char := zeroPadded 4 d.year.toNat

theorem isDigits_yearText (d : Date) : IsDigits (yearText d) := isDigits_zeroPadded _ _

namespace Date.InFourDigits

theorem length_yearText (hd : d.InFourDigits) : (yearText d).length = 4 := by
  have hle := hd.year_le
  exact length_zeroPadded (by decide) (by omega)

theorem yearText_ne_nil (hd : d.InFourDigits) : yearText d ≠ [] :=
  List.ne_nil_of_length_pos (by rw [hd.length_yearText]; decide)

theorem notBlank_yearText (hd : d.InFourDigits) : NotBlank (yearText d) := by
  have h := notBlank_digits (isDigits_yearText d) hd.yearText_ne_nil []
  rwa [List.append_nil] at h

theorem ofParts? (hd : d.InFourDigits) : Date.ofParts? d.year.toNat d.month d.day = some d := by
  have hyear : (d.year.toNat : Int) = d.year := Int.toNat_of_nonneg hd.year_nonneg
  have hle := hd.year_le
  have hnonneg := hd.year_nonneg
  rw [Date.ofParts?_eq_some_iff, hyear]
  refine ⟨rfl, hd.toIsValid, ?_, ?_⟩
  · unfold firstYear
    omega
  · unfold lastYear
    omega

theorem readYear (hd : d.InFourDigits) : readYear (yearText d) = some d.year.toNat := by
  rw [Calendar.readYear, if_pos hd.length_yearText,
    readNat?_of_isDigits (isDigits_yearText d) hd.yearText_ne_nil]
  exact congrArg some (digitsValue_zeroPadded _ _)

theorem digitsValue_yearText (d : Date) : digitsValue 0 (yearText d) = d.year.toNat :=
  digitsValue_zeroPadded _ _

theorem read_year (hd : d.InFourDigits) (hrest : Ends rest) (f : Fields) :
    Piece.year.read f (yearText d ++ rest) =
      some ({ f with year := some (d.year.toNat : Int) }, rest) := by
  rw [Piece.read_year_append (isDigits_yearText d) hd.yearText_ne_nil hd.length_yearText.le hrest,
    digitsValue_yearText]

theorem read_year_last (hd : d.InFourDigits) (f : Fields) :
    Piece.year.read f (yearText d) = some ({ f with year := some (d.year.toNat : Int) }, []) := by
  have hread := hd.read_year ends_nil f
  rwa [List.append_nil] at hread

theorem date? (hd : d.InFourDigits) :
    Fields.date? ⟨some d.year.toNat, some d.month, some d.day, none⟩ = some d :=
  bind_of_some rfl (bind_of_some rfl (bind_of_some rfl (bind_of_some hd.ofParts? rfl)))

end Date.InFourDigits

/-! ## Notations -/

/-- One blank or more. -/
structure IsGap (gap : List Char) : Prop where
  areBlanks : AreBlanks gap
  ne_nil : gap ≠ []

/-- A character that may be left out. -/
def IsOptional (c : Char) (cs : List Char) : Prop := cs = [] ∨ cs = [c]

/-- A point with the digits of a fraction, or nothing. -/
inductive IsFraction : List Char → Prop where
  | none : IsFraction []
  | some {ds : List Char} : IsDigits ds → ds ≠ [] → IsFraction ('.' :: ds)

/-- The zone of a time stamp: universal time, or an offset in hours and minutes. -/
inductive IsZone : List Char → Prop where
  | universal {z : Char} : z = 'Z' ∨ z = 'z' → IsZone [z]
  | offset {sign : Char} {hours minutes : Nat} : sign = '+' ∨ sign = '-' → hours ≤ 23 →
      minutes ≤ 59 → IsZone (sign :: (zeroPadded 2 hours ++ ':' :: zeroPadded 2 minutes))

/-- What is written for a day without separators. -/
def compactText (d : Date) : List Char :=
  yearText d ++ (zeroPadded 2 d.month ++ zeroPadded 2 d.day)

/-- A character that stands between the numbers of a date. -/
def IsSeparator (c : Char) : Prop := c = '.' ∨ c = '/' ∨ c = '-'

/-- What is written for a day with a time of day, and what follows the seconds. -/
def stampText (d : Date) (t : Char) (hour minute second : Nat) (rest : List Char) : List Char :=
  yearText d ++ '-' :: (zeroPadded 2 d.month ++ '-' :: (zeroPadded 2 d.day ++
    t :: (zeroPadded 2 hour ++ ':' :: (zeroPadded 2 minute ++ ':' ::
      (zeroPadded 2 second ++ rest)))))

/-- The ways to write a day. -/
inductive Notation (d : Date) : List Char → Prop where
  /-- Year, month and day, with hyphens, slashes or dots between them. -/
  | yearFirst {s : Char} {ms ds : List Char} : IsSeparator s → IsShort d.month ms →
      IsShort d.day ds → Notation d (yearText d ++ s :: (ms ++ s :: ds))
  /-- A time stamp: date, time of day and zone, all in full. -/
  | stamp {t : Char} {hour minute second : Nat} {fraction zone : List Char} :
      t = 'T' ∨ t = 't' ∨ t = ' ' → hour ≤ 23 → minute ≤ 59 → second ≤ 60 →
      IsFraction fraction → IsZone zone →
      Notation d (stampText d t hour minute second (fraction ++ zone))
  /-- Day, month and year with any separators. -/
  | dayFirst {s t : Char} {ds ms : List Char} : IsShort d.day ds → IsShort d.month ms →
      IsSeparator s → IsSeparator t → Notation d (ds ++ s :: (ms ++ t :: yearText d))
  /-- The name of the month between day and year. -/
  | named {ds dot gap word dot' comma gap' : List Char} : IsShort d.day ds → IsOptional '.' dot →
      IsGap gap → IsMonthWord d.month word → IsOptional '.' dot' → IsOptional ',' comma →
      IsGap gap' → Notation d (ds ++ (dot ++ (gap ++ ((word ++ dot' ++ comma) ++
        (gap' ++ yearText d)))))
  /-- The English name of the month first. -/
  | nameFirst {word gap ds gap' : List Char} : IsEnglishMonth d.month word → IsGap gap →
      IsShort d.day ds → IsGap gap' →
      Notation d (word ++ (gap ++ (ds ++ ',' :: (gap' ++ yearText d))))
  /-- Year, month and day with nothing between them. -/
  | compact : Notation d (compactText d)
  /-- Day, three letters of the English name of the month, and year, with hyphens. -/
  | hyphened {ds word : List Char} : IsShort d.day ds → IsAbbreviation d.month word →
      Notation d (ds ++ '-' :: (word ++ '-' :: yearText d))

/-- A text shows a day: it is one of its notations, with blanks around it or without. -/
def Shows (s : String) (d : Date) : Prop :=
  ∃ before cs after, AreBlanks before ∧ Notation d cs ∧ AreBlanks after ∧
    s = String.ofList (before ++ (cs ++ after))

end Mailroom.Calendar
