import Mailroom.Calendar.Instant
import Mathlib.Tactic.IntervalCases

/-!
# The number of a day

The number of a day is what one gets by counting days from the first day of 1970, forwards and
backwards (`isDay_iff`), and each number belongs to one day, which is computed from it
(`ofDays_toDays`, `toDays_ofDays`). The count goes through the years that begin in March; their
last day is a leap day in the years that have one, and the only one of its number within the year.
-/

namespace Mailroom.Calendar

theorem isLeap_iff {year : Int} :
    isLeap year = true ↔ year % 4 = 0 ∧ (year % 100 ≠ 0 ∨ year % 400 = 0) := by
  simp [isLeap]

theorem one_le_daysInMonth (year : Int) (month : Nat) : 1 ≤ daysInMonth year month := by
  unfold daysInMonth
  split_ifs <;> omega

theorem daysInMonth_le (year : Int) (month : Nat) : daysInMonth year month ≤ 31 := by
  unfold daysInMonth
  split_ifs <;> omega

namespace Date

variable {d : Date} {n : Int}

/-! ## Days of the calendar -/

/-- The month is one of the year, and the day one of the month. -/
structure IsValid (d : Date) : Prop where
  one_le_month : 1 ≤ d.month
  month_le : d.month ≤ 12
  one_le_day : 1 ≤ d.day
  day_le : d.day ≤ daysInMonth d.year d.month

instance : DecidablePred IsValid := fun d ↦
  decidable_of_iff (1 ≤ d.month ∧ d.month ≤ 12 ∧ 1 ≤ d.day ∧ d.day ≤ daysInMonth d.year d.month)
    ⟨fun ⟨h₁, h₂, h₃, h₄⟩ ↦ ⟨h₁, h₂, h₃, h₄⟩, fun ⟨h₁, h₂, h₃, h₄⟩ ↦ ⟨h₁, h₂, h₃, h₄⟩⟩

theorem IsValid.day_le_31 (hd : d.IsValid) : d.day ≤ 31 :=
  hd.day_le.trans (daysInMonth_le _ _)

theorem ofParts?_eq_some_iff {year : Int} {month day : Nat} :
    ofParts? year month day = some d ↔
      d = ⟨year, month, day⟩ ∧ d.IsValid ∧ firstYear ≤ d.year ∧ d.year ≤ lastYear := by
  unfold ofParts?
  constructor
  · intro h
    split_ifs at h with hparts
    obtain ⟨hfirst, hlast, h₁, h₂, h₃, h₄⟩ := hparts
    cases h
    exact ⟨rfl, ⟨h₁, h₂, h₃, h₄⟩, hfirst, hlast⟩
  · rintro ⟨rfl, ⟨h₁, h₂, h₃, h₄⟩, hfirst, hlast⟩
    exact if_pos ⟨hfirst, hlast, h₁, h₂, h₃, h₄⟩

/-- The day after a date. -/
def next (d : Date) : Date :=
  if d.day < daysInMonth d.year d.month then ⟨d.year, d.month, d.day + 1⟩
  else if d.month < 12 then ⟨d.year, d.month + 1, 1⟩
  else ⟨d.year + 1, 1, 1⟩

theorem IsValid.next (hd : d.IsValid) : d.next.IsValid := by
  obtain ⟨hmonth, hmonth', -, -⟩ := hd
  unfold Date.next
  split_ifs with h h'
  · exact ⟨hmonth, hmonth', Nat.le_add_left 1 _, h⟩
  · exact ⟨Nat.le_add_left 1 _, h', le_rfl, one_le_daysInMonth _ _⟩
  · exact ⟨le_rfl, Nat.le_of_ble_eq_true rfl, le_rfl, one_le_daysInMonth _ _⟩

/-- The number of a day is that of the day before and one more. -/
theorem toDays_next (hd : d.IsValid) : d.next.toDays = d.toDays + 1 := by
  obtain ⟨hmonth, hmonth', hday, hday'⟩ := hd
  obtain ⟨year, month, day⟩ := d
  dsimp only at hmonth hmonth' hday hday'
  unfold Date.next
  dsimp only
  split_ifs with h h'
  · simp only [toDays]
    push_cast
    omega
  · obtain rfl : day = daysInMonth year month := by omega
    interval_cases month
    case «2» =>
      have hleap := @isLeap_iff year
      by_cases hl : isLeap year = true <;> simp [hl] at hleap <;> simp [toDays, daysInMonth, hl] <;>
        omega
    all_goals
      simp [toDays, daysInMonth]
      omega
  · obtain rfl : month = 12 := by omega
    obtain rfl : day = 31 := by
      simp [daysInMonth] at h hday'
      omega
    simp [toDays]
    omega

/-! ## Days from their numbers -/

/-- The number of the month, from March as zero to February as eleven. -/
def monthFromMarch (month : Nat) : Int := (month + 9) % 12

theorem month_of_monthFromMarch (h : 1 ≤ d.month) (h' : d.month ≤ 12) :
    (if monthFromMarch d.month < 10 then monthFromMarch d.month + 3
      else monthFromMarch d.month - 9) = d.month := by
  unfold monthFromMarch
  split <;> omega

/-- A day within its year. Only a leap day is the last day of a long year. -/
theorem dayOfYear_spec (hd : d.IsValid) {a : Int}
    (ha : a = (153 * monthFromMarch d.month + 2) / 5 + d.day - 1) :
    0 ≤ a ∧ a ≤ 365 ∧ (a = 365 → d.month = 2 ∧ isLeap d.year = true) ∧
      (5 * a + 2) / 153 = monthFromMarch d.month := by
  obtain ⟨hmonth, hmonth', hday, hday'⟩ := hd
  obtain ⟨year, month, day⟩ := d
  dsimp only at *
  interval_cases month
  case «2» =>
    by_cases hl : isLeap year = true <;> simp [daysInMonth, hl] at hday' <;>
      simp [monthFromMarch, hl] at ha ⊢ <;> omega
  all_goals
    simp [daysInMonth] at hday'
    simp [monthFromMarch] at ha ⊢
    omega

/-- A year within its four centuries is told from the number of one of its days. -/
theorem yearOfEra_eq {y a : Int} (hy : 0 ≤ y) (hy' : y < 400) (ha : 0 ≤ a) (ha' : a ≤ 365)
    (hleap : a = 365 → (y + 1) % 4 = 0 ∧ ((y + 1) % 100 ≠ 0 ∨ y = 399)) {e : Int}
    (he : e = y * 365 + y / 4 - y / 100 + a) :
    (e - e / 1460 + e / 36524 - e / 146096) / 365 = y := by
  -- The year in centuries, groups of four, and single years.
  obtain ⟨c, q, r, hc, hq, hr, hsplit⟩ : ∃ c q r : Int, (0 ≤ c ∧ c ≤ 3) ∧ (0 ≤ q ∧ q ≤ 24) ∧
      (0 ≤ r ∧ r ≤ 3) ∧ y = 100 * c + 4 * q + r :=
    ⟨y / 100, y % 100 / 4, y % 4, by omega, by omega, by omega, by omega⟩
  have hfour : y / 4 = 25 * c + q := by omega
  have hhundred : y / 100 = c := by omega
  have he : e = 36524 * c + 1461 * q + 365 * r + a := by omega
  have hlast : a = 365 → r = 3 ∧ (q = 24 → c = 3) := by
    intro h
    obtain ⟨h4, h100⟩ := hleap h
    omega
  clear hleap
  -- The last day of all is the only one that a century and an era are a day short for.
  have hera : e / 146096 = if c = 3 ∧ q = 24 ∧ a = 365 then 1 else 0 := by
    split <;> omega
  have hcentury : e / 36524 = c + if c = 3 ∧ q = 24 ∧ a = 365 then 1 else 0 := by
    split <;> omega
  have hgroup : e / 1460 = 25 * c + q + if 1460 ≤ 24 * c + q + 365 * r + a then 1 else 0 := by
    split <;> omega
  rw [hera, hcentury, hgroup]
  split <;> split <;> omega

theorem ofDays_toDays (hd : d.IsValid) : ofDays d.toDays = d := by
  obtain ⟨a, ha⟩ : ∃ a : Int, a = (153 * monthFromMarch d.month + 2) / 5 + d.day - 1 := ⟨_, rfl⟩
  obtain ⟨y, hy⟩ : ∃ y : Int, y = if d.month ≤ 2 then d.year - 1 else d.year := ⟨_, rfl⟩
  obtain ⟨e, he⟩ : ∃ e : Int, e = y % 400 * 365 + y % 400 / 4 - y % 400 / 100 + a := ⟨_, rfl⟩
  obtain ⟨h0, h365, hlast, hmonth⟩ := dayOfYear_spec hd ha
  have hleap : a = 365 → (y % 400 + 1) % 4 = 0 ∧ ((y % 400 + 1) % 100 ≠ 0 ∨ y % 400 = 399) := by
    intro h
    obtain ⟨hfebruary, hleap⟩ := hlast h
    rw [isLeap_iff] at hleap
    rw [if_pos hfebruary.le] at hy
    omega
  have hyear := yearOfEra_eq (by omega) (by omega) h0 h365 hleap he
  have hcount : d.toDays + 719468 = y / 400 * 146097 + e := by
    rw [toDays, ← monthFromMarch, ← ha, ← hy, ← he]
    omega
  have hera : (d.toDays + 719468) / 146097 = y / 400 := by omega
  have hdayOfEra : (d.toDays + 719468) % 146097 = e := by omega
  have hdayOfYear : e - (365 * (y % 400) + y % 400 / 4 - y % 400 / 100) = a := by omega
  have hday : a - (153 * monthFromMarch d.month + 2) / 5 + 1 = d.day := by omega
  have hshift : y % 400 + y / 400 * 400 + (if (d.month : Int) ≤ 2 then 1 else 0) = d.year := by
    split_ifs at hy ⊢ <;> omega
  simp only [ofDays, hera, hdayOfEra, hyear, hdayOfYear, hmonth,
    month_of_monthFromMarch hd.one_le_month hd.month_le, hday, hshift, Int.toNat_natCast]

/-- Four centuries have a whole number of days. -/
theorem toDays_add_era (d : Date) (k : Int) :
    toDays ⟨d.year + 400 * k, d.month, d.day⟩ = d.toDays + 146097 * k := by
  simp only [toDays]
  split_ifs <;> omega

theorem exists_toDays_eq (n : Int) : ∃ d : Date, d.IsValid ∧ d.toDays = n := by
  -- Counting begins on a day that is far enough in the past.
  have hfrom (d : Date) (hd : d.IsValid) (k : Nat) : ∃ d' : Date, d'.IsValid ∧
      d'.toDays = d.toDays + k := by
    induction k with
    | zero => exact ⟨d, hd, (Int.add_zero _).symm⟩
    | succ k ih =>
      obtain ⟨d', hd', hk⟩ := ih
      exact ⟨d'.next, hd'.next, by rw [toDays_next hd', hk, Nat.cast_succ, Int.add_assoc]⟩
  obtain ⟨start, hstart⟩ : ∃ start : Date, start = ⟨1970 + 400 * (n / 146097), 1, 1⟩ := ⟨_, rfl⟩
  have hvalid : start.IsValid := by
    rw [hstart]
    exact ⟨le_rfl, Nat.le_of_ble_eq_true rfl, le_rfl, one_le_daysInMonth _ _⟩
  have hdays : start.toDays = 146097 * (n / 146097) := by
    rw [hstart, toDays_add_era ⟨1970, 1, 1⟩]
    exact Int.zero_add _
  obtain ⟨d, hd, hn⟩ := hfrom start hvalid (n % 146097).toNat
  exact ⟨d, hd, by omega⟩

theorem ofDays_isValid (n : Int) : (ofDays n).IsValid := by
  obtain ⟨d, hd, rfl⟩ := exists_toDays_eq n
  rwa [ofDays_toDays hd]

theorem toDays_ofDays (n : Int) : (ofDays n).toDays = n := by
  obtain ⟨d, hd, rfl⟩ := exists_toDays_eq n
  rw [ofDays_toDays hd]

/-! ## Counting days -/

/-- A date is `n` days after the first day of 1970, or before it if `n` is negative, as one counts
from each day to the next. -/
inductive IsDay : Int → Date → Prop where
  | first : IsDay 0 ⟨1970, 1, 1⟩
  | next {n : Int} {d : Date} : IsDay n d → IsDay (n + 1) d.next
  | previous {n : Int} {d : Date} : d.IsValid → IsDay (n + 1) d.next → IsDay n d

theorem next_ofDays (n : Int) : (ofDays n).next = ofDays (n + 1) := by
  have hvalid := ofDays_isValid n
  rw [← ofDays_toDays hvalid.next, toDays_next hvalid, toDays_ofDays]

theorem isDay_ofDays (n : Int) : IsDay n (ofDays n) := by
  induction n with
  | zero => exact .first
  | succ n ih => exact next_ofDays n ▸ ih.next
  | pred n ih =>
    refine .previous (ofDays_isValid _) ?_
    rwa [next_ofDays, Int.sub_add_cancel]

theorem isDay_iff : IsDay n d ↔ d.IsValid ∧ d.toDays = n := by
  constructor
  · intro h
    induction h with
    | first => exact ⟨by decide, rfl⟩
    | next _ ih => exact ⟨ih.1.next, by rw [toDays_next ih.1, ih.2]⟩
    | previous hd _ ih => exact ⟨hd, by rw [toDays_next hd] at ih; omega⟩
  · rintro ⟨hd, rfl⟩
    have h := isDay_ofDays d.toDays
    rwa [ofDays_toDays hd] at h

end Date

end Mailroom.Calendar
