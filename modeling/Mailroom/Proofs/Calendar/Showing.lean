import Mailroom.Proofs.Calendar.Agreement
import Mailroom.Proofs.Calendar.Numerals

/-!
# Showing a date again

The text in which a date is shown is read as that date or as none, and a text that was shown as it
is shows no date (`showDate_showDate`). So a date that has passed through a message once may pass
through it again.
-/

namespace Mailroom.Calendar

open Number Text

variable {cs ys : List Char} {d : Date}

/-! ## Dates that are read -/

/-- What is read is a day of the calendar, if anything is. -/
def IsReal (o : Option Date) : Prop := ∀ d, o = some d → d.IsValid

namespace IsReal

theorem none : IsReal .none := nofun

theorem ofParts? (year : Int) (month day : Nat) : IsReal (Date.ofParts? year month day) :=
  fun _ h ↦ (Date.ofParts?_eq_some_iff.mp h).2.1

theorem bind {α : Type} {x : Option α} {f : α → Option Date} (h : ∀ a, IsReal (f a)) :
    IsReal (x >>= f) := by
  cases x with
  | none => exact none
  | some a => exact h a

theorem orElse {o o' : Option Date} (h : IsReal o) (h' : IsReal o') : IsReal (o <|> o') := by
  cases o with
  | none => exact h'
  | some d => exact h

theorem findSome? {α : Type} {f : α → Option Date} (h : ∀ a, IsReal (f a)) (as : List α) :
    IsReal (as.findSome? f) := by
  intro d hd
  obtain ⟨a, -, ha⟩ := List.exists_of_findSome?_eq_some hd
  exact h a d ha

/-- A date that is kept or not, but never changed. -/
theorem keep {o : Option Date} {f : Date → Option Date} (h : IsReal o)
    (hf : ∀ d d', f d = some d' → d' = d) : IsReal (o >>= f) := by
  intro d' hd'
  rw [Option.bind_eq_bind, Option.bind_eq_some_iff] at hd'
  obtain ⟨d, hd, hfd⟩ := hd'
  obtain rfl := hf d d' hfd
  exact h d' hd

theorem date? (f : Fields) : IsReal f.date? := by
  unfold Fields.date?
  refine bind fun year ↦ bind fun month ↦ bind fun day ↦ (ofParts? _ _ _).keep fun d d' hd ↦ ?_
  split at hd
  · split at hd
    · exact (Option.some.inj hd).symm
    · cases hd
  · exact (Option.some.inj hd).symm

theorem read (p : Pattern) (cs : List Char) : IsReal (p.read cs) := by
  unfold Pattern.read
  split
  · exact date? _
  · exact none

theorem readStamp (cs : List Char) : IsReal (readStamp cs) := by
  unfold Calendar.readStamp
  repeat' first
    | exact none
    | exact ofParts? _ _ _
    | refine bind fun _ ↦ ?_
    | split

theorem readNumeric (cs : List Char) : IsReal (readNumeric cs) := by
  unfold Calendar.readNumeric
  repeat' first
    | exact ofParts? _ _ _
    | refine bind fun _ ↦ ?_

theorem readTextual (cs : List Char) : IsReal (readTextual cs) := by
  unfold Calendar.readTextual
  repeat' first
    | exact ofParts? _ _ _
    | refine bind fun _ ↦ ?_

theorem readHeader (cs : List Char) : IsReal (readHeader cs) := by
  unfold Calendar.readHeader
  dsimp only
  repeat' first
    | exact none
    | exact date? _
    | refine bind fun _ ↦ ?_
    | split

theorem readDate (s : String) : IsReal (readDate s) :=
  (readStamp _).orElse <| (findSome? (fun p ↦ read p _) _).orElse <| (readNumeric _).orElse <|
    (readTextual _).orElse <| (readHeader _).orElse <| findSome? (fun p ↦ read p _) _

theorem dateOf (v : Json) : IsReal (dateOf v) := by
  unfold Calendar.dateOf
  split
  · exact bind fun _ ↦ ofParts? _ _ _
  · exact readDate _
  · exact none

end IsReal

/-! ## The text of a date -/

/-- The characters that show a date, but for its year. -/
def shownUpTo (d : Date) (ys : List Char) : List Char :=
  zeroPadded 2 d.day ++ ' ' :: ((Date.monthName d.month).toList ++ ' ' :: ys)

theorem toList_shown (d : Date) : d.shown.toList = shownUpTo d (intText d.year) := by
  simp [Date.shown, shownUpTo]

theorem isMonthWord_monthName (hd : d.IsValid) :
    IsMonthWord d.month (Date.monthName d.month).toList := by
  obtain ⟨hfirst, hlast, -, -⟩ := hd
  obtain ⟨year, month, day⟩ := d
  dsimp only at hfirst hlast ⊢
  refine .name ⟨String.ofList ((Date.monthName month).toList.map Char.toLower), ?_, ?_⟩
  · interval_cases month <;> decide +kernel
  · rw [String.toList_ofList]

theorem isShort_day (hd : d.IsValid) : IsShort d.day (zeroPadded 2 d.day) :=
  isShort_zeroPadded (hd.day_le_31.trans_lt (by decide))

section

variable (hd : d.IsValid)
include hd

theorem readNumeric_shownUpTo (ys : List Char) : readNumeric (shownUpTo d ys) = none :=
  bind_of_some ((isShort_day hd).takeDay (ends_cons.mpr rfl)) (bind_of_none rfl)

theorem readTextual_shownUpTo (hys : NotBlank ys) (hyear : readYear ys = none) :
    readTextual (shownUpTo d ys) = none := by
  have hword := (isMonthWord_monthName hd).isWord
  have hletters := fun c hc ↦ isBlank_of_isNameLetter (hword.letters c hc)
  have hfirst := isGap_blank.takeBlanks (hword.notBlank (' ' :: ys))
  have hlast := isGap_blank.takeBlanks hys
  have hdrop := (takeWhile_notBlank hletters isGap_blank ys).2
  refine bind_of_some ((isShort_day hd).takeDay (ends_cons.mpr rfl)) (bind_of_some hfirst ?_)
  exact bind_of_some ((congrArg takeBlanks hdrop).trans hlast) (bind_of_none hyear)

/-- In a header the year would be followed by the time of day. -/
theorem readHeader_shownUpTo (hys : NotBlank ys)
    (hheader : ∀ r, takeHeaderYear ys = some r → r.2 = []) :
    readHeader (shownUpTo d ys) = none := by
  have hday := isShort_day hd
  have hword := (isMonthWord_monthName hd).isWord
  have hends := isGap_blank.ends ((Date.monthName d.month).toList ++ ' ' :: ys)
  have hnumber := takeNumber_of_length hday.digits hends (List.length_pos_iff.mpr hday.ne_nil)
    hday.length_le
  have hmonth := takeShortMonth_append hd.one_le_month hd.month_le rfl (' ' :: ys)
  rw [shownUpTo, readHeader, trimLeft_digits hday.digits hday.ne_nil,
    takeName_digits hday.digits hday.ne_nil (by simp)]
  refine bind_of_some rfl ?_
  dsimp only
  rw [trimLeft_digits hday.digits hday.ne_nil]
  refine bind_of_some hnumber ?_
  refine bind_of_some (isGap_blank.takeBlanks (hword.notBlank _)) ?_
  refine bind_of_some hmonth ?_
  refine bind_of_some (isGap_blank.takeBlanks hys) ?_
  cases hlast : takeHeaderYear ys with
  | none => rfl
  | some r =>
    refine bind_of_some rfl (bind_of_none ?_)
    rw [hheader r hlast]
    rfl

theorem furtherForms_shownUpTo (ys : List Char) :
    furtherForms.findSome? (·.read (shownUpTo d ys)) = none := by
  have hday := isShort_day hd
  have hword := (isMonthWord_monthName hd).isWord
  have hends : Ends (' ' :: ((Date.monthName d.month).toList ++ ' ' :: ys)) := ends_cons.mpr rfl
  have hdayFirst (ps : Pattern) : Pattern.read (.day :: .char '-' :: ps) (shownUpTo d ys) = none :=
    Pattern.read_number_char (by simp) hday.digits hday.ne_nil hends rfl (by simp)
  have hnumbers : Pattern.read [.year, .month, .day] (shownUpTo d ys) = none := by
    have hlength : (zeroPadded 2 d.day).length ≤ 4 := hday.length_le.trans (by decide)
    have htake : takeWithin 1 12 ((Date.monthName d.month).toList ++ ' ' :: ys) = none :=
      takeWithin_of_ends (hword.ends _) (hword.notBlank _)
    refine Pattern.read_of_none ?_
    refine bind_of_some (Piece.read_year_append hday.digits hday.ne_nil hlength hends _) ?_
    exact bind_of_none (congrArg (Option.map _) htake)
  rw [shownUpTo, furtherForms_of_ne hday.digits hday.ne_nil hends (by simp) (by simp), ← shownUpTo,
    List.findSome?_cons, hdayFirst, List.findSome?_cons, hnumbers]
  rfl

/-- A year without four digits is not read behind day and month. -/
theorem readTrimmed_shownUpTo (hys : NotBlank ys) (hyear : readYear ys = none)
    (hheader : ∀ r, takeHeaderYear ys = some r → r.2 = []) :
    readTrimmed (shownUpTo d ys) = none := by
  have hday := isShort_day hd
  have hends : Ends (' ' :: ((Date.monthName d.month).toList ++ ' ' :: ys)) := ends_cons.mpr rfl
  rw [readTrimmed, readNumeric_shownUpTo hd, readTextual_shownUpTo hd hys hyear,
    readHeader_shownUpTo hd hys hheader, furtherForms_shownUpTo hd, shownUpTo,
    readStamp_of_short hday.digits hends hday.length_lt,
    yearFirst_of_ne hday.digits hday.ne_nil hends (by simp)]
  rfl

end

theorem isBlank_intText (y : Int) : ∀ c ∈ intText y, isBlank c = false := by
  have hdigits : ∀ c ∈ natText y.natAbs, isBlank c = false :=
    fun c hc ↦ isBlank_of_isDigit (isDigits_natText _ c hc)
  unfold intText
  split
  · exact List.forall_mem_cons.mpr ⟨rfl, hdigits⟩
  · exact hdigits

theorem intText_ne_nil (y : Int) : intText y ≠ [] := by
  unfold intText
  split
  · exact List.cons_ne_nil _ _
  · exact natText_ne_nil _

theorem readYear_intText {y : Int} (hy : ¬ (1000 ≤ y ∧ y ≤ 9999)) :
    readYear (intText y) = none := by
  have hlength {k : Nat} (hk : 0 < k) : (natText y.natAbs).length ≤ k ↔ y.natAbs < 10 ^ k :=
    length_natText_le_iff hk
  unfold readYear intText
  split_ifs with hneg hfour hfour
  · cases hread : readNat? ('-' :: natText y.natAbs) with
    | none => rfl
    | some n => exact absurd (isDigits_cons.mp (isDigits_of_readNat? hread)).1 (by decide)
  · rfl
  · have hthree := mt (hlength (k := 3) (by decide)).mpr
    have hfour := (hlength (k := 4) (by decide)).mp hfour.le
    omega
  · rfl

theorem takeHeaderYear_intText (y : Int) :
    ∀ r, takeHeaderYear (intText y) = some r → r.2 = [] := by
  intro r hr
  have hdigits := isDigits_natText y.natAbs
  unfold takeHeaderYear intText at hr
  split at hr
  · rw [takeNumber_of_ends (by simp) (by decide)] at hr
    cases hr
  · have htake := takeNumber_append hdigits ends_nil 2 (natText y.natAbs).length
    rw [List.append_nil, List.append_nil, List.drop_length] at htake
    rw [htake] at hr
    split at hr
    · cases hr
    · cases hr
      rfl

theorem readTrimmed_shown (hd : d.InFourDigits) (hyear : 1000 ≤ d.year) :
    readTrimmed (shownUpTo d (intText d.year)) = some d := by
  have hle := hd.year_le
  have hlength : ¬ (natText d.year.toNat).length ≤ 3 := by
    rw [length_natText_le_iff (by decide)]
    omega
  have htext : intText d.year = yearText d := by
    have habs : d.year.natAbs = d.year.toNat := by omega
    rw [intText, if_neg (by omega), yearText, zeroPadded_eq_natText (by omega), habs]
  have h := readTrimmed_of_named hd (isShort_day hd.toIsValid) (.inl rfl) isGap_blank
    (isMonthWord_monthName hd.toIsValid) (.inl rfl) (.inl rfl) isGap_blank
  simpa [shownUpTo, htext] using h

theorem readDate_shown_eq (hd : d.IsValid) :
    readDate d.shown = readTrimmed (shownUpTo d (intText d.year)) := by
  have hblank : NotBlank (shownUpTo d (intText d.year)) :=
    notBlank_digits (isDigits_zeroPadded _ _) (isShort_day hd).ne_nil _
  have hblank' : NotBlank (shownUpTo d (intText d.year)).reverse := by
    have h := notBlank_reverse_append (intText_ne_nil d.year) (isBlank_intText d.year)
      (zeroPadded 2 d.day ++ ' ' :: ((Date.monthName d.month).toList ++ [' ']))
    simpa [shownUpTo] using h
  have htrim : Text.trim d.shown = d.shown := by
    rw [← String.ofList_toList (s := d.shown), toList_shown, trim_ofList hblank hblank']
  rw [readDate_eq, htrim, toList_shown]

/-- A date whose year is not shown with four digits cannot be read again. -/
theorem readDate_shown_eq_none (hd : d.IsValid) (hyear : ¬ (1000 ≤ d.year ∧ d.year ≤ 9999)) :
    readDate d.shown = none := by
  rw [readDate_shown_eq hd]
  refine readTrimmed_shownUpTo hd ?_ (readYear_intText hyear) (takeHeaderYear_intText _)
  exact fun c hc ↦ isBlank_intText _ c (List.mem_of_head? hc)

theorem readDate_shown (hd : d.IsValid) :
    readDate d.shown = some d ∨ readDate d.shown = none := by
  by_cases hyear : 1000 ≤ d.year ∧ d.year ≤ 9999
  · rw [readDate_shown_eq hd]
    exact .inl (readTrimmed_shown ⟨hd, by omega, hyear.2⟩ hyear.1)
  · exact .inr (readDate_shown_eq_none hd hyear)

/-! ## The texts of other values -/

theorem readDate_of_mark {c : Char} {cs : List Char} (hdigit : c.isDigit = false)
    (hblank : isBlank c = false) (hletter : c.toLower.isAlpha = false) (hminus : c ≠ '-')
    (hplus : c ≠ '+') : readDate (String.ofList (c :: cs)) = none := by
  obtain ⟨cs', htrim⟩ := exists_trim_eq_cons hblank cs
  rw [readDate_eq, htrim, readTrimmed_of_mark hdigit hblank hletter hminus hplus]

/-- The text of a value without a date shows none. -/
theorem readDate_display {v : Json} (h : dateOf v = none) : readDate v.display = none := by
  cases v with
  | null => decide +kernel
  | bool b => cases b <;> decide +kernel
  | num n => exact (isNumeral_text h).readDate
  | str s => exact h
  | arr items => exact readDate_of_mark rfl rfl rfl (by decide) (by decide)
  | obj members => exact readDate_of_mark rfl rfl rfl (by decide) (by decide)

/-- What has been shown is shown as it is, and it shows no other date than the value did. -/
theorem showDate_showDate (v : Json) : showDate (.str (showDate v)) = showDate v ∧
    ∀ d, readDate (showDate v) = some d → dateOf v = some d := by
  cases hv : dateOf v with
  | none =>
    have hshow : showDate v = v.display := by rw [showDate, hv]
    have hread := readDate_display hv
    refine ⟨?_, fun d hd ↦ ?_⟩
    · rw [hshow, showDate, dateOf, hread]
      rfl
    · rw [hshow, hread] at hd
      cases hd
  | some d =>
    have hshow : showDate v = d.shown := by rw [showDate, hv]
    rw [hshow]
    rcases readDate_shown (IsReal.dateOf v d hv) with hread | hread
    · refine ⟨by rw [showDate, dateOf, hread], fun d' hd' ↦ ?_⟩
      rw [← hd', hread]
    · refine ⟨?_, fun d' hd' ↦ ?_⟩
      · rw [showDate, dateOf, hread]
        rfl
      · rw [hread] at hd'
        cases hd'

/-- A year of two digits is shown as it is, and then it is no year of a date any more. -/
example : showDate (.str "5/7/0025") = "05 Jul 25" ∧ readDate "05 Jul 25" = none := by
  decide +kernel

end Mailroom.Calendar
