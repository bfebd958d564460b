import Mailroom.Proofs.Calendar.Pieces
import Mathlib.Tactic.IntervalCases

/-!
# Which readers a text passes by

The readers of a date are tried in a fixed order, so a text is read by the one meant for it only if
no earlier one takes it. The lemmas of this module say from the beginning of a text that a reader
does not take it: how many digits there are, and what stands behind them.
-/

namespace Mailroom.Calendar

open Number Text

variable {ds cs rest : List Char} {c : Char}

/-- The date that a text without blanks at its ends shows. -/
def readTrimmed (cs : List Char) : Option Date :=
  readStamp cs
    <|> yearFirst.findSome? (·.read cs)
    <|> readNumeric cs
    <|> readTextual cs
    <|> readHeader cs
    <|> furtherForms.findSome? (·.read cs)

theorem readDate_eq (s : String) : readDate s = readTrimmed (Text.trim s).toList := rfl

/-! ## Names -/

theorem length_weekdayNames : ∀ name ∈ Date.weekdayNames, name.toList.length = 3 := by decide

theorem length_monthNames : ∀ name ∈ Date.monthNames, name.toList.length = 3 := by decide

/-- No day of the week and no month begins with another character than a letter. -/
theorem takeName_of_not_letter (hc : c.toLower.isAlpha = false) {names : List String}
    (h : names ∈ [Date.weekdayNames, Date.monthNames]) (n : Nat) :
    takeName (c :: cs) n names = none := by
  have hletter : ∀ names ∈ [Date.weekdayNames, Date.monthNames], ∀ name ∈ names,
      (name.toList.map fun d ↦ d.toLower.isAlpha) = [true, true, true] := by decide
  refine takeName_of_head (fun name hname ↦ ?_) n
  have hname := hletter names h name hname
  cases hlist : name.toList with
  | nil =>
    rw [hlist] at hname
    cases hname
  | cons d ds =>
    refine ⟨d, ds, rfl, fun heq ↦ ?_⟩
    rw [hlist, List.map_cons, heq, hc] at hname
    cases hname

theorem toLower_isAlpha_of_isDigit (h : c.isDigit = true) : c.toLower.isAlpha = false := by
  rw [Char.isDigit_iff_toNat] at h
  have hlow : 48 ≤ c.toNat := h.1
  have hhigh : c.toNat ≤ 57 := h.2
  rw [← Char.ofNat_toNat c]
  interval_cases c.toNat <;> rfl

theorem takeName_digits (hds : IsDigits ds) (hne : ds ≠ []) {names : List String}
    (h : names ∈ [Date.weekdayNames, Date.monthNames]) (n : Nat) :
    takeName (ds ++ rest) n names = none := by
  obtain ⟨d, ds, rfl⟩ := List.exists_cons_of_ne_nil hne
  exact takeName_of_not_letter (toLower_isAlpha_of_isDigit (isDigits_cons.mp hds).1) h n

/-! ## Texts that begin with digits -/

theorem readStamp_of_short (hds : IsDigits ds) (hrest : Ends rest) (h : ds.length < 4) :
    readStamp (ds ++ rest) = none :=
  bind_of_none (takeNumber_of_short hds hrest h)

theorem readStamp_of_ne (hds : IsDigits ds) (hrest : Ends rest) (h : rest.head? ≠ some '-') :
    readStamp (ds ++ rest) = none := by
  rw [readStamp, takeNumber_append hds hrest]
  split
  · rfl
  · exact bind_of_some rfl
      (bind_of_none (takeChar_of_ne (head?_digits_append_ne (hds.drop 4) rfl h)))

theorem yearFirst_of_ne (hds : IsDigits ds) (hne : ds ≠ []) (hrest : Ends rest)
    (h : rest.head? ≠ some '-') : yearFirst.findSome? (·.read (ds ++ rest)) = none := by
  have hread (ps : Pattern) : Pattern.read (.year :: .char '-' :: ps) (ds ++ rest) = none :=
    Pattern.read_number_char (by simp) hds hne hrest rfl h
  simp [yearFirst, hread]

theorem readNumeric_of_long (hds : IsDigits ds) (hrest : Ends rest) (h : 2 < ds.length) :
    readNumeric (ds ++ rest) = none := by
  refine bind_of_none ?_
  rw [takeDay_append hds hrest, if_neg (by omega)]

theorem readTextual_of_long (hds : IsDigits ds) (hrest : Ends rest) (h : 2 < ds.length) :
    readTextual (ds ++ rest) = none := by
  refine bind_of_none ?_
  rw [takeDay_append hds hrest, if_neg (by omega)]

/-- Behind the day a message header has a blank. -/
theorem readHeader_of_notBlank (hds : IsDigits ds) (hne : ds ≠ []) (hrest : Ends rest)
    (h : NotBlank rest) : readHeader (ds ++ rest) = none := by
  have hlength : 1 ≤ ds.length := List.length_pos_iff.mpr hne
  have hdrop : NotBlank (ds.drop 2 ++ rest) := by
    cases hds' : ds.drop 2 with
    | nil => exact h
    | cons d ds' =>
      have hd := hds.drop 2 d (hds' ▸ List.mem_cons_self)
      exact notBlank_cons.mpr (isBlank_of_isDigit hd)
  have hnumber : takeNumber 1 2 (trimLeft (ds ++ rest)) =
      some (digitsValue 0 (ds.take 2), ds.drop 2 ++ rest) := by
    rw [trimLeft_digits hds hne, takeNumber_append hds hrest, if_neg (by omega)]
  rw [readHeader, trimLeft_digits hds hne, takeName_digits hds hne (by simp)]
  exact bind_of_some rfl (bind_of_some hnumber (bind_of_none (takeBlanks_of_notBlank hdrop)))

/-- The further forms that may fit a text that begins with digits. -/
theorem furtherForms_digits (hds : IsDigits ds) (hne : ds ≠ []) :
    furtherForms.findSome? (·.read (ds ++ rest)) =
      [[.year, .char '/', .month, .char '/', .day], [.year, .char '.', .month, .char '.', .day],
        [.month, .char '/', .day, .char '/', .year],
        [.day, .char '-', .shortMonthName, .char '-', .year],
        [.year, .month, .day]].findSome? fun p : Pattern ↦ p.read (ds ++ rest) := by
  have hname (ps : Pattern) : Pattern.read (.monthName :: ps) (ds ++ rest) = none := by
    refine Pattern.read_of_none (bind_of_none ?_)
    rw [Piece.read, takeMonth, takeShortMonth, takeName_digits hds hne (by simp)]
    rfl
  simp only [furtherForms, List.findSome?_cons, hname]

/-- Digits behind which no slash and no dot stands. -/
theorem furtherForms_of_ne (hds : IsDigits ds) (hne : ds ≠ []) (hrest : Ends rest)
    (hslash : rest.head? ≠ some '/') (hdot : rest.head? ≠ some '.') :
    furtherForms.findSome? (·.read (ds ++ rest)) =
      [[.day, .char '-', .shortMonthName, .char '-', .year],
        [.year, .month, .day]].findSome? fun p : Pattern ↦ p.read (ds ++ rest) := by
  have hyear {c : Char} (hc : c.isDigit = false) (h : rest.head? ≠ some c) (ps : Pattern) :
      Pattern.read (.year :: .char c :: ps) (ds ++ rest) = none :=
    Pattern.read_number_char (by simp) hds hne hrest hc h
  have hmonth (ps : Pattern) : Pattern.read (.month :: .char '/' :: ps) (ds ++ rest) = none :=
    Pattern.read_number_char (by simp) hds hne hrest rfl hslash
  rw [furtherForms_digits hds hne]
  simp only [List.findSome?_cons, hyear rfl hslash, hyear rfl hdot, hmonth]

/-- A text that begins with three digits or more and goes on with neither a hyphen nor a blank has
one of the further forms. -/
theorem readTrimmed_of_long (hds : IsDigits ds) (hlong : 2 < ds.length) (hrest : Ends rest)
    (hblank : NotBlank rest) (hhyphen : rest.head? ≠ some '-') :
    readTrimmed (ds ++ rest) = furtherForms.findSome? (·.read (ds ++ rest)) := by
  have hne : ds ≠ [] := List.ne_nil_of_length_pos (by omega)
  rw [readTrimmed, readStamp_of_ne hds hrest hhyphen, yearFirst_of_ne hds hne hrest hhyphen,
    readNumeric_of_long hds hrest hlong, readTextual_of_long hds hrest hlong,
    readHeader_of_notBlank hds hne hrest hblank]
  rfl

/-! ## The year first -/

/-- The date of the patterns with the year first. -/
def yearMonthDay : Pattern := [.year, .char '-', .month, .char '-', .day]

/-- What stands behind the date begins with a letter, with a blank and the hour, or is missing. -/
theorem exists_yearFirst_eq : ∃ ps qs ps' qs' : Pattern, yearFirst =
    [yearMonthDay ++ .char 'T' :: ps, yearMonthDay ++ .char 'T' :: qs,
      yearMonthDay ++ .blanks :: .hour :: .char ':' :: ps',
      yearMonthDay ++ .blanks :: .hour :: .char ':' :: qs', yearMonthDay] :=
  ⟨_, _, _, _, rfl⟩

theorem yearFirst_of_readFrom_none (h : yearMonthDay.readFrom {} cs = none) :
    yearFirst.findSome? (·.read cs) = none := by
  have hread (ps : Pattern) : Pattern.read (yearMonthDay ++ ps) cs = none := by
    refine Pattern.read_of_none ?_
    rw [Pattern.readFrom_append, h]
    rfl
  have hplain : yearMonthDay.read cs = none := hread []
  obtain ⟨ps, qs, ps', qs', heq⟩ := exists_yearFirst_eq
  simp [heq, hread, hplain]

/-- Where a date is followed by two digits at most there is no time of day. -/
theorem yearFirst_of_readFrom {f : Fields} (h : yearMonthDay.readFrom {} cs = some (f, ds))
    (hds : IsDigits ds) (hlength : ds.length ≤ 2) :
    yearFirst.findSome? (·.read cs) = yearMonthDay.read cs := by
  have hread {ps : Pattern} (hps : ps.readFrom f ds = none) :
      Pattern.read (yearMonthDay ++ ps) cs = none := by
    refine Pattern.read_of_none ?_
    rw [Pattern.readFrom_append, h]
    exact hps
  have hletter (ps : Pattern) : Pattern.readFrom (.char 'T' :: ps) f ds = none := by
    have hhead : (ds ++ []).head? ≠ some 'T' := head?_digits_append_ne hds rfl nofun
    rw [List.append_nil] at hhead
    refine bind_of_none ?_
    rw [Piece.read, takeChar_of_ne hhead]
    rfl
  have hblank (ps : Pattern) :
      Pattern.readFrom (.blanks :: .hour :: .char ':' :: ps) f ds = none := by
    by_cases hne : ds = []
    · rw [hne]
      rfl
    · have htrim := trimLeft_digits hds hne []
      have hhour := @takeWithin_append _ _ 0 23 hds hne ends_nil
      rw [List.append_nil, List.drop_eq_nil_of_le hlength] at hhour
      rw [List.append_nil] at htrim
      refine bind_of_some (congrArg (fun cs ↦ some (f, cs)) htrim) ?_
      show Pattern.readFrom (.hour :: .char ':' :: ps) f ds = none
      rw [Pattern.readFrom, Piece.read, hhour]
      split <;> rfl
  obtain ⟨ps, qs, ps', qs', heq⟩ := exists_yearFirst_eq
  simp [heq, hread (hletter _), hread (hblank _)]

/-! ## Texts that begin with another character -/

theorem readStamp_of_ends (hcs : Ends cs) : readStamp cs = none :=
  bind_of_none (takeNumber_of_ends hcs (by decide))

theorem readNumeric_of_ends (hcs : Ends cs) : readNumeric cs = none :=
  bind_of_none (takeDay_of_ends hcs)

theorem readTextual_of_ends (hcs : Ends cs) : readTextual cs = none :=
  bind_of_none (takeDay_of_ends hcs)

theorem read_year_of_none (h : takeYear cs = none) (ps : Pattern) :
    Pattern.read (.year :: ps) cs = none := by
  refine Pattern.read_of_none (bind_of_none ?_)
  rw [Piece.read, h]
  rfl

theorem yearFirst_of_none (h : takeYear cs = none) :
    yearFirst.findSome? (·.read cs) = none := by
  simp [yearFirst, read_year_of_none h]

theorem readHeader_of_ends (hcs : Ends cs) (hblank : NotBlank cs)
    (hname : takeName cs 0 Date.weekdayNames = none) : readHeader cs = none := by
  have hnumber : takeNumber 1 2 (trimLeft cs) = none := by
    rw [trimLeft_of_notBlank hblank, takeNumber_of_ends hcs Nat.one_pos]
  rw [readHeader, trimLeft_of_notBlank hblank, hname]
  exact bind_of_some rfl (bind_of_none hnumber)

/-- A text that begins with neither a digit nor a blank nor a letter has its year first. -/
theorem readTrimmed_of_symbol (hdigit : c.isDigit = false) (hblank : isBlank c = false)
    (hletter : c.toLower.isAlpha = false) :
    readTrimmed (c :: cs) = (yearFirst.findSome? (·.read (c :: cs)) <|>
      [[.year, .char '/', .month, .char '/', .day], [.year, .char '.', .month, .char '.', .day],
        [.year, .month, .day]].findSome? fun p : Pattern ↦ p.read (c :: cs)) := by
  have hends : Ends (c :: cs) := ends_cons.mpr hdigit
  have hnotBlank : NotBlank (c :: cs) := notBlank_cons.mpr hblank
  have hname {names : List String} (h : names ∈ [Date.weekdayNames, Date.monthNames]) (n : Nat) :
      takeName (c :: cs) n names = none := takeName_of_not_letter hletter h n
  have hmonth (ps : Pattern) : Pattern.read (.month :: ps) (c :: cs) = none := by
    refine Pattern.read_of_none (bind_of_none ?_)
    rw [Piece.read, takeWithin_of_ends hends hnotBlank]
    rfl
  have hday (ps : Pattern) : Pattern.read (.day :: ps) (c :: cs) = none := by
    refine Pattern.read_of_none (bind_of_none ?_)
    rw [Piece.read, takeWithin_of_ends hends hnotBlank]
    rfl
  have hmonthName (ps : Pattern) : Pattern.read (.monthName :: ps) (c :: cs) = none := by
    refine Pattern.read_of_none (bind_of_none ?_)
    rw [Piece.read, takeMonth, takeShortMonth, hname (by simp)]
    rfl
  rw [readTrimmed, readStamp_of_ends hends, readNumeric_of_ends hends, readTextual_of_ends hends,
    readHeader_of_ends hends hnotBlank (hname (by simp) 0)]
  simp only [furtherForms, List.findSome?_cons, hmonth, hday, hmonthName]
  rfl

theorem readTrimmed_of_mark (hdigit : c.isDigit = false) (hblank : isBlank c = false)
    (hletter : c.toLower.isAlpha = false) (hminus : c ≠ '-') (hplus : c ≠ '+') :
    readTrimmed (c :: cs) = none := by
  have hyear : takeYear (c :: cs) = none :=
    takeYear_of_ends (ends_cons.mpr hdigit) (notBlank_cons.mpr hblank) (by simpa using hminus)
      (by simpa using hplus)
  rw [readTrimmed_of_symbol hdigit hblank hletter, yearFirst_of_none hyear]
  simp only [List.findSome?_cons, read_year_of_none hyear]
  rfl

end Mailroom.Calendar
