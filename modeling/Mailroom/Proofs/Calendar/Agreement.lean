import Mailroom.Proofs.Calendar.Notation

/-!
# All notations of a day agree

Each notation of a day reads as the day (`Notation.readTrimmed`): the reader meant for it takes it,
and none of the readers that are tried before takes a part of it for another day. So a message shows
the same text for a day however the day was written (`notations_agree`).
-/

namespace Mailroom.Calendar

open Number Text

variable {ds cs rest word : List Char} {c : Char} {d : Date} {n : Nat}

/-! ## Each notation is read -/

namespace IsSeparator

theorem isDigit (h : IsSeparator c) : c.isDigit = false := by
  rcases h with rfl | rfl | rfl <;> rfl

theorem ends (h : IsSeparator c) (rest : List Char) : Ends (c :: rest) := ends_cons.mpr h.isDigit

theorem takeSeparator (h : IsSeparator c) (rest : List Char) :
    takeSeparator (c :: rest) = some rest := by
  rcases h with rfl | rfl | rfl <;> rfl

end IsSeparator

namespace IsGap

variable {gap : List Char}

theorem head?_ne (h : IsGap gap) (rest : List Char) (hc : isBlank c = false) :
    (gap ++ rest).head? ≠ some c := by
  obtain ⟨hblanks, hne⟩ := h
  obtain ⟨b, bs, rfl⟩ := List.exists_cons_of_ne_nil hne
  intro heq
  obtain rfl : b = c := Option.some.inj heq
  rw [hblanks b List.mem_cons_self] at hc
  cases hc

theorem ends (h : IsGap gap) (rest : List Char) : Ends (gap ++ rest) := by
  intro c hc
  cases hdigit : c.isDigit with
  | false => rfl
  | true => exact absurd hc (h.head?_ne rest (isBlank_of_isDigit hdigit))

theorem takeBlanks (h : IsGap gap) (hrest : NotBlank rest) :
    takeBlanks (gap ++ rest) = some rest :=
  takeBlanks_append h.areBlanks h.ne_nil hrest

theorem takeSeparator (h : IsGap gap) (rest : List Char) : takeSeparator (gap ++ rest) = none := by
  unfold Calendar.takeSeparator
  split
  · exact absurd (congrArg List.head? ‹_›) (h.head?_ne rest rfl)
  · exact absurd (congrArg List.head? ‹_›) (h.head?_ne rest rfl)
  · exact absurd (congrArg List.head? ‹_›) (h.head?_ne rest rfl)
  · rfl

end IsGap

theorem isGap_blank : IsGap [' '] := ⟨List.forall_mem_singleton.mpr rfl, List.cons_ne_nil _ _⟩

namespace IsZone

variable {zone : List Char}

theorem ends (h : IsZone zone) : Ends zone := by
  cases h with
  | universal hz => rcases hz with rfl | rfl <;> simp
  | offset hsign => rcases hsign with rfl | rfl <;> simp

theorem ne_nil (h : IsZone zone) : zone ≠ [] := by
  cases h <;> exact List.cons_ne_nil _ _

theorem isBlank_eq_false (h : IsZone zone) : ∀ c ∈ zone, isBlank c = false := by
  have hdigits (n : Nat) : ∀ c ∈ zeroPadded 2 n, isBlank c = false :=
    fun c hc ↦ isBlank_of_isDigit (isDigits_zeroPadded _ _ c hc)
  cases h with
  | universal hz => rcases hz with rfl | rfl <;> exact List.forall_mem_singleton.mpr rfl
  | @offset sign hours minutes hsign =>
    have hsigns : isBlank sign = false := by rcases hsign with rfl | rfl <;> rfl
    have hcolon : isBlank ':' = false := rfl
    simpa [or_imp, forall_and, hsigns, hcolon] using ⟨hdigits hours, hdigits minutes⟩

theorem takeStampZone (h : IsZone zone) : takeStampZone zone = some [] := by
  cases h with
  | universal hz => rcases hz with rfl | rfl <;> rfl
  | @offset sign hours minutes hsign hhours hminutes =>
    have htake : takeNumber 2 2 (zeroPadded 2 hours ++ ':' :: zeroPadded 2 minutes) =
        some (hours, ':' :: zeroPadded 2 minutes) :=
      takeNumber_zeroPadded (by omega) Nat.two_pos (by simp)
    have htake' : takeTwo 59 (zeroPadded 2 minutes) = some (minutes, []) := by
      have h := takeTwo_zeroPadded hminutes (by decide) ends_nil
      rwa [List.append_nil] at h
    rcases hsign with rfl | rfl <;> simp [Calendar.takeStampZone, takeOffset, htake, htake'] <;>
      omega

end IsZone

theorem readStamp_of_stamp (hd : d.InFourDigits) {t : Char} {hour minute second : Nat}
    {fraction zone : List Char} (ht : t = 'T' ∨ t = 't' ∨ t = ' ') (hhour : hour ≤ 23)
    (hminute : minute ≤ 59) (hsecond : second ≤ 60) (hfraction : IsFraction fraction)
    (hzone : IsZone zone) :
    readStamp (stampText d t hour minute second (fraction ++ zone)) = some d := by
  have hyear := hd.year_le
  have hmonth := hd.month_le
  have hday := hd.day_le_31
  have hends : Ends (fraction ++ zone) := by
    cases hfraction with
    | none => exact hzone.ends
    | some => simp
  refine bind_of_some (takeNumber_zeroPadded (by omega) (by decide) (by simp)) ?_
  refine bind_of_some (takeChar_self _ _) ?_
  refine bind_of_some (takeNumber_zeroPadded (by omega) (by decide) (by simp)) ?_
  refine bind_of_some (takeChar_self _ _) ?_
  refine bind_of_some (takeNumber_zeroPadded (by omega) (by decide) ?_) ?_
  · rcases ht with rfl | rfl | rfl <;> simp
  -- From here on the three letters before the time of day make no difference.
  rcases ht with rfl | rfl | rfl
  all_goals
    refine bind_of_some rfl ?_
    refine bind_of_some (takeTwo_zeroPadded hhour (by decide) (by simp)) ?_
    refine bind_of_some (takeChar_self _ _) ?_
    refine bind_of_some (takeTwo_zeroPadded hminute (by decide) (by simp)) ?_
    refine bind_of_some (takeChar_self _ _) ?_
    refine bind_of_some (takeTwo_zeroPadded hsecond (by decide) hends) ?_
    cases hfraction with
    | some hds hne =>
      refine bind_of_some (takeFraction_append hds hne hzone.ends) ?_
      exact bind_of_some hzone.takeStampZone hd.ofParts?
    | none =>
      have hread := hd.ofParts?
      have htaken := hzone.takeStampZone
      cases hzone with
      | universal hz =>
        rcases hz with rfl | rfl <;> exact bind_of_some rfl (bind_of_some htaken hread)
      | offset hsign =>
        rcases hsign with rfl | rfl <;> exact bind_of_some rfl (bind_of_some htaken hread)

/-! ### The year first -/

section

variable {ms : List Char}

/-- A date without a time of day is no time stamp. -/
theorem readStamp_of_day (hd : d.InFourDigits) (hms : IsShort d.month ms)
    (hds : IsShort d.day ds) : readStamp (yearText d ++ '-' :: (ms ++ '-' :: ds)) = none := by
  have hlength := hd.length_yearText
  refine bind_of_some
    (takeNumber_of_length (isDigits_yearText d) (by simp) hlength.ge hlength.le) ?_
  refine bind_of_some (takeChar_self _ _) ?_
  rcases hms.length_le.lt_or_eq with hshort | htwo
  · exact bind_of_none (takeNumber_of_short hms.digits (by simp) hshort)
  refine bind_of_some (takeNumber_of_length hms.digits (by simp) htwo.ge htwo.le) ?_
  refine bind_of_some (takeChar_self _ _) ?_
  -- Even a day in two digits is the end of the text.
  rw [← List.append_nil ds]
  rcases hds.length_le.lt_or_eq with hshort | htwo
  · exact bind_of_none (takeNumber_of_short hds.digits ends_nil hshort)
  · exact bind_of_some (takeNumber_of_length hds.digits ends_nil htwo.ge htwo.le) rfl

/-- A number for the year and the month are read, and what is left should begin with the day. -/
theorem readFrom_yearFirst {s : Char} (hs : s.isDigit = false) {ys : List Char} (hd : d.IsValid)
    (hys : IsDigits ys) (hne : ys ≠ []) (hlength : ys.length ≤ 4) (hms : IsShort d.month ms)
    (rest : List Char) :
    Pattern.readFrom [.year, .char s, .month, .char s, .day] {} (ys ++ s :: (ms ++ s :: rest)) =
      Pattern.readFrom [.day] ⟨some (digitsValue 0 ys : Nat), some d.month, none, none⟩ rest := by
  refine bind_of_some (Piece.read_year_append hys hne hlength (by simpa using hs) _) ?_
  refine bind_of_some (Piece.read_char_self _ _ _) ?_
  refine bind_of_some (hms.read_month hd (by simpa using hs) _) ?_
  exact bind_of_some (Piece.read_char_self _ _ _) rfl

theorem readFrom_yearText {s : Char} (hs : s.isDigit = false) (hd : d.InFourDigits)
    (hms : IsShort d.month ms) (hds : IsShort d.day ds) :
    Pattern.readFrom [.year, .char s, .month, .char s, .day] {}
        (yearText d ++ s :: (ms ++ s :: ds)) =
      some (⟨some d.year.toNat, some d.month, some d.day, none⟩, []) := by
  rw [readFrom_yearFirst hs hd.toIsValid (isDigits_yearText d) hd.yearText_ne_nil
    hd.length_yearText.le hms, Date.InFourDigits.digitsValue_yearText]
  exact bind_of_some (hds.read_day_last hd.toIsValid _) rfl

theorem readTrimmed_of_yearFirst {s : Char} (hs : IsSeparator s) (hd : d.InFourDigits)
    (hms : IsShort d.month ms) (hds : IsShort d.day ds) :
    readTrimmed (yearText d ++ s :: (ms ++ s :: ds)) = some d := by
  have hfrom := readFrom_yearText hs.isDigit hd hms hds
  have hread := (Pattern.read_of_readFrom hfrom).trans hd.date?
  have hlong : 2 < (yearText d).length := by rw [hd.length_yearText]; decide
  rcases hs with rfl | rfl | rfl
  case inr.inr =>
    have hyearFirst := yearFirst_of_readFrom hfrom isDigits_nil (by decide)
    rw [readTrimmed, readStamp_of_day hd hms hds, hyearFirst, yearMonthDay, hread]
    rfl
  all_goals
    rw [readTrimmed_of_long (isDigits_yearText d) hlong (by simp) (notBlank_cons.mpr rfl) (by simp),
      furtherForms_digits (isDigits_yearText d) hd.yearText_ne_nil]
  case inl =>
    have hslash (ps : Pattern) : Pattern.read (.year :: .char '/' :: ps)
        (yearText d ++ '.' :: (ms ++ '.' :: ds)) = none :=
      Pattern.read_number_char (by simp) (isDigits_yearText d) hd.yearText_ne_nil (by simp) rfl
        (by simp)
    rw [List.findSome?_cons, hslash, List.findSome?_cons, hread]
  case inr.inl => rw [List.findSome?_cons, hread]

/-! ### Time stamps -/

theorem readTrimmed_of_stamp (hd : d.InFourDigits) {t : Char} {hour minute second : Nat}
    {fraction zone : List Char} (ht : t = 'T' ∨ t = 't' ∨ t = ' ') (hhour : hour ≤ 23)
    (hminute : minute ≤ 59) (hsecond : second ≤ 60) (hfraction : IsFraction fraction)
    (hzone : IsZone zone) :
    readTrimmed (stampText d t hour minute second (fraction ++ zone)) = some d := by
  rw [readTrimmed, readStamp_of_stamp hd ht hhour hminute hsecond hfraction hzone]
  rfl

/-! ### The day first -/

theorem readNumeric_of_dayFirst {s t : Char} (hd : d.InFourDigits) (hds : IsShort d.day ds)
    (hms : IsShort d.month ms) (hs : IsSeparator s) (ht : IsSeparator t) :
    readNumeric (ds ++ s :: (ms ++ t :: yearText d)) = some d := by
  refine bind_of_some (hds.takeDay (hs.ends _)) ?_
  refine bind_of_some (hs.takeSeparator _) ?_
  refine bind_of_some (hms.takeDay (ht.ends _)) ?_
  refine bind_of_some (ht.takeSeparator _) ?_
  exact bind_of_some hd.readYear hd.ofParts?

/-- With hyphens the day could be a year and the year a day, but digits of the year are left. -/
theorem yearFirst_of_dayFirst {s t : Char} (hd : d.InFourDigits) (hds : IsShort d.day ds)
    (hms : IsShort d.month ms) (hs : IsSeparator s) (ht : IsSeparator t) :
    yearFirst.findSome? (·.read (ds ++ s :: (ms ++ t :: yearText d))) = none := by
  have hlength : ds.length ≤ 4 := hds.length_le.trans (by decide)
  by_cases hhyphen : s = '-'
  case neg =>
    exact yearFirst_of_ne hds.digits hds.ne_nil (hs.ends _) (by simpa using hhyphen)
  subst hhyphen
  by_cases hhyphen' : t = '-'
  case neg =>
    refine yearFirst_of_readFrom_none ?_
    refine bind_of_some (Piece.read_year_append hds.digits hds.ne_nil hlength (by simp) _) ?_
    refine bind_of_some (Piece.read_char_self _ _ _) ?_
    refine bind_of_some (hms.read_month hd.toIsValid (ht.ends _) _) (bind_of_none ?_)
    rw [Piece.read, takeChar_of_ne (by simpa using hhyphen')]
    rfl
  subst hhyphen'
  have hfrom := readFrom_yearFirst (s := '-') rfl hd.toIsValid hds.digits hds.ne_nil hlength hms
    (yearText d)
  have hday := @takeWithin_append _ _ 1 31 (isDigits_yearText d) hd.yearText_ne_nil ends_nil
  rw [List.append_nil, List.append_nil] at hday
  have hleft : ((yearText d).drop 2).length = 2 := by rw [List.length_drop, hd.length_yearText]
  -- The first half of the year may be a day, but then the second half is left.
  split at hday
  case isTrue =>
    have hfrom := hfrom.trans (bind_of_some (congrArg (Option.map _) hday) rfl)
    rw [yearFirst_of_readFrom hfrom ((isDigits_yearText d).drop 2) hleft.le]
    exact Pattern.read_of_rest hfrom (List.ne_nil_of_length_pos (by omega))
  case isFalse =>
    exact yearFirst_of_readFrom_none (hfrom.trans (bind_of_none (congrArg (Option.map _) hday)))

theorem readTrimmed_of_dayFirst {s t : Char} (hd : d.InFourDigits) (hds : IsShort d.day ds)
    (hms : IsShort d.month ms) (hs : IsSeparator s) (ht : IsSeparator t) :
    readTrimmed (ds ++ s :: (ms ++ t :: yearText d)) = some d := by
  rw [readTrimmed, readStamp_of_short hds.digits (hs.ends _) hds.length_lt,
    yearFirst_of_dayFirst hd hds hms hs ht, readNumeric_of_dayFirst hd hds hms hs ht]
  rfl

end

/-! ### The name of the month in the middle -/

section

variable {gap gap' : List Char}

theorem takeDot_append {dot : List Char} (hdot : IsOptional '.' dot) (hgap : IsGap gap)
    (rest : List Char) :
    (match dot ++ (gap ++ rest) with
      | '.' :: cs => cs
      | cs => cs) = gap ++ rest := by
  rcases hdot with rfl | rfl
  · have hhead := hgap.head?_ne rest (c := '.') rfl
    rw [List.nil_append]
    split
    · rename_i heq
      rw [heq] at hhead
      exact absurd rfl hhead
    · rfl
  · rfl

theorem dropLast_concat (c : Char) (cs : List Char) : dropLast c (cs ++ [c]) = cs := by
  rw [dropLast, if_pos (by simp), List.dropLast_concat]

theorem dropLast_of_ne (h : cs.getLast? ≠ some c) : dropLast c cs = cs := if_neg h

theorem dropLast_append {comma : List Char} (hword : IsWord word) {dot : List Char}
    (hdot : IsOptional '.' dot) (hcomma : IsOptional ',' comma) :
    dropLast '.' (dropLast ',' (word ++ dot ++ comma)) = word := by
  have hdrop : dropLast '.' (word ++ dot) = word := by
    rcases hdot with rfl | rfl
    · rw [List.append_nil, dropLast_of_ne (hword.getLast?_ne (by decide))]
    · exact dropLast_concat _ _
  rcases hcomma with rfl | rfl
  · have hne : (word ++ dot).getLast? ≠ some ',' := by
      rcases hdot with rfl | rfl
      · rw [List.append_nil]
        exact hword.getLast?_ne (by decide)
      · simp
    rw [List.append_nil, dropLast_of_ne hne, hdrop]
  · rw [dropLast_concat, hdrop]

/-- What is not blank is taken up to a gap. -/
theorem takeWhile_notBlank (hcs : ∀ c ∈ cs, isBlank c = false) (hgap : IsGap gap)
    (rest : List Char) :
    (cs ++ (gap ++ rest)).takeWhile (fun c ↦ !isBlank c) = cs ∧
      (cs ++ (gap ++ rest)).dropWhile (fun c ↦ !isBlank c) = gap ++ rest := by
  have hpos : ∀ c ∈ cs, (!isBlank c) = true := fun c hc ↦ by rw [hcs c hc]; rfl
  obtain ⟨b, bs, rfl⟩ := List.exists_cons_of_ne_nil hgap.ne_nil
  have hb := hgap.areBlanks b List.mem_cons_self
  constructor
  · rw [List.takeWhile_append_of_pos hpos, List.cons_append,
      List.takeWhile_cons_of_neg (by simp [hb]), List.append_nil]
  · rw [List.dropWhile_append_of_pos hpos, List.cons_append,
      List.dropWhile_cons_of_neg (by simp [hb])]

variable {dot dot' comma : List Char}

theorem readNumeric_of_named (hds : IsShort n ds) (hdot : IsOptional '.' dot) (hgap : IsGap gap)
    (rest : List Char) : readNumeric (ds ++ (dot ++ (gap ++ rest))) = none := by
  have hends := hgap.ends rest
  rcases hdot with rfl | rfl
  · exact bind_of_some (hds.takeDay hends) (bind_of_none (hgap.takeSeparator rest))
  · refine bind_of_some (hds.takeDay (by simp)) (bind_of_some rfl (bind_of_none ?_))
    exact takeDay_of_ends hends

theorem readTextual_of_named (hd : d.InFourDigits) (hds : IsShort d.day ds)
    (hdot : IsOptional '.' dot) (hgap : IsGap gap) (hword : IsMonthWord d.month word)
    (hdot' : IsOptional '.' dot') (hcomma : IsOptional ',' comma) (hgap' : IsGap gap') :
    readTextual (ds ++ (dot ++ (gap ++ ((word ++ dot' ++ comma) ++ (gap' ++ yearText d))))) =
      some d := by
  have hends : Ends (dot ++ (gap ++ ((word ++ dot' ++ comma) ++ (gap' ++ yearText d)))) := by
    rcases hdot with rfl | rfl
    · exact hgap.ends _
    · simp
  have hnotBlank : ∀ c ∈ word ++ dot' ++ comma, isBlank c = false := by
    have hletters := fun c hc ↦ isBlank_of_isNameLetter (hword.isWord.letters c hc)
    have hmarks : isBlank '.' = false ∧ isBlank ',' = false := by decide
    rcases hdot' with rfl | rfl <;> rcases hcomma with rfl | rfl <;>
      simpa [or_imp, forall_and, hmarks] using hletters
  have hhead : NotBlank ((word ++ dot' ++ comma) ++ (gap' ++ yearText d)) := by
    rw [List.append_assoc, List.append_assoc]
    exact hword.isWord.notBlank _
  obtain ⟨htake, hdrop⟩ := takeWhile_notBlank hnotBlank hgap' (yearText d)
  refine bind_of_some (hds.takeDay hends) ?_
  refine bind_of_some ((congrArg takeBlanks (takeDot_append hdot hgap _)).trans
    (hgap.takeBlanks hhead)) ?_
  dsimp only
  rw [hdrop, htake, dropLast_append hword.isWord hdot' hcomma]
  refine bind_of_some (hgap'.takeBlanks hd.notBlank_yearText) ?_
  refine bind_of_some hd.readYear ?_
  exact bind_of_some (monthOfWord_of_isMonthWord hword) hd.ofParts?

theorem readTrimmed_of_named (hd : d.InFourDigits) (hds : IsShort d.day ds)
    (hdot : IsOptional '.' dot) (hgap : IsGap gap) (hword : IsMonthWord d.month word)
    (hdot' : IsOptional '.' dot') (hcomma : IsOptional ',' comma) (hgap' : IsGap gap') :
    readTrimmed (ds ++ (dot ++ (gap ++ ((word ++ dot' ++ comma) ++ (gap' ++ yearText d))))) =
      some d := by
  have hends (rest : List Char) : Ends (dot ++ (gap ++ rest)) ∧
      (dot ++ (gap ++ rest)).head? ≠ some '-' := by
    rcases hdot with rfl | rfl
    · exact ⟨hgap.ends _, hgap.head?_ne _ rfl⟩
    · simp
  rw [readTrimmed, readStamp_of_short hds.digits (hends _).1 hds.length_lt,
    yearFirst_of_ne hds.digits hds.ne_nil (hends _).1 (hends _).2,
    readNumeric_of_named hds hdot hgap,
    readTextual_of_named hd hds hdot hgap hword hdot' hcomma hgap']
  rfl

/-! ### The name of the month first -/

theorem readHeader_of_isEnglishMonth (hd : d.IsValid) (hword : IsEnglishMonth d.month word)
    (rest : List Char) : readHeader (word ++ rest) = none := by
  have hisWord := hword.isWord hd.one_le_month hd.month_le
  refine readHeader_of_ends (hisWord.ends _) (hisWord.notBlank _) ?_
  obtain ⟨start, ending, rfl, hstart, -⟩ := hword.exists_eq_append hd.one_le_month hd.month_le
  rw [List.append_assoc, takeName_weekdayNames hd.one_le_month hd.month_le hstart]

theorem readTrimmed_of_nameFirst (hd : d.InFourDigits) (hword : IsEnglishMonth d.month word)
    (hgap : IsGap gap) (hds : IsShort d.day ds) (hgap' : IsGap gap') :
    readTrimmed (word ++ (gap ++ (ds ++ ',' :: (gap' ++ yearText d)))) = some d := by
  have hisWord := hword.isWord hd.one_le_month hd.month_le
  have hyear := hisWord.takeYear_eq_none (gap ++ (ds ++ ',' :: (gap' ++ yearText d)))
  have hmonth (ps : Pattern) : Pattern.read (.month :: ps)
      (word ++ (gap ++ (ds ++ ',' :: (gap' ++ yearText d)))) = none := by
    refine Pattern.read_of_none (bind_of_none ?_)
    rw [Piece.read, takeWithin_of_ends (hisWord.ends _) (hisWord.notBlank _)]
    rfl
  have hname : takeMonth (word ++ (gap ++ (ds ++ ',' :: (gap' ++ yearText d)))) =
      some (d.month, gap ++ (ds ++ ',' :: (gap' ++ yearText d))) := by
    refine takeMonth_of_isEnglishMonth hd.one_le_month hd.month_le hword fun c hc ↦ ?_
    obtain ⟨b, bs, rfl⟩ := List.exists_cons_of_ne_nil hgap.ne_nil
    obtain rfl : b = c := Option.some.inj hc
    exact isAlpha_of_isBlank (hgap.areBlanks b List.mem_cons_self)
  have hread : Pattern.read [.monthName, .blanks, .day, .char ',', .blanks, .year]
      (word ++ (gap ++ (ds ++ ',' :: (gap' ++ yearText d)))) = some d := by
    refine (Pattern.read_of_readFrom ?_).trans hd.date?
    refine bind_of_some (congrArg (Option.map _) hname) ?_
    refine bind_of_some (Piece.read_blanks_append hgap.areBlanks
      (notBlank_digits hds.digits hds.ne_nil _) _) ?_
    refine bind_of_some (hds.read_day hd.toIsValid (by simp) _) ?_
    refine bind_of_some (Piece.read_char_self _ _ _) ?_
    refine bind_of_some (Piece.read_blanks_append hgap'.areBlanks hd.notBlank_yearText _) ?_
    exact bind_of_some (hd.read_year_last _) rfl
  rw [readTrimmed, readStamp_of_ends (hisWord.ends _), yearFirst_of_none hyear,
    readNumeric_of_ends (hisWord.ends _), readTextual_of_ends (hisWord.ends _),
    readHeader_of_isEnglishMonth hd.toIsValid hword, furtherForms]
  simp only [List.findSome?_cons, read_year_of_none hyear, hmonth, hread]
  rfl

end

/-! ### No separators -/

theorem isDigits_compactText (d : Date) : IsDigits (compactText d) := by
  simp [compactText, isDigits_yearText, isDigits_zeroPadded]

theorem read_compactText (hd : d.InFourDigits) :
    Pattern.read [.year, .month, .day] (compactText d) = some d := by
  have hmonth := hd.month_le
  have hday := hd.day_le_31
  have hne := hd.yearText_ne_nil
  have hlength : (zeroPadded 2 d.month).length = 2 := length_zeroPadded Nat.two_pos (by omega)
  have hdigits : IsDigits (zeroPadded 2 d.month ++ zeroPadded 2 d.day) := by
    simp [isDigits_zeroPadded]
  -- Each number takes its digits from the front of the one long number that is left.
  have htakeYear := takeYear_append (isDigits_compactText d) (by simp [compactText, hne]) ends_nil
  have htakeMonth := @takeWithin_append _ _ 1 12 hdigits
    (List.ne_nil_of_length_pos (by rw [List.length_append]; omega)) ends_nil
  rw [compactText, List.take_left' hd.length_yearText, List.drop_left' hd.length_yearText,
    List.append_nil, List.append_nil, Date.InFourDigits.digitsValue_yearText] at htakeYear
  rw [List.take_left' hlength, List.drop_left' hlength, List.append_nil, List.append_nil,
    digitsValue_zeroPadded, if_pos ⟨hd.one_le_month, hd.month_le⟩] at htakeMonth
  have hshort : IsShort d.day (zeroPadded 2 d.day) := isShort_zeroPadded (by omega)
  refine (Pattern.read_of_readFrom ?_).trans hd.date?
  refine bind_of_some (congrArg (Option.map _) htakeYear) ?_
  exact bind_of_some (congrArg (Option.map _) htakeMonth)
    (bind_of_some (hshort.read_day_last hd.toIsValid _) rfl)

theorem readTrimmed_of_compact (hd : d.InFourDigits) : readTrimmed (compactText d) = some d := by
  have hdigits := isDigits_compactText d
  have hlong : 2 < (compactText d).length := by
    rw [compactText, List.length_append, hd.length_yearText]
    omega
  have hne : compactText d ≠ [] := List.ne_nil_of_length_pos (by omega)
  have hread := read_compactText hd
  have hday : Pattern.read (.day :: .char '-' :: [.shortMonthName, .char '-', .year])
      (compactText d ++ []) = none :=
    Pattern.read_number_char (by simp) hdigits hne ends_nil rfl nofun
  have hlongForms := readTrimmed_of_long hdigits hlong ends_nil notBlank_nil nofun
  rw [furtherForms_of_ne hdigits hne ends_nil nofun nofun, List.findSome?_cons, hday,
    List.append_nil, List.findSome?_cons, hread] at hlongForms
  exact hlongForms

/-! ### Hyphens around the name of the month -/

theorem readTrimmed_of_hyphened (hd : d.InFourDigits) (hds : IsShort d.day ds)
    (hword : IsAbbreviation d.month word) :
    readTrimmed (ds ++ '-' :: (word ++ '-' :: yearText d)) = some d := by
  have hisWord := hword.isWord hd.one_le_month hd.month_le
  have hlength : ds.length ≤ 4 := hds.length_le.trans (by decide)
  have hyearFirst : yearFirst.findSome? (·.read (ds ++ '-' :: (word ++ '-' :: yearText d))) =
      none := by
    refine yearFirst_of_readFrom_none ?_
    refine bind_of_some (Piece.read_year_append hds.digits hds.ne_nil hlength (by simp) _) ?_
    refine bind_of_some (Piece.read_char_self _ _ _) (bind_of_none ?_)
    rw [Piece.read, takeWithin_of_ends (hisWord.ends _) (hisWord.notBlank _)]
    rfl
  have hnumeric : readNumeric (ds ++ '-' :: (word ++ '-' :: yearText d)) = none := by
    refine bind_of_some (hds.takeDay (by simp)) (bind_of_some rfl (bind_of_none ?_))
    exact takeDay_of_ends (hisWord.ends _)
  have htextual : readTextual (ds ++ '-' :: (word ++ '-' :: yearText d)) = none :=
    bind_of_some (hds.takeDay (by simp)) (bind_of_none rfl)
  have hread : Pattern.read [.day, .char '-', .shortMonthName, .char '-', .year]
      (ds ++ '-' :: (word ++ '-' :: yearText d)) = some d := by
    refine (Pattern.read_of_readFrom ?_).trans hd.date?
    refine bind_of_some (hds.read_day hd.toIsValid (by simp) _) ?_
    refine bind_of_some (Piece.read_char_self _ _ _) ?_
    refine bind_of_some (congrArg (Option.map _)
      (takeShortMonth_append hd.one_le_month hd.month_le hword _)) ?_
    refine bind_of_some (Piece.read_char_self _ _ _) ?_
    exact bind_of_some (hd.read_year_last _) rfl
  rw [readTrimmed, readStamp_of_short hds.digits (by simp) hds.length_lt, hyearFirst, hnumeric,
    htextual, readHeader_of_notBlank hds.digits hds.ne_nil (by simp) (notBlank_cons.mpr rfl),
    furtherForms_of_ne hds.digits hds.ne_nil (by simp) (by simp) (by simp), List.findSome?_cons,
    hread]
  rfl

/-! ## All notations -/

namespace Notation

theorem readTrimmed (hd : d.InFourDigits) (h : Notation d cs) : readTrimmed cs = some d := by
  cases h with
  | yearFirst hs hms hds => exact readTrimmed_of_yearFirst hs hd hms hds
  | stamp ht hhour hminute hsecond hfraction hzone =>
    exact readTrimmed_of_stamp hd ht hhour hminute hsecond hfraction hzone
  | dayFirst hds hms hs ht => exact readTrimmed_of_dayFirst hd hds hms hs ht
  | named hds hdot hgap hword hdot' hcomma hgap' =>
    exact readTrimmed_of_named hd hds hdot hgap hword hdot' hcomma hgap'
  | nameFirst hword hgap hds hgap' => exact readTrimmed_of_nameFirst hd hword hgap hds hgap'
  | compact => exact readTrimmed_of_compact hd
  | hyphened hds hword => exact readTrimmed_of_hyphened hd hds hword

theorem notBlank (hd : d.InFourDigits) (h : Notation d cs) : NotBlank cs := by
  have hyear := notBlank_digits (isDigits_yearText d) hd.yearText_ne_nil
  cases h with
  | yearFirst => exact hyear _
  | stamp => exact hyear _
  | dayFirst hds => exact notBlank_digits hds.digits hds.ne_nil _
  | named hds => exact notBlank_digits hds.digits hds.ne_nil _
  | nameFirst hword => exact (hword.isWord hd.one_le_month hd.month_le).notBlank _
  | compact => exact hyear _
  | hyphened hds => exact notBlank_digits hds.digits hds.ne_nil _

/-- A notation ends with digits or with a zone. -/
theorem exists_append (hd : d.InFourDigits) (h : Notation d cs) : ∃ front last,
    cs = front ++ last ∧ last ≠ [] ∧ (IsDigits last ∨ IsZone last) := by
  have hyear := hd.yearText_ne_nil
  have hyear' : IsDigits (yearText d) ∨ IsZone (yearText d) := .inl (isDigits_yearText d)
  cases h with
  | @yearFirst s ms ds _ _ hds =>
    exact ⟨yearText d ++ s :: (ms ++ [s]), ds, by simp, hds.ne_nil, .inl hds.digits⟩
  | @stamp t hour minute second fraction zone _ _ _ _ _ hzone =>
    exact ⟨stampText d t hour minute second fraction, zone, by simp [stampText], hzone.ne_nil,
      .inr hzone⟩
  | @dayFirst s t ds ms => exact ⟨ds ++ s :: (ms ++ [t]), yearText d, by simp, hyear, hyear'⟩
  | @named ds dot gap word dot' comma gap' =>
    exact ⟨ds ++ (dot ++ (gap ++ ((word ++ dot' ++ comma) ++ gap'))), yearText d, by simp, hyear,
      hyear'⟩
  | @nameFirst word gap ds gap' =>
    exact ⟨word ++ (gap ++ (ds ++ ',' :: gap')), yearText d, by simp, hyear, hyear'⟩
  | compact =>
    exact ⟨[], compactText d, rfl, by simp [compactText, hyear], .inl (isDigits_compactText d)⟩
  | @hyphened ds word => exact ⟨ds ++ '-' :: (word ++ ['-']), yearText d, by simp, hyear, hyear'⟩

theorem ne_nil (hd : d.InFourDigits) (h : Notation d cs) : cs ≠ [] := by
  obtain ⟨front, last, rfl, hne, -⟩ := h.exists_append hd
  exact List.append_ne_nil_of_right_ne_nil front hne

theorem notBlank_reverse (hd : d.InFourDigits) (h : Notation d cs) : NotBlank cs.reverse := by
  obtain ⟨front, last, rfl, hne, hlast⟩ := h.exists_append hd
  refine notBlank_reverse_append hne (fun c hc ↦ ?_) front
  rcases hlast with hdigits | hzone
  · exact isBlank_of_isDigit (hdigits c hc)
  · exact hzone.isBlank_eq_false c hc

end Notation

theorem readDate_of_shows (hd : d.InFourDigits) {s : String} (h : Shows s d) :
    readDate s = some d := by
  obtain ⟨before, cs, after, hbefore, hcs, hafter, rfl⟩ := h
  have hleft : NotBlank (cs ++ after) := by
    have hblank := hcs.notBlank hd
    obtain ⟨c, cs, rfl⟩ := List.exists_cons_of_ne_nil (hcs.ne_nil hd)
    exact notBlank_cons.mpr (notBlank_cons.mp hblank)
  have htrim : (Text.trim (String.ofList (before ++ (cs ++ after)))).toList = cs := by
    rw [Text.trim, String.toList_ofList, String.toList_ofList, trimLeft_append hbefore hleft,
      trimRight_append (hcs.notBlank_reverse hd) hafter]
  rw [readDate_eq, htrim, hcs.readTrimmed hd]

theorem dateOfMillis?_of_isDay (hd : d.InFourDigits) {n millis : Int} (hn : Date.IsDay n d)
    (hfrom : n * 86400000 ≤ millis) (hto : millis < (n + 1) * 86400000) :
    dateOfMillis? millis = some d := by
  have hday : millis / 86400000 = n := by omega
  obtain ⟨hvalid, rfl⟩ := Date.isDay_iff.mp hn
  have hparts := hd.ofParts?
  rw [Int.toNat_of_nonneg hd.year_nonneg] at hparts
  rw [dateOfMillis?, splitMillis, hday, Date.ofDays_toDays hvalid]
  exact hparts

theorem Date.InFourDigits.toDays_mem (hd : d.InFourDigits) :
    -800000 ≤ d.toDays ∧ d.toDays ≤ 3000000 := by
  have hmonth := hd.month_le
  have hday := hd.day_le_31
  have hyear := hd.year_nonneg
  have hyear' := hd.year_le
  unfold Date.toDays
  dsimp only
  constructor <;> split_ifs <;> omega

theorem Date.InFourDigits.fitsInt64 (hd : d.InFourDigits) {n millis : Int} (hn : Date.IsDay n d)
    (hfrom : n * 86400000 ≤ millis) (hto : millis < (n + 1) * 86400000) :
    fitsInt64 millis = true := by
  obtain ⟨-, rfl⟩ := Date.isDay_iff.mp hn
  have hdays := hd.toDays_mem
  exact fitsInt64_iff.mpr ⟨by omega, by omega⟩

/-- Every notation of a day shows the same text, and so does every instant of the day. -/
theorem notations_agree (hd : d.InFourDigits) :
    (∀ s, Shows s d → readDate s = some d ∧ showDate (.str s) = d.shown) ∧
      ∀ n millis : Int, Date.IsDay n d → n * 86400000 ≤ millis → millis < (n + 1) * 86400000 →
        showDate (.num (.int millis)) = d.shown := by
  refine ⟨fun s hs ↦ ?_, fun n millis hn hfrom hto ↦ ?_⟩
  · have hread := readDate_of_shows hd hs
    refine ⟨hread, ?_⟩
    rw [showDate, dateOf, hread]
  · have hmillis := dateOfMillis?_of_isDay hd hn hfrom hto
    have hfits : (Json.Number.int millis).int64? = some millis :=
      if_pos (hd.fitsInt64 hn hfrom hto)
    rw [showDate, dateOf, hfits, Option.bind_some, hmillis]

theorem inFourDigits_july : Date.InFourDigits ⟨2025, 7, 5⟩ where
  one_le_month := by decide
  month_le := by decide
  one_le_day := by decide
  day_le := by decide
  year_nonneg := by decide
  year_le := by decide

/-- The fifth of July in Turkish and as its first millisecond. -/
theorem notations_agree_july :
    Date.InFourDigits ⟨2025, 7, 5⟩ ∧ Shows " 5. TEMMUZ, 2025" ⟨2025, 7, 5⟩ ∧
      Date.IsDay 20274 ⟨2025, 7, 5⟩ ∧ readDate " 5. TEMMUZ, 2025" = some ⟨2025, 7, 5⟩ ∧
      showDate (.str " 5. TEMMUZ, 2025") = "05 Jul 2025" ∧
      showDate (.num (.int 1751673600000)) = "05 Jul 2025" := by
  have hshows : Shows " 5. TEMMUZ, 2025" ⟨2025, 7, 5⟩ := by
    have hword : IsMonthWord 7 ['T', 'E', 'M', 'M', 'U', 'Z'] :=
      .name ⟨"temmuz", by decide +kernel, by decide +kernel⟩
    have hday : IsShort 5 ['5'] := ⟨by simp, by decide, by decide, by decide⟩
    refine ⟨[' '], _, [], isGap_blank.areBlanks,
      .named hday (.inr rfl) isGap_blank hword (.inl rfl) (.inr rfl) isGap_blank, nofun, ?_⟩
    decide +kernel
  have hday : Date.IsDay 20274 ⟨2025, 7, 5⟩ := Date.isDay_iff.mpr ⟨by decide, by decide⟩
  obtain ⟨htexts, hinstants⟩ := notations_agree inFourDigits_july
  obtain ⟨hread, hshow⟩ := htexts _ hshows
  refine ⟨inFourDigits_july, hshows, hday, hread, hshow.trans (by decide +kernel), ?_⟩
  exact (hinstants _ _ hday (by decide) (by decide)).trans (by decide +kernel)

/-- A name of the table may stand between day and year, but before the day only those of three
letters and the full ones are read. -/
theorem sept_nameFirst : IsMonthName 9 ['S', 'e', 'p', 't'] ∧
    readDate "15 Sept 2025" = some ⟨2025, 9, 15⟩ ∧ readDate "Sep 15, 2025" = some ⟨2025, 9, 15⟩ ∧
      readDate "Sept 15, 2025" = none ∧ showDate (.str "Sept 15, 2025") = "Sept 15, 2025" := by
  refine ⟨⟨"sept", by decide +kernel, by decide +kernel⟩, ?_⟩
  decide +kernel

end Mailroom.Calendar
