import Mailroom.Proofs.Calendar.Readers

/-!
# Numbers that are no dates

The text of a number that counts no milliseconds of a day is none of the texts that show a date
(`IsNumeral.readDate`): a fraction or a power of ten stands behind its digits, or there are more
than eight of them (`isNumeral_text`).
-/

namespace Mailroom.Calendar

open Number Text

variable {ds cs rest power tail : List Char} {c : Char}

/-! ## The texts of numbers -/

/-- A power of ten, or nothing. -/
inductive IsPower : List Char → Prop where
  | absent : IsPower []
  | present {cs : List Char} : (∀ c ∈ cs, isBlank c = false) → IsPower ('e' :: cs)

/-- What stands behind the whole part of a number. -/
inductive IsTail : List Char → Prop where
  | whole {power : List Char} : IsPower power → IsTail power
  | places {ds power : List Char} : IsDigits ds → ds ≠ [] → IsPower power →
      IsTail ('.' :: (ds ++ power))

/-- The text of a number of which more is written than eight digits or less. -/
inductive IsNumeral : List Char → Prop where
  | positive {ds tail : List Char} : IsDigits ds → ds ≠ [] → IsTail tail →
      tail ≠ [] ∨ 8 < ds.length → IsNumeral (ds ++ tail)
  | negative {ds tail : List Char} : IsDigits ds → ds ≠ [] → IsTail tail →
      IsNumeral ('-' :: (ds ++ tail))

namespace IsPower

theorem ends (h : IsPower power) : Ends power := by
  cases h <;> simp

theorem notBlank (h : IsPower power) : NotBlank power := by
  cases h with
  | absent => exact notBlank_nil
  | present => exact notBlank_cons.mpr rfl

theorem head?_ne (h : IsPower power) (hc : c ≠ 'e') : power.head? ≠ some c := by
  cases h with
  | absent => exact nofun
  | present => exact fun heq ↦ hc (Option.some.inj heq).symm

theorem isBlank_eq_false (h : IsPower power) : ∀ c ∈ power, isBlank c = false := by
  cases h with
  | absent => exact nofun
  | present hcs => exact List.forall_mem_cons.mpr ⟨rfl, hcs⟩

end IsPower

namespace IsTail

theorem ends (h : IsTail tail) : Ends tail := by
  cases h with
  | whole h => exact h.ends
  | places => simp

theorem notBlank (h : IsTail tail) : NotBlank tail := by
  cases h with
  | whole h => exact h.notBlank
  | places => exact notBlank_cons.mpr rfl

/-- A tail is empty or begins with a point or with the letter of a power. -/
theorem head?_ne (h : IsTail tail) (hpoint : c ≠ '.') (hpower : c ≠ 'e') :
    tail.head? ≠ some c := by
  cases h with
  | whole h => exact h.head?_ne hpower
  | places => exact fun heq ↦ hpoint (Option.some.inj heq).symm

theorem isBlank_eq_false (h : IsTail tail) : ∀ c ∈ tail, isBlank c = false := by
  cases h with
  | whole h => exact h.isBlank_eq_false
  | places hds _ hpower =>
    refine List.forall_mem_cons.mpr ⟨rfl, List.forall_mem_append.mpr ⟨?_, ?_⟩⟩
    · exact fun c hc ↦ isBlank_of_isDigit (hds c hc)
    · exact hpower.isBlank_eq_false

/-- There are not two points in a number. -/
theorem readFrom_point (h : IsTail tail) (f : Fields) (ps : Pattern) :
    Pattern.readFrom (.char '.' :: .month :: .char '.' :: ps) f tail = none := by
  cases h with
  | whole h =>
    have hhead : tail.head? ≠ some '.' := h.head?_ne (by decide)
    refine bind_of_none ?_
    rw [Piece.read, takeChar_of_ne hhead]
    rfl
  | places hds hne hpower =>
    refine bind_of_some (Piece.read_char_self _ _ _) ?_
    exact Pattern.readFrom_number_char (by simp) hds hne hpower.ends rfl
      (hpower.head?_ne (by decide))

theorem readNumeric (h : IsTail tail) (hds : IsDigits ds) : readNumeric (ds ++ tail) = none := by
  have hseparator {power : List Char} (hpower : IsPower power) : takeSeparator power = none := by
    cases hpower <;> rfl
  rw [Calendar.readNumeric, takeDay_append hds h.ends]
  split
  · cases h with
    | whole h => exact bind_of_some rfl (bind_of_none (hseparator h))
    | places hds' hne hpower =>
      refine bind_of_some rfl (bind_of_some rfl ?_)
      rw [takeDay_append hds' hpower.ends]
      split
      · exact bind_of_some rfl (bind_of_none (hseparator hpower))
      · rfl
  · rfl

theorem readTextual (h : IsTail tail) (hds : IsDigits ds) : readTextual (ds ++ tail) = none := by
  rw [Calendar.readTextual, takeDay_append hds h.ends]
  split
  · refine bind_of_some rfl (bind_of_none ?_)
    cases h with
    | whole h => cases h <;> rfl
    | places hds' hne hpower => exact takeBlanks_of_notBlank (notBlank_digits hds' hne _)
  · rfl

end IsTail

/-! ## No reader takes them -/

theorem readTrimmed_of_positive (hds : IsDigits ds) (hne : ds ≠ []) (htail : IsTail tail)
    (hlong : tail ≠ [] ∨ 8 < ds.length) : readTrimmed (ds ++ tail) = none := by
  have hends := htail.ends
  have hminus : tail.head? ≠ some '-' := htail.head?_ne (by decide) (by decide)
  have hplus : tail.head? ≠ some '+' := htail.head?_ne (by decide) (by decide)
  have hslash (p : Piece) (hp : p ∈ [.year, .month, .day]) (ps : Pattern) :
      Pattern.read (p :: .char '/' :: ps) (ds ++ tail) = none :=
    Pattern.read_number_char hp hds hne hends rfl (htail.head?_ne (by decide) (by decide))
  have hpoint (ps : Pattern) :
      Pattern.read (.year :: .char '.' :: .month :: .char '.' :: ps) (ds ++ tail) = none := by
    refine Pattern.read_of_none ?_
    rw [Pattern.readFrom, Piece.read, takeYear_append hds hne hends]
    by_cases hdrop : ds.drop 4 = []
    · rw [hdrop]
      exact bind_of_some rfl (htail.readFrom_point _ _)
    · refine bind_of_some rfl (bind_of_none ?_)
      rw [Piece.read, takeChar_digits (hds.drop 4) hdrop rfl]
      rfl
  have hhyphen (ps : Pattern) : Pattern.read (.day :: .char '-' :: ps) (ds ++ tail) = none :=
    Pattern.read_number_char (by simp) hds hne hends rfl hminus
  have hnumbers : Pattern.read [.year, .month, .day] (ds ++ tail) = none := by
    cases hread : Pattern.readFrom [.year, .month, .day] {} (ds ++ tail) with
    | none => exact Pattern.read_of_none hread
    | some left =>
      obtain ⟨f, left⟩ := left
      obtain ⟨k, hk, rfl⟩ := Pattern.exists_drop_of_readFrom (by simp) hds hends htail.notBlank
        hminus hplus hread
      have hk : k ≤ 8 := hk
      refine Pattern.read_of_rest hread fun hnil ↦ ?_
      obtain ⟨hdrop, hnil⟩ := List.append_eq_nil_iff.mp hnil
      have hlength := List.drop_eq_nil_iff.mp hdrop
      rcases hlong with hne | hlong
      · exact hne hnil
      · omega
  rw [readTrimmed, readStamp_of_ne hds hends hminus,
    yearFirst_of_ne hds hne hends hminus, htail.readNumeric hds,
    htail.readTextual hds, readHeader_of_notBlank hds hne hends htail.notBlank,
    furtherForms_digits hds hne]
  simp only [List.findSome?_cons, List.findSome?_nil, hslash .year (by simp),
    hslash .month (by simp), hpoint, hhyphen, hnumbers]
  rfl

/-- Behind a hyphen all digits belong to the year, and there is no month. -/
theorem readTrimmed_of_negative (hds : IsDigits ds) (hne : ds ≠ []) (htail : IsTail tail) :
    readTrimmed ('-' :: (ds ++ tail)) = none := by
  have hyear : Piece.year.read {} ('-' :: (ds ++ tail)) =
      some ({ year := some (-((digitsValue 0 ds : Nat) : Int)) }, tail) :=
    congrArg (Option.map _) (takeYear_minus hds hne htail.ends)
  have hchar (c : Char) (hc : tail.head? ≠ some c) (ps : Pattern) :
      Pattern.readFrom (.year :: .char c :: ps) {} ('-' :: (ds ++ tail)) = none := by
    refine bind_of_some hyear (bind_of_none ?_)
    rw [Piece.read, takeChar_of_ne hc]
    rfl
  have hhyphen := hchar '-' (htail.head?_ne (by decide) (by decide)) [.month, .char '-', .day]
  have hslash := hchar '/' (htail.head?_ne (by decide) (by decide)) [.month, .char '/', .day]
  have hpoint : Pattern.readFrom [.year, .char '.', .month, .char '.', .day] {}
      ('-' :: (ds ++ tail)) = none := bind_of_some hyear (htail.readFrom_point _ _)
  have hnumbers : Pattern.readFrom [.year, .month, .day] {} ('-' :: (ds ++ tail)) = none := by
    refine bind_of_some hyear (bind_of_none ?_)
    rw [Piece.read, takeWithin_of_ends htail.ends htail.notBlank]
    rfl
  rw [readTrimmed_of_symbol rfl rfl rfl, yearFirst_of_readFrom_none hhyphen]
  simp only [List.findSome?_cons, Pattern.read_of_none hslash, Pattern.read_of_none hpoint,
    Pattern.read_of_none hnumbers]
  rfl

/-! ## Numbers that count no milliseconds -/

theorem IsNumeral.isBlank_eq_false (h : IsNumeral cs) : ∀ c ∈ cs, isBlank c = false := by
  cases h with
  | positive hds _ htail =>
    refine List.forall_mem_append.mpr ⟨fun c hc ↦ isBlank_of_isDigit (hds c hc), ?_⟩
    exact htail.isBlank_eq_false
  | negative hds _ htail =>
    refine List.forall_mem_cons.mpr ⟨rfl, List.forall_mem_append.mpr ⟨?_, ?_⟩⟩
    · exact fun c hc ↦ isBlank_of_isDigit (hds c hc)
    · exact htail.isBlank_eq_false

theorem IsNumeral.readDate (h : IsNumeral cs) : readDate (String.ofList cs) = none := by
  rw [readDate_eq, trim_of_not_isBlank h.isBlank_eq_false, String.toList_ofList]
  cases h with
  | positive hds hne htail hlong => exact readTrimmed_of_positive hds hne htail hlong
  | negative hds hne htail => exact readTrimmed_of_negative hds hne htail

/-- Whole numbers of eight digits or less lie within two days of the first day of 1970. -/
theorem le_natAbs_of_dateOf (i : Int) (h : (Json.Number.int i).int64?.bind dateOfMillis? = none) :
    10 ^ 8 ≤ i.natAbs := by
  by_contra hlt
  have hsome : (Json.Number.int i).int64? = some i :=
    if_pos (fitsInt64_iff.mpr ⟨by omega, by omega⟩)
  have hday : i / 86400000 = -2 ∨ i / 86400000 = -1 ∨ i / 86400000 = 0 ∨ i / 86400000 = 1 := by
    omega
  rw [hsome, Option.bind_some, dateOfMillis?, splitMillis] at h
  dsimp only at h
  rcases hday with hday | hday | hday | hday <;> rw [hday] at h <;> revert h <;> decide

theorem isNumeral_intText {i : Int} (h : 10 ^ 8 ≤ i.natAbs) : IsNumeral (intText i) := by
  have hdigits := isDigits_natText i.natAbs
  have hne := natText_ne_nil i.natAbs
  have hlong : 8 < (natText i.natAbs).length := by
    rw [← not_le, length_natText_le_iff (by decide)]
    omega
  unfold intText
  split
  · have hnumeral := IsNumeral.negative hdigits hne (.whole .absent)
    rwa [List.append_nil] at hnumeral
  · have hnumeral := IsNumeral.positive hdigits hne (.whole .absent) (.inr hlong)
    rwa [List.append_nil] at hnumeral

theorem isDigits_split (d : Decimal) :
    IsDigits d.split.1 ∧ d.split.1 ≠ [] ∧ IsDigits d.split.2 := by
  have hdigits := isDigits_natText d.digits
  have hne := natText_ne_nil d.digits
  unfold Decimal.split
  dsimp only
  split_ifs with hpoint hlength
  · exact ⟨by simp, List.cons_ne_nil _ _,
      isDigits_append.mpr ⟨isDigits_replicate _, hdigits⟩⟩
  · exact ⟨isDigits_append.mpr ⟨hdigits, isDigits_replicate _⟩,
      List.append_ne_nil_of_left_ne_nil hne _, isDigits_nil⟩
  · refine ⟨hdigits.take _, List.ne_nil_of_length_pos ?_, hdigits.drop _⟩
    have hlength := List.length_pos_iff.mpr hne
    rw [List.length_take]
    omega

/-- Digits and behind them a point or a power of ten, or both. -/
def IsFractional (cs : List Char) : Prop :=
  ∃ ds tail, IsDigits ds ∧ ds ≠ [] ∧ IsTail tail ∧ tail ≠ [] ∧ cs = ds ++ tail

theorem isFractional_places {whole places : List Char} (hwhole : IsDigits whole)
    (hne : whole ≠ []) (hplaces : IsDigits places) (hne' : places ≠ []) (hpower : IsPower power) :
    IsFractional (whole ++ '.' :: (places ++ power)) :=
  ⟨whole, '.' :: (places ++ power), hwhole, hne, .places hplaces hne' hpower, List.cons_ne_nil _ _,
    rfl⟩

theorem isFractional_split (d : Decimal) :
    IsFractional (match d.split with
      | (whole, []) => whole ++ ['.', '0']
      | (whole, places) => whole ++ '.' :: places) := by
  obtain ⟨hwhole, hne, hplaces⟩ := isDigits_split d
  split
  · rename_i whole heq
    rw [heq] at hwhole hne
    have hzero : IsDigits ['0'] := by simp
    exact isFractional_places hwhole hne hzero (List.cons_ne_nil _ _) .absent
  · rename_i whole places hempty heq
    rw [heq] at hwhole hne hplaces
    have h := isFractional_places hwhole hne hplaces hempty .absent
    rwa [List.append_nil] at h

theorem isFractional_power (n : Nat) (exponent : Int) :
    IsFractional ((match natText n with
      | [] => []
      | [first] => [first]
      | first :: rest => first :: '.' :: rest) ++ ['e'] ++
        (if exponent < 0 then ['-'] else ['+']) ++ natText exponent.natAbs) := by
  have hdigits := isDigits_natText n
  have hpower : IsPower ('e' :: ((if exponent < 0 then ['-'] else ['+']) ++
      natText exponent.natAbs)) := by
    refine .present (List.forall_mem_append.mpr ⟨?_, fun c hc ↦ ?_⟩)
    · split <;> exact List.forall_mem_singleton.mpr rfl
    · exact isBlank_of_isDigit (isDigits_natText _ c hc)
  split
  · exact absurd ‹_› (natText_ne_nil n)
  · rename_i first heq
    rw [heq] at hdigits
    exact ⟨[first], _, hdigits, List.cons_ne_nil _ _, .whole hpower, List.cons_ne_nil _ _, by simp⟩
  · rename_i first rest hlong heq
    rw [heq] at hdigits
    obtain ⟨hfirst, hrest⟩ := isDigits_cons.mp hdigits
    have hone : IsDigits [first] := isDigits_cons.mpr ⟨hfirst, isDigits_nil⟩
    simpa using isFractional_places hone (List.cons_ne_nil _ _) hrest hlong hpower

theorem isNumeral_of_isFractional (h : IsFractional cs) (negative : Bool) :
    IsNumeral (if negative then '-' :: cs else cs) := by
  obtain ⟨ds, tail, hds, hne, htail, hpresent, rfl⟩ := h
  split
  · exact .negative hds hne htail
  · exact .positive hds hne htail (.inl hpresent)

theorem isNumeral_floatText (x : Float) : IsNumeral (Json.Number.floatText x) := by
  refine isNumeral_of_isFractional ?_ (isNegative x)
  generalize (if (shortest x).digits = 0 then (0 : Int) else (shortest x).leadingPower) = power
  split
  · exact isFractional_split _
  · exact isFractional_power _ _

theorem isNumeral_text {n : Json.Number} (h : n.int64?.bind dateOfMillis? = none) :
    IsNumeral n.text := by
  cases n with
  | int i => exact isNumeral_intText (le_natAbs_of_dateOf i h)
  | float x => exact isNumeral_floatText x

end Mailroom.Calendar
